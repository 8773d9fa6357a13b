/-
# The list of allowed services

The text for the allowed services is cut at its commas, the blanks at the ends of the pieces are
dropped, and then the pieces of which nothing is left; what remains are the names, in order
(`Listed`).  If a configuration has been loaded, this is its list, and the dispatcher that it
builds accepts what names a service that matches the pattern and is listed, or any that matches
the pattern if there is nothing but blanks and commas in the text (`allow_list_read`).

Names that match the standard pattern hold no commas and no blanks, so that a list of them is
read back from its names with commas between them.  There is one exception: the text is parsed
before it is cut, and a single name that spells a truth value or a number is no list then
(`allow_list_of_names`).  So a service called `42` cannot be the only one that is allowed
(`lone_numeral_refused`).
-/

import Remedy.Proofs.Config.Building
import Remedy.Proofs.Config.Locality
import Remedy.Proofs.Settings.Scalars
import Remedy.Proofs.Text.Pieces
import Remedy.Proofs.Text.Trimming

namespace Remedy

namespace Config

open Settings (Plain Section Value Variables IsScalar)
open Text (Cut Trims)
open Dispatch (Names Permits)

/-! ### Names in pieces -/

/-- **The names that are in some pieces of a text,** in order: what is left of each piece without
the blanks at its ends, unless that is nothing. -/
inductive Listed : List (List Char) → List String → Prop where
  | nil : Listed [] []
  | blank {p : List Char} {ps : List (List Char)} {names : List String} (hp : Trims p [])
      (hps : Listed ps names) : Listed (p :: ps) names
  | name {p : List Char} {ps : List (List Char)} {name : String} {names : List String}
      (hp : Trims p name.toList) (hne : name ≠ "") (hps : Listed ps names) :
      Listed (p :: ps) (name :: names)

section
variable {p : List Char} {ps : List (List Char)} {names : List String} {name : String}

/-- The first piece is trimmed and kept, unless nothing is left of it. -/
theorem tidy_cons (p : String) (ps : List String) :
    tidy (p :: ps) = if Text.trim p = "" then tidy ps else Text.trim p :: tidy ps := by
  rw [tidy, List.map_cons, List.filter_cons]
  by_cases h : Text.trim p = ""
  · rw [if_neg (by simp [h]), if_pos h]
    rfl
  · rw [if_pos (decide_eq_true h), if_neg h]
    rfl

/-- A name that is not empty has characters. -/
theorem toList_ne_nil (h : name ≠ "") : name.toList ≠ [] := fun hnil => h (String.toList_inj.1 hnil)

/-- **The names that are kept are the ones that are listed.** -/
theorem tidy_eq_iff : tidy (ps.map String.ofList) = names ↔ Listed ps names := by
  constructor
  · rintro rfl
    induction ps with
    | nil => exact .nil
    | cons p ps ih =>
      have htrims : Trims p (Text.trim (String.ofList p)).toList := by
        have h := Text.trim_eq_iff.1 (rfl : Text.trim (String.ofList p) = _)
        rwa [String.toList_ofList] at h
      rw [List.map_cons, tidy_cons]
      split
      · next hempty =>
        rw [hempty] at htrims
        exact .blank htrims ih
      · next hne => exact .name htrims hne ih
  · intro h
    induction h with
    | nil => rfl
    | @blank p ps names hp _ ih =>
      have hempty : Text.trim (String.ofList p) = "" :=
        Text.trim_eq_iff.2 (by rwa [String.toList_ofList])
      rw [List.map_cons, tidy_cons, if_pos hempty, ih]
    | @name p ps name names hp hne _ ih =>
      have hname : Text.trim (String.ofList p) = name :=
        Text.trim_eq_iff.2 (by rwa [String.toList_ofList])
      rw [List.map_cons, tidy_cons, hname, if_neg hne, ih]

namespace Listed

/-- A name is listed if it is left of one of the pieces. -/
theorem mem_iff (h : Listed ps names) :
    name ∈ names ↔ name ≠ "" ∧ ∃ p ∈ ps, Trims p name.toList := by
  induction h with
  | nil => simp
  | @blank p ps names hp hps ih =>
    rw [ih, List.exists_mem_cons_iff]
    refine and_congr_right fun hne => ⟨.inr, fun hcases => hcases.resolve_left fun hp' => ?_⟩
    exact toList_ne_nil hne (hp'.unique hp)
  | @name p ps other names hp hne hps ih =>
    rw [List.mem_cons, ih, List.exists_mem_cons_iff]
    constructor
    · rintro (rfl | ⟨hname, hlater⟩)
      · exact ⟨hne, .inl hp⟩
      · exact ⟨hname, .inr hlater⟩
    · rintro ⟨hname, hp' | hlater⟩
      · exact .inl (String.toList_inj.1 (hp'.unique hp))
      · exact .inr ⟨hname, hlater⟩

/-- No name is listed if nothing is left of any piece. -/
theorem eq_nil_iff (h : Listed ps names) : names = [] ↔ ∀ p ∈ ps, Trims p [] := by
  induction h with
  | nil => simp
  | blank hp hps ih => rw [ih, List.forall_mem_cons, and_iff_right hp]
  | name hp hne hps ih =>
    refine iff_of_false (List.cons_ne_nil _ _) fun hnone => ?_
    have hnil := (List.forall_mem_cons.1 hnone).1
    exact toList_ne_nil hne (hp.unique hnil)

/-- Names without blanks at their ends are listed as they are. -/
theorem of_isTrimmed (h : ∀ x ∈ names, Text.IsTrimmed x.toList) :
    Listed (names.map String.toList) names := by
  induction names with
  | nil => exact .nil
  | cons x names ih =>
    obtain ⟨hx, hnames⟩ := List.forall_mem_cons.1 h
    have hne : x ≠ "" := by
      rintro rfl
      exact hx.nonempty rfl
    exact .name (.refl hx) hne (ih hnames)

end Listed
end

/-! ### The text for the list -/

section
variable {t : String} {names : List String}

/-- What the text for the list is refused as, if it spells a truth value or a number. -/
def listRefusal (t : String) : Settings.Error :=
  .mistyped (runbookSection.parse Setting.allowed.name t).describedNotList "a sequence" none false

/-- A text that spells a truth value or a number is no list. -/
theorem ofText_allowed_of_isScalar (h : IsScalar t) :
    Setting.allowed.ofText t = .error (listRefusal t) :=
  congrArg (Except.map tidy)
    (Settings.asTexts_parse_of_isScalar (s := runbookSection) h Setting.allowed.name)

/-- Any other text is a list of names. -/
theorem ofText_allowed (h : ¬IsScalar t) :
    Setting.allowed.ofText t = .ok (tidy (Text.splitAt ',' t)) := by
  have hlist : runbookSection.lists.contains Setting.allowed.name = true := rfl
  have htexts : (runbookSection.parse Setting.allowed.name t).asTexts Setting.allowed.name =
      .ok (Text.splitAt ',' t) := by
    rw [Settings.parse_of_not_isScalar hlist h]
    exact Settings.asTexts_list _ _ _
  exact congrArg (Except.map tidy) htexts

/-- **A text for the list that is taken is cut at its commas,** and the names in its pieces are
listed. -/
theorem listed_of_ofText (h : Setting.allowed.ofText t = .ok names) :
    ∃ ps, Cut [','] t.toList ps ∧ ∀ names', Listed ps names' ↔ names' = names := by
  have hlist : ¬IsScalar t := by
    intro hscalar
    rw [ofText_allowed_of_isScalar hscalar] at h
    cases h
  rw [ofText_allowed hlist] at h
  refine ⟨Text.pieces [','] t.toList, Text.cut_pieces (by decide) t.toList, fun names' => ?_⟩
  rw [← tidy_eq_iff, ← Except.ok.inj h]
  exact eq_comm

end

/-! ### The dispatcher -/

/-- **What the dispatcher of a remediation accepts:** what names a service that matches the pattern
and that the list lets pass. -/
theorem exists_resolve_iff {r : Runbook} {d : Dispatcher} (hd : r.dispatcher = .ok d) :
    ∃ p, Pattern.compile r.pattern = .ok p ∧ ∀ payload, (∃ a, d.resolve payload = .ok a) ↔
      ∃ name, Names payload name ∧ p.occursIn name = true ∧ Permits r.allowed name := by
  obtain ⟨-, p, hp⟩ := Runbook.exists_dispatcher_iff.1 ⟨d, hd⟩
  rw [Runbook.dispatcher_of_ok hp] at hd
  obtain ⟨template, -, rfl⟩ := map_eq_ok_iff.1 hd
  refine ⟨p, hp, fun payload => ?_⟩
  simp only [Dispatcher.resolve_eq_ok_iff]
  constructor
  · rintro ⟨a, -, hname, hmatch, hlist⟩
    exact ⟨a.target.text, hname, hmatch, hlist⟩
  · rintro ⟨name, hname, hmatch, hlist⟩
    exact ⟨⟨template, ⟨name, hname.ne_empty⟩⟩, rfl, hname, hmatch, hlist⟩

/-- The standard pattern has been compiled already. -/
theorem eq_safeNames {p : Pattern.Compiled}
    (hp : Pattern.compile Runbook.standard.pattern = .ok p) : p = Dispatch.safeNames :=
  Except.ok.inj (hp.symm.trans Dispatch.compile_safeNamePattern)

/-- A text matches the pattern of safe names if its bytes are one. -/
theorem occursIn_of_safeName {x : String} (h : Dispatch.SafeName (Text.Utf8.encode x.toList)) :
    Dispatch.safeNames.occursIn x = true := by
  obtain ⟨name, hname, hmatch⟩ := Dispatch.occursIn_safeNames_iff.2 h
  obtain rfl : name = x := hname.unique ⟨rfl, hname.nonempty⟩
  exact hmatch

/-! ### A list and nothing else -/

/-- The standard configuration with a list of services. -/
def allowing (names : List String) : Config :=
  ⟨.standard, { Runbook.standard with allowed := names }⟩

section
variable {t : String} {names : List String} (isDirectory : Host.Path → Bool)

/-- Settings that hold an allow-list and nothing else. -/
theorem Runbook.ofSettings_allowed (v : Value) :
    ofSettings (.table [("allowed_services", v)]) =
      (v.asTexts "allowed_services").map fun names => { standard with allowed := names } := by
  have hallowed : readAllowed (.table [("allowed_services", v)]) =
      v.asTexts "allowed_services" := rfl
  simp only [ofSettings, hallowed]
  cases v.asTexts "allowed_services" <;> rfl

/-- Where nothing but the list is set, it is all that is read. -/
theorem ofVariables_allowed (ht : t ≠ "") :
    ofVariables [("RUNBOOK_ALLOWED_SERVICES", t)] =
      match Setting.allowed.ofText t with
      | .ok names => .ok (allowing names)
      | .error e => .error (.load "RUNBOOK" e.message) := by
  have hendpoint : endpointSection.collect [("RUNBOOK_ALLOWED_SERVICES", t)] = .table [] := by
    have hnone : endpointSection.setting? "RUNBOOK_ALLOWED_SERVICES" = none := by decide
    rw [Section.collect, List.foldl_cons, List.foldl_nil, Section.add, if_neg ht]
    simp only [hnone]
  have hrunbook : runbookSection.collect [("RUNBOOK_ALLOWED_SERVICES", t)] =
      .table [("allowed_services", runbookSection.value "allowed_services" t)] := by
    have hsetting : runbookSection.setting? "RUNBOOK_ALLOWED_SERVICES" =
        some "allowed_services" := by decide
    have hpath : Settings.Path.ofName "allowed_services" = ⟨"allowed_services", []⟩ := by decide
    rw [Section.collect, List.foldl_cons, List.foldl_nil, Section.add, if_neg ht]
    simp only [hsetting, hpath]
    rfl
  have hread : Setting.allowed.ofText t =
      ((runbookSection.value "allowed_services" t).asTexts "allowed_services").map tidy := rfl
  rw [ofVariables, loadSection, loadSection, hendpoint, hrunbook, Runbook.ofSettings_allowed, hread]
  cases (runbookSection.value "allowed_services" t).asTexts "allowed_services" <;> rfl

/-- Every list can be used. -/
theorem validate_allowing (names : List String) :
    (allowing names).validate isDirectory = .ok () := by
  have hendpoint : Endpoint.standard.validate = .ok () := rfl
  have htimeout : Runbook.standard.timeoutSeconds ≠ 0 := by decide
  exact validate_of_standard hendpoint rfl htimeout rfl rfl

/-- **A list is loaded if it is taken,** and otherwise it is told why not. -/
theorem load_allowed (ht : t ≠ "") :
    (load isDirectory [("RUNBOOK_ALLOWED_SERVICES", t)]).1 =
      match Setting.allowed.ofText t with
      | .ok names => .ok (allowing names)
      | .error e => .error (.load "RUNBOOK" e.message) := by
  have hdrop : (dropServiceLink [("RUNBOOK_ALLOWED_SERVICES", t)]).1 =
      [("RUNBOOK_ALLOWED_SERVICES", t)] := rfl
  rw [load_eq, hdrop, ofVariables_allowed ht]
  cases Setting.allowed.ofText t with
  | error e => rfl
  | ok names => simp only [validate_allowing isDirectory names]

end

/-- **How the list of allowed services is taken.**  If a configuration has been loaded where the
variable for the list is not empty, its list is what is left of the pieces between the commas,
without the blanks at their ends and without the pieces of which nothing is left, in order and
as often as they are there.  The dispatcher of the configuration can be built.  It accepts a
payload if and only if it names a service that matches the pattern and that is left of one of the
pieces, or of none of the pieces anything is left. -/
theorem allow_list_read {vars : Variables} (h : Plain vars) {isDirectory : Host.Path → Bool}
    {c : Config} (hc : (load isDirectory vars).1 = .ok c) {name v : String}
    (hmem : (name, v) ∈ vars) (hname : Character.lowercase name = Setting.allowed.variableName)
    (hv : v ≠ "") :
    ∃ ps, Cut [','] v.toList ps ∧ (∀ names, Listed ps names ↔ names = c.runbook.allowed) ∧
      ∃ d p, c.runbook.dispatcher = .ok d ∧ Pattern.compile c.runbook.pattern = .ok p ∧
        ∀ payload, (∃ a, d.resolve payload = .ok a) ↔
          ∃ service, Names payload service ∧ p.occursIn service = true ∧
            ((∀ q ∈ ps, Trims q []) ∨ ∃ q ∈ ps, Trims q service.toList) := by
  have hgives : Gives vars .allowed v := gives_of_ne_port (by decide) hmem hname hv
  obtain ⟨ps, hcut, hlisted⟩ := listed_of_ofText (ofText_of_gives h hc hgives)
  have hnames : Listed ps c.runbook.allowed := (hlisted _).2 rfl
  have hbuildable := Runbook.buildable_of_validate (validate_eq_ok_iff.1 (load_eq_ok_iff.1 hc).2).2
  obtain ⟨d, hd⟩ := Runbook.exists_dispatcher_iff.2 hbuildable
  obtain ⟨p, hp, haccepts⟩ := exists_resolve_iff hd
  refine ⟨ps, hcut, hlisted, d, p, hd, hp, fun payload => ?_⟩
  rw [haccepts]
  refine exists_congr fun service => and_congr_right fun hservice => and_congr_right fun _ => ?_
  rw [Permits, ← Decidable.or_iff_not_imp_left, hnames.eq_nil_iff, hnames.mem_iff,
    and_iff_right hservice.ne_empty]

/-- Blanks, pieces of which nothing is left, and a name that is there twice. -/
theorem allow_list_read_of_blanks :
    let vars := [("RUNBOOK_ALLOWED_SERVICES", " web ,,\u3000db,web")]
    ∃ d, (load (fun _ => true) vars).1 = .ok (allowing ["web", "db", "web"]) ∧
      (allowing ["web", "db", "web"]).runbook.dispatcher = .ok d ∧
      (∃ a, d.resolve [0x64, 0x62] = .ok a) ∧ ¬∃ a, d.resolve [0x61, 0x70, 0x69] = .ok a := by
  intro vars
  have hplain : Plain vars := ⟨by decide, by decide⟩
  have hread : Setting.allowed.ofText " web ,,\u3000db,web" = .ok ["web", "db", "web"] := rfl
  have hload : (load (fun _ => true) vars).1 = .ok (allowing ["web", "db", "web"]) := by
    rw [load_allowed _ (by decide), hread]
  obtain ⟨ps, hcut, hlisted, d, p, hd, hp, haccepts⟩ :=
    allow_list_read hplain hload List.mem_cons_self (by decide) (by decide)
  have hnames : Listed ps ["web", "db", "web"] := (hlisted _).2 rfl
  obtain rfl := eq_safeNames hp
  have hmatch : Dispatch.safeNames.occursIn "db" = true := occursIn_of_safeName (by decide)
  refine ⟨d, hload, hd, (haccepts _).2 ⟨"db", ⟨by decide, by decide⟩, hmatch, .inr ?_⟩, ?_⟩
  · exact (hnames.mem_iff.1 (by decide)).2
  · intro hresolves
    obtain ⟨service, hservice, -, hlist⟩ := (haccepts _).1 hresolves
    obtain rfl : service = "api" := hservice.unique ⟨by decide, by decide⟩
    rcases hlist with hnone | hlist
    · exact absurd (hnames.eq_nil_iff.2 hnone) (by decide)
    · exact absurd (hnames.mem_iff.2 ⟨by decide, hlist⟩) (by decide)

/-! ### Names without blanks and commas -/

section
variable {names : List String}

/-- No part of a safe name is blank. -/
theorem isBlank_of_namePart {c : Char} (h : Dispatch.NamePart c.toNat) : Text.isBlank c = false :=
  Character.of_ascii (P := fun c => Dispatch.NamePart c.toNat → Text.isBlank c = false)
    (by decide) h.lt h

/-- What matches the pattern of safe names consists of their parts. -/
theorem namePart_of_occursIn {x : String} (h : Dispatch.safeNames.occursIn x = true) :
    x.toList ≠ [] ∧ ∀ c ∈ x.toList, Dispatch.NamePart c.toNat := by
  obtain ⟨c, rest, hx, hc, -, hrest⟩ := Dispatch.matches_safeNames_iff.1 h
  rw [hx]
  exact ⟨List.cons_ne_nil c rest, List.forall_mem_cons.2 ⟨.inl hc, hrest⟩⟩

/-- **Safe names with commas between them are read back.** -/
theorem tidy_splitAt_intercalate (hne : names ≠ [])
    (h : ∀ x ∈ names, Dispatch.safeNames.occursIn x = true) :
    tidy (Text.splitAt ',' (",".intercalate names)) = names := by
  have hcut : Cut [','] (",".toList.intercalate (names.map String.toList))
      (names.map String.toList) := by
    refine Text.cut_intercalate (fun hnil => hne (List.map_eq_nil_iff.1 hnil)) fun p hp hcomma => ?_
    obtain ⟨x, hx, rfl⟩ := List.mem_map.1 hp
    exact absurd ((namePart_of_occursIn (h x hx)).2 ',' hcomma) (by decide)
  have hpieces := (Text.pieces_eq_iff (by decide)).2 hcut
  rw [Text.splitAt, String.toList_intercalate, hpieces, tidy_eq_iff]
  refine Listed.of_isTrimmed fun x hx => ?_
  obtain ⟨hnonempty, hparts⟩ := namePart_of_occursIn (h x hx)
  exact .of_forall hnonempty fun c hc => isBlank_of_namePart (hparts c hc)

/-- Names with commas between them spell no truth value and no number, unless there is one name
only and it does. -/
theorem isScalar_intercalate_iff (hne : names ≠ []) :
    IsScalar (",".intercalate names) ↔ ∃ x, names = [x] ∧ IsScalar x := by
  constructor
  · intro h
    obtain ⟨x, rest, rfl⟩ := List.exists_cons_of_ne_nil hne
    cases rest with
    | nil =>
      rw [String.intercalate_singleton] at h
      exact ⟨x, rfl, h⟩
    | cons y rest =>
      have hcomma : ',' ∈ (",".intercalate (x :: y :: rest)).toList := by
        rw [String.intercalate_cons_cons, String.toList_append, String.toList_append]
        exact List.mem_append_left _ (List.mem_append_right _ (List.mem_singleton_self _))
      exact absurd (Settings.isScalarChar_of_isScalar h ',' hcomma) (by decide)
  · rintro ⟨x, rfl, h⟩
    rwa [String.intercalate_singleton]

/-- A configuration with a list of safe names accepts these and nothing else. -/
theorem allowing_accepts (hne : names ≠ [])
    (h : ∀ x ∈ names, Dispatch.safeNames.occursIn x = true) :
    ∃ d, (allowing names).runbook.dispatcher = .ok d ∧
      ∀ payload, (∃ a, d.resolve payload = .ok a) ↔
        ∃ x ∈ names, Text.Utf8.encode x.toList = payload := by
  have hvalid := (validate_eq_ok_iff.1 (validate_allowing (fun _ => true) names)).2
  obtain ⟨d, hd⟩ := Runbook.exists_dispatcher_iff.2 (Runbook.buildable_of_validate hvalid)
  obtain ⟨p, hp, haccepts⟩ := exists_resolve_iff hd
  obtain rfl := eq_safeNames hp
  refine ⟨d, hd, fun payload => (haccepts payload).trans ⟨?_, ?_⟩⟩
  · rintro ⟨x, hx, -, hlist⟩
    exact ⟨x, hlist hne, hx.bytes⟩
  · rintro ⟨x, hx, rfl⟩
    refine ⟨x, ⟨rfl, fun hnil => ?_⟩, h x hx, fun _ => hx⟩
    have hempty : x = "" := Dispatch.encode_toList_eq_nil_iff.1 hnil
    exact (namePart_of_occursIn (h x hx)).1 (by rw [hempty]; rfl)

/-- **A list of names that match the standard pattern is read back,** and the dispatcher accepts
these names and nothing else, unless the list is one name that spells a truth value or a number:
then the configuration is refused. -/
theorem allow_list_of_names (hne : names ≠ []) {p : Pattern.Compiled}
    (hp : Pattern.compile Runbook.standard.pattern = .ok p)
    (h : ∀ x ∈ names, p.occursIn x = true) (isDirectory : Host.Path → Bool) :
    let vars := [("RUNBOOK_ALLOWED_SERVICES", ",".intercalate names)]
    ((load isDirectory vars).1 = .ok (allowing names) ↔ ¬∃ x, names = [x] ∧ IsScalar x) ∧
      (∀ x, names = [x] → IsScalar x →
        (load isDirectory vars).1 = .error (.load "RUNBOOK" (listRefusal x).message)) ∧
      ∃ d, (allowing names).runbook.dispatcher = .ok d ∧
        ∀ payload, (∃ a, d.resolve payload = .ok a) ↔
          ∃ x ∈ names, Text.Utf8.encode x.toList = payload := by
  intro vars
  obtain rfl := eq_safeNames hp
  have hback := tidy_splitAt_intercalate hne h
  have hjoined : ",".intercalate names ≠ "" := by
    intro hempty
    rw [hempty] at hback
    exact hne hback.symm
  have hload := load_allowed isDirectory hjoined
  have hrefused : ∀ x, names = [x] → IsScalar x →
      (load isDirectory vars).1 = .error (.load "RUNBOOK" (listRefusal x).message) := by
    rintro x rfl hx
    rw [String.intercalate_singleton, ofText_allowed_of_isScalar hx] at hload
    exact hload
  refine ⟨⟨?_, fun hlist => ?_⟩, hrefused, allowing_accepts hne h⟩
  · rintro hok ⟨x, hx, hscalar⟩
    rw [hrefused x hx hscalar] at hok
    cases hok
  · rw [ofText_allowed (fun hscalar => hlist ((isScalar_intercalate_iff hne).1 hscalar)), hback]
      at hload
    exact hload

/-- **A name that cannot be the only one:** it matches the pattern, and it spells a number. -/
theorem lone_numeral_refused :
    ∃ p, Pattern.compile Runbook.standard.pattern = .ok p ∧ p.occursIn "42" = true ∧
      (load (fun _ => true) [("RUNBOOK_ALLOWED_SERVICES", ",".intercalate ["42"])]).1 =
        .error (.load "RUNBOOK" "invalid type: integer `42`, expected a sequence") := by
  have hmatch : Dispatch.safeNames.occursIn "42" = true := occursIn_of_safeName (by decide)
  have hscalar : IsScalar "42" := .whole (n := 42) (by decide)
  refine ⟨Dispatch.safeNames, Dispatch.compile_safeNamePattern, hmatch, ?_⟩
  rw [String.intercalate_singleton, load_allowed _ (by decide), ofText_allowed_of_isScalar hscalar]
  rfl

/-- The same name, with another one. -/
theorem allow_list_of_names_of_two :
    (load (fun _ => true) [("RUNBOOK_ALLOWED_SERVICES", "web,42")]).1 =
      .ok (allowing ["web", "42"]) := by
  have hmatch : ∀ x ∈ ["web", "42"], Dispatch.safeNames.occursIn x = true :=
    List.forall_mem_cons.2 ⟨occursIn_of_safeName (by decide),
      List.forall_mem_singleton.2 (occursIn_of_safeName (by decide))⟩
  have hnames := allow_list_of_names (List.cons_ne_nil _ _) Dispatch.compile_safeNamePattern hmatch
    fun _ => true
  refine hnames.1.2 ?_
  rintro ⟨x, hx, -⟩
  cases hx

end

end Config
end Remedy
