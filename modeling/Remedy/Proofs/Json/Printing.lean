/-
# Values read back from what is printed

Every value is read back from what is printed for it (`read?_compact`).  A text is read character
by character, each from the escape that is printed for it; a number ends where the value ends, since
what follows a value within another one is a comma or a bracket.  Lists and records are read by
induction on the budget, and a value needs no more of that than it has characters (`ReadsBack`).
-/

import Mathlib.Data.List.TakeWhile
import Remedy.Json.Reader
import Remedy.Proofs.Text.Numeral

namespace Remedy
namespace Json

variable {budget : Nat} {done after : List Char}

/-! ### Texts -/

/-- A hexadecimal digit is read back. -/
theorem hexValue?_hexDigit : ∀ n < 16, hexValue? (hexDigit n) = some n := by decide

/-- A control character is read from its code. -/
theorem escaped?_hexDigits {c : Char} (h : c.toNat < 0x20) (rest : List Char) :
    escaped? ('0' :: '0' :: hexDigit (c.toNat / 16) :: hexDigit (c.toNat % 16) :: rest) =
      some (c, rest) := by
  have hzero : hexValue? '0' = some 0 := by decide
  have hhigh := hexValue?_hexDigit (c.toNat / 16) (by omega)
  have hlow := hexValue?_hexDigit (c.toNat % 16) (by omega)
  have hunit : unit? ('0' :: '0' :: hexDigit (c.toNat / 16) :: hexDigit (c.toNat % 16) :: rest) =
      some (c.toNat, rest) := by
    have hvalue : 4096 * 0 + 256 * 0 + 16 * (c.toNat / 16) + c.toNat % 16 = c.toNat := by omega
    simp only [unit?, hzero, hhigh, hlow, bind, Option.bind, pure, hvalue]
  have hsurrogate : ¬0xD800 ≤ c.toNat := by omega
  have hlater : ¬0xDC00 ≤ c.toNat := by omega
  simp only [escaped?, hunit, bind, Option.bind, pure, hsurrogate, hlater, decide_false,
    Bool.false_and, Bool.false_eq_true, if_false, Char.ofNat_toNat]

/-- **A character of a text is read from its escape.** -/
theorem readText_escapeChar (c : Char) (rest : List Char) :
    readText (budget + 1) done (escapeChar c ++ rest) = readText budget (c :: done) rest := by
  unfold escapeChar
  split
  · rfl
  · rfl
  · rfl
  · rfl
  · rfl
  · rfl
  · rfl
  · next hquote hslash _ _ _ _ _ =>
    split
    · next hcontrol =>
      change (escaped? ('0' :: '0' :: hexDigit (c.toNat / 16) :: hexDigit (c.toNat % 16) :: rest)).bind
        _ = _
      rw [escaped?_hexDigits hcontrol]
      rfl
    · next hplain =>
      rw [List.singleton_append, readText, if_neg hplain]
      · exact hquote
      · exact fun rest' h => absurd h hslash
      · exact fun c' rest' h => absurd h hslash

/-- **A text is read up to its closing quote.** -/
theorem readText_flatMap {cs : List Char} (h : cs.length < budget) :
    readText budget done (cs.flatMap escapeChar ++ '"' :: after) =
      some (String.ofList (done.reverse ++ cs), after) := by
  induction cs generalizing budget done with
  | nil =>
    obtain ⟨budget, rfl⟩ := Nat.exists_eq_succ_of_ne_zero (Nat.ne_of_gt h)
    rw [List.append_nil]
    rfl
  | cons c cs ih =>
    obtain ⟨budget, rfl⟩ := Nat.exists_eq_succ_of_ne_zero (Nat.ne_of_gt (Nat.zero_lt_of_lt h))
    rw [List.flatMap_cons, List.append_assoc, readText_escapeChar, ih (Nat.lt_of_succ_lt_succ h),
      List.reverse_cons, List.append_assoc, List.singleton_append]

/-- Every character is written as something. -/
theorem escapeChar_ne_nil (c : Char) : escapeChar c ≠ [] := by
  unfold escapeChar
  split
  all_goals first
    | exact List.cons_ne_nil _ _
    | split <;> exact List.cons_ne_nil _ _

/-- A text is no longer than what is written of it. -/
theorem length_le_flatMap_escapeChar (cs : List Char) :
    cs.length ≤ (cs.flatMap escapeChar).length := by
  induction cs with
  | nil => exact Nat.le_refl 0
  | cons c cs ih =>
    have hone := List.length_pos_iff.2 (escapeChar_ne_nil c)
    rw [List.flatMap_cons, List.length_append, List.length_cons]
    omega

/-- What is printed for a text. -/
theorem toList_quote (s : String) :
    (quote s).toList = '"' :: s.toList.flatMap escapeChar ++ ['"'] := by
  rw [quote, String.toList_ofList]

/-- **A text between quotes is read.** -/
theorem readText_quote (s : String) (after : List Char) :
    let rest := s.toList.flatMap escapeChar ++ '"' :: after
    readText (rest.length + 1) [] rest = some (s, after) := by
  intro rest
  have hlength := length_le_flatMap_escapeChar s.toList
  have hrest : rest.length = (s.toList.flatMap escapeChar).length + (after.length + 1) := by
    rw [List.length_append, List.length_cons]
  rw [readText_flatMap (by omega), List.reverse_nil, List.nil_append, String.ofList_toList]

/-! ### Numbers -/

/-- Nothing is skipped before what is no gap. -/
theorem skip_cons {c : Char} (h : isGap c = false) (rest : List Char) :
    skip (c :: rest) = c :: rest :=
  List.dropWhile_cons_of_neg (by rw [h]; exact Bool.false_ne_true)

/-- Digits are no gap. -/
theorem isGap_of_isDigit {c : Char} (h : c.isDigit = true) : isGap c = false := by
  have hlow := (Text.isDigit_bounds h).1
  have hne : ∀ d : Char, d.toNat < 48 → c ≠ d := by
    rintro d hd rfl
    omega
  simp only [isGap, hne ' ' (by decide), hne '\t' (by decide), hne '\n' (by decide),
    hne '\r' (by decide), decide_false, Bool.or_self]

/-- Whether a value ends before a text: there is nothing more, or a comma or a closing bracket
comes. -/
def Ends (after : List Char) : Prop := ∀ c ∈ after.head?, c ∈ [',', ']', '\x7d']

/-- A value may end at the end of the text. -/
theorem ends_nil : Ends [] := fun _ hc => by cases hc

/-- A value may end before a comma or a closing bracket. -/
theorem ends_cons {c : Char} (h : c ∈ [',', ']', '\x7d']) (rest : List Char) : Ends (c :: rest) := by
  intro d hd
  obtain rfl := Option.some.inj hd
  exact h

/-- What follows a value is no part of a number. -/
theorem Ends.head (h : Ends after) :
    (∀ c ∈ after.head?, c.isDigit = false) ∧ readFraction after = none ∧
      readExponent after = none := by
  cases after with
  | nil => exact ⟨fun _ hc => by (cases hc), rfl, rfl⟩
  | cons c rest =>
    have hc := h c rfl
    simp only [List.mem_cons, List.not_mem_nil, or_false] at hc
    rcases hc with rfl | rfl | rfl
    all_goals
      refine ⟨fun d hd => ?_, rfl, rfl⟩
      obtain rfl := Option.some.inj hd
      rfl

/-- Digits end before what begins with none. -/
theorem span_digits {ds : List Char} (hds : ∀ c ∈ ds, c.isDigit = true)
    (hafter : ∀ c ∈ after.head?, c.isDigit = false) :
    (ds ++ after).takeWhile Char.isDigit = ds ∧ (ds ++ after).dropWhile Char.isDigit = after := by
  cases after with
  | nil =>
    rw [List.append_nil]
    exact ⟨List.takeWhile_eq_self_iff.2 hds, List.dropWhile_eq_nil_iff.2 hds⟩
  | cons c after =>
    rw [List.takeWhile_append_of_pos hds, List.dropWhile_append_of_pos hds, List.takeWhile_cons,
      List.dropWhile_cons, hafter c rfl, if_neg Bool.false_ne_true, if_neg Bool.false_ne_true,
      List.append_nil]
    exact ⟨rfl, rfl⟩

/-- What is printed for a number begins with a digit. -/
theorem exists_cons_toDigits (m : Nat) :
    ∃ c cs, Nat.toDigits 10 m = c :: cs ∧ c.isDigit = true := by
  obtain ⟨c, cs, hcs⟩ := List.exists_cons_of_ne_nil (Nat.toDigits_ne_nil (b := 10) (n := m))
  refine ⟨c, cs, hcs, Text.isDigit_toDigits m c ?_⟩
  rw [hcs]
  exact List.mem_cons_self

/-- Digits do not begin with what is none. -/
theorem toDigits_append_ne (m : Nat) (rest : List Char) {d : Char} (hd : d.isDigit = false)
    (ds : List Char) : Nat.toDigits 10 m ++ rest ≠ d :: ds := by
  obtain ⟨c, cs, hcs, hc⟩ := exists_cons_toDigits m
  intro h
  rw [hcs] at h
  rw [← (List.cons.inj h).1, hc] at hd
  cases hd

/-- The sign of a number as it is printed. -/
def sign (negative : Bool) : List Char := if negative then ['-'] else []

/-- An integer is printed as a sign, unless it is zero, and digits. -/
theorem exists_toList_toString (n : Int) : ∃ negative m,
    (toString n).toList = sign negative ++ Nat.toDigits 10 m ∧ signed negative m = n ∧
      (negative && decide (m = 0)) = false := by
  obtain ⟨m, rfl | rfl⟩ := n.eq_nat_or_neg
  · exact ⟨false, m, Text.toList_toString_nat m, rfl, rfl⟩
  · rcases Nat.eq_zero_or_pos m with rfl | hpos
    · exact ⟨false, 0, Text.toList_toString_nat 0, rfl, rfl⟩
    · refine ⟨true, m, Text.toList_toString_neg hpos, rfl, ?_⟩
      rw [Bool.true_and, decide_eq_false_iff_not]
      exact Nat.ne_of_gt hpos

section
variable (negative : Bool) (m : Nat)

/-- Digits at the front are taken for their number. -/
theorem digits_toDigits (hafter : ∀ c ∈ after.head?, c.isDigit = false) :
    Text.digitsValue? ((Nat.toDigits 10 m ++ after).takeWhile Char.isDigit) = some m ∧
      (Nat.toDigits 10 m ++ after).dropWhile Char.isDigit = after := by
  have hdigits := Text.isDigit_toDigits m
  obtain ⟨htake, hdrop⟩ := span_digits hdigits hafter
  rw [htake, hdrop]
  exact ⟨Text.digitsValue?_toDigits m, rfl⟩

/-- An exponent is read. -/
theorem readExponent_toString (k : Int) (h : Ends after) :
    readExponent ('e' :: ((toString k).toList ++ after)) = some (k, after) := by
  obtain ⟨negative, m, hk, rfl, -⟩ := exists_toList_toString k
  obtain ⟨hvalue, hrest⟩ := digits_toDigits m h.head.1
  rw [hk]
  cases negative with
  | true =>
    change readExponent ('e' :: '-' :: (Nat.toDigits 10 m ++ after)) = _
    rw [readExponent, if_pos (by decide), hvalue, hrest]
    rfl
  | false =>
    rw [readExponent, if_pos (by decide)]
    · change Option.map _ (do
        let a ← Text.digitsValue? ((Nat.toDigits 10 m ++ after).takeWhile Char.isDigit)
        pure (a : Int)) = _
      rw [hvalue]
      change some (_, (Nat.toDigits 10 m ++ after).dropWhile Char.isDigit) = _
      rw [hrest]
      rfl
    · exact toDigits_append_ne m after rfl
    · exact toDigits_append_ne m after rfl

/-- **A whole number is read.** -/
theorem readNumber_whole (h : Ends after) : readNumber negative (Nat.toDigits 10 m ++ after) =
    some (if negative && m = 0 then .real 0 0 else .int (signed negative m), after) := by
  obtain ⟨hdigit, hfraction, hexponent⟩ := h.head
  obtain ⟨hvalue, hrest⟩ := digits_toDigits m hdigit
  simp only [readNumber, hvalue, hrest, hfraction, hexponent, bind, Option.bind]
  rfl

/-- **A number with an exponent is read.** -/
theorem readNumber_exponent (k : Int) (h : Ends after) :
    readNumber negative (Nat.toDigits 10 m ++ 'e' :: ((toString k).toList ++ after)) =
      some (.real (signed negative m) k, after) := by
  have hdigit : ∀ c ∈ ('e' :: ((toString k).toList ++ after)).head?, c.isDigit = false := by
    intro c hc
    obtain rfl := Option.some.inj hc
    rfl
  obtain ⟨hvalue, hrest⟩ := digits_toDigits m hdigit
  have hfraction : readFraction ('e' :: ((toString k).toList ++ after)) = none := rfl
  simp only [readNumber, hvalue, hrest, hfraction, readExponent_toString k h, bind, Option.bind]
  rfl

/-- A number at the front is read. -/
theorem readValue_number (rest : List Char) :
    readValue (budget + 1) (sign negative ++ Nat.toDigits 10 m ++ rest) =
      readNumber negative (Nat.toDigits 10 m ++ rest) := by
  cases negative with
  | true => rfl
  | false =>
    have hskip : skip (Nat.toDigits 10 m ++ rest) = Nat.toDigits 10 m ++ rest := by
      obtain ⟨c, cs, hcs, hc⟩ := exists_cons_toDigits m
      rw [hcs]
      exact skip_cons (isGap_of_isDigit hc) _
    rw [sign, if_neg Bool.false_ne_true, List.nil_append, readValue, hskip]
    split
    all_goals first
      | rfl
      | exact absurd ‹_› (toDigits_append_ne m rest rfl _)

end

/-! ### Values -/

/-- What is printed for the items of a list. -/
def itemsText (items : List Json) : List Char :=
  List.intercalate [','] (items.map fun j => (compact j).toList)

/-- What is printed for a member of a record. -/
def memberText (m : String × Json) : List Char := (quote m.1).toList ++ ':' :: (compact m.2).toList

/-- What is printed for the members of a record. -/
def membersText (members : List (String × Json)) : List Char :=
  List.intercalate [','] (members.map memberText)

/-- A list between its brackets. -/
theorem toList_compact_list (items : List Json) :
    (compact (.list items)).toList = '[' :: itemsText items ++ [']'] := by
  have hitems : compactItems items = items.map compact := by
    induction items with
    | nil => rfl
    | cons j rest ih => rw [compactItems, ih, List.map_cons]
  rw [compact, hitems, commas, String.toList_append, String.toList_append,
    String.toList_intercalate, List.map_map]
  rfl

/-- A record between its brackets. -/
theorem toList_compact_record (members : List (String × Json)) :
    (compact (.record members)).toList = '\x7b' :: membersText members ++ ['\x7d'] := by
  have hmembers : (compactMembers members).map String.toList = members.map memberText := by
    induction members with
    | nil => rfl
    | cons m rest ih =>
      rw [compactMembers, List.map_cons, List.map_cons, ih, String.toList_append,
        String.toList_append, memberText, List.append_assoc]
      rfl
  rw [compact, commas, String.toList_append, String.toList_append, String.toList_intercalate,
    hmembers]
  rfl

/-- What is printed for a value begins with neither a blank nor a closing bracket. -/
theorem exists_cons_compact (j : Json) :
    ∃ c cs, (compact j).toList = c :: cs ∧ isGap c = false ∧ c ≠ ']' := by
  have hnumber : ∀ (n : Int) (more : String), ∃ c cs,
      (toString n ++ more).toList = c :: cs ∧ isGap c = false ∧ c ≠ ']' := by
    intro n more
    obtain ⟨negative, m, hn, -, -⟩ := exists_toList_toString n
    rw [String.toList_append, hn]
    cases negative with
    | true => exact ⟨'-', _, rfl, by decide, by decide⟩
    | false =>
      obtain ⟨c, cs, hcs, hc⟩ := exists_cons_toDigits m
      rw [hcs]
      refine ⟨c, _, rfl, isGap_of_isDigit hc, ?_⟩
      rintro rfl
      cases hc
  cases j with
  | null => exact ⟨_, _, rfl, by decide, by decide⟩
  | bool b => cases b <;> exact ⟨_, _, rfl, by decide, by decide⟩
  | int n => simpa [compact] using hnumber n ""
  | real m k =>
    rw [compact, String.append_assoc]
    exact hnumber m _
  | text s => exact ⟨_, _, toList_quote s, by decide, by decide⟩
  | list items => exact ⟨_, _, toList_compact_list items, by decide, by decide⟩
  | record members => exact ⟨_, _, toList_compact_record members, by decide, by decide⟩

/-- Every value is written as something. -/
theorem compact_ne_nil (j : Json) : (compact j).toList ≠ [] := by
  obtain ⟨c, cs, hcs, -⟩ := exists_cons_compact j
  rw [hcs]
  exact List.cons_ne_nil c cs

/-- Items have a comma between each two. -/
theorem itemsText_cons_cons (j k : Json) (rest : List Json) :
    itemsText (j :: k :: rest) = (compact j).toList ++ ',' :: itemsText (k :: rest) := by
  rw [itemsText, List.map_cons, List.map_cons, List.intercalate_cons_cons, List.append_assoc]
  rfl

/-- Members have a comma between each two. -/
theorem membersText_cons_cons (m m' : String × Json) (rest : List (String × Json)) :
    membersText (m :: m' :: rest) = memberText m ++ ',' :: membersText (m' :: rest) := by
  rw [membersText, List.map_cons, List.map_cons, List.intercalate_cons_cons, List.append_assoc]
  rfl

/-- Items do not begin with a gap, nor with the end of a list. -/
theorem exists_cons_itemsText (j : Json) (items : List Json) :
    ∃ c cs, itemsText (j :: items) = c :: cs ∧ isGap c = false ∧ c ≠ ']' := by
  obtain ⟨c, cs, hcs, hc⟩ := exists_cons_compact j
  cases items with
  | nil => exact ⟨c, cs, (List.append_nil _).trans hcs, hc⟩
  | cons k items =>
    rw [itemsText_cons_cons, hcs]
    exact ⟨c, _, rfl, hc⟩

/-- Members begin with a name. -/
theorem exists_membersText (m : String × Json) (members : List (String × Json)) :
    ∃ cs, membersText (m :: members) = (quote m.1).toList ++ cs := by
  cases members with
  | nil => exact ⟨_, List.append_nil _⟩
  | cons m' members =>
    rw [membersText_cons_cons, memberText, List.append_assoc]
    exact ⟨_, rfl⟩

/-- A list is read if its items are. -/
theorem readValue_bracket {c : Char} {cs : List Char} {items : List Json} (hgap : isGap c = false)
    (hc : c ≠ ']') (h : readItems budget (c :: cs) = some (items, after)) :
    readValue (budget + 1) ('[' :: c :: cs) = some (.list items, after) := by
  have hskip : skip ('[' :: c :: cs) = '[' :: c :: cs := skip_cons rfl _
  rw [readValue, hskip]
  simp only [skip_cons hgap]
  split
  · next heq => exact absurd (List.cons.inj heq).1 hc
  · rw [h]
    rfl

/-- An item is read, and the others after a comma. -/
theorem readItems_comma {j : Json} {cs rest : List Char} {items : List Json}
    (hj : readValue budget cs = some (j, ',' :: rest))
    (hitems : readItems budget rest = some (items, after)) :
    readItems (budget + 1) cs = some (j :: items, after) := by
  have hskip : skip (',' :: rest) = ',' :: rest := skip_cons rfl _
  rw [readItems, hj]
  simp only [bind, Option.bind, hskip, hitems, pure]

/-- The last item is read up to the end of its list. -/
theorem readItems_last {j : Json} {cs rest : List Char}
    (hj : readValue budget cs = some (j, ']' :: rest)) :
    readItems (budget + 1) cs = some ([j], rest) := by
  have hskip : skip (']' :: rest) = ']' :: rest := skip_cons rfl _
  rw [readItems, hj]
  simp only [bind, Option.bind, hskip, pure]

/-- A quoted text before the rest. -/
theorem toList_quote_append (s : String) (rest : List Char) :
    (quote s).toList ++ rest = '"' :: (s.toList.flatMap escapeChar ++ '"' :: rest) := by
  rw [toList_quote, List.append_assoc]
  rfl

section
variable {name : String} {j : Json} {cs rest : List Char}

/-- A member is read, and the others after a comma. -/
theorem readMembers_comma {members : List (String × Json)}
    (hj : readValue budget cs = some (j, ',' :: rest))
    (hmembers : readMembers budget rest = some (members, after)) :
    readMembers (budget + 1) ((quote name).toList ++ ':' :: cs) =
      some ((name, j) :: members, after) := by
  have hquote := skip_cons (c := '"') rfl (name.toList.flatMap escapeChar ++ '"' :: ':' :: cs)
  have hcolon := skip_cons (c := ':') rfl cs
  have hcomma := skip_cons (c := ',') rfl rest
  rw [toList_quote_append, readMembers, hquote]
  simp only [readText_quote, bind, Option.bind, hcolon, after?, if_true, hj, hcomma, hmembers, pure]

/-- The last member is read up to the end of its record. -/
theorem readMembers_last (hj : readValue budget cs = some (j, '\x7d' :: rest)) :
    readMembers (budget + 1) ((quote name).toList ++ ':' :: cs) = some ([(name, j)], rest) := by
  have hquote := skip_cons (c := '"') rfl (name.toList.flatMap escapeChar ++ '"' :: ':' :: cs)
  have hcolon := skip_cons (c := ':') rfl cs
  have hend := skip_cons (c := '\x7d') rfl rest
  rw [toList_quote_append, readMembers, hquote]
  simp only [readText_quote, bind, Option.bind, hcolon, after?, if_true, hj, hend, pure]

end

/-- A record is read if its members are. -/
theorem readValue_brace {name : String} {cs : List Char} {members : List (String × Json)}
    (h : readMembers budget ((quote name).toList ++ cs) = some (members, after)) :
    readValue (budget + 1) ('\x7b' :: ((quote name).toList ++ cs)) =
      some (.record members, after) := by
  rw [toList_quote_append] at h ⊢
  have hbrace := skip_cons (c := '\x7b') rfl ('"' :: (name.toList.flatMap escapeChar ++ '"' :: cs))
  have hquote := skip_cons (c := '"') rfl (name.toList.flatMap escapeChar ++ '"' :: cs)
  rw [readValue, hbrace]
  simp only [hquote]
  change Option.map _ (readMembers budget ('"' :: (name.toList.flatMap escapeChar ++ '"' :: cs))) = _
  rw [h]
  rfl

/-- **What is read back within a budget:** values, and the items and members of such that are not
empty, if their texts, up to the closing bracket, have fewer characters than there are steps. -/
structure ReadsBack (budget : Nat) : Prop where
  value : ∀ (j : Json) (after : List Char), (compact j).toList.length < budget → Ends after →
    readValue budget ((compact j).toList ++ after) = some (j, after)
  items : ∀ (items : List Json) (after : List Char), items ≠ [] →
    (itemsText items).length + 1 < budget →
    readItems budget (itemsText items ++ ']' :: after) = some (items, after)
  members : ∀ (members : List (String × Json)) (after : List Char), members ≠ [] →
    (membersText members).length + 1 < budget →
    readMembers budget (membersText members ++ '\x7d' :: after) = some (members, after)

section
variable (h : ReadsBack budget)
include h

/-- **A value is read back** if what it is made of is, with less of a budget. -/
theorem ReadsBack.value_succ (j : Json) (after : List Char)
    (hlength : (compact j).toList.length < budget + 1) (hafter : Ends after) :
    readValue (budget + 1) ((compact j).toList ++ after) = some (j, after) := by
  cases j with
  | null => rfl
  | bool b => cases b <;> rfl
  | int n =>
    obtain ⟨negative, m, hn, hsigned, hzero⟩ := exists_toList_toString n
    rw [compact, hn, readValue_number, readNumber_whole negative m hafter, hzero, hsigned]
    rfl
  | real m k =>
    obtain ⟨negative, m, hn, rfl, -⟩ := exists_toList_toString m
    rw [compact, String.toList_append, String.toList_append, hn, List.append_assoc,
      List.append_assoc, readValue_number]
    exact readNumber_exponent negative m k hafter
  | text s =>
    rw [compact, toList_quote_append]
    change (readText ((s.toList.flatMap escapeChar ++ '"' :: after).length + 1) []
      (s.toList.flatMap escapeChar ++ '"' :: after)).map _ = _
    rw [readText_quote]
    rfl
  | list items =>
    cases items with
    | nil => rfl
    | cons j items =>
      rw [toList_compact_list, List.cons_append, List.length_cons, List.length_append] at hlength
      obtain ⟨c, cs, hcs, hgap, hc⟩ := exists_cons_itemsText j items
      have hread := h.items (j :: items) after (List.cons_ne_nil j items)
        (Nat.lt_of_succ_lt_succ hlength)
      rw [toList_compact_list, List.cons_append, List.cons_append, List.append_assoc, hcs]
      rw [hcs] at hread
      exact readValue_bracket hgap hc hread
  | record members =>
    cases members with
    | nil => rfl
    | cons m members =>
      rw [toList_compact_record, List.cons_append, List.length_cons, List.length_append] at hlength
      obtain ⟨cs, hcs⟩ := exists_membersText m members
      have hread := h.members (m :: members) after (List.cons_ne_nil m members)
        (Nat.lt_of_succ_lt_succ hlength)
      rw [toList_compact_record, List.cons_append, List.cons_append, List.append_assoc, hcs,
        List.append_assoc]
      rw [hcs, List.append_assoc] at hread
      exact readValue_brace hread

/-- **Items are read back** if values and fewer items are. -/
theorem ReadsBack.items_succ (items : List Json) (after : List Char) (hne : items ≠ [])
    (hlength : (itemsText items).length + 1 < budget + 1) :
    readItems (budget + 1) (itemsText items ++ ']' :: after) = some (items, after) := by
  obtain ⟨j, items, rfl⟩ := List.exists_cons_of_ne_nil hne
  cases items with
  | nil =>
    have honly : itemsText [j] = (compact j).toList := List.append_nil _
    rw [honly] at hlength ⊢
    exact readItems_last (h.value j _ (Nat.lt_of_succ_lt_succ hlength) (ends_cons (by decide) after))
  | cons k items =>
    have hpos := List.length_pos_iff.2 (compact_ne_nil j)
    rw [itemsText_cons_cons, List.length_append, List.length_cons] at hlength
    rw [itemsText_cons_cons, List.append_assoc, List.cons_append]
    exact readItems_comma (h.value j _ (by omega) (ends_cons (by decide) _))
      (h.items (k :: items) after (List.cons_ne_nil k items) (by omega))

/-- **Members are read back** if values and fewer members are. -/
theorem ReadsBack.members_succ (members : List (String × Json)) (after : List Char)
    (hne : members ≠ []) (hlength : (membersText members).length + 1 < budget + 1) :
    readMembers (budget + 1) (membersText members ++ '\x7d' :: after) = some (members, after) := by
  obtain ⟨⟨name, j⟩, members, rfl⟩ := List.exists_cons_of_ne_nil hne
  have hmember : memberText (name, j) = (quote name).toList ++ ':' :: (compact j).toList := rfl
  cases members with
  | nil =>
    have honly : membersText [(name, j)] = memberText (name, j) := List.append_nil _
    rw [honly, hmember, List.length_append, List.length_cons] at hlength
    rw [honly, hmember, List.append_assoc, List.cons_append]
    exact readMembers_last (h.value j _ (by omega) (ends_cons (by decide) after))
  | cons m members =>
    rw [membersText_cons_cons, hmember, List.length_append, List.length_append,
      List.length_cons, List.length_cons] at hlength
    rw [membersText_cons_cons, hmember, List.append_assoc, List.append_assoc, List.cons_append,
      List.cons_append]
    exact readMembers_comma (h.value j _ (by omega) (ends_cons (by decide) _))
      (h.members (m :: members) after (List.cons_ne_nil m members) (by omega))

end

/-- **Whatever is written is read back,** by induction on the budget. -/
theorem readsBack (budget : Nat) : ReadsBack budget := by
  induction budget with
  | zero =>
    exact ⟨fun _ _ h => absurd h (Nat.not_lt_zero _), fun _ _ _ h => absurd h (Nat.not_lt_zero _),
      fun _ _ _ h => absurd h (Nat.not_lt_zero _)⟩
  | succ budget ih => exact ⟨ih.value_succ, ih.items_succ, ih.members_succ⟩

/-- **Every value is read back from its text.** -/
theorem read?_compact (j : Json) : read? (compact j) = some j := by
  have hlength : (compact j).toList.length < (compact j).length + 1 := by
    rw [String.length_toList]
    exact Nat.lt_succ_self _
  have hread := (readsBack _).value j [] hlength ends_nil
  rw [List.append_nil] at hread
  rw [read?, hread]
  rfl

end Json
end Remedy
