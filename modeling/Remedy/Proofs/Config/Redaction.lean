/-
# What a redacted URL tells

A URL is redacted between the first end of a scheme in it and its last `@`.  Whatever
stands between a scheme and an `@` without another one after it is therefore hidden, also
if it holds such marks itself (`redact_credentials`), and what is left is not redacted any
further.

Whether a URL begins with an admissible scheme is settled by what stands before the
credentials (`hasScheme_append`), and so neither validation nor what is shown of a
configuration depends on them (`validate_withUrl`, `sanitized_withUrl`).
-/

import Remedy.Config.Document
import Remedy.Config.Validate
import Remedy.Proofs.Text.Pieces

namespace Remedy
namespace Config

/-- Whether a mark ends a text and occurs nowhere else in it. -/
structure EndsWithFirst (mark cs : List Char) : Prop where
  ends : mark <:+ cs
  first : ∀ before after, cs = before ++ mark ++ after → after = []

/-- It is enough that the mark does not occur in what comes before the last character. -/
theorem endsWithFirst_of_occurs {mark cs : List Char} (hends : mark <:+ cs)
    (hfirst : Text.occurs mark cs.dropLast = false) : EndsWithFirst mark cs := by
  refine ⟨hends, fun before after hcs => ?_⟩
  cases after with
  | nil => rfl
  | cons c after =>
    rw [hcs, List.dropLast_append_cons] at hfirst
    refine absurd (Text.occurs_eq_true_iff.2 ?_) (Bool.eq_false_iff.1 hfirst)
    rw [List.append_assoc]
    exact List.infix_append' before mark _

/-- A text that follows such a mark does not move it. -/
theorem Endpoint.afterMark_append {mark : List Char} (hmark : mark ≠ []) :
    ∀ {cs : List Char}, EndsWithFirst mark cs → ∀ rest,
      afterMark mark (cs ++ rest) = some (cs, rest) := by
  intro cs
  induction cs with
  | nil => exact fun h => absurd (List.suffix_nil.1 h.ends) hmark
  | cons c cs ih =>
    intro h rest
    rw [List.cons_append, afterMark]
    split
    · next hp =>
      have hshort : mark <+: c :: cs := List.prefix_of_prefix_length_le
        (List.isPrefixOf_iff_prefix.1 hp) (List.prefix_append (c :: cs) rest) h.ends.length_le
      obtain ⟨after, hafter⟩ := hshort
      have hnil := h.first [] after hafter.symm
      rw [hnil, List.append_nil] at hafter
      rw [← List.cons_append, ← hafter, List.drop_left]
    · next hp =>
      have hrest : EndsWithFirst mark cs := by
        refine ⟨?_, fun before after hcs => h.first (c :: before) after (by rw [hcs]; rfl)⟩
        rcases List.suffix_cons_iff.1 h.ends with heq | hs
        · refine absurd (List.isPrefixOf_iff_prefix.2 ?_) hp
          rw [heq]
          exact List.prefix_append _ rest
        · exact hs
      rw [ih hrest rest]
      rfl

namespace Endpoint

/-- Without a mark there is nothing after the last one. -/
theorem fromLastAt_of_not_mem {cs : List Char} (h : '@' ∉ cs) : fromLastAt cs = none := by
  induction cs with
  | nil => rfl
  | cons c cs ih =>
    rw [List.mem_cons, not_or] at h
    rw [fromLastAt, ih h.2]
    exact if_neg (Ne.symm h.1)

/-- What follows the last mark is found. -/
theorem fromLastAt_append {cs : List Char} (h : '@' ∉ cs) (before : List Char) :
    fromLastAt (before ++ '@' :: cs) = some ('@' :: cs) := by
  induction before with
  | nil =>
    rw [List.nil_append, fromLastAt, fromLastAt_of_not_mem h]
    rfl
  | cons c before ih => rw [List.cons_append, fromLastAt, ih]

end Endpoint

/-- A URL with credentials in it. -/
def urlWith (scheme credentials host : String) : String := scheme ++ credentials ++ "@" ++ host

variable {scheme host : String}

/-- **The credentials are hidden,** whatever they are. -/
theorem redact_credentials (hs : EndsWithFirst Endpoint.schemeEnd scheme.toList)
    (hh : '@' ∉ host.toList) (credentials : String) :
    Endpoint.redact (urlWith scheme credentials host) = scheme ++ "***@" ++ host := by
  have hurl : (urlWith scheme credentials host).toList =
      scheme.toList ++ (credentials.toList ++ '@' :: host.toList) := by
    simp [urlWith]
  unfold Endpoint.redact
  rw [hurl, Endpoint.afterMark_append (by decide) hs]
  simp only [Endpoint.fromLastAt_append hh]
  rw [← String.toList_inj]
  simp

/-- **What is redacted stays as it is.** -/
theorem redact_redact (hs : EndsWithFirst Endpoint.schemeEnd scheme.toList)
    (hh : '@' ∉ host.toList) (credentials : String) :
    Endpoint.redact (Endpoint.redact (urlWith scheme credentials host)) =
      Endpoint.redact (urlWith scheme credentials host) := by
  have hstars : scheme ++ "***@" ++ host = urlWith scheme "***" host := by
    rw [← String.toList_inj]
    simp [urlWith]
  rw [redact_credentials hs hh, hstars, redact_credentials hs hh, hstars]

/-- **The scheme is told by what stands before the credentials.** -/
theorem hasScheme_append (hs : EndsWithFirst Endpoint.schemeEnd scheme.toList) (rest : String) :
    hasScheme (scheme ++ rest) = hasScheme scheme := by
  have hscheme : ∀ s ∈ schemes, s.toList.isPrefixOf (scheme ++ rest).toList =
      s.toList.isPrefixOf scheme.toList := by
    intro s hmem
    rw [String.toList_append, Bool.eq_iff_iff, List.isPrefixOf_iff_prefix,
      List.isPrefixOf_iff_prefix]
    refine ⟨fun h => ?_, fun h => h.trans (List.prefix_append _ _)⟩
    rcases Nat.le_total s.toList.length scheme.toList.length with hle | hle
    · exact List.prefix_of_prefix_length_le h (List.prefix_append _ _) hle
    · -- an admissible scheme has its only mark at its end
      obtain ⟨more, hmore⟩ := List.prefix_of_prefix_length_le (List.prefix_append _ _) h hle
      have hend : Endpoint.afterMark Endpoint.schemeEnd s.toList = some (s.toList, []) := by
        rcases List.mem_cons.1 hmem with rfl | hmem
        · rfl
        · rw [List.mem_singleton.1 hmem]
          rfl
      rw [← hmore, Endpoint.afterMark_append (by decide) hs] at hend
      obtain rfl : more = [] := (Prod.mk.inj (Option.some.inj hend)).2
      rw [List.append_nil] at hmore
      exact hmore ▸ List.prefix_rfl
  unfold hasScheme
  rw [Bool.eq_iff_iff, List.any_eq_true, List.any_eq_true]
  exact exists_congr fun s => and_congr_right fun hmem => by rw [hscheme s hmem]

/-! ### Configurations that differ in their URL -/

/-- An endpoint with another URL. -/
def Endpoint.withUrl (e : Endpoint) (url : String) : Endpoint := { e with url := some url }

/-- A configuration with another URL. -/
def withUrl (c : Config) (url : String) : Config := { c with endpoint := c.endpoint.withUrl url }

section
variable {a b : String}

/-- Of a URL validation looks at its scheme, and shows it redacted. -/
theorem validate_withUrl_congr (hscheme : hasScheme a = hasScheme b)
    (hredact : Endpoint.redact a = Endpoint.redact b) (isDirectory : Host.Path → Bool)
    (c : Config) : (c.withUrl a).validate isDirectory = (c.withUrl b).validate isDirectory := by
  have hendpoint : (c.withUrl a).endpoint.validate = (c.withUrl b).endpoint.validate := by
    simp only [withUrl, Endpoint.withUrl, Endpoint.validate, Endpoint.redactedUri, Endpoint.uri,
      hscheme, hredact]
    rfl
  unfold validate
  rw [hendpoint]
  rfl

/-- Of a URL nothing is shown but what is left of it when it is redacted. -/
theorem sanitized_withUrl_congr (hredact : Endpoint.redact a = Endpoint.redact b) (c : Config) :
    (c.withUrl a).sanitized = (c.withUrl b).sanitized := by
  simp only [sanitized, toJson, toJson?, withUrl, Endpoint.withUrl, Endpoint.redactedUri,
    Endpoint.uri, hredact]
  cases c.runbook.toJson? with
  | none => rfl
  | some runbook => rfl

end

section
variable (hs : EndsWithFirst Endpoint.schemeEnd scheme.toList) (hh : '@' ∉ host.toList)
include hs

/-- Credentials do not bear on whether a scheme is there. -/
theorem hasScheme_urlWith (u u' : String) :
    hasScheme (urlWith scheme u host) = hasScheme (urlWith scheme u' host) := by
  simp only [urlWith, String.append_assoc, hasScheme_append hs]

include hh

/-- **Validation does not depend on the credentials,** nor does what it complains of. -/
theorem validate_withUrl (isDirectory : Host.Path → Bool) (c : Config) (u u' : String) :
    (c.withUrl (urlWith scheme u host)).validate isDirectory =
      (c.withUrl (urlWith scheme u' host)).validate isDirectory :=
  validate_withUrl_congr (hasScheme_urlWith hs u u')
    ((redact_credentials hs hh u).trans (redact_credentials hs hh u').symm) isDirectory c

/-- **What is shown of a configuration does not depend on the credentials.** -/
theorem sanitized_withUrl (c : Config) (u u' : String) :
    (c.withUrl (urlWith scheme u host)).sanitized =
      (c.withUrl (urlWith scheme u' host)).sanitized :=
  sanitized_withUrl_congr ((redact_credentials hs hh u).trans (redact_credentials hs hh u').symm) c

end

end Config
end Remedy
