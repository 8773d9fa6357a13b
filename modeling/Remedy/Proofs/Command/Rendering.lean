/-
# What a template becomes for a service

Each token is cut at its placeholders and joined by the name of the service (`Renders`), and the
name follows as an argument of its own if there is no placeholder at all
(`argv_renders_tokens`).  How many arguments there are is up to the template, whatever the name
is like, and the name is in one of them.

So a template with a placeholder holds the name between two pieces of a token, from which it can
be told, and one without holds it last: the commands for two services differ
(`argv_tells_services_apart`).
-/

import Mathlib.Data.List.Forall2
import Remedy.Command.Action
import Remedy.Proofs.Text.Pieces

namespace Remedy
namespace Command

/-- **What a token becomes for a name:** it is cut at its placeholders, and its pieces are joined
by the name. -/
def Renders (name token element : String) : Prop :=
  ∃ ps, Text.Cut placeholder.toList token.toList ps ∧ element.toList = name.toList.intercalate ps

namespace Template

/-- Whether there is a placeholder in a template, in the program or in an argument. -/
def Marked (t : Template) : Prop := ∃ token ∈ t.tokens, placeholder.toList <:+: token.toList

variable {t : Template} {name name' token element : String}

theorem placeholder_ne_nil : placeholder.toList ≠ [] := by decide

/-- Filling a token puts the name between the pieces that the placeholder parts it into. -/
theorem toList_fill (name token : String) :
    (fill name token).toList =
      name.toList.intercalate (Text.pieces placeholder.toList token.toList) := by
  rw [fill, Text.replace, String.toList_ofList, Text.substitute]

/-- A token is rendered in one way. -/
theorem renders_iff : Renders name token element ↔ fill name token = element := by
  have hcut := Text.cut_pieces placeholder_ne_nil token.toList
  rw [← String.toList_inj, toList_fill]
  constructor
  · rintro ⟨ps, hps, helement⟩
    rw [hcut.unique hps, helement]
  · intro h
    exact ⟨_, hcut, h.symm⟩

/-- The test for a placeholder is right. -/
theorem hasPlaceholder_eq_true_iff : t.hasPlaceholder = true ↔ t.Marked := by
  rw [hasPlaceholder, List.any_eq_true]
  exact exists_congr fun token => and_congr_right fun _ => Text.occurs_eq_true_iff

/-- A token with a placeholder holds the name. -/
theorem infix_fill (h : placeholder.toList <:+: token.toList) (name : String) :
    name.toList <:+: (fill name token).toList := by
  obtain ⟨p, q, ps, hpieces⟩ := (Text.cut_pieces placeholder_ne_nil token.toList).exists_two h
  rw [toList_fill, hpieces]
  exact Text.infix_intercalate name.toList p q ps

/-- **A token with a placeholder tells the name that has been put into it.** -/
theorem fill_inj (h : placeholder.toList <:+: token.toList) :
    fill name token = fill name' token ↔ name = name' := by
  obtain ⟨p, q, ps, hpieces⟩ := (Text.cut_pieces placeholder_ne_nil token.toList).exists_two h
  rw [← String.toList_inj, toList_fill, toList_fill, hpieces, Text.intercalate_inj,
    String.toList_inj]

variable {i j : Dispatch.Identifier}

/-- The argument vector by its tokens. -/
theorem argv_eq (t : Template) (i : Dispatch.Identifier) :
    (⟨t, i⟩ : Action).argv =
      t.tokens.map (fill i.text) ++ if t.hasPlaceholder then [] else [i.text] := rfl

/-- A marked template gets the name where its marks are, and nowhere else. -/
theorem argv_of_marked (h : t.Marked) : (⟨t, i⟩ : Action).argv = t.tokens.map (fill i.text) := by
  rw [argv_eq, if_pos (hasPlaceholder_eq_true_iff.2 h), List.append_nil]

/-- An unmarked one gets it at the end. -/
theorem argv_of_not_marked (h : ¬t.Marked) :
    (⟨t, i⟩ : Action).argv = t.tokens.map (fill i.text) ++ [i.text] := by
  rw [argv_eq, if_neg fun hholds => h (hasPlaceholder_eq_true_iff.1 hholds)]

/-- The number of arguments is up to the template. -/
theorem length_argv (t : Template) (i j : Dispatch.Identifier) :
    (⟨t, i⟩ : Action).argv.length = (⟨t, j⟩ : Action).argv.length := by
  by_cases h : t.Marked
  · rw [argv_of_marked h, argv_of_marked h, List.length_map, List.length_map]
  · rw [argv_of_not_marked h, argv_of_not_marked h, List.length_append, List.length_append,
      List.length_map, List.length_map, List.length_singleton, List.length_singleton]

/-- The name is in one of the arguments. -/
theorem exists_infix_argv (t : Template) (i : Dispatch.Identifier) :
    ∃ element ∈ (⟨t, i⟩ : Action).argv, i.text.toList <:+: element.toList := by
  by_cases h : t.Marked
  · obtain ⟨token, htoken, hmark⟩ := h
    rw [argv_of_marked ⟨token, htoken, hmark⟩]
    exact ⟨fill i.text token, List.mem_map_of_mem htoken, infix_fill hmark i.text⟩
  · rw [argv_of_not_marked h]
    exact ⟨i.text, List.mem_append_right _ (List.mem_singleton_self _), List.infix_refl _⟩

/-- **What a command is made of.**  There is one argument for each token, the program first,
which is the token with the name at each of its placeholders, and what that is does not depend on
the name having placeholders in it.  If no token has a placeholder, and only then, the name
follows as a further argument.  The number of arguments does not depend on the name, and the name
is in one of them as it is. -/
theorem argv_renders_tokens (t : Template) (i : Dispatch.Identifier) :
    (∃ elements, List.Forall₂ (Renders i.text) t.tokens elements ∧
      (t.Marked → (⟨t, i⟩ : Action).argv = elements) ∧
      (¬t.Marked → (⟨t, i⟩ : Action).argv = elements ++ [i.text])) ∧
    (∀ token, ∃ element, ∀ element', Renders i.text token element' ↔ element' = element) ∧
    (∀ j, (⟨t, j⟩ : Action).argv.length = (⟨t, i⟩ : Action).argv.length) ∧
    ∃ element ∈ (⟨t, i⟩ : Action).argv, i.text.toList <:+: element.toList := by
  refine ⟨⟨t.tokens.map (fill i.text), ?_, argv_of_marked, argv_of_not_marked⟩, fun token => ?_,
    fun j => length_argv t j i, exists_infix_argv t i⟩
  · rw [List.forall₂_map_right_iff]
    exact List.forall₂_same.2 fun token _ => renders_iff.2 rfl
  · exact ⟨fill i.text token, fun element' => renders_iff.trans eq_comm⟩

/-- A name that holds a placeholder is not searched for it. -/
example : (⟨⟨"sh", ["-c", "x{service}{service}"]⟩, ⟨"a{service}", by decide⟩⟩ : Action).argv =
    ["sh", "-c", "xa{service}a{service}"] := by decide

/-- **The commands for two services differ,** whatever the template is like. -/
theorem argv_tells_services_apart (t : Template) (i j : Dispatch.Identifier) :
    (⟨t, i⟩ : Action).argv = (⟨t, j⟩ : Action).argv ↔ i = j := by
  constructor
  · intro h
    have htext : i.text = j.text := by
      by_cases hmarked : t.Marked
      · obtain ⟨token, htoken, hmark⟩ := hmarked
        rw [argv_of_marked ⟨token, htoken, hmark⟩, argv_of_marked ⟨token, htoken, hmark⟩,
          List.map_inj_left] at h
        exact (fill_inj hmark).1 (h token htoken)
      · rw [argv_of_not_marked hmarked, argv_of_not_marked hmarked] at h
        have hlast := (List.append_inj' h rfl).2
        exact (List.cons.inj hlast).1
    obtain ⟨text, hi⟩ := i
    obtain ⟨text', hj⟩ := j
    obtain rfl : text = text' := htext
    rfl
  · rintro rfl
    rfl

end Template
end Command
end Remedy
