import Mathlib.Data.List.Infix
import Mathlib.Data.Set.Basic

/-! Names set off from what follows by a mark. A name may have the mark in it, and
then the text can be read in two ways. It is read in one way only, if no name
with its mark begins another one. -/
namespace Semantics.Delimited

universe u

variable {Symbol : Type u} {mark : List Symbol} {names : Set (List Symbol)}

/-- A name, the mark, and a text of any kind. -/
def delimit (mark name text : List Symbol) : List Symbol := (name ++ mark) ++ text

/-- No name with its mark begins another one. -/
def MarkFree (mark : List Symbol) (names : Set (List Symbol)) : Prop :=
  ∀ name ∈ names, ∀ other ∈ names, name ++ mark <+: other ++ mark → name = other

theorem delimit_right_inj {name text text' : List Symbol} :
    delimit mark name text = delimit mark name text' ↔ text = text' :=
  List.append_right_inj _

/-- Of two names that the same text begins with, one begins the other. -/
theorem MarkFree.name_eq (h : MarkFree mark names) {name other text text' : List Symbol}
    (hName : name ∈ names) (hOther : other ∈ names)
    (hSame : delimit mark name text = delimit mark other text') : name = other := by
  have hBegins : name ++ mark <+: delimit mark other text' := hSame ▸ List.prefix_append _ _
  have hBegins' : other ++ mark <+: delimit mark other text' := List.prefix_append _ _
  rcases List.prefix_or_prefix_of_prefix hBegins hBegins' with hPrefix | hPrefix
  · exact h name hName other hOther hPrefix
  · exact (h other hOther name hName hPrefix).symm

/-- Names and texts can be read off if and only if the names are free of the mark. -/
theorem delimit_readable_iff (mark : List Symbol) (names : Set (List Symbol)) :
    (∀ name ∈ names, ∀ other ∈ names, ∀ text text',
      delimit mark name text = delimit mark other text' → name = other ∧ text = text') ↔
      MarkFree mark names := by
  constructor
  · intro h name hName other hOther hPrefix
    obtain ⟨text, hText⟩ := hPrefix
    exact (h name hName other hOther text [] (by rw [delimit, hText, delimit, List.append_nil])).1
  · intro h name hName other hOther text text' hSame
    obtain rfl := h.name_eq hName hOther hSame
    exact ⟨rfl, delimit_right_inj.mp hSame⟩

/-- Names without some symbol of the mark are free of it. -/
theorem markFree_of_notMem [DecidableEq Symbol] (symbol : Symbol) (hMark : symbol ∈ mark)
    (h : ∀ name ∈ names, symbol ∉ name) : MarkFree mark names := by
  intro name hName other hOther hPrefix
  obtain ⟨text, hText⟩ := hPrefix
  -- The first occurrence of the symbol tells the length of the name.
  have hFirst : name.length + mark.idxOf symbol = other.length + mark.idxOf symbol := by
    have hIdx := congrArg (List.idxOf symbol) hText
    rwa [List.append_assoc, List.idxOf_append_of_notMem (h name hName),
      List.idxOf_append_of_notMem (h other hOther), List.idxOf_append_of_mem hMark] at hIdx
  rw [List.append_assoc] at hText
  exact (List.append_inj hText (Nat.add_right_cancel hFirst)).1

end Semantics.Delimited
