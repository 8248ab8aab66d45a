import Mathlib.Data.List.Nodup
import Mathlib.Algebra.BigOperators.Group.List.Basic
import Mathlib.Algebra.GroupWithZero.Nat
import Mathlib.Data.List.Perm.Basic
import Mathlib.Tactic.Common

/-! Splitting a list by a key. Distinct keys that cover all elements partition
the list: its classes, put together, are the list itself up to order. -/
namespace Semantics.Partition

universe u v

variable {α : Type u} {Key : Type v} [DecidableEq Key] (key : α → Key)

/-- The classes of some distinct keys are what the list has of those keys. -/
theorem flatMap_filter_perm {keys : List Key} (hDistinct : keys.Nodup) (items : List α) :
    (keys.flatMap fun k => items.filter (key · = k)).Perm (items.filter (key · ∈ keys)) := by
  induction keys with
  | nil => simp
  | cons k keys ih =>
      obtain ⟨hNew, hRest⟩ := List.nodup_cons.mp hDistinct
      -- The class of the first key, taken out of what all the keys cover.
      have hFirst : (items.filter (key · ∈ k :: keys)).filter (key · = k) =
          items.filter (key · = k) := by
        rw [List.filter_filter]
        exact List.filter_congr fun item _ => by by_cases h : key item = k <;> simp [h]
      have hOthers : (items.filter (key · ∈ k :: keys)).filter (fun item => !decide (key item = k)) =
          items.filter (key · ∈ keys) := by
        rw [List.filter_filter]
        apply List.filter_congr
        intro item _
        by_cases h : key item = k
        · simp [h, hNew]
        · simp [h]
      have hSplit := List.filter_append_perm (key · = k) (items.filter (key · ∈ k :: keys))
      rw [hFirst, hOthers] at hSplit
      rw [List.flatMap_cons]
      exact ((ih hRest).append_left _).trans hSplit

/-- Distinct keys that cover every element partition the list. -/
theorem flatMap_filter_perm_self {keys : List Key} (hDistinct : keys.Nodup) {items : List α}
    (hCover : ∀ item ∈ items, key item ∈ keys) :
    (keys.flatMap fun k => items.filter (key · = k)).Perm items := by
  have hAll : items.filter (key · ∈ keys) = items :=
    List.filter_eq_self.mpr fun item hMem => by simpa using hCover item hMem
  have h := flatMap_filter_perm key hDistinct items
  rwa [hAll] at h

/-- Only keys that cover every element do. -/
theorem flatMap_filter_perm_self_iff {keys : List Key} (hDistinct : keys.Nodup) {items : List α} :
    (keys.flatMap fun k => items.filter (key · = k)).Perm items ↔ ∀ item ∈ items, key item ∈ keys := by
  constructor
  · intro h item hMem
    have hKept : item ∈ items.filter (key · ∈ keys) :=
      ((flatMap_filter_perm key hDistinct items).symm.trans h).mem_iff.mpr hMem
    simpa using (List.mem_filter.mp hKept).2
  · exact flatMap_filter_perm_self key hDistinct

/-- What is not covered is left over. -/
theorem flatMap_filter_append_perm {keys : List Key} (hDistinct : keys.Nodup) (items : List α) :
    ((keys.flatMap fun k => items.filter (key · = k)) ++ items.filter (key · ∉ keys)).Perm items := by
  have hSplit := List.filter_append_perm (key · ∈ keys) items
  have hRest : items.filter (fun item => !decide (key item ∈ keys)) = items.filter (key · ∉ keys) :=
    List.filter_congr fun item _ => by simp
  rw [hRest] at hSplit
  exact ((flatMap_filter_perm key hDistinct items).append_right _).trans hSplit

/-- The class sizes add up to the whole. -/
theorem sum_length_filter {keys : List Key} (hDistinct : keys.Nodup) {items : List α}
    (hCover : ∀ item ∈ items, key item ∈ keys) :
    (keys.map fun k => (items.filter (key · = k)).length).sum = items.length := by
  rw [← (flatMap_filter_perm_self key hDistinct hCover).length_eq, List.length_flatMap]

end Semantics.Partition
