import Mathlib.Data.List.Nodup
import Mathlib.Data.List.Perm.Basic
import Mathlib.Tactic.Common

/-! Looking items up by a key. The first match is all there is when keys are
distinct, so the order of the items does not matter to a lookup. -/
namespace Semantics.Index

universe u v

variable {α : Type u} {Key : Type v} [DecidableEq Key] (key : α → Key)

/-- Some item is found for exactly the keys that occur. -/
theorem find?_isSome_iff (items : List α) (k : Key) :
    (items.find? fun item => key item = k).isSome ↔ k ∈ items.map key := by
  simp

section

variable {items : List α} (hDistinct : (items.map key).Nodup)
include hDistinct

/-- With distinct keys, an item is found by its own key and by no other. -/
theorem find?_eq_some_iff (k : Key) (item : α) :
    (items.find? fun item => key item = k) = some item ↔ item ∈ items ∧ key item = k := by
  constructor
  · intro h
    exact ⟨List.mem_of_find?_eq_some h, by simpa using List.find?_some h⟩
  · intro h
    obtain ⟨hMem, rfl⟩ := h
    obtain ⟨found, hFound⟩ := Option.isSome_iff_exists.mp
      ((find?_isSome_iff key items (key item)).mpr (List.mem_map_of_mem hMem))
    have hKey : key found = key item := by simpa using List.find?_some hFound
    rw [hFound, List.inj_on_of_nodup_map hDistinct (List.mem_of_find?_eq_some hFound) hMem hKey]

/-- With distinct keys, the search for the key of an item stops at that item. -/
theorem findIdx?_eq_some {i : Nat} {item : α} (hAt : items[i]? = some item) :
    (items.findIdx? fun other => key other = key item) = some i := by
  obtain ⟨hLt, rfl⟩ := List.getElem?_eq_some_iff.mp hAt
  rw [List.findIdx?_eq_some_iff_getElem]
  refine ⟨hLt, by simp, ?_⟩
  intro j hEarlier hSame
  have hThere : j < items.length := Nat.lt_trans hEarlier hLt
  have hAgain : (items.map key)[j]? = (items.map key)[i]? := by
    rw [List.getElem?_map, List.getElem?_map, List.getElem?_eq_getElem hThere,
      List.getElem?_eq_getElem hLt]
    simpa using hSame
  have hSamePlace := (List.getElem?_inj (by simpa using hThere) hDistinct).mp hAgain
  exact absurd hSamePlace (Nat.ne_of_lt hEarlier)

/-- With distinct keys, reordering the items changes no lookup. -/
theorem find?_perm {items' : List α} (hPerm : items'.Perm items) (k : Key) :
    (items'.find? fun item => key item = k) = items.find? fun item => key item = k := by
  have hDistinct' : (items'.map key).Nodup := (hPerm.map key).nodup_iff.mpr hDistinct
  apply Option.ext
  intro item
  rw [find?_eq_some_iff key hDistinct', find?_eq_some_iff key hDistinct, hPerm.mem_iff]

end

end Semantics.Index
