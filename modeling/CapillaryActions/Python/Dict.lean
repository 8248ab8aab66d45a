import CapillaryActions.Python.Value

/-! Dictionaries built from displays with `**`, and their equality. A display
adds its items one by one to the dictionary it starts from. Items whose keys
are new and distinct can be told apart in the result, and so two such
dictionaries are equal exactly if what they start from and all the items are. -/
namespace CapillaryActions.Python.Dict

variable {Key α : Type}

theorem nodupKeys_append {d : Dict Key α} {key : Key} (h : key ∉ d) (value : α) :
    (d.entries ++ [Sigma.mk key value]).NodupKeys := by
  have hKeys : (d.entries ++ [Sigma.mk key value]).keys = d.keys ++ [key] := by
    simp [List.keys, AList.keys]
  rw [List.NodupKeys, hKeys, List.nodup_append]
  refine ⟨d.keys_nodup, List.nodup_singleton key, ?_⟩
  intro other hMem last hLast hSame
  rw [List.mem_singleton.mp hLast] at hSame
  exact h (AList.mem_keys.mpr (hSame ▸ hMem))

/-- The keys of some items are distinct, and a dictionary has none of them. -/
structure Fresh (d : Dict Key α) (items : List (Key × α)) : Prop where
  distinct : (items.map Prod.fst).Nodup
  notMem : ∀ item ∈ items, item.1 ∉ d

section

variable {d : Dict Key α} {item : Key × α} {items : List (Key × α)}

theorem Fresh.head (h : Fresh d (item :: items)) : item.1 ∉ d := h.notMem item (List.mem_cons_self ..)

theorem Fresh.head_notMem (h : Fresh d (item :: items)) : item.1 ∉ items.map Prod.fst :=
  (List.nodup_cons.mp h.distinct).1

end

variable [DecidableEq Key]

/-- `d[key] = value`: a new key comes last, and a known one stays in its place. -/
def set (d : Dict Key α) (key : Key) (value : α) : Dict Key α :=
  if h : key ∈ d then d.replace key value else ⟨_, nodupKeys_append h value⟩

/-- `{**d, key: value, ...}`. -/
def merge (d : Dict Key α) (items : List (Key × α)) : Dict Key α :=
  items.foldl (fun d item => d.set item.1 item.2) d

@[simp] theorem merge_nil (d : Dict Key α) : d.merge [] = d := rfl

@[simp] theorem merge_cons (d : Dict Key α) (item : Key × α) (items : List (Key × α)) :
    d.merge (item :: items) = (d.set item.1 item.2).merge items := rfl

section

variable {d : Dict Key α} {key : Key} (h : key ∉ d) (value : α)
include h

theorem lookup_set (other : Key) :
    (d.set key value).lookup other = if other = key then some value else d.lookup other := by
  rw [set, dif_neg h]
  change (d.entries ++ [Sigma.mk key value]).dlookup other = _
  rw [List.dlookup_append]
  by_cases hSame : other = key
  · subst hSame
    have hNone : d.entries.dlookup other = none := AList.lookup_eq_none.mpr h
    simp [hNone]
  · rw [if_neg hSame, List.dlookup_cons_ne _ _ hSame, List.dlookup_nil, Option.or_none]
    rfl

theorem mem_set (other : Key) : other ∈ d.set key value ↔ other = key ∨ other ∈ d := by
  rw [← AList.lookup_isSome, lookup_set h value, ← AList.lookup_isSome]
  by_cases hSame : other = key <;> simp [hSame]

end

namespace Fresh

variable {d : Dict Key α} {item : Key × α} {items : List (Key × α)}

/-- Adding the first item leaves the keys of the others new. -/
theorem tail (h : Fresh d (item :: items)) : Fresh (d.set item.1 item.2) items where
  distinct := (List.nodup_cons.mp h.distinct).2
  notMem := by
    intro other hMem hSet
    rcases (mem_set h.head item.2 other.1).mp hSet with hSame | hOld
    · exact h.head_notMem (hSame ▸ List.mem_map_of_mem hMem)
    · exact h.notMem other (List.mem_cons_of_mem _ hMem) hOld

/-- Other keys are looked up as before. -/
theorem lookup_merge_of_notMem (h : Fresh d items) {key : Key} (hKey : key ∉ items.map Prod.fst) :
    (d.merge items).lookup key = d.lookup key := by
  induction items generalizing d with
  | nil => rfl
  | cons item items ih =>
      rw [List.map_cons, List.mem_cons, not_or] at hKey
      rw [merge_cons, ih h.tail hKey.2, lookup_set h.head, if_neg hKey.1]

/-- Every item is found under its key. -/
theorem lookup_merge (h : Fresh d items) {added : Key × α} (hMem : added ∈ items) :
    (d.merge items).lookup added.1 = some added.2 := by
  induction items generalizing d with
  | nil => cases hMem
  | cons item items ih =>
      rw [merge_cons]
      rcases List.mem_cons.mp hMem with rfl | hRest
      · rw [h.tail.lookup_merge_of_notMem h.head_notMem, lookup_set h.head, if_pos rfl]
      · exact ih h.tail hRest

end Fresh

/-- `d == other`, where `same` compares two items. -/
def Same (same : α → α → Prop) (d other : Dict Key α) : Prop :=
  ∀ key, Option.Rel same (d.lookup key) (other.lookup key)

section

variable {same : α → α → Prop} {d other : Dict Key α}

theorem same_set_iff {key : Key} (h : key ∉ d) (hOther : key ∉ other) (value value' : α) :
    Same same (d.set key value) (other.set key value') ↔ Same same d other ∧ same value value' := by
  constructor
  · intro hSame
    refine ⟨?_, ?_⟩
    · intro k
      by_cases hKey : k = key
      · rw [hKey, AList.lookup_eq_none.mpr h, AList.lookup_eq_none.mpr hOther]
        exact .none
      · have hOld := hSame k
        rwa [lookup_set h, lookup_set hOther, if_neg hKey, if_neg hKey] at hOld
    · have hNew := hSame key
      rw [lookup_set h, lookup_set hOther, if_pos rfl, if_pos rfl] at hNew
      cases hNew with
      | some hValue => exact hValue
  · intro hBoth k
    obtain ⟨hOld, hValue⟩ := hBoth
    rw [lookup_set h, lookup_set hOther]
    by_cases hKey : k = key
    · rw [if_pos hKey, if_pos hKey]
      exact .some hValue
    · rw [if_neg hKey, if_neg hKey]
      exact hOld k

/-- Equality of displays with the same new keys, item by item. -/
theorem same_merge_iff {items items' : List (Key × α)} (h : Fresh d items)
    (hOther : Fresh other items') (hKeys : items.map Prod.fst = items'.map Prod.fst) :
    Same same (d.merge items) (other.merge items') ↔
      Same same d other ∧ List.Forall₂ (fun item item' => same item.2 item'.2) items items' := by
  induction items generalizing d other items' with
  | nil =>
      obtain rfl : items' = [] := by simpa using hKeys.symm
      simp
  | cons item items ih =>
      cases items' with
      | nil => cases hKeys
      | cons item' items' =>
          obtain ⟨hKey, hRest⟩ := List.cons.inj hKeys
          have hHead : item.1 ∉ other := by
            rw [hKey]
            exact hOther.head
          rw [merge_cons, merge_cons, ih h.tail hOther.tail hRest, ← hKey,
            same_set_iff h.head hHead, List.forall₂_cons, and_assoc]

end

end CapillaryActions.Python.Dict
