import CapillaryActions.Python.Value

/-! Trees read by path, and trees without their null fields. Removing a field
and never having had it are one thing to a path: whatever is not null is still
found, and nothing new is. -/
namespace CapillaryActions.Python.Value

variable {Obj : Type}

instance : DecidablePred (· = (null : AnyValue Obj))
  | null => isTrue rfl
  | bool _ | int _ | float _ | str _ | list _ | dict _ | object _ => isFalse nofun

/-- The item under a key of a mapping or at a position of a list. -/
def item? : AnyValue Obj → Loc → Option (AnyValue Obj)
  | .dict entries, .field name => entries.lookup name
  | .list elements, .index i => elements[i]?
  | _, _ => none

/-- The value at the end of a path. -/
def at? (v : AnyValue Obj) : List Loc → Option (AnyValue Obj)
  | [] => some v
  | step :: path => (v.item? step).bind fun item => item.at? path

@[simp] theorem item?_field (entries : List (String × AnyValue Obj)) (name : String) :
    (dict entries).item? (.field name) = entries.lookup name := rfl

@[simp] theorem item?_index (elements : List (AnyValue Obj)) (i : Nat) :
    (list elements).item? (.index i) = elements[i]? := rfl

@[simp] theorem at?_nil (v : AnyValue Obj) : v.at? [] = some v := rfl

@[simp] theorem at?_cons (v : AnyValue Obj) (step : Loc) (path : List Loc) :
    v.at? (step :: path) = (v.item? step).bind fun item => item.at? path := rfl

theorem at?_append (v : AnyValue Obj) (path rest : List Loc) :
    v.at? (path ++ rest) = (v.at? path).bind fun item => item.at? rest := by
  induction path generalizing v with
  | nil => rfl
  | cons step path ih =>
      rw [List.cons_append, at?_cons, at?_cons, Option.bind_assoc]
      exact Option.bind_congr fun item _ => ih item

/-- Only a mapping has fields. -/
theorem at?_above_field {v w : AnyValue Obj} {name : String} (path : List Loc)
    (h : v.at? (path ++ [.field name]) = some w) : ∃ entries, v.at? path = some (dict entries) := by
  rw [at?_append] at h
  obtain ⟨item, hItem, hField⟩ := Option.bind_eq_some_iff.mp h
  cases item with
  | dict entries => exact ⟨entries, hItem⟩
  | _ => cases hField

/-- Only a list has elements. -/
theorem at?_above_index {v w : AnyValue Obj} {i : Nat} (path : List Loc)
    (h : v.at? (path ++ [.index i]) = some w) : ∃ elements, v.at? path = some (list elements) := by
  rw [at?_append] at h
  obtain ⟨item, hItem, hElement⟩ := Option.bind_eq_some_iff.mp h
  cases item with
  | list elements => exact ⟨elements, hItem⟩
  | _ => cases hElement

def str? : AnyValue Obj → Option String
  | .str s => some s
  | _ => none

def int? : AnyValue Obj → Option Int
  | .int n => some n
  | _ => none

/-- The text at the end of a path, if there is one. -/
def textAt (v : AnyValue Obj) (path : List Loc) : Option String := (v.at? path).bind str?

/-- The number at the end of a path, if there is one. -/
def intAt (v : AnyValue Obj) (path : List Loc) : Option Int := (v.at? path).bind int?

mutual

/-- The tree without its null fields, at any depth. Elements of lists are no
fields, and stay. -/
def withoutNulls : AnyValue Obj → AnyValue Obj
  | .list elements => .list (withoutNullsEach elements)
  | .dict entries => .dict (withoutNullFields entries)
  | .null => .null
  | .bool b => .bool b
  | .int n => .int n
  | .float bits => .float bits
  | .str s => .str s
  | .object o => .object o

def withoutNullsEach : List (AnyValue Obj) → List (AnyValue Obj)
  | [] => []
  | element :: elements => element.withoutNulls :: withoutNullsEach elements

/-- The key of a null field is gone altogether. -/
def withoutNullFields : List (String × AnyValue Obj) → List (String × AnyValue Obj)
  | [] => []
  | (name, .null) :: entries => (withoutNullFields entries).filter fun entry => entry.1 ≠ name
  | (name, item) :: entries => (name, item.withoutNulls) :: withoutNullFields entries

end

@[simp] theorem withoutNulls_dict (entries : List (String × AnyValue Obj)) :
    (dict entries).withoutNulls = dict (withoutNullFields entries) := by
  rw [withoutNulls]

@[simp] theorem withoutNulls_eq_null_iff (v : AnyValue Obj) : v.withoutNulls = .null ↔ v = .null := by
  cases v <;> simp [withoutNulls]

@[simp] theorem str?_withoutNulls (v : AnyValue Obj) : v.withoutNulls.str? = v.str? := by
  cases v <;> simp [withoutNulls, str?]

@[simp] theorem int?_withoutNulls (v : AnyValue Obj) : v.withoutNulls.int? = v.int? := by
  cases v <;> simp [withoutNulls, int?]

theorem getElem?_withoutNullsEach (elements : List (AnyValue Obj)) (i : Nat) :
    (withoutNullsEach elements)[i]? = elements[i]?.map withoutNulls := by
  induction elements generalizing i with
  | nil => rfl
  | cons element elements ih =>
      cases i with
      | zero => rfl
      | succ i => simpa [withoutNullsEach] using ih i

theorem withoutNullFields_cons {item : AnyValue Obj} (h : item ≠ .null) (name : String)
    (entries : List (String × AnyValue Obj)) :
    withoutNullFields ((name, item) :: entries) =
      (name, item.withoutNulls) :: withoutNullFields entries := by
  cases item with
  | null => exact absurd rfl h
  | _ => rw [withoutNullFields]; simp

theorem lookup_cons_eq_ite (name : String) (item : AnyValue Obj)
    (entries : List (String × AnyValue Obj)) (key : String) :
    ((name, item) :: entries).lookup key = if key = name then some item else entries.lookup key := by
  rw [List.lookup_cons]
  by_cases hKey : key = name
  · simp [hKey]
  · simp [beq_eq_false_iff_ne.mpr hKey, hKey]

theorem lookup_filter_ne (entries : List (String × AnyValue Obj)) (name key : String) :
    (entries.filter fun entry => entry.1 ≠ name).lookup key =
      if key = name then none else entries.lookup key := by
  induction entries with
  | nil => simp
  | cons entry entries ih =>
      obtain ⟨other, item⟩ := entry
      by_cases hDropped : other = name
      · subst hDropped
        rw [List.filter_cons_of_neg (by simp), ih, lookup_cons_eq_ite]
        by_cases hKey : key = other <;> simp [hKey]
      · rw [List.filter_cons_of_pos (by simpa using hDropped), lookup_cons_eq_ite, ih,
          lookup_cons_eq_ite]
        by_cases hKey : key = other <;> simp [hKey, hDropped]

/-- Exactly the fields that are not null remain, without nulls themselves. -/
theorem lookup_withoutNullFields (entries : List (String × AnyValue Obj)) (key : String)
    (w : AnyValue Obj) :
    (withoutNullFields entries).lookup key = some w ↔
      ∃ v, entries.lookup key = some v ∧ v ≠ .null ∧ v.withoutNulls = w := by
  induction entries with
  | nil => simp [withoutNullFields]
  | cons entry entries ih =>
      obtain ⟨name, item⟩ := entry
      rw [lookup_cons_eq_ite]
      by_cases hNull : item = .null
      · subst hNull
        rw [withoutNullFields, lookup_filter_ne]
        by_cases hKey : key = name
        · simp [hKey]
        · simpa [hKey] using ih
      · rw [withoutNullFields_cons hNull, lookup_cons_eq_ite]
        by_cases hKey : key = name
        · simp [hKey, hNull]
        · simpa [hKey] using ih

theorem item?_withoutNulls {v item : AnyValue Obj} {step : Loc} (h : v.item? step = some item)
    (hNull : item ≠ .null) : v.withoutNulls.item? step = some item.withoutNulls := by
  cases v with
  | dict entries =>
      cases step with
      | field name =>
          rw [withoutNulls, item?_field, lookup_withoutNullFields]
          exact ⟨item, h, hNull, rfl⟩
      | index i => cases h
  | list elements =>
      cases step with
      | field name => cases h
      | index i =>
          rw [item?_index] at h
          rw [withoutNulls, item?_index, getElem?_withoutNullsEach, h]
          rfl
  | _ => cases h

theorem item?_of_withoutNulls {v item : AnyValue Obj} {step : Loc}
    (h : v.withoutNulls.item? step = some item) :
    ∃ original, v.item? step = some original ∧ original.withoutNulls = item := by
  cases v with
  | dict entries =>
      cases step with
      | field name =>
          rw [withoutNulls, item?_field, lookup_withoutNullFields] at h
          obtain ⟨original, hOriginal, _, hItem⟩ := h
          exact ⟨original, hOriginal, hItem⟩
      | index i => rw [withoutNulls] at h; cases h
  | list elements =>
      cases step with
      | field name => rw [withoutNulls] at h; cases h
      | index i =>
          rw [withoutNulls, item?_index, getElem?_withoutNullsEach, Option.map_eq_some_iff] at h
          exact h
  | _ => rw [withoutNulls] at h; cases h

/-- What is not null is still found. -/
theorem at?_withoutNulls {v w : AnyValue Obj} {path : List Loc} (h : v.at? path = some w)
    (hNull : w ≠ .null) : v.withoutNulls.at? path = some w.withoutNulls := by
  induction path generalizing v with
  | nil =>
      cases h
      rfl
  | cons step path ih =>
      obtain ⟨item, hItem, hRest⟩ := Option.bind_eq_some_iff.mp h
      -- Nothing but null itself is found below a null.
      have hItemNull : item ≠ .null := by
        rintro rfl
        cases path with
        | nil => exact hNull (Option.some.inj hRest).symm
        | cons step path => cases hRest
      rw [at?_cons, item?_withoutNulls hItem hItemNull, Option.bind_some]
      exact ih hRest

/-- Nothing new is found. -/
theorem at?_of_withoutNulls {v w : AnyValue Obj} {path : List Loc}
    (h : v.withoutNulls.at? path = some w) :
    ∃ original, v.at? path = some original ∧ original.withoutNulls = w := by
  induction path generalizing v with
  | nil => exact ⟨v, rfl, Option.some.inj h⟩
  | cons step path ih =>
      obtain ⟨item, hItem, hRest⟩ := Option.bind_eq_some_iff.mp h
      obtain ⟨original, hOriginal, rfl⟩ := item?_of_withoutNulls hItem
      obtain ⟨found, hFound, hSame⟩ := ih hRest
      exact ⟨found, by rw [at?_cons, hOriginal, Option.bind_some, hFound], hSame⟩

/-- What sees nothing in a null does not tell null fields from absent ones. -/
theorem at?_withoutNulls_bind {α : Type} {view : AnyValue Obj → Option α}
    (hView : ∀ v, view v.withoutNulls = view v) (hNull : view .null = none) (v : AnyValue Obj)
    (path : List Loc) : (v.withoutNulls.at? path).bind view = (v.at? path).bind view := by
  apply Option.ext
  intro a
  constructor
  · intro h
    obtain ⟨w, hAt, hSeen⟩ := Option.bind_eq_some_iff.mp h
    obtain ⟨original, hOriginal, rfl⟩ := at?_of_withoutNulls hAt
    rw [hView] at hSeen
    exact Option.bind_eq_some_iff.mpr ⟨original, hOriginal, hSeen⟩
  · intro h
    obtain ⟨w, hAt, hSeen⟩ := Option.bind_eq_some_iff.mp h
    have hNotNull : w ≠ .null := by
      rintro rfl
      rw [hNull] at hSeen
      cases hSeen
    refine Option.bind_eq_some_iff.mpr ⟨_, at?_withoutNulls hAt hNotNull, ?_⟩
    rwa [hView]

@[simp] theorem textAt_withoutNulls (v : AnyValue Obj) (path : List Loc) :
    v.withoutNulls.textAt path = v.textAt path :=
  at?_withoutNulls_bind str?_withoutNulls rfl v path

@[simp] theorem intAt_withoutNulls (v : AnyValue Obj) (path : List Loc) :
    v.withoutNulls.intAt path = v.intAt path :=
  at?_withoutNulls_bind int?_withoutNulls rfl v path

end CapillaryActions.Python.Value
