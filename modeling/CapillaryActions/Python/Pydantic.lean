import CapillaryActions.Python.Value
import CapillaryActions.Semantics.Validation

/-! Field types of pydantic models, on values read from JSON or YAML. A string
field takes strings only, a list field lists only, and a nested model field
mappings only; a model reports the errors of all its fields together. What is
proved of a field type is when it accepts, and then with which result. -/
namespace CapillaryActions.Python.Pydantic

open Semantics.Validation

variable {Key : Type} {α β : Type}

abbrev Checked (α : Type) := Validated FieldError α

def reject (reason : Reason) : Checked α := .error [⟨[], reason⟩]

/-- Errors of a part of a model are told which part it is. -/
def at_ (step : Loc) (result : Checked α) : Checked α :=
  result.mapError (·.map fun failure => { failure with loc := step :: failure.loc })

@[simp] theorem at_eq_ok {step : Loc} {result : Checked α} {a : α} :
    at_ step result = .ok a ↔ result = .ok a := mapError_eq_ok

def strField : Value Key Empty → Checked String
  | .str s => .ok s
  | _ => reject .stringType

@[simp] theorem strField_eq_ok {v : Value Key Empty} {s : String} :
    strField v = .ok s ↔ v = .str s := by
  cases v <;> simp [strField, reject]

def listField (element : Value Key Empty → Checked α) : Value Key Empty → Checked (List α)
  | .list elements =>
      each element (fun i failure => { failure with loc := .index i :: failure.loc }) 0 elements
  | _ => reject .listType

theorem listField_eq_ok {element : Value Key Empty → Checked α} {v : Value Key Empty}
    {results : List α} :
    listField element v = .ok results ↔ ∃ elements, v = .list elements ∧
      List.Forall₂ (fun item result => element item = .ok result) elements results := by
  cases v <;> simp [listField, reject, each_eq_ok]

/-- A list of strings is accepted as it is. -/
theorem listField_strField_eq_ok {v : Value Key Empty} {names : List String} :
    listField strField v = .ok names ↔ v = .list (names.map .str) := by
  simp only [listField_eq_ok, strField_eq_ok, List.forall₂_eq_eq_eq, ← List.forall₂_map_right_iff]
  constructor
  · intro h
    obtain ⟨_, rfl, rfl⟩ := h
    rfl
  · rintro rfl
    exact ⟨_, rfl, rfl⟩

/-- `Field(max_length=bound)`, of a list whose elements are models already. The
bound travels with the list. -/
def maxLength (bound : Nat) (items : List α) : Checked {items : List α // items.length ≤ bound} :=
  if h : items.length ≤ bound then .ok ⟨items, h⟩ else reject (.tooLong bound items.length)

@[simp] theorem maxLength_eq_ok {bound : Nat} {items : List α}
    {result : {items : List α // items.length ≤ bound}} :
    maxLength bound items = .ok result ↔ items = result.val := by
  obtain ⟨result, hResult⟩ := result
  unfold maxLength
  split
  · simp
  · rename_i hLong
    simp only [reject, reduceCtorEq, false_iff]
    rintro rfl
    exact hLong hResult

/-- `list[T]` with `Field(max_length=bound)`. A list that is too long is reported
as such, and not looked into. -/
def boundedListField (bound : Nat) (element : Value Key Empty → Checked α) :
    Value Key Empty → Checked {items : List α // items.length ≤ bound}
  | .list elements => do
      let elements ← maxLength bound elements
      -- There are as many results as elements, so the bound holds of them too.
      maxLength bound (← listField element (.list elements.val))
  | _ => reject .listType

theorem boundedListField_eq_ok {bound : Nat} {element : Value Key Empty → Checked α}
    {v : Value Key Empty} {result : {items : List α // items.length ≤ bound}} :
    boundedListField bound element v = .ok result ↔ listField element v = .ok result.val := by
  cases v with
  | list elements =>
      simp only [boundedListField, bind_eq_ok, maxLength_eq_ok, exists_eq_right]
      constructor
      · intro h
        obtain ⟨_, rfl, hResult⟩ := h
        exact hResult
      · intro hResult
        obtain ⟨_, hSame, hEach⟩ := listField_eq_ok.mp hResult
        cases hSame
        have hBound : elements.length ≤ bound := hEach.length_eq ▸ result.property
        exact ⟨⟨elements, hBound⟩, rfl, hResult⟩
  | _ => simp [boundedListField, listField, reject]

/-- A field without a default. -/
def required (name : String) (field : Value Key Empty → Checked α) :
    Option (Value Key Empty) → Checked α
  | none => at_ (.field name) (reject .missing)
  | some v => at_ (.field name) (field v)

@[simp] theorem required_eq_ok {name : String} {field : Value Key Empty → Checked α}
    {given : Option (Value Key Empty)} {a : α} :
    required name field given = .ok a ↔ ∃ v, given = some v ∧ field v = .ok a := by
  cases given <;> simp [required, reject]

theorem required_strField_eq_ok {name : String} {given : Option (Value Key Empty)} {s : String} :
    required name strField given = .ok s ↔ given = some (.str s) := by
  simp

theorem required_strings_eq_ok {name : String} {given : Option (Value Key Empty)}
    {names : List String} :
    required name (listField strField) given = .ok names ↔
      given = some (.list (names.map .str)) := by
  simp [listField_strField_eq_ok]

/-- A bounded list has the items of the list, if these are not too many. -/
theorem required_boundedListField_eq_ok {name : String} {bound : Nat}
    {element : Value Key Empty → Checked α} {given : Option (Value Key Empty)} {items : List α} :
    (required name (boundedListField bound element) given).map Subtype.val = .ok items ↔
      items.length ≤ bound ∧ required name (listField element) given = .ok items := by
  simp only [map_eq_ok, required_eq_ok, boundedListField_eq_ok]
  constructor
  · intro h
    obtain ⟨result, hResult, rfl⟩ := h
    exact ⟨result.property, hResult⟩
  · intro h
    obtain ⟨hBound, hResult⟩ := h
    exact ⟨⟨items, hBound⟩, hResult, rfl⟩

/-- A field with a default, which is not validated itself. -/
def defaulted (name : String) (field : Value Key Empty → Checked α) (default : α) :
    Option (Value Key Empty) → Checked α
  | none => .ok default
  | some v => at_ (.field name) (field v)

@[simp] theorem defaulted_eq_ok {name : String} {field : Value Key Empty → Checked α}
    {default : α} {given : Option (Value Key Empty)} {a : α} :
    defaulted name field default given = .ok a ↔
      (given = none ∧ default = a) ∨ ∃ v, given = some v ∧ field v = .ok a := by
  cases given <;> simp [defaulted]

/-- A default is read as if it had been given. -/
theorem defaulted_strField_eq_ok {name default s : String} {given : Option (Value Key Empty)} :
    defaulted name strField default given = .ok s ↔ given.getD (.str default) = .str s := by
  cases given <;> simp

/-- `T | None`. -/
def optionalField (field : Value Key Empty → Checked α) : Value Key Empty → Checked (Option α)
  | .null => .ok none
  | v => (field v).map some

/-- What pydantic makes of floats and strings given for an integer. It accepts
some of them, and has reasons of its own to reject the others. -/
structure LaxInt where
  ofFloat : UInt64 → Except Reason Int
  ofStr : String → Except Reason Int
  ofFloat_reason : ∀ bits reason, ofFloat bits = .error reason →
    reason ∈ [.intFromFloat, .finiteNumber, .intParsingSize]
  ofStr_reason : ∀ s reason, ofStr s = .error reason → reason ∈ [.intParsing, .intParsingSize]

/-- A single check of a value, whose reason is reported at the value itself. -/
def orReject (result : Except Reason α) : Checked α :=
  result.mapError fun reason => [⟨[], reason⟩]

@[simp] theorem orReject_eq_ok {result : Except Reason α} {a : α} :
    orReject result = .ok a ↔ result = .ok a := by
  cases result <;> simp [orReject, Except.mapError]

def intField (lax : LaxInt) : Value Key Empty → Checked Int
  | .int n => .ok n
  | .bool b => .ok (if b then 1 else 0)
  | .float bits => orReject (lax.ofFloat bits)
  | .str s => orReject (lax.ofStr s)
  | .null | .list _ | .dict _ => reject .intType

/-- A field whose type is a model: the model validates the mapping, looking
its fields up by name and ignoring all other keys. -/
def modelField (model : (String → Option YamlTree) → Checked α) : YamlTree → Checked α
  | .dict entries => model fun name => entries.lookup (.str name)
  | _ => reject .modelType

theorem modelField_eq_ok {model : (String → Option YamlTree) → Checked α} {v : YamlTree} {a : α} :
    modelField model v = .ok a ↔ ∃ entries, v = .dict entries ∧
      model (fun name => entries.lookup (.str name)) = .ok a := by
  cases v <;> simp [modelField, reject]

/-- The constructor of a model raises what its validation reports. -/
def construct (model : String) (result : Checked α) : Except Exn α :=
  result.mapError (.validationError model)

@[simp] theorem construct_eq_ok {model : String} {result : Checked α} {a : α} :
    construct model result = .ok a ↔ result = .ok a := by
  cases result <;> simp [construct, Except.mapError]

end CapillaryActions.Python.Pydantic
