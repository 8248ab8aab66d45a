import Mathlib.Data.List.AList
import Mathlib.Tactic.Common

/-! Dynamic Python values, as far as the program inspects them, and the
operations it applies to values of unknown type. Every operation that can fail
in Python fails here, with the same exception class. -/
namespace CapillaryActions.Python

/-- A dictionary with unique keys, in its own order. -/
abbrev Dict (Key : Type) (α : Type) := AList fun _ : Key => α

namespace Dict

variable {Key α : Type}

/-- `d.items()`, as pairs. -/
def items (d : Dict Key α) : List (Key × α) := d.entries.map fun entry => (entry.1, entry.2)

/-- `d.get(key, default)`. -/
def get [DecidableEq Key] (d : Dict Key α) (key : Key) (default : α) : α :=
  (d.lookup key).getD default

end Dict

/-- A point in time: microseconds since the epoch, and the UTC offset if the
value is aware of one. -/
structure Datetime where
  microseconds : Int
  utcOffset : Option Int
  deriving DecidableEq, Repr

/-- Hashable constants, the keys of a mapping read from YAML. A float is kept
as its IEEE bits. -/
inductive Scalar where
  | null
  | bool (b : Bool)
  | int (n : Int)
  | float (bits : UInt64)
  | str (s : String)
  deriving DecidableEq, Repr

/-- A Python value. `Obj` stands for objects of every other class. Keys of a
nested mapping are listed in order; the first occurrence of a key counts. -/
inductive Value (Key Obj : Type) where
  | null
  | bool (b : Bool)
  | int (n : Int)
  | float (bits : UInt64)
  | str (s : String)
  | list (elements : List (Value Key Obj))
  | dict (entries : List (Key × Value Key Obj))
  | object (o : Obj)
  deriving Repr

/-- The contents of a field annotated `Any`. -/
abbrev AnyValue (Obj : Type) := Value String Obj

/-- What a JSON decoder returns. -/
abbrev Json := Value String Empty

/-- What `yaml.safe_load` returns for mappings, lists, strings, numbers,
booleans and null. -/
abbrev YamlTree := Value Scalar Empty

/-- A piece of a formatted error text: literal text, `{s!r}` of a string, or a
list of strings, whose elements Python also shows by `repr`. -/
inductive Piece where
  | text (s : String)
  | repr (s : String)
  | strs (names : List String)
  deriving DecidableEq, Repr

/-- A step on the way from a model to the field an error is about. -/
inductive Loc where
  | field (name : String)
  | index (i : Nat)
  deriving DecidableEq, Repr

/-- The reasons for which a field is rejected. -/
inductive Reason where
  | missing
  | stringType
  | intType
  | intParsing
  | intParsingSize
  | intFromFloat
  | finiteNumber
  | listType
  | dictType
  | modelType
  | tooLong (maxLength actualLength : Nat)
  | valueError (message : List Piece)
  deriving DecidableEq, Repr

structure FieldError where
  loc : List Loc
  reason : Reason
  deriving DecidableEq, Repr

/-- The exceptions that the program lets through or raises. -/
inductive Exn where
  | assertionError
  | attributeError (name : String)
  | typeError
  | keyError (key : Scalar)
  | indexError
  | fileNotFoundError (path : String)
  | valueError (message : List Piece)
  | validationError (model : String) (errors : List FieldError)
  | other (description : String)
  deriving DecidableEq, Repr

namespace Value

variable {Key Obj : Type}

/-- `v == text`, for a string constant. -/
def eqStr (v : Value Key Obj) (text : String) : Bool :=
  match v with
  | str s => s = text
  | _ => false

/-- `v.get(key, default)`: a method of mappings only. -/
def get [DecidableEq Key] (v : Value Key Obj) (key : Key) (default : Value Key Obj := null) :
    Except Exn (Value Key Obj) :=
  match v with
  | dict entries => .ok ((entries.lookup key).getD default)
  | _ => .error (.attributeError "get")

@[simp] theorem get_dict [DecidableEq Key] (entries : List (Key × Value Key Obj)) (key : Key)
    (default : Value Key Obj) :
    (dict entries).get key default = .ok ((entries.lookup key).getD default) := rfl

/-- `bool(v)`. The two zero bit patterns are the false floats. -/
def truthy : Value Key Empty → Bool
  | null => false
  | bool b => b
  | int n => n ≠ 0
  | float bits => bits ≠ 0 ∧ bits ≠ 0x8000000000000000
  | str s => s ≠ ""
  | list elements => !elements.isEmpty
  | dict entries => !entries.isEmpty

end Value

/-- A key as the value it is when a mapping is iterated over. -/
def Scalar.toValue : Scalar → YamlTree
  | null => .null
  | bool b => .bool b
  | int n => .int n
  | float bits => .float bits
  | str s => .str s

/-- `v[key]` for a string key. Only mappings have such items. -/
def Value.getItem (v : YamlTree) (key : String) : Except Exn YamlTree :=
  match v with
  | .dict entries =>
      match entries.lookup (.str key) with
      | some item => .ok item
      | none => .error (.keyError (.str key))
  | _ => .error .typeError

/-- What `for item in v` goes through: the elements of a list, the keys of a
mapping, the characters of a string. -/
def Value.iterate : YamlTree → Except Exn (List YamlTree)
  | .list elements => .ok elements
  | .dict entries => .ok (entries.map fun entry => entry.1.toValue)
  | .str s => .ok (s.toList.map fun c => .str (String.singleton c))
  | _ => .error .typeError

theorem Value.getItem_eq_ok {v item : YamlTree} {key : String} :
    v.getItem key = .ok item ↔
      ∃ entries, v = .dict entries ∧ entries.lookup (.str key) = some item := by
  cases v with
  | dict entries =>
      cases h : entries.lookup (.str key) <;> simp [Value.getItem, h]
  | _ => simp [Value.getItem]

/-- `v[0]`. A mapping read from JSON has no integer keys. -/
def Value.first (v : Json) : Except Exn Json :=
  match v with
  | .list (element :: _) => .ok element
  | .list [] => .error .indexError
  | .str s => match s.toList with
      | c :: _ => .ok (.str (String.singleton c))
      | [] => .error .indexError
  | .dict _ => .error (.keyError (.int 0))
  | _ => .error .typeError

/-- `text.startswith(start)`. -/
def startswith (text start : String) : Bool := start.toList.isPrefixOf text.toList

theorem startswith_iff {text start : String} :
    startswith text start = true ↔ ∃ rest, text = start ++ rest := by
  rw [startswith, List.isPrefixOf_iff_prefix]
  constructor
  · intro h
    obtain ⟨rest, hRest⟩ := h
    refine ⟨String.ofList rest, ?_⟩
    rw [← String.toList_inj, String.toList_append, String.toList_ofList, hRest]
  · rintro ⟨rest, rfl⟩
    exact ⟨rest.toList, by rw [String.toList_append]⟩

end CapillaryActions.Python
