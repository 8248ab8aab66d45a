import CapillaryActions.Python.Dict
import Mathlib.Data.List.Forall2

/-! Equality of Python values, as far as the language tells it of values of
unknown type. Containers are compared by their items; how numbers and objects of
other classes are compared is left open. -/
namespace CapillaryActions.Python

/-- `t == other`. Aware times are compared as instants, whatever their offsets,
and naive ones as they read; a naive time equals no aware one. -/
def Datetime.Same (t other : Datetime) : Prop :=
  t.microseconds = other.microseconds ∧ t.utcOffset.isSome = other.utcOffset.isSome

/-- A type of objects that has the datetimes among them. -/
class DatetimeObject (Obj : Type) where
  ofDatetime : Datetime → Obj
  ofDatetime_injective : Function.Injective ofDatetime

instance datetimeObject_datetime : DatetimeObject Datetime := ⟨id, Function.injective_id⟩

/-- How Python compares two items of containers, `a is b or a == b`. Lists have
equal items at the same positions, and dictionaries under the same keys. -/
structure ItemEq (Obj : Type) [DatetimeObject Obj] where
  same : AnyValue Obj → AnyValue Obj → Prop
  null_null : same .null .null
  str_str : ∀ s s', same (.str s) (.str s') ↔ s = s'
  null_str : ∀ s, ¬same .null (.str s)
  str_null : ∀ s, ¬same (.str s) .null
  list_list : ∀ elements elements',
    same (.list elements) (.list elements') ↔ List.Forall₂ same elements elements'
  dict_dict : ∀ entries entries', same (.dict entries) (.dict entries') ↔
    ∀ key, Option.Rel same (entries.lookup key) (entries'.lookup key)
  datetime_datetime : ∀ t t' : Datetime, same (.object (DatetimeObject.ofDatetime t))
    (.object (DatetimeObject.ofDatetime t')) ↔ t.Same t'

/-- Values of one shape with equal objects, dictionaries in any order. -/
inductive Value.Alike {Obj : Type} (objects : Obj → Obj → Prop) :
    AnyValue Obj → AnyValue Obj → Prop where
  | null : Alike objects .null .null
  | bool (b : Bool) : Alike objects (.bool b) (.bool b)
  | int (n : Int) : Alike objects (.int n) (.int n)
  | float (bits : UInt64) : Alike objects (.float bits) (.float bits)
  | str (s : String) : Alike objects (.str s) (.str s)
  | list {elements elements' : List (AnyValue Obj)}
      (h : List.Forall₂ (Alike objects) elements elements') :
      Alike objects (.list elements) (.list elements')
  | dict {entries entries' : List (String × AnyValue Obj)}
      (h : ∀ key, Option.Rel (Alike objects) (entries.lookup key) (entries'.lookup key)) :
      Alike objects (.dict entries) (.dict entries')
  | object {o o' : Obj} (h : objects o o') : Alike objects (.object o) (.object o')

/-- One way to compare items, for datetimes as the only objects. -/
def ItemEq.alike : ItemEq Datetime where
  same := Value.Alike Datetime.Same
  null_null := .null
  str_str s s' := by
    constructor
    · intro h
      cases h
      rfl
    · rintro rfl
      exact .str s
  null_str s h := by cases h
  str_null s h := by cases h
  list_list elements elements' := by
    constructor
    · intro h
      cases h with
      | list hElements => exact hElements
    · exact .list
  dict_dict entries entries' := by
    constructor
    · intro h
      cases h with
      | dict hEntries => exact hEntries
    · exact .dict
  datetime_datetime t t' := by
    constructor
    · intro h
      cases h with
      | object hSame => exact hSame
    · exact .object

theorem Dict.lookup_items {Key α : Type} [DecidableEq Key] (d : Dict Key α) (key : Key) :
    d.items.lookup key = d.lookup key := by
  rw [Dict.items, AList.lookup]
  induction d.entries with
  | nil => rfl
  | cons entry entries ih =>
      obtain ⟨other, value⟩ := entry
      rw [List.map_cons, List.lookup_cons]
      by_cases hKey : key = other
      · subst hKey
        simp
      · rw [List.dlookup_cons_ne _ _ hKey, beq_eq_false_iff_ne.mpr hKey]
        exact ih

/-- Dictionaries are equal as values exactly if they are equal key by key. -/
theorem ItemEq.dict_items_iff {Obj : Type} [DatetimeObject Obj] (eq : ItemEq Obj)
    (d d' : Dict String (AnyValue Obj)) :
    eq.same (.dict d.items) (.dict d'.items) ↔ Dict.Same eq.same d d' := by
  simp only [eq.dict_dict, Dict.lookup_items, Dict.Same]

end CapillaryActions.Python
