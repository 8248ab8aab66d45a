import CapillaryActions.Reference.InMemoryMemoryStore
import CapillaryActions.Semantics.Transducer
import Mathlib.Data.List.Basic

/-! Entries as objects. The store keeps the object that it is given and a read
hands it out again, so whoever holds an entry can change what later reads see,
and in which dimension they find it. The store of values is the special case in
which no one does. -/
namespace CapillaryActions.Reference

open Python Models Semantics

variable {Ref Obj : Type}

/-- What clients do with entries: they store them, assign to them, and read. -/
inductive ObjectCall (Ref Obj : Type) where
  | store (subjectId : UUID) (object : Ref)
  | assign (object : Ref) (entry : MemoryEntry Obj)
  | get (subjectId : UUID) (dimension tier : Option String)

/-- The objects, and the list of the store. -/
structure ObjectStore (Ref Obj : Type) where
  heap : Ref → MemoryEntry Obj
  kept : List (UUID × Ref)

namespace ObjectStore

/-- `get`, on objects. The filters look at the objects as they are now. -/
def get (self : ObjectStore Ref Obj) (subjectId : UUID) (dimension tier : Option String) : List Ref :=
  (self.kept.filter fun memory => memory.1 = subjectId).foldl
    (fun objects memory =>
      if InMemoryMemoryStore.admits dimension (self.heap memory.2).dimension ∧
          InMemoryMemoryStore.admits tier (self.heap memory.2).tier then
        objects ++ [memory.2]
      else
        objects)
    []

/-- The store as it looks at the moment. -/
def contents (self : ObjectStore Ref Obj) : InMemoryMemoryStore Obj :=
  ⟨self.kept.map fun memory => ⟨memory.1, self.heap memory.2⟩⟩

/-- A read sees the store as it looks at the moment. -/
theorem map_heap_get (self : ObjectStore Ref Obj) (subjectId : UUID) (dimension tier : Option String) :
    (self.get subjectId dimension tier).map self.heap =
      self.contents.get subjectId dimension tier := by
  rw [get, InMemoryMemoryStore.get, contents, List.filter_map, List.foldl_map]
  have hStart : ([] : List (MemoryEntry Obj)) = List.map self.heap [] := rfl
  rw [hStart, eq_comm]
  apply List.foldl_hom (List.map self.heap)
  intro objects memory
  split <;> simp

end ObjectStore

/-- An object that was stored, as it was at the time. -/
structure Stored (Ref Obj : Type) where
  subjectId : UUID
  object : Ref
  entry : MemoryEntry Obj

def Stored.memory (stored : Stored Ref Obj) : Memory Obj := ⟨stored.subjectId, stored.entry⟩

/-- A read without filters, of a store with an entry for each object stored. -/
theorem get_unfiltered {self : InMemoryMemoryStore Obj} {stored : List (Stored Ref Obj)}
    {entry : Stored Ref Obj → MemoryEntry Obj}
    (h : self.memories = stored.map fun one => ⟨one.subjectId, entry one⟩) (subjectId : UUID) :
    self.get subjectId none none =
      (stored.filter fun one => one.subjectId = subjectId).map entry := by
  rw [InMemoryMemoryStore.get_eq, h, List.filter_map, List.map_map]
  congr 1
  apply List.filter_congr
  intro one _
  simp [InMemoryMemoryStore.selects]

variable [DecidableEq Ref]

/-- The code under a sequence of calls. Reads reply with objects. -/
def objectMachine : Transducer (ObjectStore Ref Obj) (ObjectCall Ref Obj) (List Ref) where
  step self call := match call with
    | .store subjectId object => ({ self with kept := self.kept ++ [(subjectId, object)] }, [])
    | .assign object entry => ({ self with heap := Function.update self.heap object entry }, [])
    | .get subjectId dimension tier => (self, [self.get subjectId dimension tier])

/-- What a sequence of calls stores. -/
def storedObjects (heap : Ref → MemoryEntry Obj) : List (ObjectCall Ref Obj) → List (Stored Ref Obj)
  | [] => []
  | .store subjectId object :: calls =>
      ⟨subjectId, object, heap object⟩ :: storedObjects heap calls
  | .assign object entry :: calls => storedObjects (Function.update heap object entry) calls
  | .get _ _ _ :: calls => storedObjects heap calls

/-- The same stores, each of a copy. -/
def copied (heap : Ref → MemoryEntry Obj) (calls : List (ObjectCall Ref Obj)) :
    InMemoryMemoryStore Obj :=
  (storedObjects heap calls).foldl (fun self stored => self.store stored.subjectId stored.entry)
    InMemoryMemoryStore.init

theorem copied_memories (heap : Ref → MemoryEntry Obj) (calls : List (ObjectCall Ref Obj)) :
    (copied heap calls).memories = (storedObjects heap calls).map Stored.memory := by
  have hFold : ∀ (stored : List (Stored Ref Obj)) (self : InMemoryMemoryStore Obj),
      (stored.foldl (fun self stored => self.store stored.subjectId stored.entry) self).memories =
        self.memories ++ stored.map Stored.memory := by
    intro stored
    induction stored with
    | nil => simp
    | cons first stored ih =>
        intro self
        rw [List.foldl_cons, ih, InMemoryMemoryStore.store, List.map_cons, List.append_assoc]
        rfl
  rw [copied, hFold]
  rfl

/-- The store has the objects that were stored, in order. -/
theorem kept_after (self : ObjectStore Ref Obj) (calls : List (ObjectCall Ref Obj)) :
    (objectMachine.after self calls).kept =
      self.kept ++ (storedObjects self.heap calls).map fun stored =>
        (stored.subjectId, stored.object) := by
  induction calls generalizing self with
  | nil => simp [storedObjects]
  | cons call calls ih =>
      rw [Transducer.after_cons, ih]
      cases call with
      | store subjectId object => simp [objectMachine, storedObjects]
      | assign object entry => simp [objectMachine, storedObjects]
      | get subjectId dimension tier => simp [objectMachine, storedObjects]

/-- When copies are enough. After any calls on any objects, every read sees the
store as it looks at the moment. Every read sees what a store of copies would
return if and only if each object is again as it was when it was stored. -/
theorem copies_suffice_iff (heap : Ref → MemoryEntry Obj) (calls : List (ObjectCall Ref Obj)) :
    let final := objectMachine.after ⟨heap, []⟩ calls
    (∀ subjectId dimension tier, (final.get subjectId dimension tier).map final.heap =
      final.contents.get subjectId dimension tier) ∧
    ((∀ subjectId dimension tier, (final.get subjectId dimension tier).map final.heap =
      (copied heap calls).get subjectId dimension tier) ↔
      ∀ stored ∈ storedObjects heap calls, final.heap stored.object = stored.entry) := by
  intro final
  refine ⟨final.map_heap_get, ?_⟩
  have hContents : final.contents.memories = (storedObjects heap calls).map fun stored =>
      ⟨stored.subjectId, final.heap stored.object⟩ := by
    rw [ObjectStore.contents, kept_after, List.nil_append, List.map_map]
    rfl
  have hCopied : (copied heap calls).memories = (storedObjects heap calls).map fun stored =>
      ⟨stored.subjectId, stored.entry⟩ := copied_memories heap calls
  constructor
  · intro h stored hMem
    have hSubject := h stored.subjectId none none
    rw [final.map_heap_get, get_unfiltered hContents, get_unfiltered hCopied] at hSubject
    exact List.map_inj_left.mp hSubject stored (List.mem_filter.mpr ⟨hMem, by simp⟩)
  · intro h subjectId dimension tier
    have hSame : final.contents.memories = (copied heap calls).memories := by
      rw [hContents, hCopied]
      exact List.map_congr_left fun stored hMem => by rw [h stored hMem]
    rw [final.map_heap_get, InMemoryMemoryStore.get_eq, InMemoryMemoryStore.get_eq, hSame]

end CapillaryActions.Reference
