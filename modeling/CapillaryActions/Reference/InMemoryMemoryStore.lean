import CapillaryActions.Models.StudentModel

/-! The reference memory store. One list serves all subjects; a read filters it
by subject first and by the optional dimension and tier afterwards. -/
namespace CapillaryActions.Reference

open Python Models

variable {Obj : Type}

/-- One element of the shared list. -/
structure Memory (Obj : Type) where
  subjectId : UUID
  entry : MemoryEntry Obj

structure InMemoryMemoryStore (Obj : Type) where
  memories : List (Memory Obj)

namespace InMemoryMemoryStore

def init : InMemoryMemoryStore Obj := ⟨[]⟩

def store (self : InMemoryMemoryStore Obj) (subjectId : UUID) (entry : MemoryEntry Obj) :
    InMemoryMemoryStore Obj :=
  ⟨self.memories ++ [⟨subjectId, entry⟩]⟩

/-- `wanted in (None, value)`. An empty string is a value like any other. -/
def admits (wanted : Option String) (value : String) : Bool := wanted ∈ [none, some value]

def get (self : InMemoryMemoryStore Obj) (subjectId : UUID) (dimension tier : Option String) :
    List (MemoryEntry Obj) :=
  (self.memories.filter fun memory => memory.subjectId = subjectId).foldl
    (fun entries memory =>
      if admits dimension memory.entry.dimension ∧ admits tier memory.entry.tier then
        entries ++ [memory.entry]
      else
        entries)
    []

@[simp] theorem admits_none (value : String) : admits none value = true := by
  simp [admits]

@[simp] theorem admits_some (wanted value : String) :
    admits (some wanted) value = decide (wanted = value) := by
  simp [admits]

/-- What one read selects of the shared list, subject and filters together. -/
def selects (subjectId : UUID) (dimension tier : Option String) (memory : Memory Obj) : Bool :=
  memory.subjectId = subjectId ∧ admits dimension memory.entry.dimension ∧
    admits tier memory.entry.tier

/-- The accumulating loop of `get` is a filter of the shared list. -/
theorem get_eq (self : InMemoryMemoryStore Obj) (subjectId : UUID)
    (dimension tier : Option String) :
    self.get subjectId dimension tier =
      (self.memories.filter (selects subjectId dimension tier)).map Memory.entry := by
  have hLoop : ∀ (memories : List (Memory Obj)) (entries : List (MemoryEntry Obj)),
      memories.foldl (fun entries memory =>
        if admits dimension memory.entry.dimension ∧ admits tier memory.entry.tier then
          entries ++ [memory.entry]
        else
          entries) entries =
        entries ++ (memories.filter fun memory =>
          admits dimension memory.entry.dimension ∧ admits tier memory.entry.tier).map
            Memory.entry := by
    intro memories
    induction memories with
    | nil => simp
    | cons memory memories ih =>
        intro entries
        rw [List.foldl_cons, ih]
        split <;> simp_all
  rw [get, hLoop, List.nil_append, List.filter_filter]
  congr 1
  apply List.filter_congr
  intro memory _
  rw [Bool.and_comm]
  simp [selects]

end InMemoryMemoryStore
end CapillaryActions.Reference
