import CapillaryActions.Reference.InMemoryMemoryStore
import CapillaryActions.Schema.DomainSchema
import CapillaryActions.Semantics.Partition
import CapillaryActions.Semantics.Transducer

/-! Storing behind the manifest check. A client validates each entry against one
schema and stores it only if the check did not raise. What is stored then has
a declared dimension, and since declared names are distinct, reading a subject
dimension by dimension splits what a read without dimension returns. -/
namespace CapillaryActions.Reference

open Python Models Schema Semantics

variable {Obj : Type}

/-- One attempt after another to store an entry under a subject. The exceptions
of the check are what the client sees. -/
def gated (schema : DomainSchema) :
    Transducer (InMemoryMemoryStore Obj) (UUID × MemoryEntry Obj) Exn where
  step self attempt := match validateMemoryEntry attempt.2 schema with
    | .ok _ => (self.store attempt.1 attempt.2, [])
    | .error raised => (self, [raised])

/-- Everything in the store has a dimension that the schema declares. -/
def Declared (schema : DomainSchema) (self : InMemoryMemoryStore Obj) : Prop :=
  ∀ memory ∈ self.memories, memory.entry.dimension ∈ schema.dimensionNames

/-- The attempts that pass the check. -/
def accepted (schema : DomainSchema) (attempts : List (UUID × MemoryEntry Obj)) :
    List (UUID × MemoryEntry Obj) :=
  attempts.filter fun attempt => attempt.2.dimension ∈ schema.dimensionNames

/-- What one attempt adds to the store: the entry, or nothing. -/
theorem memories_step (schema : DomainSchema) (self : InMemoryMemoryStore Obj)
    (attempt : UUID × MemoryEntry Obj) :
    ((gated schema).step self attempt).1.memories =
      self.memories ++ (accepted schema [attempt]).map fun stored => ⟨stored.1, stored.2⟩ := by
  by_cases hDimension : attempt.2.dimension ∈ schema.dimensionNames
  · have hCheck : validateMemoryEntry attempt.2 schema = .ok () :=
      validateMemoryEntry_eq_ok.mpr hDimension
    simp [gated, hCheck, accepted, hDimension, InMemoryMemoryStore.store]
  · cases hCheck : validateMemoryEntry attempt.2 schema with
    | error raised => simp [gated, hCheck, accepted, hDimension]
    | ok _ => exact absurd (validateMemoryEntry_eq_ok.mp hCheck) hDimension

/-- The store holds the accepted attempts, in their order. -/
theorem memories_after (schema : DomainSchema) (attempts : List (UUID × MemoryEntry Obj)) :
    ((gated schema).after InMemoryMemoryStore.init attempts).memories =
      (accepted schema attempts).map fun stored => ⟨stored.1, stored.2⟩ := by
  induction attempts using List.reverseRecOn with
  | nil => rfl
  | append_singleton attempts attempt ih =>
      have hAccepted : accepted schema (attempts ++ [attempt]) =
          accepted schema attempts ++ accepted schema [attempt] := List.filter_append ..
      rw [Transducer.after_append, Transducer.after_cons, Transducer.after_nil, memories_step, ih,
        hAccepted, List.map_append]

theorem declared_after (schema : DomainSchema) (attempts : List (UUID × MemoryEntry Obj)) :
    Declared schema ((gated schema).after InMemoryMemoryStore.init attempts) := by
  intro memory hMem
  rw [memories_after] at hMem
  obtain ⟨attempt, hAttempt, rfl⟩ := List.mem_map.mp hMem
  exact of_decide_eq_true (List.mem_filter.mp hAttempt).2

namespace InMemoryMemoryStore

/-- The positions of the shared list from which a read takes its results, so
that equal entries stored more than once stay apart. -/
def positions (self : InMemoryMemoryStore Obj) (subjectId : UUID)
    (dimension tier : Option String) : List Nat :=
  (self.memories.zipIdx.filter fun stored => selects subjectId dimension tier stored.1).map Prod.snd

theorem mem_positions_iff (self : InMemoryMemoryStore Obj) (subjectId : UUID)
    (dimension tier : Option String) (i : Nat) :
    i ∈ self.positions subjectId dimension tier ↔
      ∃ memory, self.memories[i]? = some memory ∧ selects subjectId dimension tier memory = true := by
  simp [positions, List.mem_zipIdx_iff_getElem?]

/-- A read returns the entries at its positions, in order. -/
theorem get_eq_positions (self : InMemoryMemoryStore Obj) (subjectId : UUID)
    (dimension tier : Option String) :
    (self.get subjectId dimension tier).map some =
      (self.positions subjectId dimension tier).map fun i =>
        (self.memories[i]?).map Memory.entry := by
  have hPlaced : ∀ stored ∈ self.memories.zipIdx,
      (self.memories[stored.2]?).map Memory.entry = some stored.1.entry := by
    intro stored hMem
    rw [List.mem_zipIdx_iff_getElem?.mp hMem, Option.map_some]
  have hFilter : self.memories.filter (selects subjectId dimension tier) =
      (self.memories.zipIdx.filter fun stored => selects subjectId dimension tier stored.1).map
        Prod.fst := by
    conv_lhs => rw [← List.zipIdx_map_fst 0 self.memories]
    rw [List.filter_map]
    rfl
  rw [get_eq, hFilter, positions, List.map_map, List.map_map, List.map_map]
  apply List.map_congr_left
  intro stored hMem
  exact (hPlaced stored (List.mem_of_mem_filter hMem)).symm

/-- With a dimension, a read selects a part of what it selects without. -/
theorem selects_some (subjectId : UUID) (dimension : String) (tier : Option String)
    (memory : Memory Obj) :
    selects subjectId (some dimension) tier memory =
      (selects subjectId none tier memory && decide (memory.entry.dimension = dimension)) := by
  have hSwap : decide (dimension = memory.entry.dimension) =
      decide (memory.entry.dimension = dimension) := decide_eq_decide.mpr eq_comm
  simp [selects, hSwap, Bool.and_comm, Bool.and_left_comm]

/-- A read with a dimension filters the read without one. -/
theorem get_some (self : InMemoryMemoryStore Obj) (subjectId : UUID) (dimension : String)
    (tier : Option String) :
    self.get subjectId (some dimension) tier =
      (self.get subjectId none tier).filter fun entry => entry.dimension = dimension := by
  rw [get_eq, get_eq, List.filter_map, List.filter_filter]
  congr 1
  apply List.filter_congr
  intro memory _
  rw [selects_some, Bool.and_comm]
  rfl

end InMemoryMemoryStore

/-- A read without dimension returns the accepted attempts under its subject, of
its tier. -/
theorem get_after (schema : DomainSchema) (attempts : List (UUID × MemoryEntry Obj))
    (subjectId : UUID) (tier : Option String) :
    ((gated schema).after InMemoryMemoryStore.init attempts).get subjectId none tier =
      ((accepted schema attempts).filter fun attempt =>
        attempt.1 = subjectId ∧ ∀ wanted ∈ tier, attempt.2.tier = wanted).map Prod.snd := by
  rw [InMemoryMemoryStore.get_eq, memories_after, List.filter_map, List.map_map]
  apply congrArg (List.map Prod.snd)
  apply List.filter_congr
  intro attempt _
  cases tier <;> simp [InMemoryMemoryStore.selects, eq_comm]

/-- Reading a subject dimension by dimension, after any sequence of attempts.
A read without dimension returns what was accepted for the subject and the tier.
A read returns what was stored at its positions, and every position that a read
without dimension takes is taken for exactly one declared dimension. The order
is the same and the sizes add up: nothing is lost or returned twice. -/
theorem gated_store_partitions (schema : DomainSchema) (attempts : List (UUID × MemoryEntry Obj))
    (subjectId : UUID) (tier : Option String) :
    let self := (gated schema).after InMemoryMemoryStore.init attempts
    self.get subjectId none tier = ((accepted schema attempts).filter fun attempt =>
      attempt.1 = subjectId ∧ ∀ wanted ∈ tier, attempt.2.tier = wanted).map Prod.snd ∧
    (∀ dimension, (self.get subjectId dimension tier).map some =
      (self.positions subjectId dimension tier).map fun i =>
        (self.memories[i]?).map Memory.entry) ∧
    (∀ i ∈ self.positions subjectId none tier,
      ∃! dimension, dimension ∈ schema.dimensionNames ∧
        i ∈ self.positions subjectId (some dimension) tier) ∧
    (∀ dimension, (self.get subjectId (some dimension) tier).Sublist
      (self.get subjectId none tier)) ∧
    (schema.dimensionNames.map fun dimension =>
      (self.get subjectId (some dimension) tier).length).sum =
        (self.get subjectId none tier).length ∧
    (schema.dimensionNames.flatMap fun dimension =>
      self.get subjectId (some dimension) tier).Perm (self.get subjectId none tier) := by
  intro self
  have hDeclared : Declared schema self := declared_after schema attempts
  have hCover : ∀ entry ∈ self.get subjectId none tier,
      entry.dimension ∈ schema.dimensionNames := by
    intro entry hMem
    rw [InMemoryMemoryStore.get_eq] at hMem
    obtain ⟨memory, hMemory, rfl⟩ := List.mem_map.mp hMem
    exact hDeclared memory (List.mem_of_mem_filter hMemory)
  refine ⟨get_after schema attempts subjectId tier,
    fun dimension => self.get_eq_positions subjectId dimension tier, ?_⟩
  simp only [InMemoryMemoryStore.get_some]
  refine ⟨?_, fun dimension => List.filter_sublist, ?_, ?_⟩
  · intro i hMem
    obtain ⟨memory, hAt, hSelects⟩ := (self.mem_positions_iff ..).mp hMem
    refine ⟨memory.entry.dimension, ⟨hDeclared memory (List.mem_of_getElem? hAt), ?_⟩, ?_⟩
    · refine (self.mem_positions_iff ..).mpr ⟨memory, hAt, ?_⟩
      simp [InMemoryMemoryStore.selects_some, hSelects]
    · rintro dimension ⟨_, hOther⟩
      obtain ⟨memory', hAt', hSelects'⟩ := (self.mem_positions_iff ..).mp hOther
      have hSame : memory = memory' := Option.some.inj (hAt.symm.trans hAt')
      rw [InMemoryMemoryStore.selects_some] at hSelects'
      simp only [Bool.and_eq_true, decide_eq_true_eq] at hSelects'
      rw [hSame, hSelects'.2]
  · exact Partition.sum_length_filter _ schema.nodup_dimensionNames hCover
  · exact Partition.flatMap_filter_perm_self _ schema.nodup_dimensionNames hCover

end CapillaryActions.Reference
