import CapillaryActions.Reference.DimensionPartition

/-! Storing while the manifest changes. Each entry is checked against the schema
that is current when it is stored, and stays in the store when another schema
takes over. A client that reads dimension by dimension only asks for what the
schema declares at the time of the read. -/
namespace CapillaryActions.Reference

open Python Models Schema Semantics

variable {Obj : Type}

/-- An attempt to store an entry, under the schema of the time. -/
structure Attempt (Obj : Type) where
  schema : DomainSchema
  subjectId : UUID
  entry : MemoryEntry Obj

/-- One attempt after another, each checked against its own schema. -/
def gatedByCurrent : Transducer (InMemoryMemoryStore Obj) (Attempt Obj) Exn where
  step self attempt := (gated attempt.schema).step self (attempt.subjectId, attempt.entry)

/-- The check did not raise. -/
def Attempt.Accepted (attempt : Attempt Obj) : Prop :=
  attempt.entry.dimension ∈ attempt.schema.dimensionNames

instance (attempt : Attempt Obj) : Decidable attempt.Accepted := by
  unfold Attempt.Accepted
  infer_instance

def Attempt.memory (attempt : Attempt Obj) : Memory Obj := ⟨attempt.subjectId, attempt.entry⟩

theorem gatedByCurrent_step (self : InMemoryMemoryStore Obj) (attempt : Attempt Obj) :
    (gatedByCurrent.step self attempt).1 =
      if attempt.Accepted then self.store attempt.subjectId attempt.entry else self := by
  cases hCheck : validateMemoryEntry attempt.entry attempt.schema with
  | ok _ =>
      have hAccepted : attempt.Accepted := validateMemoryEntry_eq_ok.mp hCheck
      rw [if_pos hAccepted]
      simp [gatedByCurrent, gated, hCheck]
  | error raised =>
      have hNot : ¬attempt.Accepted := by
        intro hAccepted
        rw [validateMemoryEntry_eq_ok.mpr hAccepted] at hCheck
        cases hCheck
      rw [if_neg hNot]
      simp [gatedByCurrent, gated, hCheck]

/-- The store has what was accepted, in order. -/
theorem memories_gatedByCurrent (attempts : List (Attempt Obj)) :
    (gatedByCurrent.after InMemoryMemoryStore.init attempts).memories =
      (attempts.filter fun attempt => attempt.Accepted).map Attempt.memory := by
  induction attempts using List.reverseRecOn with
  | nil => rfl
  | append_singleton attempts attempt ih =>
      rw [Transducer.after_append, Transducer.after_cons, Transducer.after_nil, gatedByCurrent_step]
      by_cases h : attempt.Accepted
      · simp [h, InMemoryMemoryStore.store, ih, Attempt.memory]
      · simp [h, ih]

/-- What a client collects that reads dimension by dimension. -/
def readByDimension (schema : DomainSchema) (self : InMemoryMemoryStore Obj) (subjectId : UUID)
    (tier : Option String) : List (MemoryEntry Obj) :=
  schema.dimensionNames.flatMap fun dimension => self.get subjectId (some dimension) tier

/-- Reading what was stored under earlier schemas. Read dimension by dimension, a
subject lacks just the entries of dimensions that the current schema does not
declare. Nothing is ever lacking if and only if the current schema declares
every dimension of the schemas before it. -/
theorem readByDimension_complete_iff (history : List DomainSchema) (current : DomainSchema) :
    (∀ (self : InMemoryMemoryStore Obj) (subjectId : UUID) (tier : Option String),
      (readByDimension current self subjectId tier ++
        (self.get subjectId none tier).filter
          fun entry => entry.dimension ∉ current.dimensionNames).Perm
        (self.get subjectId none tier)) ∧
    ((∀ attempts : List (Attempt Obj), (∀ attempt ∈ attempts, attempt.schema ∈ history) →
      ∀ (subjectId : UUID) (tier : Option String),
        let self := gatedByCurrent.after InMemoryMemoryStore.init attempts
        (readByDimension current self subjectId tier).Perm (self.get subjectId none tier)) ↔
      ∀ schema ∈ history, ∀ dimension ∈ schema.dimensionNames,
        dimension ∈ current.dimensionNames) := by
  have hDistinct := current.nodup_dimensionNames
  constructor
  · intro self subjectId tier
    simp only [readByDimension, InMemoryMemoryStore.get_some]
    exact Partition.flatMap_filter_append_perm _ hDistinct _
  · simp only [readByDimension, InMemoryMemoryStore.get_some,
      Partition.flatMap_filter_perm_self_iff _ hDistinct]
    constructor
    · intro h schema hSchema dimension hDimension
      -- One entry of the dimension is enough.
      let attempt : Attempt Obj := ⟨schema, ⟨0⟩, bareEntry "short_term" dimension⟩
      have hMemories := memories_gatedByCurrent [attempt]
      have hAccepted : attempt.Accepted := hDimension
      have hRead : bareEntry "short_term" dimension ∈
          (gatedByCurrent.after InMemoryMemoryStore.init [attempt]).get ⟨0⟩ none none := by
        rw [InMemoryMemoryStore.get_eq, hMemories]
        simp [hAccepted, Attempt.memory, attempt, InMemoryMemoryStore.selects]
      exact h [attempt] (by simpa [attempt] using hSchema) ⟨0⟩ none _ hRead
    · intro h attempts hAttempts subjectId tier entry hMem
      rw [InMemoryMemoryStore.get_eq, memories_gatedByCurrent] at hMem
      obtain ⟨memory, hMemory, rfl⟩ := List.mem_map.mp hMem
      obtain ⟨attempt, hAttempt, rfl⟩ := List.mem_map.mp (List.mem_of_mem_filter hMemory)
      obtain ⟨hAttempt, hAccepted⟩ := List.mem_filter.mp hAttempt
      have hDeclared : attempt.Accepted := of_decide_eq_true hAccepted
      exact h attempt.schema (hAttempts attempt hAttempt) _ hDeclared

end CapillaryActions.Reference
