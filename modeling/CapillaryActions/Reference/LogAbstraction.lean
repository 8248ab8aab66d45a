import CapillaryActions.Reference.MemoryLog
import CapillaryActions.Semantics.Congruence

/-! What clients can tell of the store. It is the log of each subject, with its
order; how the logs lie between each other in the shared list cannot be told by
any calls. -/
namespace CapillaryActions.Reference

open Python Models Semantics

variable {Obj : Type}

/-- Stores with the same logs. -/
def SameLogs (first second : InMemoryMemoryStore Obj) : Prop :=
  ∀ subjectId, logs first subjectId = logs second subjectId

theorem sameLogs_bisimulation : Transducer.Bisimulation (@storeMachine Obj) SameLogs where
  state first second call h := by
    have hLogs : logs first = logs second := funext h
    intro subjectId
    rw [storeMachine_refines.state, storeMachine_refines.state, hLogs]
  output first second call h := by
    have hLogs : logs first = logs second := funext h
    have hFirst := storeMachine_refines.output first call
    have hSecond := storeMachine_refines.output second call
    rw [List.map_id] at hFirst hSecond
    rw [hFirst, hSecond, hLogs]

/-- A read without filters shows the log. -/
theorem get_none_none (self : InMemoryMemoryStore Obj) (subjectId : UUID) :
    self.get subjectId none none = logs self subjectId := by
  rw [get_eq_logs]
  simp [Passes]

theorem sameLogs_iff {first second : InMemoryMemoryStore Obj} :
    (∀ calls, storeMachine.emitted first calls = storeMachine.emitted second calls) ↔
      SameLogs first second := by
  constructor
  · intro h subjectId
    have hRead := h [.get subjectId none none]
    rw [← get_none_none, ← get_none_none]
    simpa [storeMachine] using hRead
  · intro h calls
    exact sameLogs_bisimulation.emitted h calls

theorem logs_store_store (self : InMemoryMemoryStore Obj) (first second : UUID)
    (entry other : MemoryEntry Obj) :
    SameLogs ((self.store first entry).store second other)
      ((self.store second other).store first entry) ↔ first ≠ second ∨ entry = other := by
  by_cases hSubject : first = second
  · subst hSubject
    constructor
    · intro h
      have hLog := h first
      simp only [logs_store, Function.update_self, List.append_assoc, List.singleton_append,
        List.append_cancel_left_eq, List.cons.injEq] at hLog
      exact Or.inr hLog.1
    · rintro (hNot | rfl) subjectId
      · exact absurd rfl hNot
      · rfl
  · refine ⟨fun _ => Or.inl hSubject, fun _ subjectId => ?_⟩
    simp only [logs_store, Function.update_of_ne hSubject, Function.update_of_ne (Ne.symm hSubject)]
    rw [Function.update_comm hSubject]

/-- Full abstraction. Two stores reply the same to all further calls if and only if
every subject has the same log in both. So two stores next to each other can be
exchanged, in every context and without notice, if and only if they are under
different subjects or of equal entries. -/
theorem logs_iff_indistinguishable (first second : InMemoryMemoryStore Obj) :
    ((∀ calls, storeMachine.emitted first calls = storeMachine.emitted second calls) ↔
      ∀ subjectId, logs first subjectId = logs second subjectId) ∧
    ∀ subject other (entry entry' : MemoryEntry Obj),
      (∀ before after : List (StoreCall Obj),
        storeMachine.emitted InMemoryMemoryStore.init
            (before ++ [.store subject entry, .store other entry'] ++ after) =
          storeMachine.emitted InMemoryMemoryStore.init
            (before ++ [.store other entry', .store subject entry] ++ after)) ↔
        subject ≠ other ∨ entry = entry' := by
  refine ⟨sameLogs_iff, fun subject other entry entry' => ?_⟩
  have hContext : ∀ before after, (storeMachine.emitted InMemoryMemoryStore.init
          (before ++ [.store subject entry, .store other entry'] ++ after) =
        storeMachine.emitted InMemoryMemoryStore.init
          (before ++ [.store other entry', .store subject entry] ++ after)) ↔
      storeMachine.emitted
          (((storeMachine.after InMemoryMemoryStore.init before).store subject entry).store other entry')
          after =
        storeMachine.emitted
          (((storeMachine.after InMemoryMemoryStore.init before).store other entry').store subject entry)
          after := by
    intro before after
    simp only [List.append_assoc, Transducer.emitted_append, List.append_cancel_left_eq]
    rfl
  simp only [hContext]
  constructor
  · intro h
    exact (logs_store_store _ subject other entry entry').mp (sameLogs_iff.mp (h []))
  · intro h before
    exact sameLogs_iff.mpr ((logs_store_store _ subject other entry entry').mpr h)

end CapillaryActions.Reference
