import CapillaryActions.Reference.InMemoryMemoryStore
import CapillaryActions.Semantics.Transducer

/-! The store as a family of append-only logs, one for each subject. The shared
list refines this family, call by call and reply by reply; what a client of one
subject can observe then follows from facts about a single log. -/
namespace CapillaryActions.Reference

open Python Models Semantics

variable {Obj : Type}

/-- The calls that clients make, in the order in which they are served. -/
inductive StoreCall (Obj : Type) where
  | store (subjectId : UUID) (entry : MemoryEntry Obj)
  | get (subjectId : UUID) (dimension tier : Option String)

/-- The code under a sequence of calls. Only reads reply. -/
def storeMachine :
    Transducer (InMemoryMemoryStore Obj) (StoreCall Obj) (List (MemoryEntry Obj)) where
  step self call := match call with
    | .store subjectId entry => (self.store subjectId entry, [])
    | .get subjectId dimension tier => (self, [self.get subjectId dimension tier])

/-- An entry passes the filters that are present. -/
def Passes (dimension tier : Option String) (entry : MemoryEntry Obj) : Prop :=
  (∀ wanted ∈ dimension, entry.dimension = wanted) ∧ (∀ wanted ∈ tier, entry.tier = wanted)

instance (dimension tier : Option String) (entry : MemoryEntry Obj) :
    Decidable (Passes dimension tier entry) := by
  unfold Passes
  infer_instance

/-- The purpose of the store: every subject has a log of its own, to which a
store appends; a read takes the entries of one log that pass its filters. -/
def logMachine :
    Transducer (UUID → List (MemoryEntry Obj)) (StoreCall Obj) (List (MemoryEntry Obj)) where
  step logs call := match call with
    | .store subjectId entry =>
        (Function.update logs subjectId (logs subjectId ++ [entry]), [])
    | .get subjectId dimension tier =>
        (logs, [(logs subjectId).filter fun entry => Passes dimension tier entry])

/-- The log of each subject, read off the shared list. -/
def logs (self : InMemoryMemoryStore Obj) (subjectId : UUID) : List (MemoryEntry Obj) :=
  (self.memories.filter fun memory => memory.subjectId = subjectId).map Memory.entry

@[simp] theorem logs_init :
    logs (InMemoryMemoryStore.init : InMemoryMemoryStore Obj) = fun _ => [] := rfl

theorem logs_store (self : InMemoryMemoryStore Obj) (subjectId : UUID) (entry : MemoryEntry Obj) :
    logs (self.store subjectId entry) =
      Function.update (logs self) subjectId (logs self subjectId ++ [entry]) := by
  funext other
  by_cases h : subjectId = other
  · subst h
    simp [logs, InMemoryMemoryStore.store]
  · simp [logs, InMemoryMemoryStore.store, h, Function.update_of_ne (Ne.symm h)]

theorem admits_iff (wanted : Option String) (value : String) :
    InMemoryMemoryStore.admits wanted value = true ↔ ∀ w ∈ wanted, value = w := by
  cases wanted with
  | none => simp
  | some w => simp [eq_comm]

/-- A read is a read of the log of its subject. -/
theorem get_eq_logs (self : InMemoryMemoryStore Obj) (subjectId : UUID)
    (dimension tier : Option String) :
    self.get subjectId dimension tier =
      (logs self subjectId).filter fun entry => Passes dimension tier entry := by
  rw [InMemoryMemoryStore.get_eq, logs, List.filter_map, List.filter_filter]
  congr 1
  apply List.filter_congr
  intro memory _
  have hPasses : Passes dimension tier memory.entry ↔
      InMemoryMemoryStore.admits dimension memory.entry.dimension = true ∧
        InMemoryMemoryStore.admits tier memory.entry.tier = true := by
    rw [admits_iff, admits_iff, Passes]
  rw [Bool.and_comm]
  simp [InMemoryMemoryStore.selects, hPasses]

/-- Every call does to the logs what it does to the shared list, and replies
the same. -/
theorem storeMachine_refines :
    Refines (@storeMachine Obj) logMachine logs id id where
  state self call := by
    cases call with
    | store subjectId entry => exact logs_store self subjectId entry
    | get subjectId dimension tier => rfl
  output self call := by
    cases call with
    | store subjectId entry => rfl
    | get subjectId dimension tier => simp [storeMachine, logMachine, get_eq_logs]

/-- What a read returns after a history of calls on a new store. -/
def getAfter (history : List (StoreCall Obj)) (subjectId : UUID) (dimension tier : Option String) :
    List (MemoryEntry Obj) :=
  (storeMachine.after InMemoryMemoryStore.init history).get subjectId dimension tier

/-- The entries that a history stores under one subject, in order. -/
def storedUnder (subjectId : UUID) (history : List (StoreCall Obj)) : List (MemoryEntry Obj) :=
  history.filterMap fun call => match call with
    | .store subject entry => if subject = subjectId then some entry else none
    | .get _ _ _ => none

/-- The log of a subject consists of what was stored under it. -/
theorem logs_after (history : List (StoreCall Obj)) (subjectId : UUID) :
    logs (storeMachine.after InMemoryMemoryStore.init history) subjectId =
      storedUnder subjectId history := by
  rw [storeMachine_refines.after, List.map_id, logs_init]
  induction history using List.reverseRecOn with
  | nil => rfl
  | append_singleton history call ih =>
      rw [Transducer.after_append]
      cases call with
      | store subject entry =>
          by_cases h : subject = subjectId
          · subst h
            simpa [logMachine, storedUnder] using ih
          · simpa [logMachine, storedUnder, h, Function.update_of_ne (Ne.symm h)] using ih
      | get subject dimension tier => simpa [logMachine, storedUnder] using ih

theorem getAfter_eq (history : List (StoreCall Obj)) (subjectId : UUID)
    (dimension tier : Option String) :
    getAfter history subjectId dimension tier =
      (storedUnder subjectId history).filter fun entry => Passes dimension tier entry := by
  rw [getAfter, get_eq_logs, logs_after]

theorem storedUnder_append (subjectId : UUID) (first second : List (StoreCall Obj)) :
    storedUnder subjectId (first ++ second) =
      storedUnder subjectId first ++ storedUnder subjectId second := by
  simp [storedUnder]

/-- A call that appends to the log of the subject. -/
def StoreCall.storesUnder (subjectId : UUID) : StoreCall Obj → Bool
  | .store subject _ => subject = subjectId
  | .get _ _ _ => false

/-- Reads, and stores under other subjects, leave no trace in a log. -/
theorem storedUnder_filter (subjectId : UUID) (history : List (StoreCall Obj)) :
    storedUnder subjectId (history.filter (·.storesUnder subjectId)) =
      storedUnder subjectId history := by
  induction history with
  | nil => rfl
  | cons call history ih =>
      cases call with
      | store subject entry =>
          by_cases h : subject = subjectId <;>
            simpa [storedUnder, StoreCall.storesUnder, h] using ih
      | get _ _ _ => simpa [storedUnder, StoreCall.storesUnder] using ih

/-- Stores under different subjects commute on the logs. -/
theorem logMachine_swap (state : UUID → List (MemoryEntry Obj)) {first second : UUID}
    (hDistinct : first ≠ second) (entry other : MemoryEntry Obj) :
    logMachine.after state [.store first entry, .store second other] =
      logMachine.after state [.store second other, .store first entry] := by
  simp [logMachine, Function.update_of_ne hDistinct, Function.update_of_ne (Ne.symm hDistinct),
    Function.update_comm hDistinct]

/-- The replies of a whole sequence depend on its stores through the logs only. -/
theorem emitted_congr {before before' : List (StoreCall Obj)} (after : List (StoreCall Obj))
    (hReplies : logMachine.emitted (fun _ => []) before = logMachine.emitted (fun _ => []) before')
    (hLogs : logMachine.after (fun _ => []) before = logMachine.after (fun _ => []) before') :
    storeMachine.emitted InMemoryMemoryStore.init (before ++ after) =
      storeMachine.emitted InMemoryMemoryStore.init (before' ++ after) := by
  have hRefines : ∀ calls : List (StoreCall Obj),
      storeMachine.emitted InMemoryMemoryStore.init calls =
        logMachine.emitted (fun _ => []) calls := fun calls => by
    simpa using storeMachine_refines.emitted InMemoryMemoryStore.init calls
  rw [hRefines, hRefines, Transducer.emitted_append, Transducer.emitted_append, hReplies, hLogs]

/-- The store serves every interleaving of calls as a family of separate logs
would. A read returns what was stored under its subject and passes the filters
that are present, whatever else was called; stores under different subjects
commute for all later reads, a read changes nothing, and results only grow. -/
theorem memoryStore_refines_logs (calls : List (StoreCall Obj)) (subjectId : UUID)
    (dimension tier : Option String) :
    storeMachine.emitted InMemoryMemoryStore.init calls =
      logMachine.emitted (fun _ => []) calls ∧
    getAfter calls subjectId dimension tier =
      (storedUnder subjectId calls).filter (fun entry => Passes dimension tier entry) ∧
    getAfter (calls.filter (·.storesUnder subjectId)) subjectId dimension tier =
      getAfter calls subjectId dimension tier ∧
    (∀ first second entry other after, first ≠ second →
      storeMachine.emitted InMemoryMemoryStore.init
          (calls ++ [.store first entry, .store second other] ++ after) =
        storeMachine.emitted InMemoryMemoryStore.init
          (calls ++ [.store second other, .store first entry] ++ after)) ∧
    (∀ self : InMemoryMemoryStore Obj,
      (storeMachine.step self (.get subjectId dimension tier)).1 = self) ∧
    (∀ later, getAfter calls subjectId dimension tier <+:
      getAfter (calls ++ later) subjectId dimension tier) := by
  refine ⟨?_, getAfter_eq .., ?_, ?_, fun _ => rfl, ?_⟩
  · simpa using storeMachine_refines.emitted InMemoryMemoryStore.init calls
  · rw [getAfter_eq, getAfter_eq, storedUnder_filter]
  · intro first second entry other after hDistinct
    apply emitted_congr
    · rw [Transducer.emitted_append, Transducer.emitted_append]
      rfl
    · rw [Transducer.after_append, Transducer.after_append, logMachine_swap _ hDistinct]
  · intro later
    rw [getAfter_eq, getAfter_eq, storedUnder_append, List.filter_append]
    exact List.prefix_append _ _

/-- Two clients store under their own subjects in either order, and a third
reads the first subject without a dimension filter and with an empty one. -/
theorem memoryStore_refines_logs_swap :
    let entry : MemoryEntry Empty :=
      ⟨⟨7⟩, "short_term", "history", ∅, 0x3FF0000000000000, ⟨0, some 0⟩, none, ∅⟩
    let other : MemoryEntry Empty := { entry with id := ⟨8⟩, dimension := "" }
    storeMachine.emitted InMemoryMemoryStore.init
        [.store ⟨1⟩ entry, .store ⟨2⟩ other, .get ⟨1⟩ none none, .get ⟨1⟩ (some "") none] =
      storeMachine.emitted InMemoryMemoryStore.init
        [.store ⟨2⟩ other, .store ⟨1⟩ entry, .get ⟨1⟩ none none, .get ⟨1⟩ (some "") none] :=
  (memoryStore_refines_logs [] ⟨1⟩ none none).2.2.2.1 ⟨1⟩ ⟨2⟩ _ _
    [.get ⟨1⟩ none none, .get ⟨1⟩ (some "") none] (by decide)

end CapillaryActions.Reference
