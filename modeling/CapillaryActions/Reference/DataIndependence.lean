import CapillaryActions.Reference.MemoryLog
import CapillaryActions.Semantics.Simulation

/-! What the store looks at. Subjects, dimensions and tiers are only compared,
and nothing else of an entry is read: not its content, its score or the time at
which it expires. Clients may use other names and other entries throughout, and
get what corresponds, as long as no two names are taken for one. -/
namespace CapillaryActions.Reference

open Python Models Semantics

variable {Obj Obj' : Type}

/-- Other names for subjects, dimensions and tiers. -/
structure Renaming where
  subject : UUID → UUID
  dimension : String → String
  tier : String → String

namespace Renaming

/-- Distinct names stay distinct. -/
structure Distinct (rename : Renaming) : Prop where
  subject : rename.subject.Injective
  dimension : rename.dimension.Injective
  tier : rename.tier.Injective

/-- Corresponding entries have corresponding names. They may differ in all else. -/
structure Respects (rename : Renaming) (entry : MemoryEntry Obj) (entry' : MemoryEntry Obj') :
    Prop where
  dimension : entry'.dimension = rename.dimension entry.dimension
  tier : entry'.tier = rename.tier entry.tier

end Renaming

/-- Corresponding calls, for a correspondence of entries. -/
inductive StoreCall.Alike (rename : Renaming) (alike : MemoryEntry Obj → MemoryEntry Obj' → Prop) :
    StoreCall Obj → StoreCall Obj' → Prop where
  | store (subjectId : UUID) {entry : MemoryEntry Obj} {entry' : MemoryEntry Obj'}
      (h : alike entry entry') :
      Alike rename alike (.store subjectId entry) (.store (rename.subject subjectId) entry')
  | get (subjectId : UUID) (dimension tier : Option String) :
      Alike rename alike (.get subjectId dimension tier)
        (.get (rename.subject subjectId) (dimension.map rename.dimension) (tier.map rename.tier))

theorem admits_map {rename : String → String} (h : rename.Injective) (wanted : Option String)
    (value : String) :
    InMemoryMemoryStore.admits (wanted.map rename) (rename value) =
      InMemoryMemoryStore.admits wanted value := by
  cases wanted with
  | none => simp
  | some wanted => simp [h.eq_iff]

section

variable {rename : Renaming} {alike : MemoryEntry Obj → MemoryEntry Obj' → Prop}

/-- Corresponding elements of the shared lists. -/
structure Memory.Alike (rename : Renaming) (alike : MemoryEntry Obj → MemoryEntry Obj' → Prop)
    (memory : Memory Obj) (memory' : Memory Obj') : Prop where
  subject : memory'.subjectId = rename.subject memory.subjectId
  entry : alike memory.entry memory'.entry

theorem Memory.Alike.selects (hRename : rename.Distinct)
    (hRespects : ∀ entry entry', alike entry entry' → rename.Respects entry entry')
    {memory : Memory Obj} {memory' : Memory Obj'} (h : memory.Alike rename alike memory')
    (subjectId : UUID) (dimension tier : Option String) :
    InMemoryMemoryStore.selects (rename.subject subjectId) (dimension.map rename.dimension)
        (tier.map rename.tier) memory' =
      InMemoryMemoryStore.selects subjectId dimension tier memory := by
  obtain ⟨hDimension, hTier⟩ := hRespects _ _ h.entry
  simp only [InMemoryMemoryStore.selects, h.subject, hDimension, hTier,
    admits_map hRename.dimension, admits_map hRename.tier, hRename.subject.eq_iff]

theorem get_alike (hRename : rename.Distinct)
    (hRespects : ∀ entry entry', alike entry entry' → rename.Respects entry entry')
    {self : InMemoryMemoryStore Obj} {self' : InMemoryMemoryStore Obj'}
    (h : List.Forall₂ (Memory.Alike rename alike) self.memories self'.memories)
    (subjectId : UUID) (dimension tier : Option String) :
    List.Forall₂ alike (self.get subjectId dimension tier)
      (self'.get (rename.subject subjectId) (dimension.map rename.dimension)
        (tier.map rename.tier)) := by
  rw [InMemoryMemoryStore.get_eq, InMemoryMemoryStore.get_eq, List.forall₂_map_left_iff,
    List.forall₂_map_right_iff]
  have hSame : ∀ ⦃memory : Memory Obj⦄ ⦃memory' : Memory Obj'⦄, memory.Alike rename alike memory' →
      (InMemoryMemoryStore.selects subjectId dimension tier memory ↔
        InMemoryMemoryStore.selects (rename.subject subjectId) (dimension.map rename.dimension)
          (tier.map rename.tier) memory') := by
    intro memory memory' hMemory
    rw [hMemory.selects hRename hRespects]
  exact (List.rel_filter hSame h).imp fun _ _ hMemory => hMemory.entry

/-- Call by call, the two stores keep corresponding lists. -/
theorem store_simulation (hRename : rename.Distinct)
    (hRespects : ∀ entry entry', alike entry entry' → rename.Respects entry entry') :
    Simulation storeMachine storeMachine
      (fun self self' => List.Forall₂ (Memory.Alike rename alike) self.memories self'.memories)
      (StoreCall.Alike rename alike) (List.Forall₂ alike) where
  state hRelated hAlike := by
    cases hAlike with
    | store subjectId hEntry => exact List.rel_append hRelated (.cons ⟨rfl, hEntry⟩ .nil)
    | get subjectId dimension tier => exact hRelated
  output hRelated hAlike := by
    cases hAlike with
    | store subjectId hEntry => exact .nil
    | get subjectId dimension tier =>
        exact .cons (get_alike hRename hRespects hRelated subjectId dimension tier) .nil

end

/-- The reply to a read after a single store. -/
theorem emitted_store_get (subjectId other : UUID) (entry : MemoryEntry Obj)
    (dimension tier : Option String) :
    storeMachine.emitted InMemoryMemoryStore.init
        [.store subjectId entry, .get other dimension tier] =
      [if InMemoryMemoryStore.selects other dimension tier ⟨subjectId, entry⟩ then [entry] else []] := by
  have hGet : (InMemoryMemoryStore.init.store subjectId entry).get other dimension tier =
      if InMemoryMemoryStore.selects other dimension tier ⟨subjectId, entry⟩ then [entry] else [] := by
    rw [InMemoryMemoryStore.get_eq, InMemoryMemoryStore.store, InMemoryMemoryStore.init,
      List.nil_append, List.filter_singleton]
    split <;> simp_all
  rw [← hGet]
  rfl

/-- Data independence. Two runs of new stores that correspond call by call get
corresponding replies, whatever the correspondence of entries is apart from the
names, if and only if the renaming takes no two subjects, dimensions or tiers
for one. -/
theorem replies_alike_iff (rename : Renaming) :
    (∀ alike : MemoryEntry Obj → MemoryEntry Obj' → Prop,
      (∀ entry entry', alike entry entry' → rename.Respects entry entry') →
      ∀ calls calls', List.Forall₂ (StoreCall.Alike rename alike) calls calls' →
        List.Forall₂ (List.Forall₂ alike) (storeMachine.emitted InMemoryMemoryStore.init calls)
          (storeMachine.emitted InMemoryMemoryStore.init calls')) ↔
      rename.Distinct := by
  constructor
  · intro h
    let image (entry : MemoryEntry Obj) : MemoryEntry Obj' :=
      bareEntry (rename.tier entry.tier) (rename.dimension entry.dimension)
    have hImage : ∀ entry, rename.Respects entry (image entry) := fun _ => ⟨rfl, rfl⟩
    -- One entry is stored under one name, and read under another.
    have hRead : ∀ (subjectId other : UUID) (entry : MemoryEntry Obj) (dimension tier : Option String),
        InMemoryMemoryStore.selects (rename.subject other) (dimension.map rename.dimension)
          (tier.map rename.tier) ⟨rename.subject subjectId, image entry⟩ →
        InMemoryMemoryStore.selects other dimension tier ⟨subjectId, entry⟩ := by
      intro subjectId other entry dimension tier hSelects
      have hReplies := h rename.Respects (fun _ _ hEntry => hEntry) _ _
        (.cons (.store subjectId (hImage entry)) (.cons (.get other dimension tier) .nil))
      rw [emitted_store_get, emitted_store_get, if_pos hSelects] at hReplies
      by_contra hNot
      rw [if_neg hNot] at hReplies
      obtain ⟨hFirst, _⟩ := List.forall₂_cons.mp hReplies
      cases hFirst
    refine ⟨?_, ?_, ?_⟩
    · intro first second hSame
      have hSelects := hRead first second (bareEntry "" "") none none
        (by simp [InMemoryMemoryStore.selects, hSame])
      simpa [InMemoryMemoryStore.selects] using hSelects
    · intro first second hSame
      have hSelects := hRead ⟨0⟩ ⟨0⟩ (bareEntry "" first) (some second) none
        (by simp [InMemoryMemoryStore.selects, image, bareEntry, hSame])
      simpa [InMemoryMemoryStore.selects, bareEntry, eq_comm] using hSelects
    · intro first second hSame
      have hSelects := hRead ⟨0⟩ ⟨0⟩ (bareEntry first "") none (some second)
        (by simp [InMemoryMemoryStore.selects, image, bareEntry, hSame])
      simpa [InMemoryMemoryStore.selects, bareEntry, eq_comm] using hSelects
  · intro hRename alike hRespects calls calls' hCalls
    exact (store_simulation hRename hRespects).emitted .nil hCalls

end CapillaryActions.Reference
