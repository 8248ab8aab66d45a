import CapillaryActions.Semantics.Transducer
import Mathlib.Data.List.Perm.Basic

/-! Schedules of keyed components. A schedule runs the inputs of every key in
their order, and is free in the order between keys. The outputs of the schedules
are then just the merges of what the components emit, if a step emits at most
one output; and a set of keys is not affected by the others. -/
namespace Semantics.Transducer

universe u v w

variable {Key : Type*} [DecidableEq Key] {State : Type u} {Input : Type v} {Output : Type w}

/-- For every key the same items, in the same order. -/
def SameScripts {Item : Type*} (first second : List (Key × Item)) : Prop :=
  ∀ key, select key first = select key second

namespace SameScripts

variable {Item : Type*} {first second third : List (Key × Item)}

theorem symm (h : SameScripts first second) : SameScripts second first := fun key => (h key).symm

theorem trans (h : SameScripts first second) (h' : SameScripts second third) :
    SameScripts first third := fun key => (h key).trans (h' key)

/-- The first item of a key, in its place. -/
theorem exists_of_select_eq_cons {key : Key} {item : Item} {rest : List Item}
    {items : List (Key × Item)} (h : select key items = item :: rest) :
    ∃ before after, items = before ++ (key, item) :: after ∧ select key before = [] ∧
      select key after = rest := by
  induction items with
  | nil => cases h
  | cons head items ih =>
      rw [select_cons] at h
      split at h
      · rename_i hKey
        obtain ⟨rfl, hRest⟩ := List.cons.inj h
        exact ⟨[], items, by rw [← hKey]; rfl, rfl, hRest⟩
      · rename_i hKey
        obtain ⟨before, after, rfl, hBefore, hAfter⟩ := ih h
        exact ⟨head :: before, after, rfl, by rw [select_cons, if_neg hKey, hBefore], hAfter⟩

/-- The first item of its key can be moved to the front. -/
theorem move_front {entry : Key × Item} {before after : List (Key × Item)}
    (hBefore : select entry.1 before = []) :
    SameScripts (before ++ entry :: after) (entry :: (before ++ after)) := by
  intro key
  rw [select_append, select_cons, select_cons, select_append]
  split
  · rename_i hKey
    rw [← hKey, hBefore]
    rfl
  · rfl

theorem cons (h : SameScripts first second) (entry : Key × Item) :
    SameScripts (entry :: first) (entry :: second) := by
  intro key
  rw [select_cons, select_cons, h key]

theorem of_cons {entry : Key × Item} (h : SameScripts (entry :: first) (entry :: second)) :
    SameScripts first second := by
  intro key
  have hKey := h key
  rw [select_cons, select_cons] at hKey
  split at hKey
  · exact (List.cons.inj hKey).2
  · exact hKey

theorem perm (h : SameScripts first second) : first.Perm second := by
  induction first generalizing second with
  | nil =>
      cases second with
      | nil => exact .nil
      | cons entry second => simpa using h entry.1
  | cons entry first ih =>
      have hSelect : select entry.1 second = entry.2 :: select entry.1 first := by
        rw [← h entry.1, select_cons, if_pos rfl]
      obtain ⟨before, after, rfl, hBefore, _⟩ := exists_of_select_eq_cons hSelect
      have hRest : first.Perm (before ++ after) := ih (h.trans (move_front hBefore)).of_cons
      exact (hRest.cons entry).trans List.perm_middle.symm

end SameScripts

variable (T : Transducer State Input Output)

/-- All schedules reach the same state. -/
theorem keyed_after_eq {start : Key → State} {first second : List (Key × Input)}
    (h : SameScripts first second) :
    (keyed T).after start first = (keyed T).after start second := by
  funext key
  rw [keyed_after, keyed_after, h key]

/-- The outputs of one schedule are a merge of what the components emit. -/
theorem emitted_sameScripts {start : Key → State} {first second : List (Key × Input)}
    (h : SameScripts first second) :
    SameScripts ((keyed T).emitted start first) ((keyed T).emitted start second) := by
  intro key
  rw [select_keyed_emitted, select_keyed_emitted, h key]

/-- A schedule of what is left, after the first input of some key. -/
theorem exists_schedule_front {start : Key → State} {entry : Key × Input}
    {before after : List (Key × Input)} (hBefore : select entry.1 before = [])
    {merged : List (Key × Output)}
    (h : ∃ schedule, SameScripts schedule (before ++ after) ∧
      (keyed T).emitted ((keyed T).step start entry).1 schedule = merged) :
    ∃ schedule, SameScripts schedule (before ++ entry :: after) ∧
      (keyed T).emitted start schedule = ((keyed T).step start entry).2 ++ merged := by
  obtain ⟨schedule, hSchedule, rfl⟩ := h
  exact ⟨entry :: schedule, (hSchedule.cons entry).trans (SameScripts.move_front hBefore).symm, rfl⟩

/-- Each merge is what some schedule emits. -/
theorem exists_schedule (hOne : ∀ state input, (T.step state input).2.length ≤ 1)
    (start : Key → State) (inputs : List (Key × Input)) (merged : List (Key × Output))
    (h : SameScripts merged ((keyed T).emitted start inputs)) :
    ∃ schedule, SameScripts schedule inputs ∧ (keyed T).emitted start schedule = merged := by
  induction hLength : inputs.length generalizing start inputs merged with
  | zero =>
      rw [List.length_eq_zero_iff] at hLength
      subst hLength
      exact ⟨[], fun _ => rfl, h.perm.eq_nil.symm⟩
  | succ length ih =>
      cases merged with
      | nil => exact ⟨inputs, fun _ => rfl, h.symm.perm.eq_nil⟩
      | cons output merged =>
          -- The key of the next output runs its next input, which emits it or nothing.
          have hKey := h output.1
          rw [select_keyed_emitted, select_cons, if_pos rfl] at hKey
          cases hScript : select output.1 inputs with
          | nil =>
              rw [hScript] at hKey
              cases hKey
          | cons input rest =>
              obtain ⟨before, after, rfl, hBefore, _⟩ := SameScripts.exists_of_select_eq_cons hScript
              have hRest : (before ++ after).length = length := by
                simp only [List.length_append, List.length_cons] at hLength ⊢
                omega
              have hMove : SameScripts (before ++ (output.1, input) :: after)
                  ((output.1, input) :: (before ++ after)) := SameScripts.move_front hBefore
              have hFront : SameScripts (output :: merged) (((keyed T).step start (output.1, input)).2 ++
                  (keyed T).emitted ((keyed T).step start (output.1, input)).1 (before ++ after)) :=
                h.trans (T.emitted_sameScripts hMove)
              rw [hScript, emitted_cons] at hKey
              have hStep := hOne (start output.1) input
              match hOut : (T.step (start output.1) input).2 with
              | [] =>
                  have hSilent : ((keyed T).step start (output.1, input)).2 = [] := by
                    simp [keyed, hOut]
                  rw [hSilent] at hFront
                  have hSchedule := T.exists_schedule_front hBefore (ih _ _ _ hFront hRest)
                  rwa [hSilent] at hSchedule
              | [emitted] =>
                  have hEmitted : ((keyed T).step start (output.1, input)).2 = [output] := by
                    rw [hOut] at hKey
                    have hSame : output.2 = emitted := (List.cons.inj hKey).1
                    simp [keyed, hOut, ← hSame]
                  rw [hEmitted] at hFront
                  have hSchedule := T.exists_schedule_front hBefore (ih _ _ _ hFront.of_cons hRest)
                  rwa [hEmitted] at hSchedule
              | first :: second :: more => simp [hOut] at hStep

/-- The schedules of the same scripts emit the merges of what the components emit,
and nothing else. -/
theorem schedules_emit_iff (hOne : ∀ state input, (T.step state input).2.length ≤ 1)
    (start : Key → State) (inputs : List (Key × Input)) (merged : List (Key × Output)) :
    (∃ schedule, SameScripts schedule inputs ∧ (keyed T).emitted start schedule = merged) ↔
      SameScripts merged ((keyed T).emitted start inputs) := by
  constructor
  · rintro ⟨schedule, hSchedule, rfl⟩
    exact T.emitted_sameScripts hSchedule
  · exact T.exists_schedule hOne start inputs merged

/-- What a set of keys emits is told by their own inputs and their own states. -/
theorem keyed_emitted_filter (keep : Key → Bool) {start start' : Key → State}
    (hStart : ∀ key, keep key → start key = start' key) (inputs : List (Key × Input)) :
    ((keyed T).emitted start inputs).filter (fun output => keep output.1) =
      (keyed T).emitted start' (inputs.filter fun input => keep input.1) := by
  induction inputs generalizing start start' with
  | nil => rfl
  | cons input inputs ih =>
      rw [emitted_cons, List.filter_append]
      cases hKeep : keep input.1 with
      | true =>
          have hHere := hStart input.1 hKeep
          have hRest : ∀ key, keep key → ((keyed T).step start input).1 key =
              ((keyed T).step start' input).1 key := by
            intro key hKey
            by_cases hSame : key = input.1
            · subst hSame
              simp [keyed, hHere]
            · simp [keyed, hSame, hStart key hKey]
          rw [List.filter_cons, if_pos hKeep, emitted_cons, ih hRest]
          simp [keyed, hHere, List.filter_map, Function.comp_def, hKeep]
      | false =>
          have hRest : ∀ key, keep key → ((keyed T).step start input).1 key = start' key := by
            intro key hKey
            have hOther : key ≠ input.1 := by
              rintro rfl
              rw [hKeep] at hKey
              cases hKey
            simp [keyed, hOther, hStart key hKey]
          rw [List.filter_cons, if_neg (by simp [hKeep]), ih hRest]
          simp [keyed, List.filter_map, Function.comp_def, hKeep]

end Semantics.Transducer
