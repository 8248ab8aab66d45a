import CapillaryActions.Semantics.Simulation

/-! Input sequences that a transducer does not tell apart. A relation that every
step preserves, and on which outputs agree, is carried through whole runs.
Sequences that are interchangeable from related states can be exchanged inside
any longer sequence. -/
namespace Semantics.Transducer

universe u v w

variable {State : Type u} {Input : Type v} {Output : Type w}
  {T : Transducer State Input Output} {related : State → State → Prop}

/-- Related states emit the same on every input, and move to related states. -/
structure Bisimulation (T : Transducer State Input Output) (related : State → State → Prop) :
    Prop where
  state : ∀ s t input, related s t → related (T.step s input).1 (T.step t input).1
  output : ∀ s t input, related s t → (T.step s input).2 = (T.step t input).2

namespace Bisimulation

variable (h : Bisimulation T related) {s t : State} (hRelated : related s t)

include h

/-- A transducer beside itself, on the same inputs. -/
theorem simulation : Simulation T T related Eq Eq where
  state {s t input _} hRelated hSame := hSame ▸ h.state s t input hRelated
  output {s t input _} hRelated hSame := by
    rw [← hSame, h.output s t input hRelated]
    exact List.forall₂_refl _

include hRelated

theorem after (inputs : List Input) : related (T.after s inputs) (T.after t inputs) :=
  h.simulation.after hRelated (List.forall₂_refl inputs)

theorem emitted (inputs : List Input) : T.emitted s inputs = T.emitted t inputs := by
  have hSame := h.simulation.emitted hRelated (List.forall₂_refl inputs)
  rwa [List.forall₂_eq_eq_eq] at hSame

end Bisimulation

/-- From related states the two sequences emit the same, and lead to related
states. -/
def Interchangeable (T : Transducer State Input Output) (related : State → State → Prop)
    (first second : List Input) : Prop :=
  ∀ s t, related s t →
    related (T.after s first) (T.after t second) ∧ T.emitted s first = T.emitted t second

namespace Interchangeable

variable {first second third before after : List Input}

theorem refl (h : Bisimulation T related) (inputs : List Input) :
    Interchangeable T related inputs inputs :=
  fun _ _ hRelated => ⟨h.after hRelated inputs, h.emitted hRelated inputs⟩

theorem symm (hEquiv : Equivalence related) (h : Interchangeable T related first second) :
    Interchangeable T related second first := by
  intro s t hRelated
  obtain ⟨hAfter, hEmitted⟩ := h t s (hEquiv.symm hRelated)
  exact ⟨hEquiv.symm hAfter, hEmitted.symm⟩

theorem trans (hEquiv : Equivalence related) (hFirst : Interchangeable T related first second)
    (hSecond : Interchangeable T related second third) :
    Interchangeable T related first third := by
  intro s t hRelated
  obtain ⟨hAfter, hEmitted⟩ := hFirst s s (hEquiv.refl s)
  obtain ⟨hAfter', hEmitted'⟩ := hSecond s t hRelated
  exact ⟨hEquiv.trans hAfter hAfter', hEmitted.trans hEmitted'⟩

theorem append {first' second' : List Input} (hFirst : Interchangeable T related first second)
    (hSecond : Interchangeable T related first' second') :
    Interchangeable T related (first ++ first') (second ++ second') := by
  intro s t hRelated
  obtain ⟨hAfter, hEmitted⟩ := hFirst s t hRelated
  obtain ⟨hAfter', hEmitted'⟩ := hSecond _ _ hAfter
  rw [after_append, after_append, emitted_append, emitted_append, hEmitted, hEmitted']
  exact ⟨hAfter', rfl⟩

/-- Congruence rule. An exchange is not noticed by what surrounds it. -/
theorem within (hBisimulation : Bisimulation T related) (before after : List Input)
    (h : Interchangeable T related first second) :
    Interchangeable T related (before ++ (first ++ after)) (before ++ (second ++ after)) :=
  (refl hBisimulation before).append (h.append (refl hBisimulation after))

end Interchangeable

end Semantics.Transducer
