import CapillaryActions.Semantics.Transducer
import Mathlib.Data.List.Forall2

/-! Two transducers side by side. Their states, inputs and outputs are of
different types, or differ in what the step does not look at; three relations
say what corresponds to what. A correspondence of single steps is one of whole
runs. -/
namespace Semantics

universe u v w

variable {State : Type u} {Input : Type v} {Output : Type w}
  {State' : Type*} {Input' : Type*} {Output' : Type*}

/-- Corresponding inputs lead corresponding states to corresponding states, with
corresponding outputs. -/
structure Simulation (T : Transducer State Input Output) (T' : Transducer State' Input' Output')
    (related : State → State' → Prop) (alike : Input → Input' → Prop)
    (same : Output → Output' → Prop) : Prop where
  state : ∀ {s s' i i'}, related s s' → alike i i' → related (T.step s i).1 (T'.step s' i').1
  output : ∀ {s s' i i'}, related s s' → alike i i' →
    List.Forall₂ same (T.step s i).2 (T'.step s' i').2

namespace Simulation

variable {T : Transducer State Input Output} {T' : Transducer State' Input' Output'}
  {related : State → State' → Prop} {alike : Input → Input' → Prop}
  {same : Output → Output' → Prop} (h : Simulation T T' related alike same)
  {start : State} {start' : State'} (hStart : related start start')
  {inputs : List Input} {inputs' : List Input'} (hInputs : List.Forall₂ alike inputs inputs')

include h hStart hInputs

theorem after : related (T.after start inputs) (T'.after start' inputs') := by
  induction hInputs generalizing start start' with
  | nil => exact hStart
  | cons hInput _ ih => exact ih (h.state hStart hInput)

theorem emitted : List.Forall₂ same (T.emitted start inputs) (T'.emitted start' inputs') := by
  induction hInputs generalizing start start' with
  | nil => exact .nil
  | cons hInput _ ih => exact List.rel_append (h.output hStart hInput) (ih (h.state hStart hInput))

end Simulation

end Semantics
