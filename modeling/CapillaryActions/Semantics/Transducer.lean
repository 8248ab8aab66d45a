import Mathlib.Logic.Function.Basic
import Mathlib.Data.List.Basic
import Mathlib.Data.List.Induction

/-! Deterministic transducers over finite input sequences. A step reads one
input, moves to a successor state and emits a finite list of outputs. The rules
below carry a one-step fact to every run: invariants, look-back descriptions of
the outputs, refinement along an abstraction map, and isolation of the keys of
a product that shares nothing but its input sequence. -/
namespace Semantics

universe u v w

/-- One input at a time, with any number of outputs for each of them. -/
structure Transducer (State : Type u) (Input : Type v) (Output : Type w) where
  step : State → Input → State × List Output

namespace Transducer

variable {State : Type u} {Input : Type v} {Output : Type w}

/-- The state reached by a finite input sequence. -/
def after (T : Transducer State Input Output) (start : State) (inputs : List Input) : State :=
  inputs.foldl (fun state input => (T.step state input).1) start

/-- All outputs of a finite input sequence, in the order they were emitted. -/
def emitted (T : Transducer State Input Output) (start : State) : List Input → List Output
  | [] => []
  | input :: inputs => (T.step start input).2 ++ T.emitted (T.step start input).1 inputs

/-- The inputs of a run that are kept, each judged in the state it was read in. -/
def surviving (T : Transducer State Input Output) (keep : State → Input → Bool) (start : State) :
    List Input → List Input
  | [] => []
  | input :: inputs =>
      let rest := T.surviving keep (T.step start input).1 inputs
      if keep start input then input :: rest else rest

variable (T : Transducer State Input Output)

@[simp] theorem after_nil (start : State) : T.after start [] = start := rfl

@[simp] theorem after_cons (start : State) (input : Input) (inputs : List Input) :
    T.after start (input :: inputs) = T.after (T.step start input).1 inputs := rfl

theorem after_append (start : State) (first second : List Input) :
    T.after start (first ++ second) = T.after (T.after start first) second := by
  simp [after, List.foldl_append]

@[simp] theorem emitted_nil (start : State) : T.emitted start [] = [] := rfl

@[simp] theorem emitted_cons (start : State) (input : Input) (inputs : List Input) :
    T.emitted start (input :: inputs) =
      (T.step start input).2 ++ T.emitted (T.step start input).1 inputs := rfl

theorem emitted_append (start : State) (first second : List Input) :
    T.emitted start (first ++ second) =
      T.emitted start first ++ T.emitted (T.after start first) second := by
  induction first generalizing start with
  | nil => rfl
  | cons input first ih =>
      simp [ih]

/-- Invariant rule. A property that every step preserves on the inputs of the
sequence holds of the state the sequence reaches. -/
theorem after_invariant (inv : State → Prop) {inputs : List Input}
    (hStep : ∀ state, ∀ input ∈ inputs, inv state → inv (T.step state input).1)
    {start : State} (hStart : inv start) : inv (T.after start inputs) := by
  induction inputs generalizing start with
  | nil => exact hStart
  | cons input inputs ih =>
      exact ih (fun state next hMem => hStep state next (List.mem_cons_of_mem _ hMem))
        (hStep start input (List.mem_cons_self ..) hStart)

/-- Deletion rule. Inputs on which no step moves, where they are read, can be
deleted from the run: it still reaches the same state. -/
theorem after_surviving {keep : State → Input → Bool}
    (hStep : ∀ state input, keep state input = false → (T.step state input).1 = state)
    (start : State) (inputs : List Input) :
    T.after start (T.surviving keep start inputs) = T.after start inputs := by
  induction inputs generalizing start with
  | nil => rfl
  | cons input inputs ih =>
      cases hKeep : keep start input with
      | true => simp only [surviving, hKeep, if_true, after_cons, ih]
      | false =>
          have hSame := hStep start input hKeep
          simp only [surviving, hKeep, Bool.false_eq_true, if_false, after_cons, hSame, ih]

/-- Judged without the state, the inputs that are kept are a filtered list. -/
theorem surviving_eq_filter (keep : Input → Bool) (start : State) (inputs : List Input) :
    T.surviving (fun _ => keep) start inputs = inputs.filter keep := by
  induction inputs generalizing start with
  | nil => rfl
  | cons input inputs ih => rw [surviving, List.filter_cons, ih]

/-- Stuttering rule. Inputs on which no step moves can be left out. -/
theorem after_filter {keep : Input → Bool}
    (hStep : ∀ state input, keep input = false → (T.step state input).1 = state)
    (start : State) (inputs : List Input) :
    T.after start (inputs.filter keep) = T.after start inputs := by
  rw [← T.surviving_eq_filter keep start]
  exact T.after_surviving hStep start inputs

/-- Output rule. What every single step guarantees of its own outputs holds of
all outputs of a run, from any starting state. -/
theorem forall_emitted {good : Output → Prop} {inputs : List Input}
    (hStep : ∀ state, ∀ input ∈ inputs, ∀ output ∈ (T.step state input).2, good output)
    (start : State) : ∀ output ∈ T.emitted start inputs, good output := by
  induction inputs generalizing start with
  | nil => simp
  | cons input inputs ih =>
      intro output hMem
      rcases List.mem_append.mp hMem with hMem | hMem
      · exact hStep start input (List.mem_cons_self ..) output hMem
      · exact ih (fun state next hNext => hStep state next (List.mem_cons_of_mem _ hNext))
          _ output hMem

/-- Silence rule. A run emits nothing exactly when no step of it does. -/
theorem emitted_eq_nil_iff {silent : Input → Prop} {inputs : List Input}
    (hStep : ∀ state, ∀ input ∈ inputs, (T.step state input).2 = [] ↔ silent input)
    (start : State) : T.emitted start inputs = [] ↔ ∀ input ∈ inputs, silent input := by
  induction inputs generalizing start with
  | nil => simp
  | cons input inputs ih =>
      have hRest := ih fun state next hMem => hStep state next (List.mem_cons_of_mem _ hMem)
      simp [hStep start input (List.mem_cons_self ..), hRest]

/-- Look-back rule. The outputs of a run are those of its single steps, each
taken from the state that its own history reaches. -/
theorem emitted_eq_flatMap (start : State) (inputs : List Input) :
    T.emitted start inputs =
      inputs.zipIdx.flatMap fun entry =>
        (T.step (T.after start (inputs.take entry.2)) entry.1).2 := by
  induction inputs using List.reverseRecOn with
  | nil => rfl
  | append_singleton inputs input ih =>
      -- Earlier entries look back on a proper prefix, which is unchanged.
      have hPrefix : ∀ entry ∈ inputs.zipIdx,
          (inputs ++ [input]).take entry.2 = inputs.take entry.2 := by
        intro entry hMem
        have hIdx := (List.mem_zipIdx' hMem).1
        exact List.take_append_of_le_length (Nat.le_of_lt hIdx)
      rw [emitted_append, ih, List.zipIdx_append, List.flatMap_append]
      congr 1
      · exact List.flatMap_congr fun entry hMem => by rw [hPrefix entry hMem]
      · simp

end Transducer

/-- A concrete transducer refines an abstract one along an abstraction of
states, inputs and outputs: the abstraction commutes with every single step. -/
structure Refines {State : Type u} {Input : Type v} {Output : Type w}
    {State' : Type*} {Input' : Type*} {Output' : Type*}
    (concrete : Transducer State Input Output) (abstract : Transducer State' Input' Output')
    (absState : State → State') (absInput : Input → Input') (absOutput : Output → Output') :
    Prop where
  state : ∀ s i, absState (concrete.step s i).1 = (abstract.step (absState s) (absInput i)).1
  output : ∀ s i, (concrete.step s i).2.map absOutput =
    (abstract.step (absState s) (absInput i)).2

namespace Refines

variable {State : Type u} {Input : Type v} {Output : Type w}
    {State' : Type*} {Input' : Type*} {Output' : Type*}
    {concrete : Transducer State Input Output} {abstract : Transducer State' Input' Output'}
    {absState : State → State'} {absInput : Input → Input'} {absOutput : Output → Output'}

theorem after (h : Refines concrete abstract absState absInput absOutput)
    (start : State) (inputs : List Input) :
    absState (concrete.after start inputs) =
      abstract.after (absState start) (inputs.map absInput) := by
  induction inputs generalizing start with
  | nil => rfl
  | cons input inputs ih =>
      rw [Transducer.after_cons, ih, h.state]
      rfl

theorem emitted (h : Refines concrete abstract absState absInput absOutput)
    (start : State) (inputs : List Input) :
    (concrete.emitted start inputs).map absOutput =
      abstract.emitted (absState start) (inputs.map absInput) := by
  induction inputs generalizing start with
  | nil => rfl
  | cons input inputs ih =>
      simp only [Transducer.emitted_cons, List.map_append, List.map_cons]
      rw [ih, h.output, h.state]

end Refines

/-- Refinement on some of the inputs. It carries over to every sequence of
these. -/
structure RefinesOn {State : Type u} {Input : Type v} {Output : Type w}
    {State' : Type*} {Input' : Type*} {Output' : Type*} (good : Input → Prop)
    (concrete : Transducer State Input Output) (abstract : Transducer State' Input' Output')
    (absState : State → State') (absInput : Input → Input') (absOutput : Output → Output') :
    Prop where
  state : ∀ s i, good i →
    absState (concrete.step s i).1 = (abstract.step (absState s) (absInput i)).1
  output : ∀ s i, good i → (concrete.step s i).2.map absOutput =
    (abstract.step (absState s) (absInput i)).2

namespace RefinesOn

variable {State : Type u} {Input : Type v} {Output : Type w}
    {State' : Type*} {Input' : Type*} {Output' : Type*} {good : Input → Prop}
    {concrete : Transducer State Input Output} {abstract : Transducer State' Input' Output'}
    {absState : State → State'} {absInput : Input → Input'} {absOutput : Output → Output'}

theorem after (h : RefinesOn good concrete abstract absState absInput absOutput)
    (start : State) {inputs : List Input} (hGood : ∀ input ∈ inputs, good input) :
    absState (concrete.after start inputs) =
      abstract.after (absState start) (inputs.map absInput) := by
  induction inputs generalizing start with
  | nil => rfl
  | cons input inputs ih =>
      obtain ⟨hInput, hRest⟩ := List.forall_mem_cons.mp hGood
      rw [Transducer.after_cons, ih _ hRest, h.state start input hInput]
      rfl

theorem emitted (h : RefinesOn good concrete abstract absState absInput absOutput)
    (start : State) {inputs : List Input} (hGood : ∀ input ∈ inputs, good input) :
    (concrete.emitted start inputs).map absOutput =
      abstract.emitted (absState start) (inputs.map absInput) := by
  induction inputs generalizing start with
  | nil => rfl
  | cons input inputs ih =>
      obtain ⟨hInput, hRest⟩ := List.forall_mem_cons.mp hGood
      simp only [Transducer.emitted_cons, List.map_append, List.map_cons]
      rw [ih _ hRest, h.output start input hInput, h.state start input hInput]

end RefinesOn

/-! Products indexed by a key. Every key owns one component state; an input
and an output carry the key they belong to. -/
namespace Transducer

variable {Key : Type*} [DecidableEq Key] {State : Type u} {Input : Type v} {Output : Type w}

/-- The subsequence of one key, with the key itself dropped. -/
def select {Item : Type*} (key : Key) (items : List (Key × Item)) : List Item :=
  items.filterMap fun item => if item.1 = key then some item.2 else none

@[simp] theorem select_nil {Item : Type*} (key : Key) :
    select key ([] : List (Key × Item)) = [] := rfl

@[simp] theorem select_cons {Item : Type*} (key : Key) (item : Key × Item)
    (items : List (Key × Item)) :
    select key (item :: items) =
      if item.1 = key then item.2 :: select key items else select key items := by
  by_cases h : item.1 = key <;> simp [select, h]

@[simp] theorem select_append {Item : Type*} (key : Key) (first second : List (Key × Item)) :
    select key (first ++ second) = select key first ++ select key second := by
  simp [select]

theorem select_map_mk {Item : Type*} (key other : Key) (items : List Item) :
    select key (items.map (Prod.mk other)) = if other = key then items else [] := by
  by_cases h : other = key
  · simp [select, List.filterMap_map, h]
  · simp [select, List.filterMap_map, h]

/-- A sequence of a single key is its own subsequence. -/
theorem select_eq_map {Item : Type*} {key : Key} {items : List (Key × Item)}
    (h : ∀ item ∈ items, item.1 = key) : select key items = items.map Prod.snd := by
  induction items with
  | nil => rfl
  | cons item items ih =>
      rw [select_cons, if_pos (h item (List.mem_cons_self ..)),
        ih fun other hMem => h other (List.mem_cons_of_mem _ hMem)]
      rfl

/-- Selecting from inputs labelled with a key of theirs is filtering by it. -/
theorem select_map_label {Item : Type*} (key : Key) (label : Item → Key) (items : List Item) :
    select key (items.map fun item => (label item, item)) =
      items.filter fun item => label item = key := by
  induction items with
  | nil => rfl
  | cons item items ih =>
      by_cases h : label item = key <;> simp [h, ih]

/-- Selecting by the key goes with any change of what the key stands by. -/
theorem select_map_snd {Item Item' : Type*} (key : Key) (change : Item → Item')
    (items : List (Key × Item)) :
    select key (items.map fun item => (item.1, change item.2)) = (select key items).map change := by
  induction items with
  | nil => rfl
  | cons item items ih =>
      by_cases h : item.1 = key <;> simp [h, ih]

/-- Only the component that an input addresses takes a step. -/
def keyed (T : Transducer State Input Output) :
    Transducer (Key → State) (Key × Input) (Key × Output) where
  step state input :=
    (Function.update state input.1 (T.step (state input.1) input.2).1,
      (T.step (state input.1) input.2).2.map (Prod.mk input.1))

/-- Isolation of states. The component of a key runs on its own inputs, in
their relative order, whatever the other keys were sent in between. -/
theorem keyed_after (T : Transducer State Input Output) (start : Key → State)
    (inputs : List (Key × Input)) (key : Key) :
    (keyed T).after start inputs key = T.after (start key) (select key inputs) := by
  induction inputs generalizing start with
  | nil => rfl
  | cons input inputs ih =>
      rw [after_cons, ih, select_cons]
      by_cases h : input.1 = key
      · subst h
        simp [keyed]
      · simp [keyed, h, Function.update_of_ne (Ne.symm h)]

/-- Isolation of outputs. What a key emits is what its component would emit
if it were alone. -/
theorem select_keyed_emitted (T : Transducer State Input Output) (start : Key → State)
    (inputs : List (Key × Input)) (key : Key) :
    select key ((keyed T).emitted start inputs) =
      T.emitted (start key) (select key inputs) := by
  induction inputs generalizing start with
  | nil => rfl
  | cons input inputs ih =>
      rw [emitted_cons, select_append, ih, select_cons]
      by_cases h : input.1 = key
      · subst h
        simp [keyed, select_map_mk]
      · simp [keyed, h, select_map_mk, Function.update_of_ne (Ne.symm h)]

/-- Every output carries the key of an input. -/
theorem keyed_emitted_key (T : Transducer State Input Output) {inputs : List (Key × Input)} {key : Key}
    (h : ∀ input ∈ inputs, input.1 = key) (start : Key → State) :
    ∀ output ∈ (keyed T).emitted start inputs, output.1 = key := by
  refine (keyed T).forall_emitted ?_ start
  intro state input hMem output hOutput
  obtain ⟨_, _, rfl⟩ := List.mem_map.mp hOutput
  exact h input hMem

end Transducer
end Semantics
