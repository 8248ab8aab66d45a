import Mathlib.Data.List.Forall2
import Mathlib.Tactic.Common

/-! Validation that collects failures. Unlike a monadic check, it goes on after
a failure and reports all of them in order; it succeeds exactly when every part
does. The rules below are about success, where the order does not show, and then
about what is reported, where it does. -/
namespace Semantics.Validation

universe u v w

/-- A value, or every failure that was found. -/
abbrev Validated (Failure : Type u) (α : Type v) := Except (List Failure) α

variable {Failure : Type u} {α : Type v} {β : Type w}

/-- Check both parts, whatever becomes of the first. -/
def both (first : Validated Failure α) (second : Validated Failure β) :
    Validated Failure (α × β) :=
  match first, second with
  | .ok a, .ok b => .ok (a, b)
  | .ok _, .error failures => .error failures
  | .error failures, .ok _ => .error failures
  | .error failures, .error more => .error (failures ++ more)

theorem both_eq_ok {first : Validated Failure α} {second : Validated Failure β} {pair : α × β} :
    both first second = .ok pair ↔ first = .ok pair.1 ∧ second = .ok pair.2 := by
  obtain ⟨a, b⟩ := pair
  cases first <;> cases second <;> simp [both]

/-- Check every element, telling each of its failures the position. -/
def each (check : α → Validated Failure β) (place : Nat → Failure → Failure) :
    Nat → List α → Validated Failure (List β)
  | _, [] => .ok []
  | position, item :: items =>
      (both ((check item).mapError (·.map (place position))) (each check place (position + 1) items)).map
        fun results => results.1 :: results.2

theorem mapError_eq_ok {Failure' : Type*} {change : List Failure → List Failure'}
    {result : Validated Failure α} {a : α} :
    result.mapError change = .ok a ↔ result = .ok a := by
  cases result <;> simp [Except.mapError]

theorem map_eq_ok {change : α → β} {result : Validated Failure α} {b : β} :
    result.map change = .ok b ↔ ∃ a, result = .ok a ∧ change a = b := by
  cases result <;> simp [Except.map]

theorem bind_eq_ok {Error : Type*} {γ δ : Type u} {first : Except Error γ}
    {next : γ → Except Error δ} {b : δ} :
    (first >>= next) = .ok b ↔ ∃ a, first = .ok a ∧ next a = .ok b := by
  cases first <;> simp [bind, Except.bind]

/-- What comes after a failure does not matter. -/
theorem bind_bind_of_error {Error : Type*} {γ δ ε : Type u} {first : Except Error γ}
    {next : γ → Except Error δ} {last : γ → δ → Except Error ε} {failure : Error}
    (h : (first >>= next) = .error failure) :
    (first >>= fun a => next a >>= last a) = .error failure := by
  cases first with
  | error found => simpa [bind, Except.bind] using h
  | ok a =>
      have hNext : next a = .error failure := h
      simp [bind, Except.bind, hNext]

/-- A loop that may raise succeeds exactly when it does on each element. -/
theorem mapM_eq_ok {Error : Type u} {α γ : Type u} {check : α → Except Error γ} {items : List α}
    {results : List γ} :
    items.mapM check = .ok results ↔
      List.Forall₂ (fun item result => check item = .ok result) items results := by
  induction items generalizing results with
  | nil => simp [pure, Except.pure, eq_comm]
  | cons item items ih =>
      simp only [List.mapM_cons, bind_eq_ok, ih, pure, Except.pure, Except.ok.injEq]
      constructor
      · intro h
        obtain ⟨first, hFirst, rest, hRest, rfl⟩ := h
        exact .cons hFirst hRest
      · intro h
        cases h with
        | cons hFirst hRest => exact ⟨_, hFirst, _, hRest, rfl⟩

/-- Elementwise validation succeeds exactly when it does on each element, with
the results in the order of the elements. -/
theorem each_eq_ok {check : α → Validated Failure β} {place : Nat → Failure → Failure}
    {position : Nat} {items : List α} {results : List β} :
    each check place position items = .ok results ↔
      List.Forall₂ (fun item result => check item = .ok result) items results := by
  induction items generalizing position results with
  | nil =>
      simp only [each, List.forall₂_nil_left_iff, Except.ok.injEq]
      exact eq_comm
  | cons item items ih =>
      rw [each, map_eq_ok]
      constructor
      · intro h
        obtain ⟨⟨first, rest⟩, hBoth, rfl⟩ := h
        obtain ⟨hFirst, hRest⟩ := both_eq_ok.mp hBoth
        exact .cons (mapError_eq_ok.mp hFirst) (ih.mp hRest)
      · intro h
        cases h with
        | cons hFirst hRest =>
            exact ⟨(_, _), both_eq_ok.mpr ⟨mapError_eq_ok.mpr hFirst, ih.mpr hRest⟩, rfl⟩

/-! What is reported. -/

/-- The failures of a validation, none if it succeeds. -/
def failures : Validated Failure α → List Failure
  | .ok _ => []
  | .error found => found

@[simp] theorem failures_ok (a : α) : failures (.ok a : Validated Failure α) = [] := rfl

@[simp] theorem failures_error (found : List Failure) :
    failures (.error found : Validated Failure α) = found := rfl

/-- Both parts report, in order. -/
theorem failures_both (first : Validated Failure α) (second : Validated Failure β) :
    failures (both first second) = failures first ++ failures second := by
  cases first <;> cases second <;> simp [both]

theorem failures_map (change : α → β) (result : Validated Failure α) :
    failures (result.map change) = failures result := by
  cases result <;> rfl

/-- A validation that does not succeed raises what it reports. -/
theorem eq_error_failures {result : Validated Failure α} (h : ∀ a, result ≠ .ok a) :
    result = .error (failures result) := by
  cases result with
  | ok a => exact absurd rfl (h a)
  | error found => rfl

/-- If the validation fails, it reports something, and every failure it reports
is of the given kind. -/
def Reports (kind : Failure → Prop) (result : Validated Failure α) : Prop :=
  ∀ found, result = .error found → found ≠ [] ∧ ∀ failure ∈ found, kind failure

namespace Reports

variable {kind : Failure → Prop}

theorem ok (a : α) : Reports kind (.ok a : Validated Failure α) := by
  intro found h
  cases h

theorem error {found : List Failure} (hFound : found ≠ []) (h : ∀ failure ∈ found, kind failure) :
    Reports kind (.error found : Validated Failure α) := by
  intro other hOther
  cases hOther
  exact ⟨hFound, h⟩

theorem both {first : Validated Failure α} {second : Validated Failure β}
    (hFirst : Reports kind first) (hSecond : Reports kind second) :
    Reports kind (both first second) := by
  cases first with
  | ok a =>
      cases second with
      | ok b => exact ok _
      | error found =>
          obtain ⟨hSome, hAll⟩ := hSecond found rfl
          exact error hSome hAll
  | error found =>
      obtain ⟨hSome, hAll⟩ := hFirst found rfl
      cases second with
      | ok b => exact error hSome hAll
      | error more =>
          obtain ⟨_, hMore⟩ := hSecond more rfl
          refine error (List.append_ne_nil_of_left_ne_nil hSome more) ?_
          intro failure hMem
          rcases List.mem_append.mp hMem with hMem | hMem
          · exact hAll failure hMem
          · exact hMore failure hMem

theorem map {change : α → β} {result : Validated Failure α} (h : Reports kind result) :
    Reports kind (result.map change) := by
  cases result with
  | ok a => exact ok _
  | error found =>
      obtain ⟨hSome, hAll⟩ := h found rfl
      exact error hSome hAll

theorem bind {α β : Type w} {first : Validated Failure α} {next : α → Validated Failure β}
    (hFirst : Reports kind first) (hNext : ∀ a, Reports kind (next a)) :
    Reports kind (first >>= next) := by
  cases first with
  | ok a => exact hNext a
  | error found =>
      obtain ⟨hSome, hAll⟩ := hFirst found rfl
      exact error hSome hAll

theorem mapError {Failure' : Type*} {kind' : Failure' → Prop} {change : Failure → Failure'}
    (hChange : ∀ failure, kind failure → kind' (change failure)) {result : Validated Failure α}
    (h : Reports kind result) : Reports kind' (result.mapError (·.map change)) := by
  cases result with
  | ok a => exact ok _
  | error found =>
      obtain ⟨hSome, hAll⟩ := h found rfl
      refine error (by simpa using hSome) ?_
      intro failure hMem
      obtain ⟨original, hOriginal, rfl⟩ := List.mem_map.mp hMem
      exact hChange original (hAll original hOriginal)

theorem each {check : α → Validated Failure β} {place : Nat → Failure → Failure}
    (hPlace : ∀ position failure, kind failure → kind (place position failure))
    (hCheck : ∀ item, Reports kind (check item)) (position : Nat) (items : List α) :
    Reports kind (each check place position items) := by
  induction items generalizing position with
  | nil => exact ok _
  | cons item items ih =>
      exact (((hCheck item).mapError (hPlace position)).both (ih (position + 1))).map

end Reports

/-! Loops that may raise. -/

end Semantics.Validation
