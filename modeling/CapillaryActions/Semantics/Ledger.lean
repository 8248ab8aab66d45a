import CapillaryActions.Semantics.Reassembly
import Mathlib.Data.List.Flatten

/-! A ledger of a framed stream. Every content that enters the buffer is in
exactly one place later: among what a boundary took out of the buffer, or still
in it. Unlike the accounting by length, this keeps the contents themselves, and
their order. -/
namespace Semantics.Framing

universe u v w

variable {Key : Type u} {Content : Type v} {Letter : Type w}

/-- All contents of a stream, of any key. -/
def contents (history : List (Mark Key Content)) : List Content :=
  history.filterMap Mark.content?

@[simp] theorem contents_cons (mark : Mark Key Content) (history : List (Mark Key Content)) :
    contents (mark :: history) = mark.content?.toList ++ contents history := by
  cases mark <;> rfl

/-- Where there is a buffer or none makes no difference to what it holds. -/
theorem buffer_step_getD (held : Option (List Content)) (mark : Mark Key Content) :
    (buffer.step held mark).1.getD [] = (gauge.step (held.getD []) mark).1 := by
  cases mark <;> rfl

/-- The ledger balances, content by content. -/
theorem gauge_balance (held : List Content) (history : List (Mark Key Content)) :
    held ++ contents history =
      (gauge.emitted held history).flatMap Prod.snd ++ gauge.after held history := by
  induction history generalizing held with
  | nil => simp [contents]
  | cons mark history ih =>
      have hRest := ih (gauge.step held mark).1
      rw [contents_cons, Transducer.emitted_cons, Transducer.after_cons, List.flatMap_append,
        List.append_assoc, ← hRest]
      cases mark <;> simp [gauge, Mark.content?]

/-- Leaving out some parts changes a text exactly if one of them has text. -/
theorem flatMap_ite_append_eq_iff {Part : Type*} (keep : Part → Bool) (text : Part → List Letter)
    (parts : List Part) (rest : List Letter) :
    (parts.flatMap fun part => if keep part then text part else []) ++ rest =
        parts.flatMap text ++ rest ↔
      ∀ part ∈ parts, keep part = false → text part = [] := by
  have hShorter : ∀ part, (if keep part then text part else []).length ≤ (text part).length := by
    intro part
    split <;> simp
  induction parts with
  | nil => simp
  | cons part parts ih =>
      cases hKeep : keep part with
      | true => simp [hKeep, ← ih]
      | false =>
          rw [List.flatMap_cons, List.flatMap_cons, List.forall_mem_cons, hKeep,
            if_neg Bool.false_ne_true, List.nil_append]
          constructor
          · intro h
            have hShort : (parts.flatMap fun part => if keep part then text part else []).length ≤
                (parts.flatMap text).length := by
              rw [List.length_flatMap, List.length_flatMap]
              exact List.sum_le_sum fun part _ => hShorter part
            have hLength := congrArg List.length h
            simp only [List.length_append] at hLength
            have hEmpty : text part = [] := List.length_eq_zero_iff.mp (by omega)
            rw [hEmpty, List.nil_append] at h
            exact ⟨fun _ => hEmpty, ih.mp h⟩
          · intro h
            obtain ⟨hEmpty, hRest⟩ := h
            rw [hEmpty rfl, List.nil_append]
            exact ih.mpr hRest

end Semantics.Framing
