import CapillaryActions.Semantics.Transducer
import Mathlib.Data.List.DropRight

/-! Framed streams on a single buffer. A block is a start mark, content marks
and a stop mark; marks of different keys may be interleaved. One buffer serves
the whole stream and ignores the keys. This file relates the buffer to a
description that only looks back through the history; which interleavings it
reassembles correctly is settled in `Reassembly`. -/
namespace Semantics.Framing

universe u v

/-- One element of an interleaved stream. Unframed elements are `other`. -/
inductive Mark (Key : Type u) (Content : Type v) where
  | start (key : Key)
  | chunk (key : Key) (content : Content)
  | stop (key : Key)
  | other
  deriving DecidableEq, Repr

variable {Key : Type u} {Content : Type v}

namespace Mark

/-- A start or a stop, where a buffer is reset. -/
def isBoundary : Mark Key Content → Bool
  | start _ | stop _ => true
  | chunk _ _ | other => false

def isStop : Mark Key Content → Bool
  | stop _ => true
  | start _ | chunk _ _ | other => false

/-- Everything that belongs to some block. -/
def isFraming : Mark Key Content → Bool
  | start _ | chunk _ _ | stop _ => true
  | other => false

def key? : Mark Key Content → Option Key
  | start key | chunk key _ | stop key => some key
  | other => none

def content? : Mark Key Content → Option Content
  | chunk _ content => some content
  | start _ | stop _ | other => none

/-- The content of a chunk of the given key. -/
def contentFor? [DecidableEq Key] (key : Key) : Mark Key Content → Option Content
  | chunk k content => if k = key then some content else none
  | start _ | stop _ | other => none

end Mark

/-- Contents after the latest boundary of a history, in order. All of the
history counts when it has no boundary. -/
def pending (history : List (Mark Key Content)) : List Content :=
  (history.rtakeWhile fun mark => !mark.isBoundary).filterMap Mark.content?

@[simp] theorem pending_nil : pending ([] : List (Mark Key Content)) = [] := rfl

theorem pending_concat (history : List (Mark Key Content)) (mark : Mark Key Content) :
    pending (history ++ [mark]) =
      if mark.isBoundary then [] else pending history ++ mark.content?.toList := by
  cases mark <;> simp [pending, Mark.isBoundary, Mark.content?]

/-- A history whose last framing mark, if it has one, is a stop. -/
def Settled (history : List (Mark Key Content)) : Prop :=
  ∀ mark ∈ (history.filter Mark.isFraming).getLast?, mark.isStop

instance (history : List (Mark Key Content)) : Decidable (Settled history) := by
  unfold Settled
  infer_instance

@[simp] theorem settled_nil : Settled ([] : List (Mark Key Content)) := by
  simp [Settled]

theorem settled_concat (history : List (Mark Key Content)) (mark : Mark Key Content) :
    Settled (history ++ [mark]) ↔
      (if mark.isFraming then mark.isStop = true else Settled history) := by
  cases mark <;> simp [Settled, Mark.isFraming, Mark.isStop]

theorem Settled.append {first second : List (Mark Key Content)}
    (hFirst : Settled first) (hSecond : Settled second) : Settled (first ++ second) := by
  intro mark hLast
  rw [List.filter_append, List.getLast?_append, Option.mem_def, Option.or_eq_some_iff] at hLast
  rcases hLast with hLast | ⟨_, hLast⟩
  · exact hSecond mark hLast
  · exact hFirst mark hLast

/-- A continuation is settled on its own when the whole history is: either it
has a last framing mark, which is then that of the history, or it has none. -/
theorem Settled.of_append {first second : List (Mark Key Content)}
    (h : Settled (first ++ second)) : Settled second := by
  intro mark hLast
  apply h mark
  rw [List.filter_append, List.getLast?_append, Option.mem_def, Option.or_eq_some_iff]
  exact Or.inl hLast

/-- The buffer machine. A start resets the buffer, a chunk is added to it (to
a new one if there is none), and a stop flushes it. Keys are not looked at. -/
def buffer : Transducer (Option (List Content)) (Mark Key Content) (List Content) where
  step held mark := match mark with
    | .start _ => (some [], [])
    | .chunk _ content => (some (held.getD [] ++ [content]), [])
    | .stop _ => (none, [held.getD []])
    | .other => (held, [])

/-- What the buffer holds is what was delivered since the latest boundary. -/
theorem buffer_getD (history : List (Mark Key Content)) :
    (buffer.after none history).getD [] = pending history := by
  induction history using List.reverseRecOn with
  | nil => rfl
  | append_singleton history mark ih =>
      rw [Transducer.after_append, pending_concat]
      cases mark <;> simp [buffer, Mark.isBoundary, Mark.content?] <;> simpa [buffer] using ih

/-- The buffer exists exactly while a block is open. -/
theorem buffer_eq_none_iff (history : List (Mark Key Content)) :
    buffer.after none history = none ↔ Settled history := by
  induction history using List.reverseRecOn with
  | nil => simp
  | append_singleton history mark ih =>
      rw [Transducer.after_append, settled_concat]
      cases mark <;> simp [buffer, Mark.isFraming, Mark.isStop]
      simpa [buffer] using ih

/-- Nothing is pending from a settled history. -/
theorem Settled.pending_append {first : List (Mark Key Content)} (h : Settled first)
    (second : List (Mark Key Content)) : pending (first ++ second) = pending second := by
  rw [← buffer_getD, ← buffer_getD, Transducer.after_append, (buffer_eq_none_iff first).mpr h]

end Semantics.Framing
