import CapillaryActions.Semantics.Framing
import Mathlib.Algebra.GroupWithZero.Nat
import Mathlib.Algebra.Order.BigOperators.Group.List
import Mathlib.Algebra.Order.Group.Nat
import Mathlib.Data.List.Infix
import Mathlib.Tactic.Common

/-! Which interleavings a single buffer reassembles. A stream of closed blocks
is reassembled when every stop flushes exactly the text of its own block. The
characterization is exact: no chunk with text may be followed by a boundary of
another block before the stop of its own. Sufficiency is local to one stop.
Necessity counts text over the whole stream, since a lost chunk may be masked
at one stop by an equal chunk of another block. -/
namespace Semantics.Framing

universe u v w

variable {Key : Type u} {Content : Type v} {Letter : Type w} [DecidableEq Key]

/-- Contents carried by one key, in order. -/
def contentsOf (key : Key) (history : List (Mark Key Content)) : List Content :=
  history.filterMap (Mark.contentFor? key)

/-- The marks of every key that occurs form one block: a start, contents and a
stop, in that order. Nothing is said about how blocks are interleaved. -/
def Closed (history : List (Mark Key Content)) : Prop :=
  ∀ key, (∃ mark ∈ history, mark.key? = some key) →
    ∃ contents : List Content, history.filter (fun mark => mark.key? = some key) =
      .start key :: (contents.map (.chunk key) ++ [.stop key])

/-- It is enough to look at the keys that may occur. -/
theorem Closed.of_keys {history : List (Mark Key Content)} (keys : List Key)
    (hKeys : ∀ mark ∈ history, ∀ key ∈ mark.key?, key ∈ keys)
    (h : ∀ key ∈ keys, ∃ contents : List Content, history.filter (fun mark => mark.key? = some key) =
      .start key :: (contents.map (.chunk key) ++ [.stop key])) : Closed history := by
  intro key hOccurs
  obtain ⟨mark, hMem, hKey⟩ := hOccurs
  exact h key (hKeys mark hMem key hKey)

/-- Every stop flushes the text of its own block. -/
def Reassembles (text : Content → List Letter) (history : List (Mark Key Content)) : Prop :=
  ∀ before key after, history = before ++ .stop key :: after →
    (pending before).flatMap text = (contentsOf key history).flatMap text

/-- After a chunk with text, the next boundary is the stop of its own block. -/
def Undisturbed (text : Content → List Letter) (history : List (Mark Key Content)) : Prop :=
  ∀ before key content after, history = before ++ .chunk key content :: after →
    text content ≠ [] → after.find? Mark.isBoundary = some (.stop key)

omit [DecidableEq Key] in
theorem undisturbed_nil (text : Content → List Letter) :
    Undisturbed text ([] : List (Mark Key Content)) := by
  rintro (_ | ⟨_, _⟩) key content after hSplit <;> cases hSplit

omit [DecidableEq Key] in
/-- Only the first mark looks at what follows it. -/
theorem undisturbed_cons (text : Content → List Letter) (mark : Mark Key Content)
    (history : List (Mark Key Content)) :
    Undisturbed text (mark :: history) ↔
      (∀ key content, mark = .chunk key content → text content ≠ [] →
        history.find? Mark.isBoundary = some (.stop key)) ∧ Undisturbed text history := by
  constructor
  · intro h
    refine ⟨?_, fun before key content after hSplit => h (mark :: before) key content after ?_⟩
    · rintro key content rfl
      exact h [] key content history rfl
    · rw [hSplit, List.cons_append]
  · intro h before key content after hSplit
    obtain ⟨hFirst, hRest⟩ := h
    cases before with
    | nil =>
        obtain ⟨rfl, rfl⟩ := List.cons.inj hSplit
        exact hFirst key content rfl
    | cons first before => exact hRest before key content after (List.cons.inj hSplit).2

omit [DecidableEq Key] in
/-- An element that ends a list and occurs nowhere else determines the split. -/
theorem append_cons_eq_concat {α : Type*} {x : α} {before after rest : List α}
    (hNot : x ∉ rest) (h : before ++ x :: after = rest ++ [x]) : before = rest ∧ after = [] := by
  cases after using List.reverseRecOn with
  | nil => exact ⟨List.append_inj_left' h rfl, rfl⟩
  | append_singleton after last =>
      rw [← List.cons_append, ← List.append_assoc] at h
      have hRest := List.append_inj_left' h rfl
      exact absurd (by simp [← hRest]) hNot

section Closed

variable {history before after : List (Mark Key Content)} {key : Key}

/-- Around a stop, its block has started before and nothing of it follows. -/
theorem Closed.at_stop (hClosed : Closed history) (hSplit : history = before ++ .stop key :: after) :
    (∃ contents : List Content, before.filter (fun mark => mark.key? = some key) =
      .start key :: contents.map (.chunk key)) ∧
    after.filter (fun mark => mark.key? = some key) = [] := by
  obtain ⟨contents, hBlock⟩ := hClosed key ⟨.stop key, by simp [hSplit], rfl⟩
  rw [hSplit, List.filter_append, List.filter_cons_of_pos (by simp [Mark.key?]),
    ← List.cons_append] at hBlock
  obtain ⟨hBefore, hAfter⟩ := append_cons_eq_concat (by simp) hBlock
  exact ⟨⟨contents, hBefore⟩, hAfter⟩

theorem Closed.stop_not_mem (hClosed : Closed history)
    (hSplit : history = before ++ .stop key :: after) : .stop key ∉ before := by
  obtain ⟨contents, hBefore⟩ := (hClosed.at_stop hSplit).1
  intro hMem
  have hStop : Mark.stop key ∈ before.filter (fun mark => mark.key? = some key) :=
    List.mem_filter.mpr ⟨hMem, by simp [Mark.key?]⟩
  simp [hBefore] at hStop

theorem Closed.key_ne_of_after_stop (hClosed : Closed history)
    (hSplit : history = before ++ .stop key :: after) :
    ∀ mark ∈ after, mark.key? ≠ some key := by
  have hAfter := (hClosed.at_stop hSplit).2
  rw [List.filter_eq_nil_iff] at hAfter
  intro mark hMem hKey
  exact hAfter mark hMem (by simp [hKey])

/-- The stop of a chunk's block comes after the chunk. -/
theorem Closed.at_chunk (hClosed : Closed history) {content : Content}
    (hSplit : history = before ++ .chunk key content :: after) :
    .stop key ∉ before ∧ .stop key ∈ after := by
  have hNot : .stop key ∉ before := by
    intro hMem
    obtain ⟨first, second, rfl⟩ := List.append_of_mem hMem
    rw [List.append_assoc, List.cons_append] at hSplit
    exact hClosed.key_ne_of_after_stop hSplit (.chunk key content) (by simp) rfl
  obtain ⟨contents, hBlock⟩ := hClosed key ⟨.chunk key content, by simp [hSplit], rfl⟩
  have hMem : Mark.stop key ∈ history :=
    List.mem_of_mem_filter (p := fun mark => mark.key? = some key) (by rw [hBlock]; simp)
  refine ⟨hNot, ?_⟩
  rw [hSplit] at hMem
  simpa [hNot] using hMem

end Closed

theorem contentsOf_append (key : Key) (first second : List (Mark Key Content)) :
    contentsOf key (first ++ second) = contentsOf key first ++ contentsOf key second := by
  simp [contentsOf]

theorem contentsOf_cons (key : Key) (mark : Mark Key Content) (history : List (Mark Key Content)) :
    contentsOf key (mark :: history) = (mark.contentFor? key).toList ++ contentsOf key history := by
  unfold contentsOf
  cases hContent : mark.contentFor? key <;> simp [hContent]

theorem mem_contentsOf_iff (key : Key) (content : Content) (history : List (Mark Key Content)) :
    content ∈ contentsOf key history ↔ .chunk key content ∈ history := by
  simp only [contentsOf, List.mem_filterMap]
  constructor
  · intro h
    obtain ⟨mark, hMem, hContent⟩ := h
    cases mark <;> simp_all [Mark.contentFor?]
  · intro hMem
    exact ⟨_, hMem, by simp [Mark.contentFor?]⟩

/-- Nothing of a closed block follows its stop. -/
theorem Closed.contentsOf_eq {history before after : List (Mark Key Content)} {key : Key}
    (hClosed : Closed history) (hSplit : history = before ++ .stop key :: after) :
    contentsOf key history = contentsOf key before := by
  have hAfter : contentsOf key (.stop key :: after) = [] := by
    rw [List.eq_nil_iff_forall_not_mem]
    intro content hMem
    rcases List.mem_cons.mp ((mem_contentsOf_iff ..).mp hMem) with hMem | hMem
    · cases hMem
    · exact hClosed.key_ne_of_after_stop hSplit _ hMem rfl
  rw [hSplit, contentsOf_append, hAfter, List.append_nil]

omit [DecidableEq Key] in
/-- A history splits at its latest boundary, if it has one. -/
theorem exists_latest_boundary (history : List (Mark Key Content)) :
    ∃ old recent, history = old ++ recent ∧
      (∀ mark ∈ recent, mark.isBoundary = false) ∧
      (old = [] ∨ ∃ initial mark, old = initial ++ [mark] ∧ mark.isBoundary = true) ∧
      pending history = recent.filterMap Mark.content? := by
  induction history using List.reverseRecOn with
  | nil => exact ⟨[], [], rfl, by simp, Or.inl rfl, rfl⟩
  | append_singleton history mark ih =>
      obtain ⟨old, recent, hSplit, hRecent, hOld, hPending⟩ := ih
      cases hMark : mark.isBoundary with
      | true =>
          refine ⟨history ++ [mark], [], by simp, by simp, Or.inr ⟨history, mark, rfl, hMark⟩, ?_⟩
          simp [pending_concat, hMark]
      | false =>
          refine ⟨old, recent ++ [mark], by simp [hSplit], ?_, hOld, ?_⟩
          · intro earlier hMem
            rcases List.mem_append.mp hMem with hMem | hMem
            · exact hRecent earlier hMem
            · rw [List.mem_singleton.mp hMem, hMark]
          · rw [pending_concat, hMark, hPending]
            cases mark <;> simp [Mark.content?]

omit [DecidableEq Key] in
/-- A chunk before a boundary that ends the list is followed by some boundary. -/
theorem find?_boundary_of_concat {initial before after : List (Mark Key Content)}
    {mark : Mark Key Content} {key : Key} {content : Content} (hMark : mark.isBoundary = true)
    (hSplit : initial ++ [mark] = before ++ .chunk key content :: after) :
    ∃ found ∈ after, after.find? Mark.isBoundary = some found := by
  have hMem : mark ∈ after := by
    cases after using List.reverseRecOn with
    | nil =>
        have hLast := List.append_inj_right' hSplit rfl
        simp only [List.cons.injEq, and_true] at hLast
        subst hLast
        simp [Mark.isBoundary] at hMark
    | append_singleton after last =>
        rw [← List.cons_append, ← List.append_assoc] at hSplit
        have hLast := List.append_inj_right' hSplit rfl
        simp_all
  cases hFind : after.find? Mark.isBoundary with
  | none => exact absurd hMark (List.find?_eq_none.mp hFind mark hMem)
  | some found => exact ⟨found, List.mem_of_find?_eq_some hFind, rfl⟩

/-- Chunks of other keys that carry no text do not show. -/
theorem flatMap_content_eq (text : Content → List Letter) (key : Key)
    (marks : List (Mark Key Content))
    (h : ∀ other content, .chunk other content ∈ marks → other ≠ key → text content = []) :
    (marks.filterMap Mark.content?).flatMap text = (contentsOf key marks).flatMap text := by
  induction marks with
  | nil => rfl
  | cons mark marks ih =>
      have hTail := ih fun other content hMem => h other content (List.mem_cons_of_mem _ hMem)
      cases mark with
      | chunk other content =>
          by_cases hKey : other = key
          · simpa [contentsOf, Mark.content?, Mark.contentFor?, hKey] using hTail
          · have hEmpty := h other content (List.mem_cons_self ..) hKey
            simpa [contentsOf, Mark.content?, Mark.contentFor?, hKey, hEmpty] using hTail
      | start _ => exact hTail
      | stop _ => exact hTail
      | other => exact hTail

/-- Sufficiency, one stop at a time: the history before the stop splits at its
latest boundary into a part where the block has no text and a part where no
other block has. -/
theorem Undisturbed.reassembles {text : Content → List Letter}
    {history : List (Mark Key Content)} (hClosed : Closed history)
    (h : Undisturbed text history) : Reassembles text history := by
  intro before key after hSplit
  obtain ⟨old, recent, hParts, hRecent, hEnd, hPending⟩ := exists_latest_boundary before
  have hOld : (contentsOf key old).flatMap text = [] := by
    rw [List.flatMap_eq_nil_iff]
    intro content hMem
    by_contra hText
    obtain ⟨first, second, hChunk⟩ := List.append_of_mem ((mem_contentsOf_iff ..).mp hMem)
    rcases hEnd with rfl | ⟨initial, mark, rfl, hMark⟩
    · simp at hChunk
    · obtain ⟨found, hFound, hFind⟩ := find?_boundary_of_concat hMark hChunk
      have hStop := h first key content (second ++ recent ++ .stop key :: after)
        (by rw [hSplit, hParts, hChunk]; simp) hText
      rw [List.append_assoc, List.find?_append, hFind, Option.some_or, Option.some.injEq] at hStop
      subst hStop
      exact hClosed.stop_not_mem hSplit (by rw [hParts, hChunk]; simp [hFound])
  have hNew : (pending before).flatMap text = (contentsOf key recent).flatMap text := by
    rw [hPending]
    apply flatMap_content_eq
    intro other content hMem hOther
    by_contra hText
    obtain ⟨first, second, rfl⟩ := List.append_of_mem hMem
    have hStop := h (old ++ first) other content (second ++ .stop key :: after)
      (by rw [hSplit, hParts]; simp) hText
    have hQuiet : second.find? Mark.isBoundary = none :=
      List.find?_eq_none.mpr fun mark hMark => by simp [hRecent mark (by simp [hMark])]
    rw [List.find?_append, hQuiet] at hStop
    simp [Mark.isBoundary] at hStop
    exact hOther hStop.symm
  rw [hClosed.contentsOf_eq hSplit, hNew, hParts, contentsOf_append, List.flatMap_append, hOld,
    List.nil_append]

/-! Accounting. Text enters the buffer with a chunk, and leaves it at a boundary:
delivered by a stop, or lost to a start. -/

section Accounting

variable (text : Content → List Letter)

/-- Total length of the texts of a list of contents. -/
def size (contents : List Content) : Nat := (contents.flatMap text).length

omit [DecidableEq Key] in
open Classical in
/-- Length of the text that one mark carries for the keys under consideration. -/
noncomputable def load (keys : Key → Prop) : Mark Key Content → Nat
  | .chunk key content => if keys key then (text content).length else 0
  | .start _ | .stop _ | .other => 0

omit [DecidableEq Key] in
noncomputable def weight (keys : Key → Prop) (history : List (Mark Key Content)) : Nat :=
  (history.map (load text keys)).sum

omit [DecidableEq Key] in
@[simp] theorem weight_append (keys : Key → Prop) (first second : List (Mark Key Content)) :
    weight text keys (first ++ second) = weight text keys first + weight text keys second := by
  simp [weight]

omit [DecidableEq Key] in
@[simp] theorem weight_singleton (keys : Key → Prop) (mark : Mark Key Content) :
    weight text keys [mark] = load text keys mark := by
  simp [weight]

omit [DecidableEq Key] in
theorem weight_congr {keys keys' : Key → Prop} {history : List (Mark Key Content)}
    (h : ∀ key content, .chunk key content ∈ history → (keys key ↔ keys' key)) :
    weight text keys history = weight text keys' history := by
  unfold weight
  congr 1
  apply List.map_congr_left
  intro mark hMem
  cases mark with
  | chunk key content =>
      have hKey := h key content hMem
      by_cases hKey' : keys' key <;> simp [load, hKey, hKey']
  | start _ => rfl
  | stop _ => rfl
  | other => rfl

omit [DecidableEq Key] in
theorem weight_or {keys keys' : Key → Prop} (hDisjoint : ∀ key, keys key → ¬keys' key)
    (history : List (Mark Key Content)) :
    weight text (fun key => keys key ∨ keys' key) history =
      weight text keys history + weight text keys' history := by
  unfold weight
  rw [← List.sum_map_add]
  congr 1
  apply List.map_congr_left
  intro mark _
  cases mark with
  | chunk key content =>
      by_cases hKey : keys key
      · simp [load, hKey, hDisjoint key hKey]
      · by_cases hKey' : keys' key <;> simp [load, hKey, hKey']
  | start _ => rfl
  | stop _ => rfl
  | other => rfl

omit [DecidableEq Key] in
/-- A chunk of a key left out makes a difference by the length of its text. -/
theorem weight_add_le (keys : Key → Prop) {history : List (Mark Key Content)} {key : Key}
    {content : Content} (hMem : .chunk key content ∈ history) (hNot : ¬keys key) :
    weight text keys history + (text content).length ≤ weight text (fun _ => True) history := by
  have hLoad : ∀ mark : Mark Key Content, load text keys mark ≤ load text (fun _ => True) mark := by
    intro mark
    cases mark <;> simp [load]
    split <;> simp
  have hLe : ∀ marks : List (Mark Key Content),
      weight text keys marks ≤ weight text (fun _ => True) marks :=
    fun marks => List.sum_le_sum fun mark _ => hLoad mark
  obtain ⟨first, second, rfl⟩ := List.append_of_mem hMem
  rw [← List.singleton_append]
  simp only [weight_append, weight_singleton, load, hNot, if_true, if_false]
  have hFirst := hLe first
  have hSecond := hLe second
  omega

theorem size_contentsOf (key : Key) (history : List (Mark Key Content)) :
    size text (contentsOf key history) = weight text (· = key) history := by
  induction history with
  | nil => rfl
  | cons mark history ih =>
      rw [contentsOf_cons, ← List.singleton_append, weight_append, ← ih, weight_singleton]
      cases mark with
      | chunk k content => by_cases hKey : k = key <;> simp [size, Mark.contentFor?, load, hKey]
      | start _ => simp [Mark.contentFor?, load]
      | stop _ => simp [Mark.contentFor?, load]
      | other => simp [Mark.contentFor?, load]

/-- The buffer with everything it gives up made visible. The flag tells
contents delivered by a stop from contents lost to a start. -/
def gauge : Transducer (List Content) (Mark Key Content) (Bool × List Content) where
  step held mark := match mark with
    | .start _ => ([], [(false, held)])
    | .chunk _ content => (held ++ [content], [])
    | .stop _ => ([], [(true, held)])
    | .other => (held, [])

/-- Length of the text that left the buffer with the given flag. -/
def released (flag : Bool) (outputs : List (Bool × List Content)) : Nat :=
  ((outputs.filter (·.1 == flag)).map fun output => size text output.2).sum

@[simp] theorem released_append (flag : Bool) (first second : List (Bool × List Content)) :
    released text flag (first ++ second) = released text flag first + released text flag second := by
  simp [released]

omit [DecidableEq Key] in
theorem gauge_after (history : List (Mark Key Content)) :
    gauge.after [] history = pending history := by
  induction history using List.reverseRecOn with
  | nil => rfl
  | append_singleton history mark ih =>
      rw [Transducer.after_append, ih, pending_concat]
      cases mark <;> simp [gauge, Mark.isBoundary, Mark.content?]

omit [DecidableEq Key] in
theorem released_concat (flag : Bool) (history : List (Mark Key Content)) (mark : Mark Key Content) :
    released text flag (gauge.emitted [] (history ++ [mark])) =
      released text flag (gauge.emitted [] history) +
        released text flag (gauge.step (pending history) mark).2 := by
  rw [Transducer.emitted_append, released_append, gauge_after]
  simp

omit [DecidableEq Key] in
/-- Conservation. Text that came in was delivered, was lost, or is held. -/
theorem conservation (history : List (Mark Key Content)) :
    weight text (fun _ => True) history =
      released text true (gauge.emitted [] history) +
        released text false (gauge.emitted [] history) + size text (pending history) := by
  induction history using List.reverseRecOn with
  | nil => rfl
  | append_singleton history mark ih =>
      rw [weight_append, weight_singleton, released_concat, released_concat, pending_concat, ih]
      cases mark <;> simp [gauge, released, load, size, Mark.isBoundary, Mark.content?] <;> omega

variable {text}

/-- In a reassembled stream, what was delivered up to some point is exactly the
text of the blocks that have stopped by then. -/
theorem Reassembles.delivered_eq {history : List (Mark Key Content)} (hClosed : Closed history)
    (h : Reassembles text history) {before after : List (Mark Key Content)}
    (hSplit : history = before ++ after) :
    released text true (gauge.emitted [] before) =
      weight text (fun key => .stop key ∈ before) before := by
  induction before using List.reverseRecOn generalizing after with
  | nil => rfl
  | append_singleton before mark ih =>
      rw [List.append_assoc, List.singleton_append] at hSplit
      rw [released_concat, ih hSplit, weight_append, weight_singleton]
      cases mark with
      | stop key =>
          have hNot := hClosed.stop_not_mem hSplit
          have hFlushed : size text (pending before) = weight text (· = key) before := by
            rw [← size_contentsOf, ← hClosed.contentsOf_eq hSplit, size, size,
              h before key after hSplit]
          have hStopped : weight text (fun k => .stop k ∈ before ++ [.stop key]) before =
              weight text (fun k => .stop k ∈ before) before + weight text (· = key) before := by
            have hDisjoint : ∀ k, .stop k ∈ before → ¬k = key := by
              rintro k hMem rfl
              exact hNot hMem
            rw [← weight_or text hDisjoint]
            exact weight_congr text fun k _ _ => by simp
          rw [hStopped, ← hFlushed]
          simp [gauge, released, load]
      | chunk key content =>
          have hNot := (hClosed.at_chunk hSplit).1
          simp [gauge, released, load, hNot]
      | start key => simp [gauge, released, load]
      | other => simp [gauge, released, load]

/-- A reassembled stream loses nothing to a start, at any point. -/
theorem Reassembles.lost_eq_zero {history : List (Mark Key Content)} (hClosed : Closed history)
    (h : Reassembles text history) {before after : List (Mark Key Content)}
    (hSplit : history = before ++ after) :
    released text false (gauge.emitted [] before) = 0 := by
  have hAll : weight text (fun key => .stop key ∈ history) history =
      weight text (fun _ => True) history := by
    apply weight_congr
    intro key content hMem
    obtain ⟨first, second, hChunk⟩ := List.append_of_mem hMem
    simp only [iff_true]
    rw [hChunk]
    simp [(hClosed.at_chunk hChunk).2]
  have hDelivered := h.delivered_eq hClosed (List.append_nil history).symm
  have hTotal := conservation text history
  have hMono : released text false (gauge.emitted [] before) ≤
      released text false (gauge.emitted [] history) := by
    rw [hSplit, Transducer.emitted_append, released_append]
    exact Nat.le_add_right _ _
  omega

/-- Necessity. A start after a chunk would lose its text; a stop of another
block would deliver more than the blocks stopped by then contain. -/
theorem Reassembles.undisturbed {history : List (Mark Key Content)} (hClosed : Closed history)
    (h : Reassembles text history) : Undisturbed text history := by
  intro before key content after hSplit hText
  have hPos : 0 < (text content).length := List.length_pos_iff.mpr hText
  obtain ⟨hNotBefore, hAfter⟩ := hClosed.at_chunk hSplit
  cases hFind : after.find? Mark.isBoundary with
  | none => exact absurd rfl (List.find?_eq_none.mp hFind _ hAfter)
  | some mark =>
      obtain ⟨hMark, middle, rest, hRest, hQuiet⟩ := List.find?_eq_some_iff_append.mp hFind
      let reached := before ++ .chunk key content :: middle
      have hReached : history = (reached ++ [mark]) ++ rest := by
        rw [hSplit, hRest]
        simp [reached]
      have hChunk : Mark.chunk key content ∈ reached ++ [mark] := by simp [reached]
      have hLost := h.lost_eq_zero hClosed hReached
      have hDelivered := h.delivered_eq hClosed hReached
      have hTotal := conservation text (reached ++ [mark])
      have hHeld : pending (reached ++ [mark]) = [] := by rw [pending_concat, hMark]; rfl
      have hStopped : .stop key ∈ reached ++ [mark] := by
        by_contra hNot
        have hLess := weight_add_le text (fun k => .stop k ∈ reached ++ [mark]) hChunk hNot
        rw [hHeld] at hTotal
        simp only [size, List.flatMap_nil, List.length_nil] at hTotal
        omega
      have hMiddle : .stop key ∉ middle := fun hMem => by
        have := hQuiet _ hMem
        simp [Mark.isBoundary] at this
      have hMarkEq : .stop key = mark := by
        simpa [reached, hNotBefore, hMiddle] using hStopped
      rw [hMarkEq]

end Accounting

/-- Exact characterization: a stream of closed blocks is reassembled by a
single buffer if and only if no chunk with text is disturbed. -/
theorem reassembles_iff {text : Content → List Letter} {history : List (Mark Key Content)}
    (hClosed : Closed history) : Reassembles text history ↔ Undisturbed text history :=
  ⟨fun h => h.undisturbed hClosed, fun h => h.reassembles hClosed⟩

end Semantics.Framing
