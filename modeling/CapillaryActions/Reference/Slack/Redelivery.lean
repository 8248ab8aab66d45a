import CapillaryActions.Reference.Slack.Chunking

/-! Events that are lost or delivered again. The adapter does not look at event
ids, so it is for the sender to know which calls may be dropped and which may be
repeated. A call that may be dropped may be repeated at any time; a `START` may be
repeated at once, but not later. -/
namespace CapillaryActions.Reference.Slack

open Python Models Semantics

variable {Obj : Type}

/-- A call that posts nothing and leaves the text of its session. -/
structure Call.Quiet (runtime : Runtime Obj) (call : Call Obj) : Prop where
  silent : ¬call.Posts runtime
  mark : call.mark = .other ∨ call.mark = .chunk () ""

section

variable (runtime : Runtime Obj) (self : SlackChannelAdapter Obj) (call : Call Obj)

theorem step_eq_nil_iff :
    ((adapterMachine runtime).step self call).2 = [] ↔ ¬call.Posts runtime := by
  rw [adapterMachine_step_snd, List.map_eq_nil_iff]
  rcases sessionStep_snd_cases runtime (buffers self call.sessionId?) call with
    ⟨hNot, hNil⟩ | ⟨hPosts, _, entry, _, hOne, _⟩
  · simp [hNil, hNot]
  · simp [hOne, hPosts]

/-- An `END` posts, whatever is held. -/
theorem posts_of_stop {call : Call Obj} (h : call.mark = .stop ()) : call.Posts runtime := by
  obtain ⟨session, _, hOne⟩ := sessionStep_snd_of_stop runtime h
  rcases sessionStep_snd_cases runtime none call with ⟨_, hNil⟩ | ⟨hPosts, _⟩
  · rw [hOne] at hNil
    cases hNil
  · exact hPosts

theorem exists_sessionId_of_mark {call : Call Obj} (h : call.mark ≠ .other) :
    ∃ id, call.sessionId? = some id := by
  obtain ⟨session, hSession⟩ := exists_session_of_mark h
  exact ⟨session.id, by rw [Call.sessionId?, hSession, Option.map_some]⟩

end

variable {runtime : Runtime Obj} {call : Call Obj}

theorem Call.Quiet.sameText (h : call.Quiet runtime) (self : SlackChannelAdapter Obj) :
    SameText self (self.next runtime call) := by
  intro id
  rcases h.mark with hMark | hMark
  · exact (pendingText_next_of_other runtime fun _ => hMark).symm
  · obtain ⟨other, hId⟩ := exists_sessionId_of_mark (by simp [hMark] : call.mark ≠ .other)
    have hSends : call.Sends other "" := ⟨hId, hMark⟩
    rw [hSends.pendingText_next]
    split
    · rw [String.append_empty]
    · rfl

theorem pendingText_of_start {self : SlackChannelAdapter Obj} {id : UUID}
    (hId : call.sessionId? = some id) (hMark : call.mark = .start ()) :
    pendingText (self.next runtime call) id = "" := by
  rw [pendingText_next, if_pos hId, hMark]
  rfl

/-- Some text is held, and a `START` drops it. -/
theorem not_sameText_of_start (runtime : Runtime Obj) (hMark : call.mark = .start ()) :
    ∃ id, ∀ self : SlackChannelAdapter Obj, ¬SameText (self.next runtime (chunkCall id "text"))
      ((self.next runtime (chunkCall id "text")).next runtime call) := by
  obtain ⟨id, hId⟩ := exists_sessionId_of_mark (by simp [hMark] : call.mark ≠ .other)
  refine ⟨id, fun self hSame => ?_⟩
  have hText := hSame id
  rw [pendingText_of_start hId hMark, (chunkCall_sends id "text").pendingText_next, if_pos rfl,
    ← String.toList_inj, String.toList_append] at hText
  simp at hText

/-- Calls that post nothing, and bring no text. -/
theorem quiet_or_start (hSilent : ¬call.Posts runtime)
    (hChunk : ∀ content, call.mark = .chunk () content → content = "") :
    call.Quiet runtime ∨ call.mark = .start () := by
  cases hMark : call.mark with
  | start key => exact Or.inr rfl
  | stop key => exact absurd (posts_of_stop runtime hMark) hSilent
  | chunk key content =>
      obtain rfl := hChunk content hMark
      exact Or.inl ⟨hSilent, Or.inr hMark⟩
  | other => exact Or.inl ⟨hSilent, Or.inl hMark⟩

/-- A chunk that leaves the text is empty. -/
theorem eq_empty_of_sameText {self : SlackChannelAdapter Obj} {content : String}
    (hMark : call.mark = .chunk () content) (h : SameText self (self.next runtime call)) :
    content = "" := by
  obtain ⟨id, hId⟩ := exists_sessionId_of_mark (by simp [hMark] : call.mark ≠ .other)
  have hSends : call.Sends id content := ⟨hId, hMark⟩
  have hText := h id
  rw [hSends.pendingText_next, if_pos rfl, ← String.toList_inj, String.toList_append] at hText
  rw [← String.toList_inj]
  simpa using hText

/-- In one state, the call may be dropped if it posts nothing there and leaves the
text. -/
theorem emitted_drop_iff (self : SlackChannelAdapter Obj) :
    (∀ after, (adapterMachine runtime).emitted self (call :: after) =
      (adapterMachine runtime).emitted self after) ↔
      ¬call.Posts runtime ∧ SameText self (self.next runtime call) := by
  constructor
  · intro h
    have hNil : ((adapterMachine runtime).step self call).2 = [] := by simpa using h []
    have hSame : ∀ after, (adapterMachine runtime).emitted self after =
        (adapterMachine runtime).emitted (self.next runtime call) after := by
      intro after
      rw [← h after, Transducer.emitted_cons, hNil]
      rfl
    exact ⟨(step_eq_nil_iff runtime self call).mp hNil, sameText_of_emitted hSame⟩
  · rintro ⟨hSilent, hSame⟩ after
    rw [Transducer.emitted_cons, (step_eq_nil_iff runtime self call).mpr hSilent, List.nil_append]
    exact ((sameText_bisimulation runtime).emitted hSame after).symm

theorem quiet_iff : call.Quiet runtime ↔
    ∀ self : SlackChannelAdapter Obj,
      ¬call.Posts runtime ∧ SameText self (self.next runtime call) := by
  constructor
  · intro h self
    exact ⟨h.silent, h.sameText self⟩
  · intro h
    have hSilent := (h (.init "" "")).1
    rcases quiet_or_start hSilent fun content hMark => eq_empty_of_sameText hMark (h (.init "" "")).2
      with hQuiet | hMark
    · exact hQuiet
    · obtain ⟨id, hDrops⟩ := not_sameText_of_start runtime hMark
      exact absurd (h _).2 (hDrops (.init "" ""))

theorem quiet_or_start_iff : call.Quiet runtime ∨ call.mark = .start () ↔
    ∀ self : SlackChannelAdapter Obj, ¬call.Posts runtime ∧
      SameText (self.next runtime call) ((self.next runtime call).next runtime call) := by
  constructor
  · rintro (hQuiet | hMark) self
    · exact ⟨hQuiet.silent, hQuiet.sameText _⟩
    · have hSilent : ¬call.Posts runtime := by
        rw [← step_eq_nil_iff runtime self, adapterMachine_step_snd,
          sessionStep_snd_eq_nil runtime (by simp [hMark]) (by simp [hMark])]
        rfl
      refine ⟨hSilent, fun id => ?_⟩
      by_cases hId : call.sessionId? = some id
      · rw [pendingText_of_start hId hMark, pendingText_of_start hId hMark]
      · rw [pendingText_next runtime (self.next runtime call), if_neg hId]
  · intro h
    exact quiet_or_start (h (.init "" "")).1 fun content hMark =>
      eq_empty_of_sameText hMark (h (.init "" "")).2

/-- Lost and repeated calls. A call can be lost without notice, whatever was called
before and comes after, if and only if it is quiet: it posts nothing, and leaves
the text of its session. If it is delivered again at once, this is not noticed
if and only if it is quiet or a `START`. If it is delivered again at any later
time, this is not noticed if and only if it is quiet. -/
theorem lost_or_repeated_iff (runtime : Runtime Obj) (call : Call Obj) :
    let T := adapterMachine runtime
    ((∀ self after, T.emitted self (call :: after) = T.emitted self after) ↔ call.Quiet runtime) ∧
    ((∀ self after, T.emitted self (call :: call :: after) = T.emitted self (call :: after)) ↔
      call.Quiet runtime ∨ call.mark = .start ()) ∧
    ((∀ self between after, T.emitted self (call :: (between ++ call :: after)) =
        T.emitted self (call :: (between ++ after))) ↔
      call.Quiet runtime) := by
  intro T
  -- What was emitted up to the second call is the same.
  have hSplit : ∀ self between after, T.emitted self (call :: (between ++ after)) =
      T.emitted self (call :: between) ++ T.emitted (T.after self (call :: between)) after := by
    intro self between after
    rw [← List.cons_append, Transducer.emitted_append]
  have hLater : ∀ self between,
      (∀ after, T.emitted self (call :: (between ++ call :: after)) =
        T.emitted self (call :: (between ++ after))) ↔
      ¬call.Posts runtime ∧ SameText (T.after self (call :: between))
        ((T.after self (call :: between)).next runtime call) := by
    intro self between
    rw [← emitted_drop_iff]
    simp only [hSplit, List.append_cancel_left_eq, T]
  have hOnce : (∀ self after, T.emitted self (call :: call :: after) = T.emitted self (call :: after)) ↔
      call.Quiet runtime ∨ call.mark = .start () := by
    rw [quiet_or_start_iff]
    exact forall_congr' fun self => hLater self []
  refine ⟨?_, hOnce, ?_⟩
  · rw [quiet_iff]
    exact forall_congr' fun self => emitted_drop_iff self
  · constructor
    · intro h
      rcases hOnce.mp fun self after => h self [] after with hQuiet | hMark
      · exact hQuiet
      · obtain ⟨id, hDrops⟩ := not_sameText_of_start runtime hMark
        have hSame := ((hLater (.init "" "") [chunkCall id "text"]).mp
          (h (.init "" "") [chunkCall id "text"])).2
        exact absurd hSame (hDrops _)
    · intro hQuiet self between
      exact (hLater self between).mpr (quiet_iff.mp hQuiet _)

end CapillaryActions.Reference.Slack
