import CapillaryActions.Reference.Slack.Text
import CapillaryActions.Semantics.Ledger

/-! Where the text of a session goes. A chunk that the adapter took is posted by
an `END`, dropped by a `START`, or still held; never two of these, and never out
of order. This is a fact about all runs of all kinds of calls, and about what
the calls read and post, not about the marks alone. -/
namespace CapillaryActions.Reference.Slack

open Python Models Semantics Semantics.Framing

variable {Obj : Type}

/-- A `START` or an `END`, what it takes out of the buffer of its session, and
what it posts. -/
structure Departure (Obj : Type) where
  call : Call Obj
  chunks : List String
  posted : List (OutboxEntry Obj)

/-- Whether a departure is by an `END`. -/
def Departure.flushed (departure : Departure Obj) : Bool := departure.call.mark.isStop

/-- What leaves the buffer of its session with a call. -/
def departures (runtime : Runtime Obj) (self : SlackChannelAdapter Obj) (call : Call Obj) :
    List (Departure Obj) :=
  if call.mark.isBoundary then [{
    call
    chunks := (buffers self call.sessionId?).getD []
    posted := (self.next runtime call).outbox.drop self.outbox.length }]
  else []

/-- The adapter, with its departures as outputs. -/
def ledgerMachine (runtime : Runtime Obj) :
    Transducer (SlackChannelAdapter Obj) (Call Obj) (Option UUID × Departure Obj) where
  step self call :=
    (self.next runtime call, (departures runtime self call).map (Prod.mk call.sessionId?))

theorem posted_eq (runtime : Runtime Obj) (self : SlackChannelAdapter Obj) (call : Call Obj) :
    (self.next runtime call).outbox.drop self.outbox.length =
      (sessionStep runtime (buffers self call.sessionId?) call).2 := by
  rw [(serves_next call).outbox, List.drop_left]

/-- The ledger is kept session by session. -/
theorem ledgerMachine_refines (runtime : Runtime Obj) :
    Refines (ledgerMachine runtime) (Transducer.keyed Framing.gauge)
      (fun self key => (buffers self key).getD []) (fun call => (call.sessionId?, call.mark))
      (fun entry => (entry.1, entry.2.flushed, entry.2.chunks)) where
  state self call := by
    have hBuffers := buffers_next runtime self call
    funext key
    by_cases hKey : key = call.sessionId?
    · subst hKey
      simp [ledgerMachine, Transducer.keyed, hBuffers, buffer_step_getD]
    · simp [ledgerMachine, Transducer.keyed, hBuffers, hKey]
  output self call := by
    cases hMark : call.mark <;>
      simp [ledgerMachine, Transducer.keyed, departures, Departure.flushed, Framing.gauge, hMark,
        Mark.isBoundary, Mark.isStop]

section

variable (runtime : Runtime Obj) (botToken signingSecret : String) (calls : List (Call Obj)) (id : UUID)

/-- What left the buffer of a session in a run of a new adapter, in order. -/
def departed : List (Departure Obj) :=
  Transducer.select (some id) ((ledgerMachine runtime).emitted (.init botToken signingSecret) calls)

/-- The chunks of a session that the adapter took in. -/
def received (id : UUID) (calls : List (Call Obj)) : List String := contents (callMarks id calls)

theorem select_marks : Transducer.select (some id)
      (calls.map fun call => (call.sessionId?, call.mark)) = callMarks id calls := by
  have hLabel := Transducer.select_map_label (some id) Call.sessionId? calls
  rw [callMarks, callsFor, ← hLabel, ← Transducer.select_map_snd, List.map_map]
  rfl

theorem departed_map : (departed runtime botToken signingSecret calls id).map
      (fun departure => (departure.flushed, departure.chunks)) =
    Framing.gauge.emitted [] (callMarks id calls) := by
  have hRefines := (ledgerMachine_refines runtime).emitted (.init botToken signingSecret) calls
  have hSelect := congrArg (Transducer.select (some id)) hRefines
  rw [Transducer.select_keyed_emitted, select_marks, buffers_init,
    Transducer.select_map_snd (some id)
      (fun departure : Departure Obj => (departure.flushed, departure.chunks))] at hSelect
  exact hSelect

theorem heldChunks_after :
    heldChunks ((adapterMachine runtime).after (.init botToken signingSecret) calls) id =
      Framing.gauge.after [] (callMarks id calls) := by
  rw [heldChunks, Dict.get, lookup_after_marks, buffer_getD, gauge_after]

/-- The chunks that came in have left, or are held. -/
theorem chunks_balance :
    received id calls =
      (departed runtime botToken signingSecret calls id).flatMap Departure.chunks ++
        heldChunks ((adapterMachine runtime).after (.init botToken signingSecret) calls) id := by
  have hBalance := gauge_balance [] (callMarks id calls)
  rw [← departed_map runtime botToken signingSecret calls id, List.flatMap_map,
    ← heldChunks_after runtime botToken signingSecret calls id, List.nil_append] at hBalance
  exact hBalance

/-- The departures of a session are its calls of these two kinds, in order. -/
theorem departed_calls : (departed runtime botToken signingSecret calls id).map Departure.call =
    (callsFor id calls).filter fun call => call.mark.isBoundary := by
  rw [departed]
  generalize SlackChannelAdapter.init botToken signingSecret = self
  induction calls generalizing self with
  | nil => rfl
  | cons call calls ih =>
      have hStep : (Transducer.select (some id) ((ledgerMachine runtime).step self call).2).map
          Departure.call =
            if call.sessionId? = some id ∧ call.mark.isBoundary = true then [call] else [] := by
        simp only [ledgerMachine, Transducer.select_map_mk, departures]
        by_cases hId : call.sessionId? = some id <;>
          by_cases hBoundary : call.mark.isBoundary = true <;> simp [hId, hBoundary]
      rw [Transducer.emitted_cons, Transducer.select_append, List.map_append, ih, hStep]
      by_cases hId : call.sessionId? = some id <;>
        by_cases hBoundary : call.mark.isBoundary = true <;> simp [callsFor, hId, hBoundary]

/-- A departure by an `END` is one message with the text of its chunks, to the
channel and thread of the session that the `END` was sent to. One by a `START`
is not posted. -/
def Departure.Honest (departure : Departure Obj) : Prop :=
  ∃ session, departure.call.session? = some session ∧ departure.posted =
    if departure.flushed then
      [.message (channelOf session) (String.join departure.chunks) (threadTsOf session)]
    else []

theorem departures_honest (self : SlackChannelAdapter Obj) (call : Call Obj) :
    ∀ departure ∈ departures runtime self call, departure.Honest := by
  intro departure hMem
  cases hMark : call.mark with
  | start key =>
      have hSilent : ∀ held, (sessionStep runtime held call).2 = [] :=
        sessionStep_snd_eq_nil runtime (by simp [hMark]) (by simp [hMark])
      obtain ⟨session, hSession⟩ := exists_session_of_mark (by simp [hMark] : call.mark ≠ .other)
      simp only [departures, hMark, Mark.isBoundary, if_true, List.mem_singleton, posted_eq,
        hSilent] at hMem
      subst hMem
      exact ⟨session, hSession, by simp [Departure.flushed, hMark, Mark.isStop]⟩
  | stop key =>
      obtain ⟨session, hSession, hPosts⟩ := sessionStep_snd_of_stop runtime hMark
      simp only [departures, hMark, Mark.isBoundary, if_true, List.mem_singleton, posted_eq,
        hPosts] at hMem
      subst hMem
      exact ⟨session, hSession, by simp [Departure.flushed, hMark, Mark.isStop]⟩
  | chunk key content => simp [departures, hMark, Mark.isBoundary] at hMem
  | other => simp [departures, hMark, Mark.isBoundary] at hMem

theorem departed_honest :
    ∀ departure ∈ departed runtime botToken signingSecret calls id, departure.Honest := by
  have hStep : ∀ self, ∀ call ∈ calls, ∀ entry ∈ ((ledgerMachine runtime).step self call).2,
      entry.2.Honest := by
    intro self call _ entry hMem
    obtain ⟨departure, hDeparture, rfl⟩ := List.mem_map.mp hMem
    exact departures_honest runtime self call departure hDeparture
  have hAll := (ledgerMachine runtime).forall_emitted hStep (.init botToken signingSecret)
  intro departure hMem
  obtain ⟨entry, hEntry, hSelect⟩ := List.mem_filterMap.mp hMem
  split at hSelect
  · cases hSelect
    exact hAll _ hEntry
  · cases hSelect

end

/-- The ledger of a session balances. In every run of a new adapter, over any
sessions, with calls of every kind and events of any tag and class: the chunks
that came in are those that left with a `START` or an `END` of the session, in
order, and then those that are held. Each departure by an `END` is posted as one
message, to the channel and thread of the session in this very call; each by a
`START` is not posted. -/
theorem text_is_accounted_for (runtime : Runtime Obj) (botToken signingSecret : String)
    (calls : List (Call Obj)) (id : UUID) :
    let final := (adapterMachine runtime).after (.init botToken signingSecret) calls
    let left := departed runtime botToken signingSecret calls id
    (left.map Departure.call = (callsFor id calls).filter fun call => call.mark.isBoundary) ∧
    received id calls = left.flatMap Departure.chunks ++ heldChunks final id ∧
    ∀ departure ∈ left, departure.Honest := by
  intro final left
  exact ⟨departed_calls runtime botToken signingSecret calls id,
    chunks_balance runtime botToken signingSecret calls id,
    departed_honest runtime botToken signingSecret calls id⟩

/-- The text of a message. Blocks have none of their own. -/
def OutboxEntry.text : OutboxEntry Obj → String
  | .message _ text _ => text
  | .blocks _ _ _ => ""

/-- What a departure posts has the text of its chunks, or none. -/
theorem Departure.Honest.posted_text {departure : Departure Obj} (h : departure.Honest) :
    (departure.posted.map OutboxEntry.text).flatMap String.toList =
      if departure.flushed then departure.chunks.flatMap String.toList else [] := by
  obtain ⟨session, _, hPosted⟩ := h
  rw [hPosted]
  cases departure.flushed with
  | true => simp [OutboxEntry.text, String.toList_join]
  | false => rfl

/-- What a run has posted of the text of a session, up to the text it holds, is
all that came in if and only if no `START` found any text. -/
theorem nothing_is_lost_iff (runtime : Runtime Obj) (botToken signingSecret : String)
    (calls : List (Call Obj)) (id : UUID) :
    let final := (adapterMachine runtime).after (.init botToken signingSecret) calls
    let left := departed runtime botToken signingSecret calls id
    String.join ((left.flatMap Departure.posted).map OutboxEntry.text) ++ pendingText final id =
        String.join (received id calls) ↔
      ∀ departure ∈ left, departure.flushed = false → String.join departure.chunks = "" := by
  intro final left
  let text (departure : Departure Obj) : List Char := departure.chunks.flatMap String.toList
  have hChunks : received id calls = left.flatMap Departure.chunks ++ heldChunks final id :=
    chunks_balance runtime botToken signingSecret calls id
  have hPosted : ((left.flatMap Departure.posted).map OutboxEntry.text).flatMap String.toList =
      left.flatMap fun departure => if departure.flushed then text departure else [] := by
    rw [List.map_flatMap, List.flatMap_assoc]
    apply List.flatMap_congr
    intro departure hMem
    exact (departed_honest runtime botToken signingSecret calls id departure hMem).posted_text
  have hEmpty : ∀ departure, text departure = [] ↔ String.join departure.chunks = "" := by
    intro departure
    rw [← String.toList_inj, String.toList_join]
    rfl
  have hIff := flatMap_ite_append_eq_iff Departure.flushed text left
    ((heldChunks final id).flatMap String.toList)
  simp only [hEmpty] at hIff
  rw [← hIff, hChunks, ← String.toList_inj]
  simp only [String.toList_append, String.toList_join, pendingText, String.join_append,
    List.flatMap_assoc, hPosted, text]

end CapillaryActions.Reference.Slack
