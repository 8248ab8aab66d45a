import CapillaryActions.Reference.Slack.Messages
import CapillaryActions.Reference.Slack.Reply

/-! The text a session holds, under calls of every kind. The tag of an event and
its class vary independently here, and the calls need not be well formed. Three
tags touch the text; everything else a call posts does not depend on it. -/
namespace CapillaryActions.Reference.Slack

open Python Models Semantics Semantics.Framing

variable {Obj : Type}

/-- What a call does to the text of its session. The tag decides, and a content
tag on an event without content raises. -/
def Call.mark : Call Obj → Mark Unit String
  | .sendEvent event _ =>
      match event.eventType with
      | .textMessageStart => .start ()
      | .textMessageContent =>
          match event.body.content? with
          | some content => .chunk () content
          | none => .other
      | .textMessageEnd => .stop ()
      | .runStarted | .runFinished | .runError | .stateSnapshot | .stateDelta | .toolCallStart
      | .toolCallArgs | .toolCallEnd | .toolCallResult => .other
  | .sendError _ _ => .other
  | .renderHitlGate _ _ _ => .other
  | .receiveMessage _ _ => .other
  | .receiveFile _ => .other
  | .resolveSession _ _ => .other

/-- The marks of the calls for one session. -/
def callMarks (id : UUID) (calls : List (Call Obj)) : List (Mark Unit String) :=
  (callsFor id calls).map Call.mark

/-- `self._message_buffer.get(session_id, [])`, of the session with an id. -/
def heldChunks (self : SlackChannelAdapter Obj) (id : UUID) : List String :=
  self.messageBuffer.get id.str []

/-- The text that an `END` for the session would post. -/
def pendingText (self : SlackChannelAdapter Obj) (id : UUID) : String :=
  String.join (heldChunks self id)

theorem heldChunks_eq (self : SlackChannelAdapter Obj) (id : UUID) :
    heldChunks self id = (buffers self (some id)).getD [] := rfl

/-- Calls that touch a text have a session. -/
theorem exists_session_of_mark {call : Call Obj} (h : call.mark ≠ .other) :
    ∃ session, call.session? = some session := by
  cases call with
  | sendEvent event session => exact ⟨session, rfl⟩
  | _ => exact absurd rfl h

section

variable (runtime : Runtime Obj)

/-- Calls without a session do nothing. -/
theorem sessionStep_of_inbound (held : Option (List String)) {call : Call Obj}
    (h : call.session? = none) : sessionStep runtime held call = (held, []) := by
  cases call with
  | sendEvent event session => cases h
  | sendError error session => cases h
  | renderHitlGate gateType gateConfig session => cases h
  | receiveMessage fresh rawPayload => rfl
  | receiveFile rawPayload => rfl
  | resolveSession fresh rawPayload => rfl

/-- Any call appends nothing, or one entry for the channel of its session. -/
theorem sessionStep_snd_cases (held : Option (List String)) (call : Call Obj) :
    (¬call.Posts runtime ∧ (sessionStep runtime held call).2 = []) ∨
      (call.Posts runtime ∧ ∃ session entry, call.session? = some session ∧
        (sessionStep runtime held call).2 = [entry] ∧ entry.channel = channelOf session) := by
  cases hSession : call.session? with
  | none =>
      left
      rw [sessionStep_of_inbound runtime held hSession]
      cases call with
      | receiveMessage fresh rawPayload => exact ⟨not_false, rfl⟩
      | receiveFile rawPayload => exact ⟨not_false, rfl⟩
      | resolveSession fresh rawPayload => exact ⟨not_false, rfl⟩
      | _ => cases hSession
  | some session =>
      rcases sessionStep_posts runtime held call hSession with hSilent | ⟨hPosts, entry, hOne, hChannel, _⟩
      · exact Or.inl hSilent
      · exact Or.inr ⟨hPosts, session, entry, rfl, hOne, hChannel⟩

/-- What is held moves by the mark of the call. -/
theorem sessionStep_fst_eq (held : Option (List String)) (call : Call Obj) :
    (sessionStep runtime held call).1 = (buffer.step held call.mark).1 := by
  cases call with
  | sendEvent event session =>
      cases hType : event.eventType with
      | textMessageContent =>
          cases hContent : event.body.content? <;>
            simp only [sessionStep, Call.mark, hType, hContent, buffer]
      | stateSnapshot =>
          simp only [sessionStep, Call.mark, hType, buffer]
          split <;> rfl
      | runError =>
          simp only [sessionStep, Call.mark, hType, buffer]
          split <;> rfl
      | _ => simp only [sessionStep, Call.mark, hType, buffer]
  | _ => rfl

/-- A call that does not flush posts the same, whatever is held. -/
theorem sessionStep_snd_eq {call : Call Obj} (h : call.mark ≠ .stop ())
    (held held' : Option (List String)) :
    (sessionStep runtime held call).2 = (sessionStep runtime held' call).2 := by
  cases call with
  | sendEvent event session =>
      cases hType : event.eventType with
      | textMessageEnd => exact absurd (by simp only [Call.mark, hType]) h
      | textMessageContent => cases hContent : event.body.content? <;> simp only [sessionStep, hType, hContent]
      | stateSnapshot =>
          simp only [sessionStep, hType]
          split <;> rfl
      | runError =>
          simp only [sessionStep, hType]
          split <;> rfl
      | _ => simp only [sessionStep, hType]
  | _ => rfl

/-- A call that flushes posts the text that is held, as one message. -/
theorem sessionStep_snd_of_stop {call : Call Obj} (h : call.mark = .stop ()) :
    ∃ session, call.session? = some session ∧ ∀ held, (sessionStep runtime held call).2 =
      [.message (channelOf session) (String.join (held.getD [])) (threadTsOf session)] := by
  cases call with
  | sendEvent event session =>
      cases hType : event.eventType with
      | textMessageEnd => exact ⟨session, rfl, fun held => by simp only [sessionStep, hType]⟩
      | textMessageContent => cases hContent : event.body.content? <;> simp [Call.mark, hType, hContent] at h
      | _ => simp [Call.mark, hType] at h
  | _ => cases h

/-- A start or a chunk posts nothing. -/
theorem sessionStep_snd_eq_nil {call : Call Obj} (hStop : call.mark ≠ .stop ())
    (hMark : call.mark ≠ .other) (held : Option (List String)) :
    (sessionStep runtime held call).2 = [] := by
  cases call with
  | sendEvent event session =>
      cases hType : event.eventType with
      | textMessageStart => simp only [sessionStep, hType]
      | textMessageEnd => exact absurd (by simp only [Call.mark, hType]) hStop
      | textMessageContent => cases hContent : event.body.content? <;> simp only [sessionStep, hType, hContent]
      | _ => exact absurd (by simp only [Call.mark, hType]) hMark
  | _ => exact absurd rfl hMark

theorem sessionMachine_after_marks (held : Option (List String)) (calls : List (Call Obj)) :
    (sessionMachine runtime).after held calls = buffer.after held (calls.map Call.mark) := by
  induction calls generalizing held with
  | nil => rfl
  | cons call calls ih =>
      rw [Transducer.after_cons, ih, List.map_cons, Transducer.after_cons,
        ← sessionStep_fst_eq runtime]
      rfl

/-- The buffer of a session of a new adapter, after any run. -/
theorem lookup_after_marks (botToken signingSecret : String) (calls : List (Call Obj)) (id : UUID) :
    ((adapterMachine runtime).after (.init botToken signingSecret) calls).messageBuffer.lookup id.str =
      buffer.after none (callMarks id calls) := by
  rw [lookup_after, sessionMachine_after_marks, callMarks]

/-- One call, seen from the session it is for. -/
theorem buffers_next (self : SlackChannelAdapter Obj) (call : Call Obj) :
    buffers (self.next runtime call) = Function.update (buffers self) call.sessionId?
      (buffer.step (buffers self call.sessionId?) call.mark).1 := by
  rw [(serves_next call).buffers, sessionStep_fst_eq]

end

end CapillaryActions.Reference.Slack
