import CapillaryActions.Reference.Slack.NonInterference
import CapillaryActions.Semantics.Framing

/-! Events sent to one session. Its text message events are framing marks, and
what the adapter holds for the session is the buffer of a framed stream, whose
marks are told apart by their message ids although the adapter does not look at
them. -/
namespace CapillaryActions.Reference.Slack

open Python Python.Pydantic Models Semantics Semantics.Framing

variable {Obj : Type}

/-- An event, and the session passed with it. -/
abbrev Sent (Obj : Type) := AGUIEvent Obj × ChannelSession Obj

def Sent.call (sent : Sent Obj) : Call Obj := .sendEvent sent.1 sent.2

/-- The adapter after a history of `send_event` calls. -/
def deliver (runtime : Runtime Obj) (self : SlackChannelAdapter Obj) (history : List (Sent Obj)) :
    SlackChannelAdapter Obj :=
  (adapterMachine runtime).after self (history.map Sent.call)

/-- All events go to one session id and carry the type of their class. -/
structure Addressed (id : UUID) (history : List (Sent Obj)) : Prop where
  session : ∀ sent ∈ history, sent.2.id = id
  tagged : ∀ sent ∈ history, sent.1.WellTagged

theorem Addressed.of_append_left {id : UUID} {first second : List (Sent Obj)}
    (h : Addressed id (first ++ second)) : Addressed id first where
  session sent hMem := h.session sent (List.mem_append_left _ hMem)
  tagged sent hMem := h.tagged sent (List.mem_append_left _ hMem)

/-- The part that an event's class plays in a text message. -/
def markOf (event : AGUIEvent Obj) : Mark String String :=
  match event.body with
  | .textMessageStart messageId _ => .start messageId
  | .textMessageContent messageId content => .chunk messageId content
  | .textMessageEnd messageId => .stop messageId
  | .event | .runStarted | .runFinished | .runError _ _ | .stateSnapshot _ | .stateDelta _
  | .toolCallStart _ _ | .toolCallArgs _ _ | .toolCallEnd _ | .toolCallResult _ _ => .other

def marks (history : List (Sent Obj)) : List (Mark String String) :=
  history.map fun sent => markOf sent.1

@[simp] theorem marks_cons (sent : Sent Obj) (history : List (Sent Obj)) :
    marks (sent :: history) = markOf sent.1 :: marks history := rfl

@[simp] theorem marks_append (first second : List (Sent Obj)) :
    marks (first ++ second) = marks first ++ marks second := List.map_append

/-- A session machine holds what the buffer machine holds. -/
theorem sessionStep_fst (runtime : Runtime Obj) (held : Option (List String)) {sent : Sent Obj}
    (hTagged : sent.1.WellTagged) :
    (sessionStep runtime held sent.call).1 = (buffer.step held (markOf sent.1)).1 := by
  obtain ⟨⟨eventType, threadId, runId, timestamp, eventId, body⟩, session⟩ := sent
  simp only [AGUIEvent.WellTagged] at hTagged
  cases body with
  | event => cases hTagged
  | stateSnapshot state =>
      cases hTagged
      simp only [sessionStep, Sent.call, EventClass.state?, Option.map_some]
      cases SlackChannelAdapter.stateFields runtime state <;> rfl
  | _ =>
      cases hTagged
      rfl

theorem sessionMachine_after (runtime : Runtime Obj) {history : List (Sent Obj)}
    (hTagged : ∀ sent ∈ history, sent.1.WellTagged) (held : Option (List String)) :
    (sessionMachine runtime).after held (history.map Sent.call) =
      buffer.after held (marks history) := by
  induction history generalizing held with
  | nil => rfl
  | cons sent history ih =>
      rw [List.map_cons, Transducer.after_cons,
        ih fun other hMem => hTagged other (List.mem_cons_of_mem _ hMem), marks_cons,
        Transducer.after_cons, ← sessionStep_fst runtime held (hTagged sent (List.mem_cons_self ..))]
      rfl

section

variable (runtime : Runtime Obj) (botToken signingSecret : String) {id : UUID}
  {history : List (Sent Obj)}

theorem Addressed.callsFor (h : Addressed id history) :
    callsFor id (history.map Sent.call) = history.map Sent.call := by
  apply List.filter_eq_self.mpr
  intro call hMem
  obtain ⟨sent, hSent, rfl⟩ := List.mem_map.mp hMem
  simp [Sent.call, h.session sent hSent]

/-- What is held for the session is held by the buffer of its marks. -/
theorem lookup_deliver (h : Addressed id history) :
    (deliver runtime (.init botToken signingSecret) history).messageBuffer.lookup id.str =
      buffer.after none (marks history) := by
  rw [deliver, lookup_after, h.callsFor, sessionMachine_after runtime h.tagged]

theorem outbox_deliver_eq_emitted (h : Addressed id history) :
    (deliver runtime (.init botToken signingSecret) history).outbox =
      (sessionMachine runtime).emitted none (history.map Sent.call) := by
  rw [deliver, ← h.callsFor, outbox_callsFor]

/-- Each event appends what its session machine emits after the events before. -/
theorem outbox_deliver (h : Addressed id history) :
    (deliver runtime (.init botToken signingSecret) history).outbox =
      history.zipIdx.flatMap fun entry =>
        (sessionStep runtime (buffer.after none (marks (history.take entry.2))) entry.1.call).2 := by
  rw [outbox_deliver_eq_emitted runtime botToken signingSecret h, Transducer.emitted_eq_flatMap,
    List.zipIdx_map, List.flatMap_map]
  apply List.flatMap_congr
  intro entry _
  have hTagged : ∀ sent ∈ history.take entry.2, sent.1.WellTagged := fun sent hMem =>
    h.tagged sent (List.mem_of_mem_take hMem)
  rw [← sessionMachine_after runtime hTagged, List.map_take]
  rfl

/-- The last event of a history appends to the outbox of those before. -/
theorem outbox_deliver_concat {sent : Sent Obj} (h : Addressed id (history ++ [sent])) :
    (deliver runtime (.init botToken signingSecret) (history ++ [sent])).outbox =
      (deliver runtime (.init botToken signingSecret) history).outbox ++
        (sessionStep runtime (buffer.after none (marks history)) sent.call).2 := by
  have hInit := h.of_append_left
  rw [outbox_deliver_eq_emitted runtime botToken signingSecret h,
    outbox_deliver_eq_emitted runtime botToken signingSecret hInit, List.map_append,
    Transducer.emitted_append, sessionMachine_after runtime hInit.tagged]
  simp [sessionMachine]

/-- An `END` appends one message, with the text of what has been delivered
since the latest `START` or `END`. -/
theorem outbox_deliver_end {event : AGUIEvent Obj} {session : ChannelSession Obj} {messageId : String}
    (h : Addressed id (history ++ [(event, session)])) (hEnd : event.body = .textMessageEnd messageId) :
    (deliver runtime (.init botToken signingSecret) (history ++ [(event, session)])).outbox =
      (deliver runtime (.init botToken signingSecret) history).outbox ++
        [.message (channelOf session) (String.join (pending (marks history))) (threadTsOf session)] := by
  have hTagged := h.tagged (event, session) (by simp)
  have hType : event.eventType = .textMessageEnd := by
    rw [AGUIEvent.WellTagged, hEnd] at hTagged
    exact (Option.some.inj hTagged).symm
  rw [outbox_deliver_concat runtime botToken signingSecret h, ← buffer_getD]
  simp only [sessionStep, Sent.call, hType]

end

/-! Events and sessions as the tests of the repository make them. -/

def makeSession (id : UUID) : ChannelSession Empty where
  id := id
  channelType := "slack"
  channelUserId := "U123456"
  channelConversationId := "C789012"
  createdAt := ⟨0, some 0⟩
  lastActive := ⟨0, some 0⟩
  metadata := (AList.singleton "channel" (.str "C789012")).insert "thread_ts" (.str "1234567890.000100")

def makeEvent (eventType : AGUIEventType) (body : EventClass Empty) : AGUIEvent Empty where
  eventType := eventType
  threadId := "thread-1"
  runId := "run-1"
  timestamp := ⟨0, some 0⟩
  eventId := "event-1"
  body := body

def makeTextStart (messageId : String) : AGUIEvent Empty :=
  makeEvent .textMessageStart (.textMessageStart messageId "assistant")

def makeTextContent (messageId content : String) : AGUIEvent Empty :=
  makeEvent .textMessageContent (.textMessageContent messageId content)

def makeTextEnd (messageId : String) : AGUIEvent Empty :=
  makeEvent .textMessageEnd (.textMessageEnd messageId)

/-- A runtime that formats integers, and no other values that it is asked to. It
takes numerals for integers, and no floats. -/
def decimalRuntime : Runtime Empty where
  format
    | .int n => .ok (toString n)
    | _ => .error (.other "not an integer")
  laxInt := {
    ofFloat := fun _ => .error .intFromFloat
    ofStr := fun s => match s.toInt? with
      | some n => .ok n
      | none => .error .intParsing
    ofFloat_reason := by simp
    ofStr_reason := by
      intro s reason h
      split at h <;> simp_all }

end CapillaryActions.Reference.Slack
