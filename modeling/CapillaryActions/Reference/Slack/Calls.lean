import CapillaryActions.Reference.Slack.Adapter
import CapillaryActions.Semantics.Transducer

/-! Sequences of calls on one adapter. Every call is atomic, and a call that
raises is caught by its caller. The adapter refines a product of session
machines: one for each session id, none of which sees the others. -/
namespace CapillaryActions.Reference.Slack

open Python Models Semantics

variable {Obj : Type}

/-- A call on the adapter, with the ids and times it draws if it parses. -/
inductive Call (Obj : Type) where
  | sendEvent (event : AGUIEvent Obj) (session : ChannelSession Obj)
  | sendError (error : String) (session : ChannelSession Obj)
  | renderHitlGate (gateType : String) (gateConfig : HitlGateConfig Obj)
      (session : ChannelSession Obj)
  | receiveMessage (fresh : Fresh) (rawPayload : Payload)
  | receiveFile (rawPayload : Payload)
  | resolveSession (fresh : Fresh) (rawPayload : Payload)

namespace Call

/-- The session that an outbound call is addressed to. -/
def session? : Call Obj → Option (ChannelSession Obj)
  | sendEvent _ session => some session
  | sendError _ session => some session
  | renderHitlGate _ _ session => some session
  | receiveMessage _ _ => none
  | receiveFile _ => none
  | resolveSession _ _ => none

def sessionId? (call : Call Obj) : Option UUID := call.session?.map (·.id)

@[simp] theorem sessionId?_sendEvent (event : AGUIEvent Obj) (session : ChannelSession Obj) :
    (sendEvent event session).sessionId? = some session.id := rfl

/-- Perform a call and drop what it returns. -/
def perform (runtime : Runtime Obj) : Call Obj → AdapterM Obj Unit
  | sendEvent event session => SlackChannelAdapter.sendEvent runtime event session
  | sendError error session => SlackChannelAdapter.sendError error session
  | renderHitlGate gateType gateConfig session =>
      SlackChannelAdapter.renderHitlGate gateType gateConfig session
  | receiveMessage fresh rawPayload => do
      let _ ← AdapterM.lift (Slack.receiveMessage fresh rawPayload : Except Exn (ChannelMessage Obj))
  | receiveFile rawPayload => do
      let _ ← AdapterM.lift (Slack.receiveFile runtime rawPayload)
  | resolveSession fresh rawPayload => do
      let _ ← AdapterM.lift (Slack.resolveSession fresh rawPayload : Except Exn (ChannelSession Obj))

end Call

/-- The adapter after a call, whether or not the call raised. -/
def SlackChannelAdapter.next (runtime : Runtime Obj) (self : SlackChannelAdapter Obj)
    (call : Call Obj) : SlackChannelAdapter Obj :=
  (AdapterM.exec (call.perform runtime) self).2

/-- The code under a sequence of calls. Its outputs are the outbox entries that
each call appends, with the id of the session that the call is for. -/
def adapterMachine (runtime : Runtime Obj) :
    Transducer (SlackChannelAdapter Obj) (Call Obj) (Option UUID × OutboxEntry Obj) where
  step self call :=
    (self.next runtime call,
      ((self.next runtime call).outbox.drop self.outbox.length).map (Prod.mk call.sessionId?))

@[simp] theorem adapterMachine_step_fst (runtime : Runtime Obj) (self : SlackChannelAdapter Obj)
    (call : Call Obj) : ((adapterMachine runtime).step self call).1 = self.next runtime call := rfl

/-- What a session shows of its calls: at most one open list of chunks, which
only the text message events touch. -/
def sessionStep (runtime : Runtime Obj) (held : Option (List String)) :
    Call Obj → Option (List String) × List (OutboxEntry Obj)
  | .sendEvent event session =>
      match event.eventType with
      | .textMessageStart => (some [], [])
      | .textMessageContent =>
          match event.body.content? with
          | some content => (some (held.getD [] ++ [content]), [])
          | none => (held, [])
      | .textMessageEnd =>
          (none, [.message (channelOf session) (String.join (held.getD [])) (threadTsOf session)])
      | .stateSnapshot =>
          match event.body.state?.map (SlackChannelAdapter.stateFields runtime) with
          | some (.ok fields) =>
              (held, [.blocks (channelOf session) (threadTsOf session) [.sectionFields fields]])
          | some (.error _) => (held, [])
          | none => (held, [])
      | .runFinished =>
          (held, [.message (channelOf session) "Run completed." (threadTsOf session)])
      | .runError =>
          match event.body.error? with
          | some error =>
              (held, [.message (channelOf session) (":x: " ++ error) (threadTsOf session)])
          | none => (held, [])
      | .runStarted | .stateDelta | .toolCallStart | .toolCallArgs | .toolCallEnd
      | .toolCallResult => (held, [])
  | .sendError error session =>
      (held, [.message (channelOf session) (":x: " ++ error) (threadTsOf session)])
  | .renderHitlGate gateType gateConfig session =>
      (held, [if gateType = "human_review" then
        .blocks (channelOf session) (threadTsOf session) [
          .sectionText ⟨"mrkdwn", orElse gateConfig.instructions "Please review:"⟩,
          .actions (SlackChannelAdapter.reviewButtons gateConfig.options)]
      else
        .message (channelOf session)
          (orElse gateConfig.prompt (orElse gateConfig.instructions "Please provide input:"))
          (threadTsOf session)])
  | .receiveMessage _ _ => (held, [])
  | .receiveFile _ => (held, [])
  | .resolveSession _ _ => (held, [])

def sessionMachine (runtime : Runtime Obj) :
    Transducer (Option (List String)) (Call Obj) (OutboxEntry Obj) where
  step held call := sessionStep runtime held call

/-- The buffer of each session id. Calls without a session have none. -/
def buffers (self : SlackChannelAdapter Obj) (sessionId : Option UUID) : Option (List String) :=
  sessionId.bind fun id => self.messageBuffer.lookup id.str

@[simp] theorem buffers_none (self : SlackChannelAdapter Obj) : buffers self none = none := rfl

@[simp] theorem buffers_some (self : SlackChannelAdapter Obj) (id : UUID) :
    buffers self (some id) = self.messageBuffer.lookup id.str := rfl

theorem buffers_insert (self : SlackChannelAdapter Obj) (id : UUID) (tokens : List String) :
    buffers { self with messageBuffer := self.messageBuffer.insert id.str tokens } =
      Function.update (buffers self) (some id) (some tokens) := by
  funext key
  cases key with
  | none => simp [buffers, Function.update_of_ne]
  | some other =>
      by_cases h : other = id
      · subst h
        simp [buffers, AList.lookup_insert]
      · have hKey : other.str ≠ id.str := fun hStr => h (UUID.str_injective hStr)
        rw [Function.update_of_ne (by simpa using h)]
        simp only [buffers, Option.bind_some, AList.lookup_insert_ne hKey]

theorem buffers_erase (self : SlackChannelAdapter Obj) (id : UUID) :
    buffers { self with messageBuffer := self.messageBuffer.erase id.str } =
      Function.update (buffers self) (some id) none := by
  funext key
  cases key with
  | none => simp [buffers, Function.update_of_ne]
  | some other =>
      by_cases h : other = id
      · subst h
        simp [buffers, AList.lookup_erase]
      · have hKey : other.str ≠ id.str := fun hStr => h (UUID.str_injective hStr)
        rw [Function.update_of_ne (by simpa using h)]
        simp only [buffers, Option.bind_some, AList.lookup_erase_ne hKey]

/-- A call moved the component of its session as the session machine does, and
nothing else of the adapter. -/
structure Serves (runtime : Runtime Obj) (call : Call Obj) (before after : SlackChannelAdapter Obj) :
    Prop where
  buffers : buffers after = Function.update (buffers before) call.sessionId?
    (sessionStep runtime (buffers before call.sessionId?) call).1
  outbox : after.outbox =
    before.outbox ++ (sessionStep runtime (Slack.buffers before call.sessionId?) call).2

section Serves

variable {runtime : Runtime Obj} {self : SlackChannelAdapter Obj} {call : Call Obj}

/-- Calls that only append. -/
theorem Serves.of_posts {entries : List (OutboxEntry Obj)}
    (h : sessionStep runtime (Slack.buffers self call.sessionId?) call =
      (Slack.buffers self call.sessionId?, entries)) :
    Serves runtime call self { self with outbox := self.outbox ++ entries } where
  buffers := by
    rw [h]
    exact (Function.update_eq_self _ _).symm
  outbox := by rw [h]

/-- Calls that change nothing. -/
theorem Serves.of_silent
    (h : sessionStep runtime (Slack.buffers self call.sessionId?) call =
      (Slack.buffers self call.sessionId?, [])) :
    Serves runtime call self self := by
  have hServes := Serves.of_posts h
  rwa [List.append_nil] at hServes

variable {event : AGUIEvent Obj} {session : ChannelSession Obj}

/-- Events that set the buffer of their session. -/
theorem Serves.of_insert {tokens : List String}
    (h : sessionStep runtime (self.messageBuffer.lookup session.id.str) (.sendEvent event session) =
      (some tokens, [])) :
    Serves runtime (.sendEvent event session) self
      { self with messageBuffer := self.messageBuffer.insert session.id.str tokens } where
  buffers := by
    rw [buffers_insert, Call.sessionId?_sendEvent, buffers_some, h]
  outbox := by
    rw [Call.sessionId?_sendEvent, buffers_some, h, List.append_nil]

theorem serves_textMessageContent (hType : event.eventType = .textMessageContent) :
    Serves runtime (.sendEvent event session) self (self.next runtime (.sendEvent event session)) := by
  cases hContent : event.body.content? with
  | none =>
      simp only [SlackChannelAdapter.next, Call.perform, SlackChannelAdapter.sendEvent, hType,
        hContent, AdapterM.exec_throw]
      exact .of_silent (by simp only [sessionStep, hType, hContent])
  | some content =>
      -- A missing buffer is made first, and then looked up like any other.
      have hNext : self.next runtime (.sendEvent event session) = { self with
          messageBuffer := self.messageBuffer.insert session.id.str
            (self.messageBuffer.get session.id.str [] ++ [content]) } := by
        simp only [SlackChannelAdapter.next, Call.perform, SlackChannelAdapter.sendEvent, hType,
          hContent, SlackChannelAdapter.setBuffer, AdapterM.exec_get_bind, AdapterM.exec_ite,
          AdapterM.exec_modify_bind, AdapterM.exec_modify]
        cases hHeld : self.messageBuffer.lookup session.id.str <;> simp [Dict.get, hHeld]
      rw [hNext]
      exact .of_insert (by simp only [sessionStep, hType, hContent, Dict.get])

theorem serves_textMessageEnd (hType : event.eventType = .textMessageEnd) :
    Serves runtime (.sendEvent event session) self (self.next runtime (.sendEvent event session)) := by
  simp only [SlackChannelAdapter.next, Call.perform, SlackChannelAdapter.sendEvent, hType,
    SlackChannelAdapter.exec_popBuffer_bind, SlackChannelAdapter.post, AdapterM.exec_modify]
  have hStep : sessionStep runtime (self.messageBuffer.lookup session.id.str)
      (.sendEvent event session) = (none, [.message (channelOf session)
        (String.join (self.messageBuffer.get session.id.str [])) (threadTsOf session)]) := by
    simp only [sessionStep, hType, Dict.get]
  refine ⟨?_, ?_⟩
  · rw [Call.sessionId?_sendEvent, buffers_some, hStep]
    exact buffers_erase self session.id
  · rw [Call.sessionId?_sendEvent, buffers_some, hStep]

theorem serves_stateSnapshot (hType : event.eventType = .stateSnapshot) :
    Serves runtime (.sendEvent event session) self (self.next runtime (.sendEvent event session)) := by
  simp only [SlackChannelAdapter.next, Call.perform, SlackChannelAdapter.sendEvent, hType]
  cases hState : event.body.state? with
  | none => exact .of_silent (by simp only [sessionStep, hType, hState, Option.map_none])
  | some state =>
      simp only [AdapterM.exec_lift_bind]
      cases hFields : SlackChannelAdapter.stateFields runtime state with
      | error raised =>
          exact .of_silent (by simp only [sessionStep, hType, hState, Option.map_some, hFields])
      | ok fields =>
          exact .of_posts (by simp only [sessionStep, hType, hState, Option.map_some, hFields])

theorem serves_runError (hType : event.eventType = .runError) :
    Serves runtime (.sendEvent event session) self (self.next runtime (.sendEvent event session)) := by
  simp only [SlackChannelAdapter.next, Call.perform, SlackChannelAdapter.sendEvent, hType]
  cases hError : event.body.error? with
  | none => exact .of_silent (by simp only [sessionStep, hType, hError])
  | some error => exact .of_posts (by simp only [sessionStep, hType, hError])

theorem serves_sendEvent :
    Serves runtime (.sendEvent event session) self (self.next runtime (.sendEvent event session)) := by
  cases hType : event.eventType with
  | textMessageContent => exact serves_textMessageContent hType
  | textMessageEnd => exact serves_textMessageEnd hType
  | stateSnapshot => exact serves_stateSnapshot hType
  | runError => exact serves_runError hType
  | textMessageStart =>
      simp only [SlackChannelAdapter.next, Call.perform, SlackChannelAdapter.sendEvent, hType]
      exact .of_insert (by simp only [sessionStep, hType])
  | runFinished =>
      simp only [SlackChannelAdapter.next, Call.perform, SlackChannelAdapter.sendEvent, hType]
      exact .of_posts (by simp only [sessionStep, hType])
  | runStarted | stateDelta | toolCallStart | toolCallArgs | toolCallEnd | toolCallResult =>
      simp only [SlackChannelAdapter.next, Call.perform, SlackChannelAdapter.sendEvent, hType]
      exact .of_silent (by simp only [sessionStep, hType])

theorem exec_lift_drop {α : Type} (result : Except Exn α) :
    (AdapterM.exec (do let _ ← AdapterM.lift result) self : Except Exn Unit × _).2 = self := by
  rw [AdapterM.exec_lift_bind]
  cases result <;> rfl

/-- Parsing leaves the adapter alone, whether or not it raises. -/
theorem next_eq_self (h : call.session? = none) : self.next runtime call = self := by
  cases call with
  | sendEvent event session => cases h
  | sendError error session => cases h
  | renderHitlGate gateType gateConfig session => cases h
  | receiveMessage fresh rawPayload => exact exec_lift_drop _
  | receiveFile rawPayload => exact exec_lift_drop _
  | resolveSession fresh rawPayload => exact exec_lift_drop _

/-- Every call serves its own session only. -/
theorem serves_next (call : Call Obj) : Serves runtime call self (self.next runtime call) := by
  cases call with
  | sendEvent event session => exact serves_sendEvent
  | sendError error session => exact .of_posts rfl
  | renderHitlGate gateType gateConfig session =>
      simp only [SlackChannelAdapter.next, Call.perform, SlackChannelAdapter.renderHitlGate,
        AdapterM.exec_ite]
      split
      · exact .of_posts (by simp only [sessionStep, if_pos ‹_›])
      · exact .of_posts (by simp only [sessionStep, if_neg ‹_›])
  | receiveMessage fresh rawPayload =>
      rw [next_eq_self rfl]
      exact .of_silent rfl
  | receiveFile rawPayload =>
      rw [next_eq_self rfl]
      exact .of_silent rfl
  | resolveSession fresh rawPayload =>
      rw [next_eq_self rfl]
      exact .of_silent rfl

end Serves

/-- What a call appends is what the machine of its session emits. -/
theorem adapterMachine_step_snd (runtime : Runtime Obj) (self : SlackChannelAdapter Obj)
    (call : Call Obj) :
    ((adapterMachine runtime).step self call).2 =
      (sessionStep runtime (buffers self call.sessionId?) call).2.map (Prod.mk call.sessionId?) := by
  have hServes : Serves runtime call self (self.next runtime call) := serves_next call
  simp [adapterMachine, hServes.outbox]

/-- The adapter refines one session machine for each session id. -/
theorem adapterMachine_refines (runtime : Runtime Obj) :
    Refines (adapterMachine runtime) (Transducer.keyed (sessionMachine runtime)) buffers
      (fun call => (call.sessionId?, call)) id where
  state self call := (serves_next call).buffers
  output self call := by
    rw [List.map_id, adapterMachine_step_snd]
    rfl

/-- The outbox after a run: what it was, and then the entries of the calls. -/
theorem outbox_after (runtime : Runtime Obj) (self : SlackChannelAdapter Obj)
    (calls : List (Call Obj)) :
    ((adapterMachine runtime).after self calls).outbox =
      self.outbox ++ ((adapterMachine runtime).emitted self calls).map Prod.snd := by
  induction calls generalizing self with
  | nil => simp
  | cons call calls ih =>
      rw [Transducer.after_cons, ih, adapterMachine_step_fst, (serves_next call).outbox,
        Transducer.emitted_cons, adapterMachine_step_snd]
      simp [Function.comp_def]

end CapillaryActions.Reference.Slack
