import CapillaryActions.Events
import CapillaryActions.Models.Presentation
import Mathlib.Tactic.Common

/-! The reference adapter for Slack. Outbound calls work on the adapter's two
fields, a buffer of message chunks for each session and the outbox; they may
raise, and keep what they have changed by then. Inbound calls only parse. -/
namespace CapillaryActions.Reference.Slack

open Python Python.Pydantic Models Semantics.Validation

/-- A text object of Block Kit. -/
structure TextObject where
  type : String
  text : String
  deriving DecidableEq, Repr

/-- An element of an `actions` block, of type `button`. -/
structure Button where
  text : TextObject
  actionId : String
  value : String
  deriving DecidableEq, Repr

inductive Block where
  | sectionFields (fields : List TextObject)
  | sectionText (text : TextObject)
  | actions (elements : List Button)
  deriving DecidableEq, Repr

/-- The two kinds of entries in the outbox, by their `type`. -/
inductive OutboxEntry (Obj : Type) where
  | message (channel : AnyValue Obj) (text : String) (threadTs : AnyValue Obj)
  | blocks (channel : AnyValue Obj) (threadTs : AnyValue Obj) (blocks : List Block)

namespace OutboxEntry

variable {Obj : Type}

def channel : OutboxEntry Obj → AnyValue Obj
  | message channel _ _ => channel
  | blocks channel _ _ => channel

def threadTs : OutboxEntry Obj → AnyValue Obj
  | message _ _ threadTs => threadTs
  | blocks _ threadTs _ => threadTs

end OutboxEntry

structure SlackChannelAdapter (Obj : Type) where
  botToken : String
  signingSecret : String
  messageBuffer : Dict String (List String)
  outbox : List (OutboxEntry Obj)

/-- What the program leaves to the classes of the values it formats, and to
pydantic. -/
structure Runtime (Obj : Type) where
  format : AnyValue Obj → Except Exn String
  laxInt : LaxInt

/-- A value inside an f-string. -/
def Runtime.formatValue {Obj : Type} (runtime : Runtime Obj) : AnyValue Obj → Except Exn String
  | .str s => .ok s
  | .null => .ok "None"
  | .bool b => .ok (if b then "True" else "False")
  | .int n => runtime.format (.int n)
  | .float bits => runtime.format (.float bits)
  | .list elements => runtime.format (.list elements)
  | .dict entries => runtime.format (.dict entries)
  | .object o => runtime.format (.object o)

variable {Obj : Type}

/-- `session.metadata.get("channel", session.channel_conversation_id)`. -/
def channelOf (session : ChannelSession Obj) : AnyValue Obj :=
  session.metadata.get "channel" (.str session.channelConversationId)

/-- `session.metadata.get("thread_ts")`. -/
def threadTsOf (session : ChannelSession Obj) : AnyValue Obj :=
  session.metadata.get "thread_ts" .null

/-- `value or default`, of an optional string. -/
def orElse (value : Option String) (default : String) : String :=
  match value with
  | some s => if s = "" then default else s
  | none => default

/-- Calls on an adapter. An exception does not undo what came before it. -/
abbrev AdapterM (Obj : Type) := ExceptT Exn (StateM (SlackChannelAdapter Obj))

namespace AdapterM

variable {α β : Type} (self : SlackChannelAdapter Obj)

/-- A computation that does not touch the adapter, but may raise. -/
def lift (result : Except Exn α) : AdapterM Obj α := ExceptT.mk (pure result)

/-- The outcome of a call, and the adapter that it leaves. -/
def exec (call : AdapterM Obj α) (self : SlackChannelAdapter Obj) :
    Except Exn α × SlackChannelAdapter Obj := call.run.run self

@[simp] theorem exec_pure (a : α) : exec (pure a : AdapterM Obj α) self = (.ok a, self) := rfl

@[simp] theorem exec_throw (raised : Exn) :
    exec (throw raised : AdapterM Obj α) self = (.error raised, self) := rfl

@[simp] theorem exec_get_bind (next : SlackChannelAdapter Obj → AdapterM Obj β) :
    exec (get >>= next) self = exec (next self) self := rfl

@[simp] theorem exec_modify (change : SlackChannelAdapter Obj → SlackChannelAdapter Obj) :
    exec (modify change) self = (.ok (), change self) := rfl

@[simp] theorem exec_modify_bind (change : SlackChannelAdapter Obj → SlackChannelAdapter Obj)
    (next : PUnit → AdapterM Obj β) :
    exec (modify change >>= next) self = exec (next ()) (change self) := rfl

theorem exec_lift_bind (result : Except Exn α) (next : α → AdapterM Obj β) :
    exec (lift result >>= next) self =
      match result with
      | .ok a => exec (next a) self
      | .error raised => (.error raised, self) := by
  cases result <;> rfl

@[simp] theorem exec_ite (condition : Prop) [Decidable condition] (first second : AdapterM Obj α) :
    exec (if condition then first else second) self =
      if condition then exec first self else exec second self := by
  split <;> rfl

end AdapterM

namespace SlackChannelAdapter

def init (botToken signingSecret : String) : SlackChannelAdapter Obj where
  botToken := botToken
  signingSecret := signingSecret
  messageBuffer := ∅
  outbox := []

/-- `self._message_buffer[session_id] = tokens`. -/
def setBuffer (sessionId : String) (tokens : List String) : AdapterM Obj Unit :=
  modify fun self => { self with messageBuffer := self.messageBuffer.insert sessionId tokens }

/-- `self._message_buffer.pop(session_id, [])`. -/
def popBuffer (sessionId : String) : AdapterM Obj (List String) := do
  let tokens := (← get).messageBuffer.get sessionId []
  modify fun self => { self with messageBuffer := self.messageBuffer.erase sessionId }
  return tokens

theorem exec_popBuffer_bind {α : Type} (self : SlackChannelAdapter Obj) (sessionId : String)
    (next : List String → AdapterM Obj α) :
    AdapterM.exec (popBuffer sessionId >>= next) self =
      AdapterM.exec (next (self.messageBuffer.get sessionId []))
        { self with messageBuffer := self.messageBuffer.erase sessionId } := rfl

/-- `self._outbox.append(entry)`. -/
def post (entry : OutboxEntry Obj) : AdapterM Obj Unit :=
  modify fun self => { self with outbox := self.outbox ++ [entry] }

def sendError (error : String) (session : ChannelSession Obj) : AdapterM Obj Unit :=
  post (.message (channelOf session) (":x: " ++ error) (threadTsOf session))

/-- The fields of a state section, one for each item. -/
def stateFields (runtime : Runtime Obj) (state : Dict String (AnyValue Obj)) :
    Except Exn (List TextObject) :=
  state.items.mapM fun item => do
    let value ← runtime.formatValue item.2
    return ⟨"mrkdwn", "*" ++ item.1 ++ "*\n" ++ value⟩

/-- The fields, if every value of the state can be formatted. -/
theorem stateFields_eq_ok {runtime : Runtime Obj} {text : AnyValue Obj → String}
    {state : Dict String (AnyValue Obj)}
    (h : ∀ item ∈ state.items, runtime.formatValue item.2 = .ok (text item.2)) :
    stateFields runtime state = .ok (state.items.map fun item =>
      ⟨"mrkdwn", "*" ++ item.1 ++ "*\n" ++ text item.2⟩) := by
  rw [stateFields, mapM_eq_ok, List.forall₂_map_right_iff, List.forall₂_same]
  intro item hMem
  rw [h item hMem]
  rfl

def sendEvent (runtime : Runtime Obj) (event : AGUIEvent Obj) (session : ChannelSession Obj) :
    AdapterM Obj Unit := do
  let sessionId := session.id.str
  match event.eventType with
  | .textMessageStart => setBuffer sessionId []
  | .textMessageContent =>
      let some content := event.body.content? | throw .assertionError
      if ((← get).messageBuffer.lookup sessionId).isNone then
        setBuffer sessionId []
      let tokens := (← get).messageBuffer.get sessionId []
      setBuffer sessionId (tokens ++ [content])
  | .textMessageEnd =>
      let tokens ← popBuffer sessionId
      post (.message (channelOf session) (String.join tokens) (threadTsOf session))
  | .stateSnapshot =>
      let some state := event.body.state? | throw .assertionError
      let fields ← AdapterM.lift (stateFields runtime state)
      post (.blocks (channelOf session) (threadTsOf session) [.sectionFields fields])
  | .runFinished => post (.message (channelOf session) "Run completed." (threadTsOf session))
  | .runError =>
      let some error := event.body.error? | throw .assertionError
      sendError error session
  | .runStarted | .stateDelta | .toolCallStart | .toolCallArgs | .toolCallEnd
  | .toolCallResult => pure ()

/-- The buttons of a review gate, one for each option. -/
def reviewButtons (options : List String) : List Button :=
  options.map fun option => ⟨⟨"plain_text", option⟩, option, option⟩

def renderHitlGate (gateType : String) (gateConfig : HitlGateConfig Obj)
    (session : ChannelSession Obj) : AdapterM Obj Unit :=
  let channel := channelOf session
  let threadTs := threadTsOf session
  if gateType = "human_review" then
    post (.blocks channel threadTs [
      .sectionText ⟨"mrkdwn", orElse gateConfig.instructions "Please review:"⟩,
      .actions (reviewButtons gateConfig.options)])
  else
    post (.message channel
      (orElse gateConfig.prompt (orElse gateConfig.instructions "Please provide input:")) threadTs)

end SlackChannelAdapter

/-- The ids and times that parsing one payload draws. -/
structure Fresh where
  sessionId : UUID
  messageId : UUID
  createdAt : Datetime
  lastActive : Datetime
  timestamp : Datetime

/-- Whether an unwrapped payload is a button click. -/
def isBlockActions (payload : Json) : Except Exn Bool := do
  return (← payload.get "type").eqStr "block_actions"

/-- The constructor call at the end of `resolve_session`. -/
def slackSession (fresh : Fresh) (userId channelId : Json) :
    Except Exn (ChannelSession Obj) :=
  construct "ChannelSession" <|
    (both (required "channel_user_id" strField (some userId))
      (required "channel_conversation_id" strField (some channelId))).map
    fun (channelUserId, channelConversationId) => {
      id := fresh.sessionId
      channelType := "slack"
      channelUserId
      channelConversationId
      createdAt := fresh.createdAt
      lastActive := fresh.lastActive
      metadata := AList.singleton "channel" (.str channelConversationId) }

def resolveSession (fresh : Fresh) (rawPayload : Payload) : Except Exn (ChannelSession Obj) := do
  let payload ← (Value.dict rawPayload).get "payload" (.dict rawPayload)
  if ← isBlockActions payload then
    let userId ← (← payload.get "user" (.dict [])).get "id" (.str "unknown")
    let channelId ← (← payload.get "channel" (.dict [])).get "id" (.str "unknown")
    slackSession fresh userId channelId
  else
    let event ← (Value.dict rawPayload).get "event" (.dict [])
    let userId ← event.get "user" (.str "unknown")
    let channelId ← event.get "channel" (.str "unknown")
    slackSession fresh userId channelId

/-- The constructor call at the end of each branch of `receive_message`. -/
def slackMessage (fresh : Fresh) (messageType : String) (content : Json)
    (session : ChannelSession Obj) (rawPayload : Payload) : Except Exn (ChannelMessage Obj) :=
  construct "ChannelMessage" <|
    (required "content" contentField (some content)).map fun content => {
      id := fresh.messageId.str
      messageType
      content
      session
      rawPayload
      timestamp := fresh.timestamp }

/-- `actions[0].get("value", "") if actions else ""`. -/
def firstValue (actions : Json) : Except Exn Json :=
  if actions.truthy then do
    (← actions.first).get "value" (.str "")
  else
    .ok (.str "")

def receiveMessage (fresh : Fresh) (rawPayload : Payload) : Except Exn (ChannelMessage Obj) := do
  let session ← resolveSession fresh rawPayload
  let payload ← (Value.dict rawPayload).get "payload" (.dict rawPayload)
  if ← isBlockActions payload then
    let actions ← payload.get "actions" (.list [])
    let actionValue ← firstValue actions
    slackMessage fresh "hitl_decision" actionValue session rawPayload
  else
    let event ← (Value.dict rawPayload).get "event" (.dict [])
    match ← event.get "text" (.str "") with
    | .str text =>
        let messageType := if startswith text "/" then "command" else "text_input"
        slackMessage fresh messageType (.str text) session rawPayload
    | _ => throw (.attributeError "startswith")

def receiveFile (runtime : Runtime Obj) (rawPayload : Payload) : Except Exn (Option ChannelFile) := do
  let event ← (Value.dict rawPayload).get "event" (.dict [])
  let files ← event.get "files" (.list [])
  if !files.truthy then
    return none
  let first ← files.first
  let filename ← first.get "name" (.str "unknown")
  let contentType ← first.get "mimetype" (.str "application/octet-stream")
  let sizeBytes ← first.get "size" (.int 0)
  let sourceUrl ← first.get "url_private"
  construct "ChannelFile" <|
    (both (required "filename" strField (some filename))
      (both (required "content_type" strField (some contentType))
        (both (required "size_bytes" (intField runtime.laxInt) (some sizeBytes))
          (defaulted "source_url" (optionalField strField) none (some sourceUrl))))).map
    fun (filename, contentType, sizeBytes, sourceUrl) =>
      some ⟨filename, contentType, sizeBytes, [], sourceUrl⟩

end CapillaryActions.Reference.Slack
