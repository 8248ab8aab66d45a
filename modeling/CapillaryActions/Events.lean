import CapillaryActions.Python.Value

/-! AG-UI events. The class of an event and its field `event_type` vary
independently: every class sets a default for the field, and any value may be
passed instead. -/
namespace CapillaryActions

open Python

inductive AGUIEventType where
  | runStarted
  | runFinished
  | runError
  | textMessageStart
  | textMessageContent
  | textMessageEnd
  | stateSnapshot
  | stateDelta
  | toolCallStart
  | toolCallArgs
  | toolCallEnd
  | toolCallResult
  deriving DecidableEq, Repr

/-- The class of an event, with the fields that the class declares. `event` is
the base class itself. -/
inductive EventClass (Obj : Type) where
  | event
  | runStarted
  | runFinished
  | runError (error : String) (code : Option String)
  | textMessageStart (messageId role : String)
  | textMessageContent (messageId content : String)
  | textMessageEnd (messageId : String)
  | stateSnapshot (state : Dict String (AnyValue Obj))
  | stateDelta (delta : List (Dict String (AnyValue Obj)))
  | toolCallStart (toolCallId toolName : String)
  | toolCallArgs (toolCallId argsChunk : String)
  | toolCallEnd (toolCallId : String)
  | toolCallResult (toolCallId result : String)

structure AGUIEvent (Obj : Type) where
  eventType : AGUIEventType
  threadId : String
  runId : String
  timestamp : Datetime
  eventId : String
  body : EventClass Obj

namespace EventClass

variable {Obj : Type}

/-- The default of `event_type` in each class. -/
def ownType : EventClass Obj → Option AGUIEventType
  | event => none
  | runStarted => some .runStarted
  | runFinished => some .runFinished
  | runError _ _ => some .runError
  | textMessageStart _ _ => some .textMessageStart
  | textMessageContent _ _ => some .textMessageContent
  | textMessageEnd _ => some .textMessageEnd
  | stateSnapshot _ => some .stateSnapshot
  | stateDelta _ => some .stateDelta
  | toolCallStart _ _ => some .toolCallStart
  | toolCallArgs _ _ => some .toolCallArgs
  | toolCallEnd _ => some .toolCallEnd
  | toolCallResult _ _ => some .toolCallResult

/-- The content of a `TextMessageContentEvent`; no other class has one. -/
def content? : EventClass Obj → Option String
  | textMessageContent _ content => some content
  | event | runStarted | runFinished | runError _ _ | textMessageStart _ _ | textMessageEnd _
  | stateSnapshot _ | stateDelta _ | toolCallStart _ _ | toolCallArgs _ _ | toolCallEnd _
  | toolCallResult _ _ => none

/-- The state of a `StateSnapshotEvent`. -/
def state? : EventClass Obj → Option (Dict String (AnyValue Obj))
  | stateSnapshot state => some state
  | event | runStarted | runFinished | runError _ _ | textMessageStart _ _ | textMessageContent _ _
  | textMessageEnd _ | stateDelta _ | toolCallStart _ _ | toolCallArgs _ _ | toolCallEnd _
  | toolCallResult _ _ => none

/-- The error of a `RunErrorEvent`. -/
def error? : EventClass Obj → Option String
  | runError error _ => some error
  | event | runStarted | runFinished | textMessageStart _ _ | textMessageContent _ _
  | textMessageEnd _ | stateSnapshot _ | stateDelta _ | toolCallStart _ _ | toolCallArgs _ _
  | toolCallEnd _ | toolCallResult _ _ => none

end EventClass

/-- An instance of one of the twelve subclasses that carries its own type. -/
def AGUIEvent.WellTagged {Obj : Type} (event : AGUIEvent Obj) : Prop :=
  event.body.ownType = some event.eventType

instance {Obj : Type} (event : AGUIEvent Obj) : Decidable event.WellTagged := by
  unfold AGUIEvent.WellTagged
  infer_instance

end CapillaryActions
