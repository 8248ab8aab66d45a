import CapillaryActions.Python.Pydantic
import CapillaryActions.Python.UUID

/-! The channel models: sessions, inbound messages and files, and the
configuration of human-in-the-loop gates. -/
namespace CapillaryActions.Models

open Python Python.Pydantic Semantics.Validation

structure ChannelSession (Obj : Type) where
  id : UUID
  channelType : String
  channelUserId : String
  channelConversationId : String
  platformUserId : Option UUID := none
  orgId : Option UUID := none
  workflowRunId : Option UUID := none
  threadId : Option String := none
  createdAt : Datetime
  lastActive : Datetime
  metadata : Dict String (AnyValue Obj) := ∅

/-- The mapping that a webhook body decodes to. -/
abbrev Payload := List (String × Json)

/-- `str | dict[str, Any]`. -/
inductive Content where
  | text (s : String)
  | mapping (entries : Payload)
  deriving Repr

/-- A union reports what each of its members rejects. -/
def contentField : Json → Checked Content
  | .str s => .ok (.text s)
  | .dict entries => .ok (.mapping entries)
  | _ => .error [⟨[.field "str"], .stringType⟩, ⟨[.field "dict[str,any]"], .dictType⟩]

structure ChannelMessage (Obj : Type) where
  id : String
  messageType : String
  content : Content
  session : ChannelSession Obj
  rawPayload : Payload
  timestamp : Datetime

structure ChannelFile where
  filename : String
  contentType : String
  sizeBytes : Int
  content : List UInt8
  sourceUrl : Option String
  deriving DecidableEq, Repr

structure HitlGateConfig (Obj : Type) where
  nodeId : String
  instructions : Option String := none
  context : Option (Dict String (AnyValue Obj)) := none
  options : List String := ["approve", "reject", "revise"]
  allowComment : Bool := true
  prompt : Option String := none
  inputType : String := "text"
  inputSchema : Option (Dict String (AnyValue Obj)) := none
  placeholder : Option String := none

end CapillaryActions.Models
