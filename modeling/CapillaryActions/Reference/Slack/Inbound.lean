import CapillaryActions.Reference.Slack.Adapter

/-! What the parsers make of an inbound payload. -/
namespace CapillaryActions.Reference.Slack

open Python Python.Pydantic Models Semantics.Validation

variable {Obj : Type}

/-- `raw_payload.get("payload", raw_payload)`. -/
def unwrapped (rawPayload : Payload) : Json := (rawPayload.lookup "payload").getD (.dict rawPayload)

/-- The session for a user in a channel; its metadata repeats the channel. -/
def builtSession (fresh : Fresh) (userId channelId : String) : ChannelSession Obj where
  id := fresh.sessionId
  channelType := "slack"
  channelUserId := userId
  channelConversationId := channelId
  createdAt := fresh.createdAt
  lastActive := fresh.lastActive
  metadata := AList.singleton "channel" (.str channelId)

/-- A session is built from two strings, and from nothing else. -/
theorem slackSession_eq_ok {fresh : Fresh} {userId channelId : Json} {session : ChannelSession Obj} :
    slackSession fresh userId channelId = .ok session ↔
      userId = .str session.channelUserId ∧ channelId = .str session.channelConversationId ∧
      session = builtSession fresh session.channelUserId session.channelConversationId := by
  simp only [slackSession, construct_eq_ok, map_eq_ok, both_eq_ok, required_strField_eq_ok,
    Option.some.injEq]
  constructor
  · intro h
    obtain ⟨⟨user, channel⟩, ⟨hUser, hChannel⟩, rfl⟩ := h
    exact ⟨hUser, hChannel, rfl⟩
  · intro h
    obtain ⟨hUser, hChannel, hSession⟩ := h
    exact ⟨(_, _), ⟨hUser, hChannel⟩, hSession.symm⟩

section

variable {fresh : Fresh} {rawPayload : Payload}

theorem resolveSession_of_click (hShape : isBlockActions (unwrapped rawPayload) = .ok true) :
    (resolveSession fresh rawPayload : Except Exn (ChannelSession Obj)) = (do
      let userId ← (← (unwrapped rawPayload).get "user" (.dict [])).get "id" (.str "unknown")
      let channelId ← (← (unwrapped rawPayload).get "channel" (.dict [])).get "id" (.str "unknown")
      slackSession fresh userId channelId) := by
  have hUnwrap : (Value.dict rawPayload).get "payload" (.dict rawPayload) =
      .ok (unwrapped rawPayload) := rfl
  rw [resolveSession, hUnwrap]
  simp only [bind, Except.bind, hShape]
  rfl

theorem resolveSession_of_event (hShape : isBlockActions (unwrapped rawPayload) = .ok false) :
    (resolveSession fresh rawPayload : Except Exn (ChannelSession Obj)) = (do
      let event := (rawPayload.lookup "event").getD (.dict [])
      let userId ← event.get "user" (.str "unknown")
      let channelId ← event.get "channel" (.str "unknown")
      slackSession fresh userId channelId) := by
  have hUnwrap : (Value.dict rawPayload).get "payload" (.dict rawPayload) =
      .ok (unwrapped rawPayload) := rfl
  rw [resolveSession, hUnwrap]
  simp only [bind, Except.bind, hShape]
  rfl

theorem receiveMessage_of_click (hShape : isBlockActions (unwrapped rawPayload) = .ok true) :
    (receiveMessage fresh rawPayload : Except Exn (ChannelMessage Obj)) = (do
      let session ← resolveSession fresh rawPayload
      let actionValue ← firstValue (← (unwrapped rawPayload).get "actions" (.list []))
      slackMessage fresh "hitl_decision" actionValue session rawPayload) := by
  have hUnwrap : (Value.dict rawPayload).get "payload" (.dict rawPayload) =
      .ok (unwrapped rawPayload) := rfl
  rw [receiveMessage, hUnwrap]
  simp only [bind, Except.bind, hShape]
  rfl

theorem receiveMessage_of_event (hShape : isBlockActions (unwrapped rawPayload) = .ok false) :
    (receiveMessage fresh rawPayload : Except Exn (ChannelMessage Obj)) = (do
      let session ← resolveSession fresh rawPayload
      match ← ((rawPayload.lookup "event").getD (.dict [])).get "text" (.str "") with
      | .str text =>
          let messageType := if startswith text "/" then "command" else "text_input"
          slackMessage fresh messageType (.str text) session rawPayload
      | _ => throw (.attributeError "startswith")) := by
  have hUnwrap : (Value.dict rawPayload).get "payload" (.dict rawPayload) =
      .ok (unwrapped rawPayload) := rfl
  rw [receiveMessage, hUnwrap]
  simp only [bind, Except.bind, hShape]
  rfl

/-- A message is built from its content, which a text or a mapping may be. -/
theorem slackMessage_eq_ok {messageType : String} {content : Json} {session : ChannelSession Obj}
    {message : ChannelMessage Obj} :
    slackMessage fresh messageType content session rawPayload = .ok message ↔
      ∃ given, contentField content = .ok given ∧
        message = ⟨fresh.messageId.str, messageType, given, session, rawPayload, fresh.timestamp⟩ := by
  simp only [slackMessage, construct_eq_ok, map_eq_ok, required_eq_ok, Option.some.injEq,
    exists_eq_left']
  exact exists_congr fun given => and_congr_right fun _ => eq_comm

/-- The session in a message is the one that `resolve_session` builds. -/
theorem receiveMessage_session {message : ChannelMessage Obj}
    (h : receiveMessage fresh rawPayload = .ok message) :
    resolveSession fresh rawPayload = .ok message.session := by
  have hMessage : ∀ {messageType : String} {content : Json} {session : ChannelSession Obj},
      slackMessage fresh messageType content session rawPayload = .ok message →
      message.session = session := by
    intro messageType content session hSlack
    obtain ⟨_, _, rfl⟩ := slackMessage_eq_ok.mp hSlack
    rfl
  rw [receiveMessage] at h
  obtain ⟨session, hSession, h⟩ := bind_eq_ok.mp h
  obtain ⟨payload, _, h⟩ := bind_eq_ok.mp h
  obtain ⟨clicked, _, h⟩ := bind_eq_ok.mp h
  rw [hSession]
  cases clicked with
  | true =>
      obtain ⟨actions, _, h⟩ := bind_eq_ok.mp h
      obtain ⟨actionValue, _, h⟩ := bind_eq_ok.mp h
      rw [hMessage h]
  | false =>
      obtain ⟨event, _, h⟩ := bind_eq_ok.mp h
      obtain ⟨text, _, h⟩ := bind_eq_ok.mp h
      cases text with
      | str text => rw [hMessage h]
      | _ => cases h

end

end CapillaryActions.Reference.Slack
