import CapillaryActions.Reference.Slack.Inbound

/-! What becomes of a payload, whatever it is. Nothing is assumed of its fields:
each may be absent, or any JSON value. The parsers read them one by one, with
defaults in between, and raise at the first that is in their way; here both
outcomes are told from the shape of the payload. -/
namespace CapillaryActions.Reference.Slack

open Python Python.Pydantic Models Semantics.Validation

variable {Obj : Type}

/-- A field of a mapping, or what it is read as when it is absent. -/
def fieldOr (entries : Payload) (key : String) (default : Json) : Json :=
  (entries.lookup key).getD default

theorem get_dict_eq (entries : Payload) (key : String) (default : Json) :
    (Value.dict entries : Json).get key default = .ok (fieldOr entries key default) := rfl

theorem get_of_not_dict {v : Json} (h : ∀ entries, v ≠ .dict entries) (key : String) (default : Json) :
    v.get key default = .error (.attributeError "get") := by
  cases v with
  | dict entries => exact absurd rfl (h entries)
  | _ => rfl

theorem dict_or_not (v : Json) : (∃ entries, v = .dict entries) ∨ ∀ entries, v ≠ .dict entries := by
  cases v with
  | dict entries => exact Or.inl ⟨entries, rfl⟩
  | _ => exact Or.inr fun _ => nofun

/-- Where a payload names a user and a channel, which need not be texts. A click
is told by its type, and everything that is no click is read as an event. -/
inductive Named (rawPayload : Payload) : (clicked : Bool) → (userId channelId : Json) → Prop where
  | click {payload user channel : Payload} (hPayload : unwrapped rawPayload = .dict payload)
      (hType : payload.lookup "type" = some (.str "block_actions"))
      (hUser : fieldOr payload "user" (.dict []) = .dict user)
      (hChannel : fieldOr payload "channel" (.dict []) = .dict channel) :
      Named rawPayload true (fieldOr user "id" (.str "unknown")) (fieldOr channel "id" (.str "unknown"))
  | event {payload event : Payload} (hPayload : unwrapped rawPayload = .dict payload)
      (hType : payload.lookup "type" ≠ some (.str "block_actions"))
      (hEvent : fieldOr rawPayload "event" (.dict []) = .dict event) :
      Named rawPayload false (fieldOr event "user" (.str "unknown"))
        (fieldOr event "channel" (.str "unknown"))

/-- The names that are not texts, as the model reports them. -/
def misnamed (userId channelId : Json) : List FieldError :=
  [("channel_user_id", userId), ("channel_conversation_id", channelId)].filterMap fun field =>
    match field.2 with
    | .str _ => none
    | _ => some ⟨[.field field.1], .stringType⟩

/-- The values that count as nothing. -/
inductive Falsy : Json → Prop where
  | null : Falsy .null
  | false : Falsy (.bool false)
  | zero : Falsy (.int 0)
  | positiveZero : Falsy (.float 0)
  | negativeZero : Falsy (.float 0x8000000000000000)
  | emptyText : Falsy (.str "")
  | emptyList : Falsy (.list [])
  | emptyMapping : Falsy (.dict [])

/-- The first element of what should be a list of mappings, if there is one, or
what is raised when a field of it is read. -/
inductive FirstMapping : Json → Except Exn (Option Payload) → Prop where
  | empty {items : Json} (h : Falsy items) : FirstMapping items (.ok none)
  | fields (fields : Payload) (rest : List Json) :
      FirstMapping (.list (.dict fields :: rest)) (.ok (some fields))
  | element {first : Json} {rest : List Json} (h : ∀ fields, first ≠ .dict fields) :
      FirstMapping (.list (first :: rest)) (.error (.attributeError "get"))
  | text {s : String} (h : s ≠ "") : FirstMapping (.str s) (.error (.attributeError "get"))
  | mapping (entry : String × Json) (entries : Payload) :
      FirstMapping (.dict (entry :: entries)) (.error (.keyError (.int 0)))
  | scalar {items : Json} (hTrue : ¬Falsy items)
      (h : (∃ b, items = .bool b) ∨ (∃ n, items = .int n) ∨ ∃ bits, items = .float bits) :
      FirstMapping items (.error .typeError)

/-- The value of a click, which is empty without an action. -/
def clickedValue : Option Payload → Json
  | none => .str ""
  | some fields => fieldOr fields "value" (.str "")

/-- What a message can have as its content. -/
inductive ContentOf : Json → Content → Prop where
  | text (s : String) : ContentOf (.str s) (.text s)
  | mapping (entries : Payload) : ContentOf (.dict entries) (.mapping entries)

/-- Everything that can become of a payload. -/
inductive Received (fresh : Fresh) (rawPayload : Payload) : Except Exn (ChannelMessage Obj) → Prop where
  | unnamed (h : ∀ clicked userId channelId, ¬Named rawPayload clicked userId channelId) :
      Received fresh rawPayload (.error (.attributeError "get"))
  | misnamed {clicked : Bool} {userId channelId : Json} (hNamed : Named rawPayload clicked userId channelId)
      (h : misnamed userId channelId ≠ []) :
      Received fresh rawPayload (.error (.validationError "ChannelSession" (misnamed userId channelId)))
  | decision {userId channelId : String} {payload : Payload} {first : Option Payload}
      {content : Content} (hNamed : Named rawPayload true (.str userId) (.str channelId))
      (hPayload : unwrapped rawPayload = .dict payload)
      (hFirst : FirstMapping (fieldOr payload "actions" (.list [])) (.ok first))
      (hContent : ContentOf (clickedValue first) content) :
      Received fresh rawPayload (.ok ⟨fresh.messageId.str, "hitl_decision", content,
        builtSession fresh userId channelId, rawPayload, fresh.timestamp⟩)
  | noAction {userId channelId : String} {payload : Payload} {raised : Exn}
      (hNamed : Named rawPayload true (.str userId) (.str channelId))
      (hPayload : unwrapped rawPayload = .dict payload)
      (hFirst : FirstMapping (fieldOr payload "actions" (.list [])) (.error raised)) :
      Received fresh rawPayload (.error raised)
  | noContent {userId channelId : String} {payload : Payload} {first : Option Payload}
      (hNamed : Named rawPayload true (.str userId) (.str channelId))
      (hPayload : unwrapped rawPayload = .dict payload)
      (hFirst : FirstMapping (fieldOr payload "actions" (.list [])) (.ok first))
      (hContent : ∀ content, ¬ContentOf (clickedValue first) content) :
      Received fresh rawPayload (.error (.validationError "ChannelMessage" [
        ⟨[.field "content", .field "str"], .stringType⟩,
        ⟨[.field "content", .field "dict[str,any]"], .dictType⟩]))
  | command {userId channelId rest : String} {event : Payload}
      (hNamed : Named rawPayload false (.str userId) (.str channelId))
      (hEvent : fieldOr rawPayload "event" (.dict []) = .dict event)
      (hText : fieldOr event "text" (.str "") = .str ("/" ++ rest)) :
      Received fresh rawPayload (.ok ⟨fresh.messageId.str, "command", .text ("/" ++ rest),
        builtSession fresh userId channelId, rawPayload, fresh.timestamp⟩)
  | textInput {userId channelId text : String} {event : Payload}
      (hNamed : Named rawPayload false (.str userId) (.str channelId))
      (hEvent : fieldOr rawPayload "event" (.dict []) = .dict event)
      (hText : fieldOr event "text" (.str "") = .str text) (hSlash : ∀ rest, text ≠ "/" ++ rest) :
      Received fresh rawPayload (.ok ⟨fresh.messageId.str, "text_input", .text text,
        builtSession fresh userId channelId, rawPayload, fresh.timestamp⟩)
  | noText {userId channelId : String} {event : Payload}
      (hNamed : Named rawPayload false (.str userId) (.str channelId))
      (hEvent : fieldOr rawPayload "event" (.dict []) = .dict event)
      (hText : ∀ text, fieldOr event "text" (.str "") ≠ .str text) :
      Received fresh rawPayload (.error (.attributeError "startswith"))

theorem falsy_iff {v : Json} : Falsy v ↔ v.truthy = false := by
  constructor
  · intro h
    cases h <;> decide
  · intro h
    cases v with
    | null => exact .null
    | bool b =>
        cases h
        exact .false
    | int n =>
        have hZero : n = 0 := by simpa [Value.truthy] using h
        exact hZero ▸ .zero
    | float bits =>
        have hZero : bits ≠ 0 → bits = 0x8000000000000000 := by simpa [Value.truthy] using h
        by_cases hPositive : bits = 0
        · exact hPositive ▸ .positiveZero
        · exact hZero hPositive ▸ .negativeZero
    | str s =>
        have hEmpty : s = "" := by simpa [Value.truthy] using h
        exact hEmpty ▸ .emptyText
    | list elements =>
        have hEmpty : elements = [] := by simpa [Value.truthy] using h
        exact hEmpty ▸ .emptyList
    | dict entries =>
        have hEmpty : entries = [] := by simpa [Value.truthy] using h
        exact hEmpty ▸ .emptyMapping
    | object o => cases o

theorem not_falsy_iff {v : Json} : ¬Falsy v ↔ v.truthy = true := by
  rw [falsy_iff, Bool.not_eq_false]

theorem contentOf_iff {v : Json} {content : Content} :
    ContentOf v content ↔ contentField v = .ok content := by
  constructor
  · intro h
    cases h <;> rfl
  · intro h
    cases v with
    | str s =>
        cases h
        exact .text s
    | dict entries =>
        cases h
        exact .mapping entries
    | _ => cases h

namespace FirstMapping

variable {items : Json} {fields : Payload} {raised : Exn}

theorem truthy_of_none (h : FirstMapping items (.ok none)) : items.truthy = false := by
  cases h with
  | empty hFalse => exact falsy_iff.mp hFalse

theorem first_eq (h : FirstMapping items (.ok (some fields))) :
    items.truthy = true ∧ items.first = .ok (.dict fields) := by
  cases h with
  | fields _ rest => exact ⟨rfl, rfl⟩

/-- Reading a field raises, on the way to the first element or at it. -/
theorem get_raises (h : FirstMapping items (.error raised)) : items.truthy = true ∧
    ∀ key default, (do (← items.first).get key default) = Except.error raised := by
  cases h with
  | element hFirst => exact ⟨rfl, fun key default => get_of_not_dict hFirst key default⟩
  | @text s hText =>
      refine ⟨by simp [Value.truthy, hText], fun key default => ?_⟩
      cases hChars : s.toList with
      | nil => exact absurd (String.toList_eq_nil_iff.mp hChars) hText
      | cons c rest =>
          simp only [Value.first, hChars]
          rfl
  | mapping entry entries => exact ⟨rfl, fun _ _ => rfl⟩
  | scalar hTrue hScalar =>
      refine ⟨not_falsy_iff.mp hTrue, fun key default => ?_⟩
      rcases hScalar with ⟨b, rfl⟩ | ⟨n, rfl⟩ | ⟨bits, rfl⟩ <;> rfl

theorem total (items : Json) : ∃ outcome, FirstMapping items outcome := by
  cases hTruthy : items.truthy with
  | false => exact ⟨_, .empty (falsy_iff.mpr hTruthy)⟩
  | true =>
      have hTrue : ¬Falsy items := not_falsy_iff.mpr hTruthy
      cases items with
      | null => cases hTruthy
      | bool b => exact ⟨_, .scalar hTrue (Or.inl ⟨b, rfl⟩)⟩
      | int n => exact ⟨_, .scalar hTrue (Or.inr (Or.inl ⟨n, rfl⟩))⟩
      | float bits => exact ⟨_, .scalar hTrue (Or.inr (Or.inr ⟨bits, rfl⟩))⟩
      | str s => exact ⟨_, .text (by simpa [Value.truthy] using hTruthy)⟩
      | list elements =>
          cases elements with
          | nil => cases hTruthy
          | cons first rest =>
              rcases dict_or_not first with ⟨fields, rfl⟩ | hFirst
              · exact ⟨_, .fields fields rest⟩
              · exact ⟨_, .element hFirst⟩
      | dict entries =>
          cases entries with
          | nil => cases hTruthy
          | cons entry entries => exact ⟨_, .mapping entry entries⟩
      | object o => cases o

end FirstMapping

theorem firstValue_of_first {actions : Json} {first : Option Payload}
    (h : FirstMapping actions (.ok first)) : firstValue actions = .ok (clickedValue first) := by
  cases first with
  | none => rw [firstValue, h.truthy_of_none, if_neg Bool.false_ne_true, clickedValue]
  | some fields =>
      obtain ⟨hTruthy, hFirst⟩ := h.first_eq
      rw [firstValue, if_pos hTruthy, hFirst]
      rfl

theorem firstValue_of_raises {actions : Json} {raised : Exn}
    (h : FirstMapping actions (.error raised)) : firstValue actions = .error raised := by
  obtain ⟨hTruthy, hRaises⟩ := h.get_raises
  rw [firstValue, if_pos hTruthy]
  exact hRaises "value" (.str "")

/-! The session of a payload. -/

section

variable {fresh : Fresh} {rawPayload : Payload} {clicked : Bool} {userId channelId : Json}

theorem isBlockActions_dict (payload : Payload) :
    isBlockActions (.dict payload) =
      .ok ((fieldOr payload "type" .null).eqStr "block_actions") := rfl

theorem type_eqStr_iff {payload : Payload} {text : String} :
    (fieldOr payload "type" .null).eqStr text = true ↔ payload.lookup "type" = some (.str text) := by
  rw [fieldOr]
  cases payload.lookup "type" with
  | none => simp [Value.eqStr]
  | some v => cases v <;> simp [Value.eqStr]

theorem Named.isBlockActions_eq (h : Named rawPayload clicked userId channelId) :
    isBlockActions (unwrapped rawPayload) = .ok clicked := by
  cases h with
  | click hPayload hType _ _ => rw [hPayload, isBlockActions_dict, type_eqStr_iff.mpr hType]
  | event hPayload hType _ =>
      rw [hPayload, isBlockActions_dict, Bool.eq_false_iff.mpr fun h => hType (type_eqStr_iff.mp h)]

theorem Named.resolveSession_eq (h : Named rawPayload clicked userId channelId) :
    (resolveSession fresh rawPayload : Except Exn (ChannelSession Obj)) =
      slackSession fresh userId channelId := by
  have hShape := h.isBlockActions_eq
  cases h with
  | click hPayload _ hUser hChannel =>
      rw [resolveSession_of_click hShape, hPayload]
      simp only [get_dict_eq, bind, Except.bind, hUser, hChannel]
  | event _ _ hEvent =>
      rw [fieldOr] at hEvent
      rw [resolveSession_of_event hShape, hEvent]
      rfl

theorem resolveSession_of_unnamed
    (h : ∀ clicked userId channelId, ¬Named rawPayload clicked userId channelId) :
    (resolveSession fresh rawPayload : Except Exn (ChannelSession Obj)) =
      .error (.attributeError "get") := by
  rcases dict_or_not (unwrapped rawPayload) with ⟨payload, hPayload⟩ | hPayload
  · have hShape := isBlockActions_dict payload
    rw [← hPayload] at hShape
    cases hType : (fieldOr payload "type" .null).eqStr "block_actions" with
    | true =>
        rw [hType] at hShape
        rw [resolveSession_of_click hShape, hPayload]
        rcases dict_or_not (fieldOr payload "user" (.dict [])) with ⟨user, hUser⟩ | hUser
        · rcases dict_or_not (fieldOr payload "channel" (.dict [])) with ⟨channel, hChannel⟩ | hChannel
          · exact absurd (.click hPayload (type_eqStr_iff.mp hType) hUser hChannel) (h _ _ _)
          · simp only [get_dict_eq, bind, Except.bind, hUser, get_of_not_dict hChannel]
        · simp only [get_dict_eq, bind, Except.bind, get_of_not_dict hUser]
    | false =>
        have hOther : payload.lookup "type" ≠ some (.str "block_actions") := by
          rw [ne_eq, ← type_eqStr_iff, hType]
          exact Bool.false_ne_true
        rw [hType] at hShape
        rw [resolveSession_of_event hShape]
        rcases dict_or_not (fieldOr rawPayload "event" (.dict [])) with ⟨event, hEvent⟩ | hEvent
        · exact absurd (.event hPayload hOther hEvent) (h _ _ _)
        · have hGet := get_of_not_dict hEvent
          simp only [fieldOr] at hGet
          simp only [bind, Except.bind, hGet]
  · have hUnwrap : (Value.dict rawPayload).get "payload" (.dict rawPayload) =
        .ok (unwrapped rawPayload) := rfl
    rw [resolveSession, hUnwrap]
    simp only [bind, Except.bind, isBlockActions, get_of_not_dict hPayload]

theorem misnamed_eq_nil_iff :
    misnamed userId channelId = [] ↔ ∃ user channel, userId = .str user ∧ channelId = .str channel := by
  cases userId <;> cases channelId <;> simp [misnamed]

theorem slackSession_of_misnamed (h : misnamed userId channelId ≠ []) :
    (slackSession fresh userId channelId : Except Exn (ChannelSession Obj)) =
      .error (.validationError "ChannelSession" (misnamed userId channelId)) := by
  cases userId <;> cases channelId <;> first | exact absurd rfl h | rfl

theorem slackMessage_of_content {messageType : String} {value : Json} {content : Content}
    (session : ChannelSession Obj) (h : ContentOf value content) :
    slackMessage fresh messageType value session rawPayload =
      .ok ⟨fresh.messageId.str, messageType, content, session, rawPayload, fresh.timestamp⟩ :=
  slackMessage_eq_ok.mpr ⟨content, contentOf_iff.mp h, rfl⟩

theorem slackMessage_of_no_content {messageType : String} {value : Json}
    (session : ChannelSession Obj) (h : ∀ content, ¬ContentOf value content) :
    slackMessage fresh messageType value session rawPayload =
      .error (.validationError "ChannelMessage" [
        ⟨[.field "content", .field "str"], .stringType⟩,
        ⟨[.field "content", .field "dict[str,any]"], .dictType⟩]) := by
  cases value with
  | str s => exact absurd (.text s) (h _)
  | dict entries => exact absurd (.mapping entries) (h _)
  | _ => rfl

/-! The message of a payload. -/

theorem Received.eq {outcome : Except Exn (ChannelMessage Obj)}
    (h : Received fresh rawPayload outcome) : receiveMessage fresh rawPayload = outcome := by
  cases h with
  | unnamed hNone =>
      rw [receiveMessage, resolveSession_of_unnamed hNone]
      rfl
  | misnamed hNamed hMisnamed =>
      rw [receiveMessage, hNamed.resolveSession_eq, slackSession_of_misnamed hMisnamed]
      rfl
  | decision hNamed hPayload hFirst hContent =>
      rw [receiveMessage_of_click hNamed.isBlockActions_eq, hNamed.resolveSession_eq, hPayload]
      simp only [get_dict_eq, bind, Except.bind, firstValue_of_first hFirst]
      exact slackMessage_of_content _ hContent
  | noAction hNamed hPayload hFirst =>
      rw [receiveMessage_of_click hNamed.isBlockActions_eq, hNamed.resolveSession_eq, hPayload]
      simp only [get_dict_eq, bind, Except.bind, firstValue_of_raises hFirst]
      rfl
  | noContent hNamed hPayload hFirst hContent =>
      rw [receiveMessage_of_click hNamed.isBlockActions_eq, hNamed.resolveSession_eq, hPayload]
      simp only [get_dict_eq, bind, Except.bind, firstValue_of_first hFirst]
      exact slackMessage_of_no_content _ hContent
  | @command _ _ rest _ hNamed hEvent hText =>
      have hSlash : startswith ("/" ++ rest) "/" = true := startswith_iff.mpr ⟨rest, rfl⟩
      rw [fieldOr] at hEvent
      rw [receiveMessage_of_event hNamed.isBlockActions_eq, hNamed.resolveSession_eq, hEvent]
      simp only [get_dict_eq, bind, Except.bind, hText, hSlash]
      rfl
  | @textInput _ _ text _ hNamed hEvent hText hSlash =>
      have hNoSlash : startswith text "/" = false := by
        rw [← Bool.not_eq_true, startswith_iff]
        exact not_exists.mpr hSlash
      rw [fieldOr] at hEvent
      rw [receiveMessage_of_event hNamed.isBlockActions_eq, hNamed.resolveSession_eq, hEvent]
      simp only [get_dict_eq, bind, Except.bind, hText, hNoSlash]
      rfl
  | noText hNamed hEvent hText =>
      rw [fieldOr] at hEvent
      rw [receiveMessage_of_event hNamed.isBlockActions_eq, hNamed.resolveSession_eq, hEvent]
      simp only [get_dict_eq, bind, Except.bind]
      cases hText' : fieldOr _ "text" (.str "") with
      | str text => exact absurd hText' (hText text)
      | _ => rfl

theorem Named.payload_of_click (h : Named rawPayload true userId channelId) :
    ∃ payload, unwrapped rawPayload = .dict payload := by
  cases h with
  | click hPayload _ _ _ => exact ⟨_, hPayload⟩

theorem Named.event_of_event (h : Named rawPayload false userId channelId) :
    ∃ event, fieldOr rawPayload "event" (.dict []) = .dict event := by
  cases h with
  | event _ _ hEvent => exact ⟨_, hEvent⟩

theorem Received.of_click {user channel : String}
    (h : Named rawPayload true (.str user) (.str channel)) :
    ∃ outcome : Except Exn (ChannelMessage Obj), Received fresh rawPayload outcome := by
  obtain ⟨payload, hPayload⟩ := h.payload_of_click
  obtain ⟨outcome, hFirst⟩ := FirstMapping.total (fieldOr payload "actions" (.list []))
  cases outcome with
  | error raised => exact ⟨_, .noAction h hPayload hFirst⟩
  | ok first =>
      by_cases hContent : ∃ content, ContentOf (clickedValue first) content
      · obtain ⟨content, hContent⟩ := hContent
        exact ⟨_, .decision h hPayload hFirst hContent⟩
      · exact ⟨_, .noContent h hPayload hFirst (not_exists.mp hContent)⟩

theorem Received.of_event {user channel : String}
    (h : Named rawPayload false (.str user) (.str channel)) :
    ∃ outcome : Except Exn (ChannelMessage Obj), Received fresh rawPayload outcome := by
  obtain ⟨event, hEvent⟩ := h.event_of_event
  cases hText : fieldOr event "text" (.str "") with
  | str text =>
      by_cases hSlash : ∃ rest, text = "/" ++ rest
      · obtain ⟨rest, rfl⟩ := hSlash
        exact ⟨_, .command h hEvent hText⟩
      · exact ⟨_, .textInput h hEvent hText (not_exists.mp hSlash)⟩
  | _ => exact ⟨_, .noText h hEvent fun text => by simp [hText]⟩

theorem Received.total :
    ∃ outcome : Except Exn (ChannelMessage Obj), Received fresh rawPayload outcome := by
  by_cases hNamed : ∃ clicked userId channelId, Named rawPayload clicked userId channelId
  · obtain ⟨clicked, userId, channelId, hNamed⟩ := hNamed
    by_cases hMisnamed : Slack.misnamed userId channelId = []
    · obtain ⟨user, channel, rfl, rfl⟩ := misnamed_eq_nil_iff.mp hMisnamed
      cases clicked with
      | true => exact of_click hNamed
      | false => exact of_event hNamed
    · exact ⟨_, .misnamed hNamed hMisnamed⟩
  · exact ⟨_, .unnamed fun clicked userId channelId h => hNamed ⟨clicked, userId, channelId, h⟩⟩

end

/-- Inbound messages, completely. On every payload `receive_message` has exactly
the outcome that the shape of the payload gives it: the message and its type, or
the exception and the fields it names. -/
theorem receiveMessage_eq_iff (fresh : Fresh) (rawPayload : Payload)
    (outcome : Except Exn (ChannelMessage Obj)) :
    receiveMessage fresh rawPayload = outcome ↔ Received fresh rawPayload outcome := by
  constructor
  · rintro rfl
    obtain ⟨found, hFound⟩ := @Received.total Obj fresh rawPayload
    rw [hFound.eq]
    exact hFound
  · exact Received.eq

/-- A payload for every outcome. In the first, what is wrapped is still a text. -/
theorem receiveMessage_eq_iff_each :
    let click (actions : Json) : Payload := [("payload", .dict [("type", .str "block_actions"),
      ("user", .dict [("id", .str "U123")]), ("channel", .dict [("id", .str "C456")]),
      ("actions", actions)])]
    let event (text : Json) : Payload := [("event", .dict [
      ("user", .str "U123"), ("channel", .str "C456"), ("text", text)])]
    let received (fresh : Fresh) (messageType : String) (content : Content)
        (rawPayload : Payload) : Except Exn (ChannelMessage Empty) :=
      .ok ⟨fresh.messageId.str, messageType, content, builtSession fresh "U123" "C456", rawPayload,
        fresh.timestamp⟩
    ∀ fresh : Fresh,
      (receiveMessage fresh [("payload", .str "{}")] : Except Exn (ChannelMessage Empty)) =
        .error (.attributeError "get") ∧
      (receiveMessage fresh [("event", .dict [("user", .null)])] : Except Exn (ChannelMessage Empty)) =
        .error (.validationError "ChannelSession" [⟨[.field "channel_user_id"], .stringType⟩]) ∧
      receiveMessage fresh (click (.list [.dict [("value", .str "approve")]])) =
        received fresh "hitl_decision" (.text "approve")
          (click (.list [.dict [("value", .str "approve")]])) ∧
      (receiveMessage fresh (click (.dict [("value", .str "approve")])) :
        Except Exn (ChannelMessage Empty)) = .error (.keyError (.int 0)) ∧
      (receiveMessage fresh (click (.list [.dict [("value", .int 7)]])) :
        Except Exn (ChannelMessage Empty)) = .error (.validationError "ChannelMessage" [
          ⟨[.field "content", .field "str"], .stringType⟩,
          ⟨[.field "content", .field "dict[str,any]"], .dictType⟩]) ∧
      receiveMessage fresh (event (.str "/status")) =
        received fresh "command" (.text "/status") (event (.str "/status")) ∧
      receiveMessage fresh (event (.str "status")) =
        received fresh "text_input" (.text "status") (event (.str "status")) ∧
      (receiveMessage fresh (event .null) : Except Exn (ChannelMessage Empty)) =
        .error (.attributeError "startswith") := by
  intro click event received fresh
  have hClick : ∀ actions, Named (click actions) true (.str "U123") (.str "C456") :=
    fun actions =>
      @Named.click (click actions) _ [("id", .str "U123")] [("id", .str "C456")] rfl rfl rfl rfl
  have hEvent : ∀ text, Named (event text) false (.str "U123") (.str "C456") :=
    fun text => @Named.event (event text) (event text)
      [("user", .str "U123"), ("channel", .str "C456"), ("text", text)] rfl nofun rfl
  have hMisnamed : Named [("event", .dict [("user", .null)])] false .null (.str "unknown") :=
    @Named.event _ [("event", .dict [("user", .null)])] [("user", .null)] rfl nofun rfl
  have hUnnamed : ∀ clicked userId channelId,
      ¬Named [("payload", .str "{}")] clicked userId channelId := by
    intro clicked userId channelId h
    cases h with
    | click hPayload _ _ _ => cases hPayload
    | event hPayload _ _ => cases hPayload
  have hSlash : ∀ rest, "status" ≠ "/" ++ rest := by
    intro rest h
    have hStarts : startswith "status" "/" = true := startswith_iff.mpr ⟨rest, h⟩
    exact absurd hStarts (by decide)
  refine ⟨?_, ?_, ?_, ?_, ?_, ?_, ?_, ?_⟩
  · exact (receiveMessage_eq_iff ..).mpr (.unnamed hUnnamed)
  · exact (receiveMessage_eq_iff ..).mpr (.misnamed hMisnamed nofun)
  · exact (receiveMessage_eq_iff ..).mpr (.decision (hClick _) rfl (.fields ..) (.text "approve"))
  · exact (receiveMessage_eq_iff ..).mpr (.noAction (hClick _) rfl (.mapping ..))
  · exact (receiveMessage_eq_iff ..).mpr (.noContent (hClick _) rfl (.fields ..) nofun)
  · exact (receiveMessage_eq_iff ..).mpr (@Received.command _ _ _ _ _ "status" _ (hEvent _) rfl rfl)
  · exact (receiveMessage_eq_iff ..).mpr (.textInput (hEvent _) rfl rfl hSlash)
  · exact (receiveMessage_eq_iff ..).mpr (.noText (hEvent _) rfl nofun)

end CapillaryActions.Reference.Slack
