import CapillaryActions.Reference.Slack.Reads

/-! The source of a payload: the few texts that a message reports. Fields that
are absent or null are left out of it. Parsing a payload of the expected types
either raises, at a null that it does not absorb, or reports the source and
nothing else; so payloads with one source are received alike. -/
namespace CapillaryActions.Reference.Slack

open Python Python.Pydantic Models Semantics.Validation

variable {Obj : Type}

/-- The texts that a message reports, as far as the payload has them. -/
structure Source where
  clicked : Bool
  userId : Option String
  channelId : Option String
  content : Option String
  deriving DecidableEq, Repr

/-- The source of a payload. A button click is told by the unwrapped payload
alone, and a message event by the event of the raw payload alone. -/
def source (rawPayload : Payload) : Source :=
  if clicked rawPayload then {
    clicked := true
    userId := (unwrapped rawPayload).textAt [.field "user", .field "id"]
    channelId := (unwrapped rawPayload).textAt [.field "channel", .field "id"]
    content := (unwrapped rawPayload).textAt [.field "actions", .index 0, .field "value"] }
  else {
    clicked := false
    userId := (Value.dict rawPayload : Json).textAt [.field "event", .field "user"]
    channelId := (Value.dict rawPayload : Json).textAt [.field "event", .field "channel"]
    content := (Value.dict rawPayload : Json).textAt [.field "event", .field "text"] }

namespace Source

def session (source : Source) (fresh : Fresh) : ChannelSession Obj :=
  builtSession fresh (source.userId.getD "unknown") (source.channelId.getD "unknown")

def messageType (source : Source) : String :=
  if source.clicked then "hitl_decision"
  else if startswith (source.content.getD "") "/" then "command" else "text_input"

/-- The message that reports a source in a session. -/
def messageIn (source : Source) (session : ChannelSession Obj) (fresh : Fresh)
    (rawPayload : Payload) : ChannelMessage Obj where
  id := fresh.messageId.str
  messageType := source.messageType
  content := .text (source.content.getD "")
  session := session
  rawPayload := rawPayload
  timestamp := fresh.timestamp

def message (source : Source) (fresh : Fresh) (rawPayload : Payload) : ChannelMessage Obj :=
  source.messageIn (source.session fresh) fresh rawPayload

end Source

section

variable {fresh : Fresh} {rawPayload payload : Payload}

theorem isBlockActions_unwrapped (h : unwrapped rawPayload = .dict payload) :
    isBlockActions (unwrapped rawPayload) = .ok (clicked rawPayload) := by
  have hType : ∀ field? : Option Json, (field?.getD .null).eqStr "block_actions" =
      decide (field?.bind Value.str? = some "block_actions") := by
    intro field?
    cases field? with
    | none => rfl
    | some v => cases v <;> simp [Value.eqStr, Value.str?]
  have hLookup : (unwrapped rawPayload).textAt [.field "type"] =
      (payload.lookup "type").bind Value.str? := by
    rw [h, Value.textAt]
    simp
  rw [clicked, hLookup, h, isBlockActions, Value.get_dict]
  exact congrArg Except.ok (hType _)

/-- The payload is null, or else it can be unwrapped to a mapping. -/
theorem unwrapped_cases (h : Expected true (sessionReads rawPayload) rawPayload) :
    rawPayload.lookup "payload" = some .null ∨
      (rawPayload.lookup "payload" ≠ some .null ∧ ∃ payload, unwrapped rawPayload = .dict payload) := by
  have hPayload := h.below_raw false (List.mem_cons_self ..)
  cases hLookup : rawPayload.lookup "payload" with
  | none => exact Or.inr ⟨by simp, rawPayload, by rw [unwrapped, hLookup, Option.getD_none]⟩
  | some v =>
      rcases hPayload v (by simp [hLookup]) with ⟨entries, rfl⟩ | rfl
      · exact Or.inr ⟨by simp, entries, by rw [unwrapped, hLookup, Option.getD_some]⟩
      · exact Or.inl rfl

/-- Nothing can be parsed below a null. -/
theorem resolveSession_of_null (h : rawPayload.lookup "payload" = some .null)
    (session : ChannelSession Obj) : resolveSession fresh rawPayload ≠ .ok session := by
  have hNull : (Value.dict rawPayload : Json).get "payload" (.dict rawPayload) = .ok .null := by
    rw [Value.get_dict, h, Option.getD_some]
  intro hOk
  rw [resolveSession, hNull] at hOk
  cases hOk

theorem builtSession_eq_iff {session : ChannelSession Obj} {userId channelId : String} :
    session = builtSession fresh userId channelId ↔
      userId = session.channelUserId ∧ channelId = session.channelConversationId ∧
      session = builtSession fresh session.channelUserId session.channelConversationId := by
  constructor
  · rintro rfl
    exact ⟨rfl, rfl, rfl⟩
  · intro h
    obtain ⟨rfl, rfl, hSession⟩ := h
    exact hSession

/-- The last steps of both branches of `resolve_session`: two reads, and the
session that is built from them. -/
theorem slackSession_getIn_iff {entries : Payload} {outer inner outer' inner' : String}
    (hOuter : Kind.mapping.OrNull ((Value.dict entries : Json).at? [.field outer]))
    (hInner : Kind.text.OrNull ((Value.dict entries : Json).at? [.field outer, .field inner]))
    (hOuter' : Kind.mapping.OrNull ((Value.dict entries : Json).at? [.field outer']))
    (hInner' : Kind.text.OrNull ((Value.dict entries : Json).at? [.field outer', .field inner']))
    (session : ChannelSession Obj) :
    (do slackSession fresh (← getIn (.dict entries) outer inner (.str "unknown"))
          (← getIn (.dict entries) outer' inner' (.str "unknown"))) = Except.ok session ↔
      ((Value.dict entries : Json).at? [.field outer] ≠ some .null ∧
      (Value.dict entries : Json).at? [.field outer, .field inner] ≠ some .null ∧
      (Value.dict entries : Json).at? [.field outer'] ≠ some .null ∧
      (Value.dict entries : Json).at? [.field outer', .field inner'] ≠ some .null) ∧
      session = builtSession fresh
        (((Value.dict entries : Json).textAt [.field outer, .field inner]).getD "unknown")
        (((Value.dict entries : Json).textAt [.field outer', .field inner']).getD "unknown") := by
  rw [builtSession_eq_iff]
  simp only [bind_eq_ok, slackSession_eq_ok]
  constructor
  · intro h
    obtain ⟨_, hUser, _, hChannel, rfl, rfl, hSession⟩ := h
    obtain ⟨hUserNull, hIdNull, hUserText⟩ := (getIn_eq_ok_iff hOuter hInner _ _).mp hUser
    obtain ⟨hChannelNull, hIdNull', hChannelText⟩ := (getIn_eq_ok_iff hOuter' hInner' _ _).mp hChannel
    exact ⟨⟨hUserNull, hIdNull, hChannelNull, hIdNull'⟩, hUserText, hChannelText, hSession⟩
  · intro h
    obtain ⟨⟨hUserNull, hIdNull, hChannelNull, hIdNull'⟩, hUserText, hChannelText, hSession⟩ := h
    have hUser := (getIn_eq_ok_iff hOuter hInner _ _).mpr ⟨hUserNull, hIdNull, hUserText⟩
    have hChannel := (getIn_eq_ok_iff hOuter' hInner' _ _).mpr ⟨hChannelNull, hIdNull', hChannelText⟩
    exact ⟨_, hUser, _, hChannel, rfl, rfl, hSession⟩

/-- Resolving a session succeeds exactly if no null is in its way, and then
with the session of the source. -/
theorem resolveSession_eq_ok_iff (h : Expected true (sessionReads rawPayload) rawPayload)
    (session : ChannelSession Obj) :
    resolveSession fresh rawPayload = .ok session ↔
      NullsAbsorbed (sessionReads rawPayload) rawPayload ∧
      session = (source rawPayload).session fresh := by
  rcases unwrapped_cases h with hNull | ⟨hPayload, payload, hUnwrapped⟩
  · refine iff_of_false (resolveSession_of_null hNull session) ?_
    intro hBoth
    refine hBoth.1 ⟨false, [.field "payload"], .mapping, false⟩ (List.mem_cons_self ..) rfl ?_
    simp [FieldRead.value?, hNull]
  · have hShape := isBlockActions_unwrapped hUnwrapped
    cases hClick : clicked rawPayload with
    | true =>
        rw [hClick] at hShape
        have hGets : (resolveSession fresh rawPayload : Except Exn (ChannelSession Obj)) = (do
            slackSession fresh (← getIn (.dict payload) "user" "id" (.str "unknown"))
              (← getIn (.dict payload) "channel" "id" (.str "unknown"))) := by
          rw [resolveSession_of_click hShape, hUnwrapped]
          simp only [getIn, bind_assoc]
        have hReads := h
        rw [sessionReads, hClick, if_pos rfl] at hReads
        rw [hGets, slackSession_getIn_iff (hReads.below_unwrapped hUnwrapped false (by simp))
          (hReads.below_unwrapped hUnwrapped false (by simp))
          (hReads.below_unwrapped hUnwrapped false (by simp))
          (hReads.below_unwrapped hUnwrapped false (by simp))]
        simp [NullsAbsorbed, sessionReads, FieldRead.value?, Source.session, source, hClick,
          hUnwrapped, hPayload]
    | false =>
        rw [hClick] at hShape
        -- The event is read once, which is the same as reading it for each field.
        have hGets : (resolveSession fresh rawPayload : Except Exn (ChannelSession Obj)) = (do
            slackSession fresh (← getIn (.dict rawPayload) "event" "user" (.str "unknown"))
              (← getIn (.dict rawPayload) "event" "channel" (.str "unknown"))) :=
          resolveSession_of_event hShape
        have hReads := h
        rw [sessionReads, hClick, if_neg Bool.false_ne_true] at hReads
        rw [hGets, slackSession_getIn_iff (hReads.below_raw false (by simp))
          (hReads.below_raw false (by simp)) (hReads.below_raw false (by simp))
          (hReads.below_raw false (by simp))]
        simpa [NullsAbsorbed, sessionReads, FieldRead.value?, Source.session, source, hClick,
          hPayload] using fun _ hEvent _ _ => hEvent

theorem contentField_getD_iff {field? : Option Json}
    (h : Kind.text.OrNull field?) (content : Content) :
    contentField (field?.getD (.str "")) = .ok content ↔
      field? ≠ some .null ∧ content = .text ((field?.bind Value.str?).getD "") := by
  cases field? with
  | none => simp [contentField, eq_comm]
  | some v =>
      rcases h v rfl with ⟨t, rfl⟩ | rfl
      · simp [contentField, Value.str?, eq_comm]
      · simp [contentField]

/-- The first action is read if there is one, and its value if it has one. -/
theorem firstValue_eq_ok_iff {entries : Payload}
    (hActions : Kind.sequence.OrNull ((Value.dict entries : Json).at? [.field "actions"]))
    (hFirst : Kind.mapping.OrNull ((Value.dict entries : Json).at? [.field "actions", .index 0]))
    (v : Json) :
    firstValue ((entries.lookup "actions").getD (.list [])) = .ok v ↔
      (Value.dict entries : Json).at? [.field "actions", .index 0] ≠ some .null ∧
      ((Value.dict entries : Json).at? [.field "actions", .index 0, .field "value"]).getD (.str "") =
        v := by
  cases hLookup : entries.lookup "actions" with
  | none => simp [hLookup, firstValue, Value.truthy]
  | some actions =>
      rcases hActions actions (by simp [hLookup]) with ⟨elements, rfl⟩ | rfl
      · cases elements with
        | nil => simp [hLookup, firstValue, Value.truthy]
        | cons first rest =>
            have hGet : firstValue (.list (first :: rest)) = first.get "value" (.str "") := rfl
            rcases hFirst first (by simp [hLookup]) with ⟨fields, rfl⟩ | rfl
            · simp [hLookup, hGet]
            · simp [hLookup, hGet, Value.get]
      · simp [hLookup, firstValue, Value.truthy, Value.item?]

/-- The last step of `receive_message` for a button click. -/
theorem click_content_iff (hUnwrapped : unwrapped rawPayload = .dict payload)
    (hClick : clicked rawPayload = true) (h : Expected true (contentReads rawPayload) rawPayload)
    (session : ChannelSession Obj) (message : ChannelMessage Obj) :
    (do
      let actionValue ← firstValue (← (unwrapped rawPayload).get "actions" (.list []))
      slackMessage fresh "hitl_decision" actionValue session rawPayload) = Except.ok message ↔
      NullsAbsorbed (contentReads rawPayload) rawPayload ∧
      message = (source rawPayload).messageIn session fresh rawPayload := by
  rw [contentReads, hClick, if_pos rfl] at h
  have hActions : (unwrapped rawPayload).get "actions" (.list []) =
      .ok ((payload.lookup "actions").getD (.list [])) := by
    rw [hUnwrapped]
    rfl
  have hValue : Kind.text.OrNull
      ((Value.dict payload : Json).at? [.field "actions", .index 0, .field "value"]) :=
    h.below_unwrapped hUnwrapped false (by simp)
  have hNulls : NullsAbsorbed (contentReads rawPayload) rawPayload ↔
      (Value.dict payload : Json).at? [.field "actions", .index 0] ≠ some .null ∧
      (Value.dict payload : Json).at? [.field "actions", .index 0, .field "value"] ≠ some .null := by
    simp [NullsAbsorbed, contentReads, hClick, FieldRead.value?, hUnwrapped]
  have hSource : (source rawPayload).messageType = "hitl_decision" ∧ (source rawPayload).content =
      (Value.dict payload : Json).textAt [.field "actions", .index 0, .field "value"] := by
    simp [source, Source.messageType, hClick, hUnwrapped]
  rw [hActions, hNulls, Source.messageIn, hSource.1, hSource.2]
  simp only [bind_eq_ok, Except.ok.injEq, exists_eq_left', slackMessage_eq_ok,
    firstValue_eq_ok_iff (h.below_unwrapped hUnwrapped true (by simp))
      (h.below_unwrapped hUnwrapped false (by simp))]
  constructor
  · intro hRead
    obtain ⟨_, ⟨hFirst, rfl⟩, given, hGiven, rfl⟩ := hRead
    obtain ⟨hNull, rfl⟩ := (contentField_getD_iff hValue given).mp hGiven
    exact ⟨⟨hFirst, hNull⟩, rfl⟩
  · intro hRead
    obtain ⟨⟨hFirst, hNull⟩, rfl⟩ := hRead
    exact ⟨_, ⟨hFirst, rfl⟩, _, (contentField_getD_iff hValue _).mpr ⟨hNull, rfl⟩, rfl⟩

/-- The last step of `receive_message` for a message event, after the event was
read for the session. -/
theorem event_content_iff (hClick : clicked rawPayload = false)
    (hEvent : Kind.mapping.OrNull ((Value.dict rawPayload : Json).at? [.field "event"]))
    (hThere : (Value.dict rawPayload : Json).at? [.field "event"] ≠ some .null)
    (h : Expected true (contentReads rawPayload) rawPayload)
    (session : ChannelSession Obj) (message : ChannelMessage Obj) :
    (do
      match ← ((rawPayload.lookup "event").getD (.dict [])).get "text" (.str "") with
      | .str text =>
          let messageType := if startswith text "/" then "command" else "text_input"
          slackMessage fresh messageType (.str text) session rawPayload
      | _ => throw (.attributeError "startswith")) = Except.ok message ↔
      NullsAbsorbed (contentReads rawPayload) rawPayload ∧
      message = (source rawPayload).messageIn session fresh rawPayload := by
  rw [contentReads, hClick, if_neg Bool.false_ne_true] at h
  have hText : Kind.text.OrNull ((Value.dict rawPayload : Json).at? [.field "event", .field "text"]) :=
    h.below_raw false (by simp)
  have hNulls : NullsAbsorbed (contentReads rawPayload) rawPayload ↔
      (Value.dict rawPayload : Json).at? [.field "event", .field "text"] ≠ some .null := by
    simp [NullsAbsorbed, contentReads, hClick, FieldRead.value?]
  have hSource : source rawPayload = ⟨false,
      (Value.dict rawPayload : Json).textAt [.field "event", .field "user"],
      (Value.dict rawPayload : Json).textAt [.field "event", .field "channel"],
      (Value.dict rawPayload : Json).textAt [.field "event", .field "text"]⟩ := by
    simp [source, hClick]
  rw [hNulls, hSource]
  constructor
  · intro hRead
    obtain ⟨v, hGot, hMessage⟩ := bind_eq_ok.mp hRead
    cases v with
    | str text =>
        obtain ⟨_, hNull, hFound⟩ := (getIn_eq_ok_iff hEvent hText "" text).mp hGot
        obtain ⟨given, hGiven, rfl⟩ := slackMessage_eq_ok.mp hMessage
        cases hGiven
        refine ⟨hNull, ?_⟩
        simp only [Source.messageIn, Source.messageType, hFound]
        rfl
    | _ => cases hMessage
  · intro hRead
    obtain ⟨hNull, rfl⟩ := hRead
    have hGot := (getIn_eq_ok_iff hEvent hText "" _).mpr ⟨hThere, hNull, rfl⟩
    exact bind_eq_ok.mpr ⟨_, hGot, slackMessage_eq_ok.mpr ⟨_, rfl, rfl⟩⟩

/-- Once the session is resolved, receiving succeeds exactly if no null is in
the way of the content. -/
theorem receiveMessage_eq_ok_iff_of_session
    (h : Expected true (messageReads rawPayload) rawPayload) {session : ChannelSession Obj}
    (hResolved : resolveSession fresh rawPayload = .ok session) (message : ChannelMessage Obj) :
    receiveMessage fresh rawPayload = .ok message ↔
      NullsAbsorbed (contentReads rawPayload) rawPayload ∧
      message = (source rawPayload).messageIn session fresh rawPayload := by
  obtain ⟨hSession, hContent⟩ := Expected.append_iff.mp h
  obtain ⟨hNulls, _⟩ := (resolveSession_eq_ok_iff hSession session).mp hResolved
  rcases unwrapped_cases hSession with hNull | ⟨_, payload, hUnwrapped⟩
  · exact absurd hResolved (resolveSession_of_null hNull session)
  · have hShape := isBlockActions_unwrapped hUnwrapped
    cases hClick : clicked rawPayload with
    | true =>
        rw [hClick] at hShape
        rw [receiveMessage_of_click hShape, hResolved]
        exact click_content_iff hUnwrapped hClick hContent session message
    | false =>
        rw [hClick] at hShape
        rw [sessionReads, hClick, if_neg Bool.false_ne_true] at hSession hNulls
        have hThere := hNulls ⟨false, [.field "event"], .mapping, false⟩ (by simp) rfl
        rw [receiveMessage_of_event hShape, hResolved]
        exact event_content_iff hClick (hSession.below_raw false (by simp)) hThere hContent session
          message

/-- Receiving a message succeeds exactly if no null is in its way, and then it
reports the source. -/
theorem receiveMessage_eq_ok_iff (h : Expected true (messageReads rawPayload) rawPayload)
    (message : ChannelMessage Obj) :
    receiveMessage fresh rawPayload = .ok message ↔
      NullsAbsorbed (messageReads rawPayload) rawPayload ∧
      message = (source rawPayload).message fresh rawPayload := by
  obtain ⟨hSession, _⟩ := Expected.append_iff.mp h
  rw [messageReads, NullsAbsorbed.append_iff]
  constructor
  · intro hOk
    have hResolved := receiveMessage_session hOk
    obtain ⟨hNulls, hSame⟩ := (resolveSession_eq_ok_iff hSession _).mp hResolved
    obtain ⟨hNulls', hFields⟩ := (receiveMessage_eq_ok_iff_of_session h hResolved message).mp hOk
    rw [hSame] at hFields
    exact ⟨⟨hNulls, hNulls'⟩, hFields⟩
  · intro hBoth
    obtain ⟨⟨hNulls, hNulls'⟩, rfl⟩ := hBoth
    have hResolved : resolveSession fresh rawPayload =
        .ok ((source rawPayload).session fresh : ChannelSession Obj) :=
      (resolveSession_eq_ok_iff hSession _).mpr ⟨hNulls, rfl⟩
    exact (receiveMessage_eq_ok_iff_of_session h hResolved _).mpr ⟨hNulls', rfl⟩

end

/-- Sessions that differ at most in what was drawn for them. -/
def SameButFresh (session other : ChannelSession Obj) : Prop :=
  { session with id := other.id, createdAt := other.createdAt, lastActive := other.lastActive } =
    other

theorem Source.session_sameButFresh (source : Source) (fresh fresh' : Fresh) :
    SameButFresh (source.session fresh : ChannelSession Obj) (source.session fresh') := rfl

/-- Two payloads of one shape that agree where the shape is read. Below the
event this is asked of the three fields that are read, whatever else differs. -/
inductive SameSource (rawPayload other : Payload) : Prop where
  | click (hClick : clicked rawPayload = true) (hOther : clicked other = true)
      (hSame : ∀ path ∈ [[.field "user", .field "id"], [.field "channel", .field "id"],
        [.field "actions", .index 0, .field "value"]],
        (unwrapped rawPayload).at? path = (unwrapped other).at? path)
  | event (hEvent : clicked rawPayload = false) (hOther : clicked other = false)
      (hSame : ∀ name ∈ ["user", "channel", "text"],
        (Value.dict rawPayload : Json).at? [.field "event", .field name] =
          (Value.dict other : Json).at? [.field "event", .field name])

theorem SameSource.source_eq {rawPayload other : Payload} (h : SameSource rawPayload other) :
    source rawPayload = source other := by
  cases h with
  | click hClick hOther hSame =>
      have hUser := hSame [.field "user", .field "id"] (by simp)
      have hChannel := hSame [.field "channel", .field "id"] (by simp)
      have hValue := hSame [.field "actions", .index 0, .field "value"] (by simp)
      rw [source, source, if_pos hClick, if_pos hOther]
      simp only [Value.textAt, hUser, hChannel, hValue]
  | event hEvent hOther hSame =>
      have hUser := hSame "user" (by simp)
      have hChannel := hSame "channel" (by simp)
      have hText := hSame "text" (by simp)
      rw [source, source, if_neg (by simp [hEvent]), if_neg (by simp [hOther])]
      simp only [Value.textAt, hUser, hChannel, hText]

/-- A payload without nulls is received, and the session in its message is the
one that is resolved from it. -/
theorem receiveMessage_of_expected (Obj : Type) {rawPayload : Payload}
    (h : Expected false (messageReads rawPayload) rawPayload) (fresh : Fresh) :
    receiveMessage fresh rawPayload =
      .ok ((source rawPayload).message fresh rawPayload : ChannelMessage Obj) ∧
    resolveSession fresh rawPayload =
      .ok ((source rawPayload).session fresh : ChannelSession Obj) := by
  have hMessage : receiveMessage fresh rawPayload =
      .ok ((source rawPayload).message fresh rawPayload : ChannelMessage Obj) :=
    (receiveMessage_eq_ok_iff h.nullable _).mpr ⟨h.nullsAbsorbed, rfl⟩
  exact ⟨hMessage, receiveMessage_session hMessage⟩

/-- A message takes all it reports from one source. Two payloads that agree on
it are both received, with messages that agree, whatever else they hold; and
each of the sessions is the one that is resolved from its payload. -/
theorem receiveMessage_takes_one_source {rawPayload other : Payload}
    (h : Expected false (messageReads rawPayload) rawPayload)
    (hOther : Expected false (messageReads other) other) (hSame : SameSource rawPayload other)
    (fresh fresh' fresh'' : Fresh) :
    ∃ message message' : ChannelMessage Obj, ∃ session session' : ChannelSession Obj,
      receiveMessage fresh rawPayload = .ok message ∧
      receiveMessage fresh' other = .ok message' ∧
      message.messageType = message'.messageType ∧ message.content = message'.content ∧
      message.session.channelUserId = message'.session.channelUserId ∧
      message.session.channelConversationId = message'.session.channelConversationId ∧
      message.session.metadata = message'.session.metadata ∧
      resolveSession fresh'' rawPayload = .ok session ∧ SameButFresh message.session session ∧
      resolveSession fresh'' other = .ok session' ∧ SameButFresh message'.session session' := by
  obtain ⟨hMessage, _⟩ := receiveMessage_of_expected Obj h fresh
  obtain ⟨hMessage', _⟩ := receiveMessage_of_expected Obj hOther fresh'
  obtain ⟨_, hSession⟩ := receiveMessage_of_expected Obj h fresh''
  obtain ⟨_, hSession'⟩ := receiveMessage_of_expected Obj hOther fresh''
  rw [hSame.source_eq] at hMessage hSession
  exact ⟨_, _, _, _, hMessage, hMessage', rfl, rfl, rfl, rfl, rfl,
    hSession, (source other).session_sameButFresh fresh fresh'',
    hSession', (source other).session_sameButFresh fresh' fresh''⟩

/-- A button click, and the same click below `payload` beside a stray event of
another user. -/
theorem receiveMessage_takes_one_source_stray :
    let click : Payload := [
      ("type", .str "block_actions"),
      ("user", .dict [("id", .str "U123")]),
      ("channel", .dict [("id", .str "C456")]),
      ("actions", .list [.dict [("value", .str "approve")]])]
    let stray : Payload := [
      ("event", .dict [("user", .str "U999"), ("channel", .str "C999"), ("text", .str "/reject")]),
      ("payload", .dict click)]
    clicked click = true ∧ ∀ fresh fresh' fresh'' : Fresh,
    ∃ message message' : ChannelMessage Empty, ∃ session session' : ChannelSession Empty,
      receiveMessage fresh click = .ok message ∧
      receiveMessage fresh' stray = .ok message' ∧
      message.messageType = message'.messageType ∧ message.content = message'.content ∧
      message.session.channelUserId = message'.session.channelUserId ∧
      message.session.channelConversationId = message'.session.channelConversationId ∧
      message.session.metadata = message'.session.metadata ∧
      resolveSession fresh'' click = .ok session ∧ SameButFresh message.session session ∧
      resolveSession fresh'' stray = .ok session' ∧ SameButFresh message'.session session' := by
  intro click stray
  have hSame : SameSource click stray := .click (by decide) (by decide) fun _ _ => rfl
  exact ⟨by decide, receiveMessage_takes_one_source (by decide) (by decide) hSame⟩

end CapillaryActions.Reference.Slack
