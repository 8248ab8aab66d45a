import CapillaryActions.Reference.Slack.Attachment
import CapillaryActions.Reference.Slack.Source

/-! Nulls in inbound payloads. Wherever a null is absorbed, it is handled just
like an absent field; anywhere else a parser raises, so there is no third way
to handle one. -/
namespace CapillaryActions.Reference.Slack

open Python Models

variable {Obj : Type}

instance : Inhabited Fresh := ⟨⟨⟨0⟩, ⟨0⟩, ⟨0, none⟩, ⟨0, none⟩, ⟨0, none⟩⟩⟩

/-- Messages that differ at most in what was drawn for them and in the payload
that they store. -/
def SameReport (message other : ChannelMessage Obj) : Prop :=
  SameButFresh message.session other.session ∧
  { message with
      id := other.id, session := other.session, rawPayload := other.rawPayload,
      timestamp := other.timestamp } = other

/-- Every parser returns, and returns what it does for the payload without its
null fields. -/
structure NullLikeAbsent (runtime : Runtime Obj) (rawPayload : Payload) : Prop where
  message : ∀ fresh fresh' : Fresh, ∃ message message' : ChannelMessage Obj,
    receiveMessage fresh rawPayload = .ok message ∧
    receiveMessage fresh' (Value.withoutNullFields rawPayload) = .ok message' ∧
    SameReport message message'
  session : ∀ fresh fresh' : Fresh, ∃ session session' : ChannelSession Obj,
    resolveSession fresh rawPayload = .ok session ∧
    resolveSession fresh' (Value.withoutNullFields rawPayload) = .ok session' ∧
    SameButFresh session session'
  file : ∃ file?, receiveFile runtime rawPayload = .ok file? ∧
    receiveFile runtime (Value.withoutNullFields rawPayload) = .ok file?

theorem Kind.Admits.withoutNulls {kind : Kind} {v : Json} (h : kind.Admits v) :
    kind.Admits v.withoutNulls := by
  cases kind with
  | text =>
      obtain ⟨s, rfl⟩ := h
      exact ⟨s, by rw [Value.withoutNulls]⟩
  | integer =>
      obtain ⟨n, rfl⟩ := h
      exact ⟨n, by rw [Value.withoutNulls]⟩
  | mapping =>
      obtain ⟨entries, rfl⟩ := h
      exact ⟨_, by rw [Value.withoutNulls]⟩
  | sequence =>
      obtain ⟨elements, rfl⟩ := h
      exact ⟨_, by rw [Value.withoutNulls]⟩

section

variable {rawPayload : Payload} {reads : List FieldRead}
  (hPayload : rawPayload.lookup "payload" ≠ some .null)
include hPayload

/-- Removing nulls and unwrapping can be done in either order. -/
theorem unwrapped_withoutNulls :
    unwrapped (Value.withoutNullFields rawPayload) = (unwrapped rawPayload).withoutNulls := by
  rw [unwrapped, unwrapped]
  cases hLookup : rawPayload.lookup "payload" with
  | none =>
      have hNone : (Value.withoutNullFields rawPayload).lookup "payload" = none := by
        rw [Option.eq_none_iff_forall_ne_some]
        intro w hSome
        obtain ⟨_, hFound, _⟩ := (Value.lookup_withoutNullFields ..).mp hSome
        rw [hLookup] at hFound
        cases hFound
      rw [hNone, Option.getD_none, Option.getD_none, Value.withoutNulls_dict]
  | some v =>
      have hSome : (Value.withoutNullFields rawPayload).lookup "payload" = some v.withoutNulls :=
        (Value.lookup_withoutNullFields ..).mpr ⟨v, hLookup, by simpa [hLookup] using hPayload, rfl⟩
      rw [hSome, Option.getD_some, Option.getD_some]

theorem FieldRead.value?_of_withoutNulls {read : FieldRead} {w : Json}
    (h : read.value? (Value.withoutNullFields rawPayload) = some w) :
    ∃ v, read.value? rawPayload = some v ∧ v.withoutNulls = w := by
  have hBase : (if read.unwraps then unwrapped (Value.withoutNullFields rawPayload)
      else .dict (Value.withoutNullFields rawPayload)) =
      (if read.unwraps then unwrapped rawPayload else .dict rawPayload).withoutNulls := by
    cases read.unwraps with
    | true => exact unwrapped_withoutNulls hPayload
    | false => exact (Value.withoutNulls_dict rawPayload).symm
  rw [value?, hBase] at h
  exact Value.at?_of_withoutNulls h

theorem Expected.withoutNulls (h : Expected true reads rawPayload) :
    Expected true reads (Value.withoutNullFields rawPayload) := by
  intro read hMem w hValue
  obtain ⟨v, hOriginal, rfl⟩ := read.value?_of_withoutNulls hPayload hValue
  rcases h read hMem v hOriginal with hKind | ⟨_, rfl⟩
  · exact Or.inl hKind.withoutNulls
  · exact Or.inr ⟨rfl, by simp⟩

theorem NullsAbsorbed.withoutNulls (h : NullsAbsorbed reads rawPayload) :
    NullsAbsorbed reads (Value.withoutNullFields rawPayload) := by
  intro read hMem hAbsorbs hValue
  obtain ⟨v, hOriginal, hNull⟩ := read.value?_of_withoutNulls hPayload hValue
  rw [Value.withoutNulls_eq_null_iff] at hNull
  exact h read hMem hAbsorbs (hNull ▸ hOriginal)

theorem clicked_withoutNulls :
    clicked (Value.withoutNullFields rawPayload) = clicked rawPayload := by
  rw [clicked, clicked, unwrapped_withoutNulls hPayload, Value.textAt_withoutNulls]

theorem messageReads_withoutNulls :
    messageReads (Value.withoutNullFields rawPayload) = messageReads rawPayload := by
  simp only [messageReads, sessionReads, contentReads, clicked_withoutNulls hPayload]

/-- Nulls do not count for the source. -/
theorem source_withoutNulls :
    source (Value.withoutNullFields rawPayload) = source rawPayload := by
  have hRaw : ∀ path, (Value.dict (Value.withoutNullFields rawPayload) : Json).textAt path =
      (Value.dict rawPayload : Json).textAt path := by
    intro path
    rw [← Value.textAt_withoutNulls (Value.dict rawPayload), Value.withoutNulls_dict]
  simp only [source, clicked_withoutNulls hPayload, unwrapped_withoutNulls hPayload,
    Value.textAt_withoutNulls, hRaw]

end

section

variable {rawPayload : Payload}

/-- Every payload is unwrapped first. -/
theorem NullsAbsorbed.payload (h : NullsAbsorbed (messageReads rawPayload) rawPayload) :
    rawPayload.lookup "payload" ≠ some .null := by
  have hRead := h ⟨false, [.field "payload"], .mapping, false⟩ (List.mem_cons_self ..) rfl
  simpa [FieldRead.value?] using hRead

/-- The first file is no field itself, so it stays. -/
theorem attachment_withoutNulls (h : NullsAbsorbed fileReads rawPayload) :
    attachment (Value.withoutNullFields rawPayload) = attachment rawPayload := by
  have hFile : ∀ first : Json, fileOf first.withoutNulls = fileOf first := by
    intro first
    simp only [fileOf, Value.textAt_withoutNulls, Value.intAt_withoutNulls]
  rw [attachment, attachment, ← Value.withoutNulls_dict]
  cases hFirst : (Value.dict rawPayload : Json).at? [.field "event", .field "files", .index 0] with
  | none =>
      have hNone : (Value.dict rawPayload : Json).withoutNulls.at?
          [.field "event", .field "files", .index 0] = none := by
        rw [Option.eq_none_iff_forall_ne_some]
        intro w hSome
        obtain ⟨_, hFound, _⟩ := Value.at?_of_withoutNulls hSome
        rw [hFirst] at hFound
        cases hFound
      rw [hNone]
  | some first =>
      have hNull : first ≠ .null := by
        rintro rfl
        exact h ⟨false, [.field "event", .field "files", .index 0], .mapping, false⟩
          (by simp [fileReads]) rfl hFirst
      rw [Value.at?_withoutNulls hFirst hNull, Option.map_some, Option.map_some, hFile]

/-- What is received of a payload is received of it without its null fields. -/
theorem receiveMessage_withoutNulls (Obj : Type)
    (h : Expected true (messageReads rawPayload) rawPayload)
    (hNulls : NullsAbsorbed (messageReads rawPayload) rawPayload) (fresh : Fresh) :
    receiveMessage fresh (Value.withoutNullFields rawPayload) =
      .ok ((source rawPayload).message fresh (Value.withoutNullFields rawPayload) :
        ChannelMessage Obj) := by
  have hPayload := hNulls.payload
  have h' := h.withoutNulls hPayload
  have hNulls' := hNulls.withoutNulls hPayload
  rw [← messageReads_withoutNulls hPayload] at h' hNulls'
  rw [← source_withoutNulls hPayload]
  exact (receiveMessage_eq_ok_iff h' _).mpr ⟨hNulls', rfl⟩

theorem receiveFile_withoutNulls {runtime : Runtime Obj}
    (hPayload : rawPayload.lookup "payload" ≠ some .null)
    (h : Expected true fileReads rawPayload) (hNulls : NullsAbsorbed fileReads rawPayload) :
    receiveFile runtime (Value.withoutNullFields rawPayload) = .ok (attachment rawPayload) := by
  rw [← attachment_withoutNulls hNulls]
  exact (receiveFile_eq_ok_iff (h.withoutNulls hPayload) _).mpr
    ⟨hNulls.withoutNulls hPayload, rfl⟩

/-- Nulls are handled like absence exactly if all of them are absorbed. -/
theorem nullLikeAbsent_iff (runtime : Runtime Obj)
    (h : Expected true (messageReads rawPayload ++ fileReads) rawPayload) :
    NullLikeAbsent runtime rawPayload ↔
      NullsAbsorbed (messageReads rawPayload ++ fileReads) rawPayload := by
  obtain ⟨hMessage, hFile⟩ := Expected.append_iff.mp h
  rw [NullsAbsorbed.append_iff]
  constructor
  · intro hLike
    obtain ⟨message, _, hReceived, _⟩ := hLike.message default default
    obtain ⟨file?, hFileReceived, _⟩ := hLike.file
    exact ⟨((receiveMessage_eq_ok_iff hMessage message).mp hReceived).1,
      ((receiveFile_eq_ok_iff hFile file?).mp hFileReceived).1⟩
  · intro hBoth
    obtain ⟨hNulls, hFileNulls⟩ := hBoth
    have hReceived : ∀ fresh : Fresh, receiveMessage fresh rawPayload =
        .ok ((source rawPayload).message fresh rawPayload : ChannelMessage Obj) := fun fresh =>
      (receiveMessage_eq_ok_iff hMessage _).mpr ⟨hNulls, rfl⟩
    have hReceived' := receiveMessage_withoutNulls Obj hMessage hNulls
    constructor
    · intro fresh fresh'
      exact ⟨_, _, hReceived fresh, hReceived' fresh', rfl, rfl⟩
    · intro fresh fresh'
      exact ⟨_, _, receiveMessage_session (hReceived fresh),
        receiveMessage_session (hReceived' fresh'), rfl⟩
    · exact ⟨attachment rawPayload, (receiveFile_eq_ok_iff hFile _).mpr ⟨hFileNulls, rfl⟩,
        receiveFile_withoutNulls hNulls.payload hFile hFileNulls⟩

end

/-- An event with nulls for its type and for its files, which are absorbed. -/
theorem nullLikeAbsent_iff_absorbed :
    let absorbed : Payload := [
      ("type", .null),
      ("event", .dict [
        ("user", .str "U123"), ("channel", .str "C456"), ("text", .str "hello"),
        ("files", .null)])]
    NullsAbsorbed (messageReads absorbed ++ fileReads) absorbed ∧
    ∀ runtime : Runtime Empty, NullLikeAbsent runtime absorbed := by
  intro absorbed
  have hNulls : NullsAbsorbed (messageReads absorbed ++ fileReads) absorbed := by decide
  exact ⟨hNulls, fun runtime => (nullLikeAbsent_iff runtime (by decide)).mpr hNulls⟩

/-- A message event whose text is null is not received at all. -/
theorem nullText_not_nullLikeAbsent :
    let nullText : Payload := [
      ("event", .dict [("user", .str "U123"), ("channel", .str "C456"), ("text", .null)])]
    Expected true (messageReads nullText ++ fileReads) nullText ∧
    ∀ runtime : Runtime Empty, ¬NullLikeAbsent runtime nullText := by
  intro nullText
  refine ⟨by decide, ?_⟩
  intro runtime h
  obtain ⟨message, _, hReceived, _⟩ := h.message default default
  cases hReceived

end CapillaryActions.Reference.Slack
