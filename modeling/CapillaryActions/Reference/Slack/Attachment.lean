import CapillaryActions.Reference.Slack.Reads

/-! The file that an event brings along. Only the first file counts, and of its
fields only those that the payload has. -/
namespace CapillaryActions.Reference.Slack

open Python Python.Pydantic Models Semantics.Validation

variable {Obj : Type} {runtime : Runtime Obj} {rawPayload fields : Payload}

/-- What is known of a file, without its content. -/
def fileOf (first : Json) : ChannelFile where
  filename := (first.textAt [.field "name"]).getD "unknown"
  contentType := (first.textAt [.field "mimetype"]).getD "application/octet-stream"
  sizeBytes := (first.intAt [.field "size"]).getD 0
  content := []
  sourceUrl := first.textAt [.field "url_private"]

theorem fileOf_dict (fields : Payload) : fileOf (.dict fields) =
    ⟨((fields.lookup "name").bind Value.str?).getD "unknown",
      ((fields.lookup "mimetype").bind Value.str?).getD "application/octet-stream",
      ((fields.lookup "size").bind Value.int?).getD 0, [],
      (fields.lookup "url_private").bind Value.str?⟩ := by
  simp [fileOf, Value.textAt, Value.intAt]

/-- The file that a payload reports. -/
def attachment (rawPayload : Payload) : Option ChannelFile :=
  ((Value.dict rawPayload : Json).at? [.field "event", .field "files", .index 0]).map fileOf

theorem intField_getD_eq_ok_iff {field? : Option Json} (h : Kind.integer.OrNull field?)
    (lax : LaxInt) (default n : Int) :
    intField lax (field?.getD (.int default)) = .ok n ↔
      field? ≠ some .null ∧ (field?.bind Value.int?).getD default = n := by
  cases field? with
  | none => simp [intField]
  | some v =>
      rcases h v rfl with ⟨m, rfl⟩ | rfl
      · simp [intField, Value.int?]
      · simp [intField, reject]

/-- A null is what an absent optional field is read as. -/
theorem optionalField_getD_eq_ok_iff {field? : Option Json} (h : Kind.text.OrNull field?)
    (s? : Option String) :
    optionalField strField (field?.getD .null) = .ok s? ↔ field?.bind Value.str? = s? := by
  cases field? with
  | none => simp [optionalField]
  | some v =>
      rcases h v rfl with ⟨s, rfl⟩ | rfl
      · simp [optionalField, strField, Value.str?, Except.map]
      · simp [optionalField, Value.str?]

/-- Above the first file there are a list and a mapping. -/
theorem above_first_file {first : Json}
    (h : (Value.dict rawPayload : Json).at? [.field "event", .field "files", .index 0] = some first) :
    ∃ event rest, rawPayload.lookup "event" = some (.dict event) ∧
      event.lookup "files" = some (.list (first :: rest)) := by
  obtain ⟨elements, hElements⟩ := Value.at?_above_index [.field "event", .field "files"] h
  obtain ⟨event, hEvent⟩ := Value.at?_above_field [.field "event"] hElements
  have hLookup : rawPayload.lookup "event" = some (.dict event) := by
    simpa using hEvent
  have hFiles : event.lookup "files" = some (.list elements) := by
    simpa [hLookup] using hElements
  have hFirst : elements[0]? = some first := by
    simpa [hLookup, hFiles] using h
  cases elements with
  | nil => cases hFirst
  | cons element rest =>
      cases hFirst
      exact ⟨event, rest, hLookup, hFiles⟩

/-- An event without a file, whichever way it has none. -/
theorem receiveFile_of_no_file (h : Expected true fileReads rawPayload)
    (hEvent : (Value.dict rawPayload : Json).at? [.field "event"] ≠ some .null)
    (hFirst : (Value.dict rawPayload : Json).at? [.field "event", .field "files", .index 0] = none) :
    receiveFile runtime rawPayload = .ok none := by
  have hEventKind : Kind.mapping.OrNull ((Value.dict rawPayload : Json).at? [.field "event"]) :=
    h.below_raw false (by simp [fileReads])
  have hFilesKind : Kind.sequence.OrNull
      ((Value.dict rawPayload : Json).at? [.field "event", .field "files"]) :=
    h.below_raw true (by simp [fileReads])
  have hGot : ∃ event, (rawPayload.lookup "event").getD (.dict []) = .dict event ∧
      ((event.lookup "files").getD (.list [])).truthy = false := by
    cases hLookup : rawPayload.lookup "event" with
    | none => exact ⟨[], rfl, rfl⟩
    | some v =>
        rcases hEventKind v (by simp [hLookup]) with ⟨event, rfl⟩ | rfl
        · refine ⟨event, rfl, ?_⟩
          cases hFiles : event.lookup "files" with
          | none => rfl
          | some files =>
              rcases hFilesKind files (by simp [hLookup, hFiles]) with ⟨elements, rfl⟩ | rfl
              · have hEmpty : elements = [] := by
                  simpa [hLookup, hFiles] using hFirst
                rw [hEmpty]
                rfl
              · rfl
        · exact absurd (by simp [hLookup]) hEvent
  obtain ⟨event, hEvent, hFiles⟩ := hGot
  rw [receiveFile, Value.get_dict, hEvent]
  simp only [bind, Except.bind, Value.get_dict, hFiles]
  rfl

/-- A file is built from the fields of the first mapping under `files`. -/
theorem receiveFile_of_first {first : Json}
    (h : (Value.dict rawPayload : Json).at? [.field "event", .field "files", .index 0] = some first) :
    receiveFile runtime rawPayload = (do
      let filename ← first.get "name" (.str "unknown")
      let contentType ← first.get "mimetype" (.str "application/octet-stream")
      let sizeBytes ← first.get "size" (.int 0)
      let sourceUrl ← first.get "url_private"
      construct "ChannelFile" <|
        (both (required "filename" strField (some filename))
          (both (required "content_type" strField (some contentType))
            (both (required "size_bytes" (intField runtime.laxInt) (some sizeBytes))
              (defaulted "source_url" (optionalField strField) none (some sourceUrl))))).map
        fun (filename, contentType, sizeBytes, sourceUrl) =>
          some ⟨filename, contentType, sizeBytes, [], sourceUrl⟩) := by
  obtain ⟨event, rest, hEvent, hFiles⟩ := above_first_file h
  rw [receiveFile, Value.get_dict, hEvent]
  simp only [bind, Except.bind, Option.getD_some, Value.get_dict, hFiles]
  rfl

/-- A file whose fields are each of their expected type or null. -/
theorem receiveFile_of_mapping_eq_ok_iff
    (hFirst : (Value.dict rawPayload : Json).at? [.field "event", .field "files", .index 0] =
      some (.dict fields))
    (hName : Kind.text.OrNull (fields.lookup "name"))
    (hMimetype : Kind.text.OrNull (fields.lookup "mimetype"))
    (hSize : Kind.integer.OrNull (fields.lookup "size"))
    (hUrl : Kind.text.OrNull (fields.lookup "url_private")) (file : Option ChannelFile) :
    receiveFile runtime rawPayload = .ok file ↔
      (fields.lookup "name" ≠ some .null ∧ fields.lookup "mimetype" ≠ some .null ∧
        fields.lookup "size" ≠ some .null) ∧
      file = some (fileOf (.dict fields)) := by
  rw [receiveFile_of_first hFirst, fileOf_dict]
  simp only [Value.get_dict, bind_eq_ok, Except.ok.injEq, exists_eq_left', construct_eq_ok,
    map_eq_ok, both_eq_ok, required_eq_ok, defaulted_eq_ok, Option.some.injEq, strField_eq_ok,
    getD_text_eq_iff hName, getD_text_eq_iff hMimetype, intField_getD_eq_ok_iff hSize,
    optionalField_getD_eq_ok_iff hUrl, reduceCtorEq, false_and, false_or]
  constructor
  · intro h
    obtain ⟨_, ⟨⟨hName, hFilename⟩, ⟨hMimetype, hContentType⟩, ⟨hSize, hSizeBytes⟩, hSourceUrl⟩,
      rfl⟩ := h
    refine ⟨⟨hName, hMimetype, hSize⟩, ?_⟩
    rw [hFilename, hContentType, hSizeBytes, hSourceUrl]
  · intro h
    obtain ⟨⟨hName, hMimetype, hSize⟩, rfl⟩ := h
    exact ⟨(_, _, _, _), ⟨⟨hName, rfl⟩, ⟨hMimetype, rfl⟩, ⟨hSize, rfl⟩, rfl⟩, rfl⟩

/-- Receiving a file succeeds exactly if no null is in its way, and then it
reports the first file of the event, or that there is none. -/
theorem receiveFile_eq_ok_iff (h : Expected true fileReads rawPayload) (file : Option ChannelFile) :
    receiveFile runtime rawPayload = .ok file ↔
      NullsAbsorbed fileReads rawPayload ∧ file = attachment rawPayload := by
  cases hFirst : (Value.dict rawPayload : Json).at? [.field "event", .field "files", .index 0] with
  | none =>
      have hNulls : NullsAbsorbed fileReads rawPayload ↔
          (Value.dict rawPayload : Json).at? [.field "event"] ≠ some .null := by
        have hBelow : ∀ name, (Value.dict rawPayload : Json).at?
            [.field "event", .field "files", .index 0, .field name] = none := by
          intro name
          have hAppend := Value.at?_append (Value.dict rawPayload : Json)
            [.field "event", .field "files", .index 0] [.field name]
          rwa [hFirst] at hAppend
        simp [-Value.at?_cons, NullsAbsorbed, fileReads, FieldRead.value?, hFirst, hBelow]
      rw [hNulls, attachment, hFirst]
      by_cases hEvent : (Value.dict rawPayload : Json).at? [.field "event"] = some .null
      · have hLookup : rawPayload.lookup "event" = some .null := by
          simpa using hEvent
        simp [receiveFile, hLookup, Value.get, bind, Except.bind]
      · rw [receiveFile_of_no_file h hEvent hFirst]
        simpa [eq_comm] using fun _ => hEvent
  | some first =>
      obtain ⟨event, rest, hEvent, hFiles⟩ := above_first_file hFirst
      have hNulls : NullsAbsorbed fileReads rawPayload ↔
          first ≠ .null ∧
          ∀ name ∈ ["name", "mimetype", "size"], first.at? [.field name] ≠ some .null := by
        simp [NullsAbsorbed, fileReads, FieldRead.value?, hEvent, hFiles]
      rw [hNulls, attachment, hFirst]
      have hFirstKind : Kind.mapping.OrNull
          ((Value.dict rawPayload : Json).at? [.field "event", .field "files", .index 0]) :=
        h.below_raw false (by simp [fileReads])
      rcases hFirstKind first hFirst with ⟨fields, rfl⟩ | rfl
      · have hKind : ∀ {name : String} {kind : Kind} (absorbsNull : Bool),
            ⟨false, [.field "event", .field "files", .index 0, .field name], kind, absorbsNull⟩ ∈
              fileReads → kind.OrNull (fields.lookup name) := by
          intro name kind absorbsNull hMem
          simpa [hEvent, hFiles] using h.below_raw absorbsNull hMem
        rw [receiveFile_of_mapping_eq_ok_iff hFirst (hKind false (by simp [fileReads]))
          (hKind false (by simp [fileReads])) (hKind false (by simp [fileReads]))
          (hKind true (by simp [fileReads]))]
        simp
      · simp [receiveFile_of_first hFirst, Value.get, bind, Except.bind]

end CapillaryActions.Reference.Slack
