import CapillaryActions.Reference.Slack.Outcomes

/-! What becomes of a file upload, whatever the payload is. Only the first of the
files is looked at, and all its fields are reported on together. -/
namespace CapillaryActions.Reference.Slack

open Python Python.Pydantic Models Semantics.Validation

variable {Obj : Type}

/-- The sizes that are numbers, or that pydantic takes for numbers. -/
inductive SizeOf (lax : LaxInt) : Json → Int → Prop where
  | int (n : Int) : SizeOf lax (.int n) n
  | true : SizeOf lax (.bool true) 1
  | false : SizeOf lax (.bool false) 0
  | float {bits : UInt64} {n : Int} (h : lax.ofFloat bits = .ok n) : SizeOf lax (.float bits) n
  | text {s : String} {n : Int} (h : lax.ofStr s = .ok n) : SizeOf lax (.str s) n

/-- The fields of a mapping make a file. Null is a URL, or none, but no text. -/
structure FileFields (lax : LaxInt) (fields : Payload) (file : ChannelFile) : Prop where
  filename : fieldOr fields "name" (.str "unknown") = .str file.filename
  contentType : fieldOr fields "mimetype" (.str "application/octet-stream") = .str file.contentType
  sizeBytes : SizeOf lax (fieldOr fields "size" (.int 0)) file.sizeBytes
  content : file.content = []
  sourceUrl : fieldOr fields "url_private" .null = (file.sourceUrl.map .str).getD .null

/-- The errors of a text field. -/
def textErrors (name : String) : Json → List FieldError
  | .str _ => []
  | _ => [⟨[.field name], .stringType⟩]

/-- The error of the size, if pydantic does not take it for a number. -/
def refused : Except Reason Int → List FieldError
  | .ok _ => []
  | .error reason => [⟨[.field "size_bytes"], reason⟩]

def sizeErrors (lax : LaxInt) : Json → List FieldError
  | .int _ | .bool _ => []
  | .float bits => refused (lax.ofFloat bits)
  | .str s => refused (lax.ofStr s)
  | .null | .list _ | .dict _ => refused (.error .intType)

/-- The errors of a URL, which may be null. -/
def urlErrors : Json → List FieldError
  | .null => []
  | url => textErrors "source_url" url

/-- Everything that is wrong with the fields of a mapping, in their order. -/
def fileErrors (lax : LaxInt) (fields : Payload) : List FieldError :=
  textErrors "filename" (fieldOr fields "name" (.str "unknown")) ++
    (textErrors "content_type" (fieldOr fields "mimetype" (.str "application/octet-stream")) ++
      (sizeErrors lax (fieldOr fields "size" (.int 0)) ++
        urlErrors (fieldOr fields "url_private" .null)))

/-- The fields of a file that are texts. -/
def textNames : List String := ["filename", "content_type", "source_url"]

/-- What can be wrong with a size. -/
def sizeReasons : List Reason :=
  [.intType, .intParsing, .intParsingSize, .intFromFloat, .finiteNumber]

/-- What can be wrong with a file, and where. -/
inductive FileError : FieldError → Prop where
  | text {name : String} (h : name ∈ textNames) : FileError ⟨[.field name], .stringType⟩
  | size {reason : Reason} (h : reason ∈ sizeReasons) : FileError ⟨[.field "size_bytes"], reason⟩

/-- Everything that can become of a file upload. -/
inductive FileReceived (runtime : Runtime Obj) (rawPayload : Payload) :
    Except Exn (Option ChannelFile) → Prop where
  | noEvent (h : ∀ event, fieldOr rawPayload "event" (.dict []) ≠ .dict event) :
      FileReceived runtime rawPayload (.error (.attributeError "get"))
  | noFiles {event : Payload} (hEvent : fieldOr rawPayload "event" (.dict []) = .dict event)
      (hFirst : FirstMapping (fieldOr event "files" (.list [])) (.ok none)) :
      FileReceived runtime rawPayload (.ok none)
  | noFirst {event : Payload} {raised : Exn}
      (hEvent : fieldOr rawPayload "event" (.dict []) = .dict event)
      (hFirst : FirstMapping (fieldOr event "files" (.list [])) (.error raised)) :
      FileReceived runtime rawPayload (.error raised)
  | file {event fields : Payload} {file : ChannelFile}
      (hEvent : fieldOr rawPayload "event" (.dict []) = .dict event)
      (hFirst : FirstMapping (fieldOr event "files" (.list [])) (.ok (some fields)))
      (hFields : FileFields runtime.laxInt fields file) :
      FileReceived runtime rawPayload (.ok (some file))
  | rejected {event fields : Payload}
      (hEvent : fieldOr rawPayload "event" (.dict []) = .dict event)
      (hFirst : FirstMapping (fieldOr event "files" (.list [])) (.ok (some fields)))
      (hFields : ∀ file, ¬FileFields runtime.laxInt fields file) :
      FileReceived runtime rawPayload
        (.error (.validationError "ChannelFile" (fileErrors runtime.laxInt fields)))

/-- What the model makes of the fields of a mapping. -/
def checkedFile (lax : LaxInt) (fields : Payload) : Checked (Option ChannelFile) :=
  (both (required "filename" strField (some (fieldOr fields "name" (.str "unknown"))))
    (both (required "content_type" strField
        (some (fieldOr fields "mimetype" (.str "application/octet-stream"))))
      (both (required "size_bytes" (intField lax) (some (fieldOr fields "size" (.int 0))))
        (defaulted "source_url" (optionalField strField) none
          (some (fieldOr fields "url_private" .null)))))).map
  fun (filename, contentType, sizeBytes, sourceUrl) =>
    some ⟨filename, contentType, sizeBytes, [], sourceUrl⟩

theorem sizeOf_iff {lax : LaxInt} {v : Json} {n : Int} : SizeOf lax v n ↔ intField lax v = .ok n := by
  constructor
  · intro h
    cases h with
    | float hNumber => exact orReject_eq_ok.mpr hNumber
    | text hNumber => exact orReject_eq_ok.mpr hNumber
    | _ => rfl
  · intro h
    cases v with
    | int given =>
        cases h
        exact .int _
    | bool b =>
        cases b <;> cases h
        · exact .false
        · exact .true
    | float bits => exact .float (orReject_eq_ok.mp h)
    | str s => exact .text (orReject_eq_ok.mp h)
    | null | list _ | dict _ => cases h
    | object o => cases o

theorem optionalField_strField_eq_ok {v : Json} {s? : Option String} :
    optionalField strField v = .ok s? ↔ v = (s?.map .str).getD .null := by
  cases v <;> cases s? <;> simp [optionalField, strField, reject, Except.map]

theorem checkedFile_eq_ok {lax : LaxInt} {fields : Payload} {file? : Option ChannelFile} :
    checkedFile lax fields = .ok file? ↔ ∃ file, file? = some file ∧ FileFields lax fields file := by
  simp only [checkedFile, map_eq_ok, both_eq_ok, required_eq_ok, defaulted_eq_ok, Option.some.injEq,
    exists_eq_left', strField_eq_ok, ← sizeOf_iff, optionalField_strField_eq_ok, reduceCtorEq,
    false_and, false_or]
  constructor
  · intro h
    obtain ⟨⟨filename, contentType, sizeBytes, sourceUrl⟩, ⟨hName, hType, hSize, hUrl⟩, rfl⟩ := h
    exact ⟨_, rfl, hName, hType, hSize, rfl, hUrl⟩
  · intro h
    obtain ⟨⟨filename, contentType, sizeBytes, content, sourceUrl⟩, rfl, hFields⟩ := h
    obtain ⟨hName, hType, hSize, hContent, hUrl⟩ := hFields
    simp only at hContent
    subst hContent
    exact ⟨(_, _, _, _), ⟨hName, hType, hSize, hUrl⟩, rfl⟩

theorem failures_required_text (name : String) (v : Json) :
    failures (required name strField (some v)) = textErrors name v := by
  cases v <;> rfl

theorem failures_size (lax : LaxInt) (v : Json) :
    failures (required "size_bytes" (intField lax) (some v)) = sizeErrors lax v := by
  have hRefused : ∀ result : Except Reason Int,
      failures (at_ (.field "size_bytes") (orReject result)) = refused result := by
    intro result
    cases result <;> rfl
  cases v with
  | float bits => exact hRefused _
  | str s => exact hRefused _
  | object o => cases o
  | _ => rfl

theorem failures_url (v : Json) :
    failures (defaulted "source_url" (optionalField strField) none (some v)) = urlErrors v := by
  cases v <;> rfl

theorem failures_checkedFile (lax : LaxInt) (fields : Payload) :
    failures (checkedFile lax fields) = fileErrors lax fields := by
  rw [checkedFile, failures_map, failures_both, failures_both, failures_both,
    failures_required_text, failures_required_text, failures_size, failures_url, fileErrors]

/-! The errors are about the fields, and there are some if there is no file. -/

theorem textErrors_eq_nil_iff {name : String} {v : Json} :
    textErrors name v = [] ↔ ∃ s, v = .str s := by
  cases v <;> simp [textErrors]

theorem refused_eq_nil_iff {result : Except Reason Int} :
    refused result = [] ↔ ∃ n, result = .ok n := by
  cases result <;> simp [refused]

theorem sizeErrors_eq_nil_iff {lax : LaxInt} {v : Json} :
    sizeErrors lax v = [] ↔ ∃ n, SizeOf lax v n := by
  have hRejected : ∀ reason, (∃ n : Int, (reject reason : Checked Int) = .ok n) ↔ False := by
    simp [reject]
  simp only [sizeOf_iff]
  cases v with
  | float bits => simp [sizeErrors, intField, refused_eq_nil_iff]
  | str s => simp [sizeErrors, intField, refused_eq_nil_iff]
  | object o => cases o
  | _ => simp [sizeErrors, intField, refused, hRejected]

theorem urlErrors_eq_nil_iff {v : Json} :
    urlErrors v = [] ↔ ∃ s? : Option String, v = (s?.map .str).getD .null := by
  cases v with
  | null => exact iff_of_true rfl ⟨none, rfl⟩
  | str s => exact iff_of_true rfl ⟨some s, rfl⟩
  | _ => simp [urlErrors, textErrors, Option.exists]

theorem fileErrors_eq_nil_iff {lax : LaxInt} {fields : Payload} :
    fileErrors lax fields = [] ↔ ∃ file, FileFields lax fields file := by
  simp only [fileErrors, List.append_eq_nil_iff, textErrors_eq_nil_iff, sizeErrors_eq_nil_iff,
    urlErrors_eq_nil_iff]
  constructor
  · intro h
    obtain ⟨⟨filename, hName⟩, ⟨contentType, hType⟩, ⟨sizeBytes, hSize⟩, sourceUrl, hUrl⟩ := h
    exact ⟨⟨filename, contentType, sizeBytes, [], sourceUrl⟩, hName, hType, hSize, rfl, hUrl⟩
  · intro h
    obtain ⟨file, hFields⟩ := h
    exact ⟨⟨_, hFields.filename⟩, ⟨_, hFields.contentType⟩, ⟨_, hFields.sizeBytes⟩, _, hFields.sourceUrl⟩

theorem FileError.of_textErrors {name : String} (hName : name ∈ textNames) {v : Json}
    {error : FieldError} (h : error ∈ textErrors name v) : FileError error := by
  cases v with
  | str s => cases h
  | _ => exact List.eq_of_mem_singleton h ▸ .text hName

theorem urlErrors_subset (v : Json) : urlErrors v ⊆ textErrors "source_url" v := by
  cases v with
  | null => exact List.nil_subset _
  | _ => exact List.Subset.refl _

theorem FileError.of_refused {result : Except Reason Int} {error : FieldError}
    (hReasons : ∀ reason, result = .error reason → reason ∈ sizeReasons)
    (h : error ∈ refused result) : FileError error := by
  cases result with
  | ok n => cases h
  | error reason => exact List.eq_of_mem_singleton h ▸ .size (hReasons reason rfl)

theorem FileError.of_sizeErrors {lax : LaxInt} {v : Json} {error : FieldError}
    (h : error ∈ sizeErrors lax v) : FileError error := by
  have hFloat : [.intFromFloat, .finiteNumber, .intParsingSize] ⊆ sizeReasons := by decide
  have hText : [.intParsing, .intParsingSize] ⊆ sizeReasons := by decide
  cases v with
  | int _ | bool _ => cases h
  | float bits =>
      exact .of_refused (fun reason hReason => hFloat (lax.ofFloat_reason bits reason hReason)) h
  | str s => exact .of_refused (fun reason hReason => hText (lax.ofStr_reason s reason hReason)) h
  | null | list _ | dict _ => exact List.eq_of_mem_singleton h ▸ .size (by decide)
  | object o => cases o

theorem fileError_of_mem {lax : LaxInt} {fields : Payload} {error : FieldError}
    (h : error ∈ fileErrors lax fields) : FileError error := by
  simp only [fileErrors, List.mem_append] at h
  rcases h with hName | hType | hSize | hUrl
  · exact .of_textErrors (by decide) hName
  · exact .of_textErrors (by decide) hType
  · exact .of_sizeErrors hSize
  · exact .of_textErrors (by decide) (urlErrors_subset _ hUrl)

section

variable {runtime : Runtime Obj} {rawPayload event fields : Payload}

/-- With files to look at, the first one is taken. -/
theorem receiveFile_of_files (hEvent : fieldOr rawPayload "event" (.dict []) = .dict event)
    (hFiles : (fieldOr event "files" (.list [])).truthy = true) :
    receiveFile runtime rawPayload = (do
      let first ← (fieldOr event "files" (.list [])).first
      let filename ← first.get "name" (.str "unknown")
      let contentType ← first.get "mimetype" (.str "application/octet-stream")
      let sizeBytes ← first.get "size" (.int 0)
      let sourceUrl ← first.get "url_private"
      construct "ChannelFile" <|
        (both (required "filename" strField (some filename))
          (both (required "content_type" strField (some contentType))
            (both (required "size_bytes" (intField runtime.laxInt) (some sizeBytes))
              (defaulted "source_url" (optionalField strField) none (some sourceUrl))))).map
        fun (filename, contentType, sizeBytes, sourceUrl) =>
          some ⟨filename, contentType, sizeBytes, [], sourceUrl⟩) := by
  rw [receiveFile, get_dict_eq, hEvent]
  simp only [bind, Except.bind, get_dict_eq, hFiles]
  rfl

theorem receiveFile_of_fields (hEvent : fieldOr rawPayload "event" (.dict []) = .dict event)
    (hFirst : FirstMapping (fieldOr event "files" (.list [])) (.ok (some fields))) :
    receiveFile runtime rawPayload = construct "ChannelFile" (checkedFile runtime.laxInt fields) := by
  obtain ⟨hTruthy, hFields⟩ := hFirst.first_eq
  rw [receiveFile_of_files hEvent hTruthy, hFields]
  rfl

theorem FileReceived.eq {outcome : Except Exn (Option ChannelFile)}
    (h : FileReceived runtime rawPayload outcome) : receiveFile runtime rawPayload = outcome := by
  cases h with
  | noEvent hNone =>
      rw [receiveFile, get_dict_eq]
      simp only [bind, Except.bind, get_of_not_dict hNone]
  | noFiles hEvent hFirst =>
      rw [receiveFile, get_dict_eq, hEvent]
      simp only [bind, Except.bind, get_dict_eq, hFirst.truthy_of_none]
      rfl
  | noFirst hEvent hFirst =>
      -- The name is the first field that is read.
      obtain ⟨hTruthy, hRaises⟩ := hFirst.get_raises
      rw [receiveFile_of_files hEvent hTruthy]
      exact bind_bind_of_error (hRaises "name" (.str "unknown"))
  | file hEvent hFirst hFields =>
      rw [receiveFile_of_fields hEvent hFirst, construct_eq_ok, checkedFile_eq_ok]
      exact ⟨_, rfl, hFields⟩
  | @rejected event fields hEvent hFirst hFields =>
      have hNone : ∀ file?, checkedFile runtime.laxInt fields ≠ .ok file? := by
        intro file? hOk
        obtain ⟨file, _, hFile⟩ := checkedFile_eq_ok.mp hOk
        exact hFields file hFile
      rw [receiveFile_of_fields hEvent hFirst, eq_error_failures hNone, failures_checkedFile]
      rfl

theorem FileReceived.total : ∃ outcome, FileReceived runtime rawPayload outcome := by
  rcases dict_or_not (fieldOr rawPayload "event" (.dict [])) with ⟨event, hEvent⟩ | hEvent
  · obtain ⟨outcome, hFirst⟩ := FirstMapping.total (fieldOr event "files" (.list []))
    cases outcome with
    | error raised => exact ⟨_, .noFirst hEvent hFirst⟩
    | ok first =>
        cases first with
        | none => exact ⟨_, .noFiles hEvent hFirst⟩
        | some fields =>
            by_cases hFields : ∃ file, FileFields runtime.laxInt fields file
            · obtain ⟨file, hFields⟩ := hFields
              exact ⟨_, .file hEvent hFirst hFields⟩
            · exact ⟨_, .rejected hEvent hFirst fun file hFile => hFields ⟨file, hFile⟩⟩
  · exact ⟨_, .noEvent hEvent⟩

end

theorem FirstMapping.raised_ne {items : Json} {raised : Exn} (h : FirstMapping items (.error raised))
    (model : String) (errors : List FieldError) : raised ≠ .validationError model errors := by
  cases h <;> nofun

/-- A file that is rejected has something wrong with it. -/
theorem FileReceived.errors {runtime : Runtime Obj} {rawPayload : Payload} {errors : List FieldError}
    (h : FileReceived runtime rawPayload (.error (.validationError "ChannelFile" errors))) :
    errors ≠ [] ∧ ∀ error ∈ errors, FileError error := by
  cases h with
  | noFirst _ hFirst => exact absurd rfl (hFirst.raised_ne _ _)
  | rejected _ _ hFields =>
      refine ⟨fun hNone => ?_, fun error => fileError_of_mem⟩
      obtain ⟨file, hFile⟩ := fileErrors_eq_nil_iff.mp hNone
      exact hFields file hFile

/-- Inbound files, completely. On every payload `receive_file` has exactly the
outcome that the shape of the payload gives it: no file, the first file with its
defaults, or the exception and all the fields that are wrong. There are some, and
each is told with a reason that belongs to it. -/
theorem receiveFile_eq_iff (runtime : Runtime Obj) (rawPayload : Payload) :
    (∀ outcome, receiveFile runtime rawPayload = outcome ↔ FileReceived runtime rawPayload outcome) ∧
    ∀ errors, receiveFile runtime rawPayload = .error (.validationError "ChannelFile" errors) →
      errors ≠ [] ∧ ∀ error ∈ errors, FileError error := by
  have hOutcome : ∀ outcome,
      receiveFile runtime rawPayload = outcome ↔ FileReceived runtime rawPayload outcome := by
    intro outcome
    constructor
    · rintro rfl
      obtain ⟨found, hFound⟩ := @FileReceived.total Obj runtime rawPayload
      rw [hFound.eq]
      exact hFound
    · exact FileReceived.eq
  exact ⟨hOutcome, fun errors hErrors => ((hOutcome _).mp hErrors).errors⟩

/-- A payload for every outcome, and two for the last: the errors of several
fields are reported together, and a size that is no numeral as pydantic has it. -/
theorem receiveFile_eq_iff_each :
    let upload (fields : Payload) : Payload := [("event", .dict [("files", .list [.dict fields])])]
    ∀ runtime : Runtime Empty,
      receiveFile runtime [("event", .str "file_shared")] = .error (.attributeError "get") ∧
      receiveFile runtime [("event", .dict [("text", .str "Hello there")])] = .ok none ∧
      receiveFile runtime [("event", .dict [("files", .list [.str "F123"])])] =
        .error (.attributeError "get") ∧
      receiveFile runtime (upload [("name", .str "notes.pdf"), ("size", .int 42)]) =
        .ok (some ⟨"notes.pdf", "application/octet-stream", 42, [], none⟩) ∧
      receiveFile runtime (upload [("name", .null), ("size", .null)]) =
        .error (.validationError "ChannelFile" [
          ⟨[.field "filename"], .stringType⟩, ⟨[.field "size_bytes"], .intType⟩]) ∧
      (runtime.laxInt.ofStr "many" = .error .intParsing →
        receiveFile runtime (upload [("size", .str "many")]) =
          .error (.validationError "ChannelFile" [⟨[.field "size_bytes"], .intParsing⟩])) := by
  intro upload runtime
  have hRejected : ∀ {fields : Payload} {errors : List FieldError},
      fileErrors runtime.laxInt fields = errors → errors ≠ [] →
      receiveFile runtime (upload fields) = .error (.validationError "ChannelFile" errors) := by
    rintro fields _ rfl hErrors
    refine ((receiveFile_eq_iff ..).1 _).mpr (.rejected rfl (.fields ..) fun file hFile => ?_)
    exact hErrors (fileErrors_eq_nil_iff.mpr ⟨file, hFile⟩)
  refine ⟨?_, ?_, ?_, ?_, ?_, fun hParsing => ?_⟩
  · exact ((receiveFile_eq_iff ..).1 _).mpr (.noEvent nofun)
  · exact ((receiveFile_eq_iff ..).1 _).mpr (.noFiles rfl (.empty .emptyList))
  · exact ((receiveFile_eq_iff ..).1 _).mpr (.noFirst rfl (.element nofun))
  · exact ((receiveFile_eq_iff ..).1 _).mpr (.file rfl (.fields ..) ⟨rfl, rfl, .int 42, rfl, rfl⟩)
  · exact hRejected rfl (List.cons_ne_nil _ _)
  · refine hRejected ?_ (List.cons_ne_nil _ _)
    have hSize : sizeErrors runtime.laxInt (.str "many") = [⟨[.field "size_bytes"], .intParsing⟩] := by
      rw [sizeErrors, hParsing, refused]
    exact congrArg (· ++ []) hSize

end CapillaryActions.Reference.Slack
