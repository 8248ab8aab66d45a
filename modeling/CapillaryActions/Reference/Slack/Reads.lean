import CapillaryActions.Python.Json
import CapillaryActions.Reference.Slack.Inbound

/-! What the parsers read of a payload. Most of the fields are read with a
default for absent ones, and then used as they are; only a few of them may be
null as well. -/
namespace CapillaryActions.Reference.Slack

open Python Python.Pydantic Models Semantics.Validation

/-- The JSON types that the parsers expect. -/
inductive Kind where
  | text
  | integer
  | mapping
  | sequence
  deriving DecidableEq, Repr

def Kind.Admits : Kind → Json → Prop
  | text, v => ∃ s, v = .str s
  | integer, v => ∃ n, v = .int n
  | mapping, v => ∃ entries, v = .dict entries
  | sequence, v => ∃ elements, v = .list elements

instance (kind : Kind) : DecidablePred kind.Admits
  | .str s => match kind with
    | .text => isTrue ⟨s, rfl⟩
    | .integer | .mapping | .sequence => isFalse nofun
  | .int n => match kind with
    | .integer => isTrue ⟨n, rfl⟩
    | .text | .mapping | .sequence => isFalse nofun
  | .dict entries => match kind with
    | .mapping => isTrue ⟨entries, rfl⟩
    | .text | .integer | .sequence => isFalse nofun
  | .list elements => match kind with
    | .sequence => isTrue ⟨elements, rfl⟩
    | .text | .integer | .mapping => isFalse nofun
  | .null | .bool _ | .float _ => match kind with
    | .text | .integer | .mapping | .sequence => isFalse nofun

/-- A field is absent, of the expected type, or null. -/
def Kind.OrNull (kind : Kind) (field? : Option Json) : Prop :=
  ∀ v, field? = some v → kind.Admits v ∨ v = .null

/-- A field that a parser reads: below the unwrapped payload or below the raw
one, by its path, and whether a null in its place is absorbed. -/
structure FieldRead where
  unwraps : Bool
  path : List Loc
  kind : Kind
  absorbsNull : Bool
  deriving DecidableEq, Repr

/-- The value that a payload has for a field. -/
def FieldRead.value? (read : FieldRead) (rawPayload : Payload) : Option Json :=
  (if read.unwraps then unwrapped rawPayload else .dict rawPayload).at? read.path

/-- Whether the unwrapped payload is a button click. -/
def clicked (rawPayload : Payload) : Bool :=
  (unwrapped rawPayload).textAt [.field "type"] = some "block_actions"

/-- What `resolve_session` reads. -/
def sessionReads (rawPayload : Payload) : List FieldRead :=
  ⟨false, [.field "payload"], .mapping, false⟩ :: ⟨true, [.field "type"], .text, true⟩ ::
    if clicked rawPayload then [
      ⟨true, [.field "user"], .mapping, false⟩,
      ⟨true, [.field "user", .field "id"], .text, false⟩,
      ⟨true, [.field "channel"], .mapping, false⟩,
      ⟨true, [.field "channel", .field "id"], .text, false⟩]
    else [
      ⟨false, [.field "event"], .mapping, false⟩,
      ⟨false, [.field "event", .field "user"], .text, false⟩,
      ⟨false, [.field "event", .field "channel"], .text, false⟩]

/-- What `receive_message` reads besides the session. -/
def contentReads (rawPayload : Payload) : List FieldRead :=
  if clicked rawPayload then [
    ⟨true, [.field "actions"], .sequence, true⟩,
    ⟨true, [.field "actions", .index 0], .mapping, false⟩,
    ⟨true, [.field "actions", .index 0, .field "value"], .text, false⟩]
  else [⟨false, [.field "event", .field "text"], .text, false⟩]

def messageReads (rawPayload : Payload) : List FieldRead :=
  sessionReads rawPayload ++ contentReads rawPayload

/-- What `receive_file` reads. -/
def fileReads : List FieldRead := [
  ⟨false, [.field "event"], .mapping, false⟩,
  ⟨false, [.field "event", .field "files"], .sequence, true⟩,
  ⟨false, [.field "event", .field "files", .index 0], .mapping, false⟩,
  ⟨false, [.field "event", .field "files", .index 0, .field "name"], .text, false⟩,
  ⟨false, [.field "event", .field "files", .index 0, .field "mimetype"], .text, false⟩,
  ⟨false, [.field "event", .field "files", .index 0, .field "size"], .integer, false⟩,
  ⟨false, [.field "event", .field "files", .index 0, .field "url_private"], .text, true⟩]

/-- Every field is absent, of its expected type or, if `nullable`, null. -/
def Expected (nullable : Bool) (reads : List FieldRead) (rawPayload : Payload) : Prop :=
  ∀ read ∈ reads, ∀ v, read.value? rawPayload = some v →
    read.kind.Admits v ∨ (nullable = true ∧ v = .null)

/-- No field is null, but for those where a null is absorbed. -/
def NullsAbsorbed (reads : List FieldRead) (rawPayload : Payload) : Prop :=
  ∀ read ∈ reads, read.absorbsNull = false → read.value? rawPayload ≠ some .null

instance (nullable : Bool) (reads : List FieldRead) (rawPayload : Payload) :
    Decidable (Expected nullable reads rawPayload) :=
  inferInstanceAs (Decidable (∀ read ∈ reads, ∀ v ∈ read.value? rawPayload,
    read.kind.Admits v ∨ (nullable = true ∧ v = .null)))

instance (reads : List FieldRead) (rawPayload : Payload) :
    Decidable (NullsAbsorbed reads rawPayload) :=
  decidable_of_iff (∀ read ∈ reads, read.absorbsNull = false →
      ∀ v ∈ read.value? rawPayload, v ≠ .null) <| by
    refine forall₃_congr fun read _ _ => ?_
    constructor
    · intro h hNull
      exact h .null hNull rfl
    · rintro h v hValue rfl
      exact h hValue

theorem Expected.append_iff {nullable : Bool} {first second : List FieldRead} {rawPayload : Payload} :
    Expected nullable (first ++ second) rawPayload ↔
      Expected nullable first rawPayload ∧ Expected nullable second rawPayload :=
  List.forall_mem_append

theorem NullsAbsorbed.append_iff {first second : List FieldRead} {rawPayload : Payload} :
    NullsAbsorbed (first ++ second) rawPayload ↔
      NullsAbsorbed first rawPayload ∧ NullsAbsorbed second rawPayload :=
  List.forall_mem_append

section

variable {rawPayload payload : Payload} {reads : List FieldRead} {path : List Loc} {kind : Kind}

/-- A field below the raw payload that is expected, or null. -/
theorem Expected.below_raw (h : Expected true reads rawPayload) (absorbsNull : Bool)
    (hMem : ⟨false, path, kind, absorbsNull⟩ ∈ reads) :
    kind.OrNull ((Value.dict rawPayload : Json).at? path) := by
  intro v hValue
  rcases h _ hMem v hValue with hKind | ⟨_, hNull⟩
  · exact Or.inl hKind
  · exact Or.inr hNull

/-- A field below the unwrapped payload that is expected, or null. -/
theorem Expected.below_unwrapped (h : Expected true reads rawPayload)
    (hUnwrapped : unwrapped rawPayload = .dict payload) (absorbsNull : Bool)
    (hMem : ⟨true, path, kind, absorbsNull⟩ ∈ reads) :
    kind.OrNull ((Value.dict payload : Json).at? path) := by
  intro v hValue
  rw [← hUnwrapped] at hValue
  rcases h _ hMem v hValue with hKind | ⟨_, hNull⟩
  · exact Or.inl hKind
  · exact Or.inr hNull

end

theorem Kind.not_admits_null (kind : Kind) : ¬kind.Admits .null := by
  cases kind <;> simp [Admits]

section

variable {rawPayload : Payload} {reads : List FieldRead} (h : Expected false reads rawPayload)
include h

theorem Expected.nullable : Expected true reads rawPayload := by
  intro read hMem v hValue
  rcases h read hMem v hValue with hKind | ⟨hFalse, _⟩
  · exact Or.inl hKind
  · cases hFalse

/-- Where nulls are not allowed, none are in the way. -/
theorem Expected.nullsAbsorbed : NullsAbsorbed reads rawPayload := by
  intro read hMem _ hNull
  rcases h read hMem .null hNull with hKind | ⟨hFalse, _⟩
  · exact read.kind.not_admits_null hKind
  · cases hFalse

end

section Defaults

/-! Reading a field with a default, for fields of an expected type or null. -/

variable {field? : Option Json}

theorem getD_text_eq_iff (h : Kind.text.OrNull field?) (default s : String) :
    field?.getD (.str default) = .str s ↔
      field? ≠ some .null ∧ (field?.bind Value.str?).getD default = s := by
  cases field? with
  | none => simp
  | some v =>
      rcases h v rfl with ⟨t, rfl⟩ | rfl
      · simp [Value.str?]
      · simp

/-- `entries.get(outer, {}).get(inner, default)`. -/
def getIn (v : Json) (outer inner : String) (default : Json) : Except Exn Json := do
  (← v.get outer (.dict [])).get inner default

theorem getIn_eq_ok_iff {entries : Payload} {outer inner : String}
    (hOuter : Kind.mapping.OrNull ((Value.dict entries : Json).at? [.field outer]))
    (hInner : Kind.text.OrNull ((Value.dict entries : Json).at? [.field outer, .field inner]))
    (default s : String) :
    getIn (.dict entries) outer inner (.str default) = .ok (.str s) ↔
      (Value.dict entries : Json).at? [.field outer] ≠ some .null ∧
      (Value.dict entries : Json).at? [.field outer, .field inner] ≠ some .null ∧
      ((Value.dict entries : Json).textAt [.field outer, .field inner]).getD default = s := by
  have hGet : getIn (.dict entries) outer inner (.str default) =
      ((entries.lookup outer).getD (.dict [])).get inner (.str default) := rfl
  rw [hGet, Value.textAt]
  cases hLookup : entries.lookup outer with
  | none => simp [hLookup]
  | some v =>
      rcases hOuter v (by simp [hLookup]) with ⟨fields, rfl⟩ | rfl
      · have hAt : (Value.dict entries : Json).at? [.field outer, .field inner] =
            fields.lookup inner := by
          simp [hLookup]
        rw [hAt] at hInner
        rw [hAt, Option.getD_some, Value.get_dict, Except.ok.injEq, getD_text_eq_iff hInner]
        simp [hLookup]
      · simp [hLookup, Value.get]

end Defaults

end CapillaryActions.Reference.Slack
