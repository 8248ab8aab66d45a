import CapillaryActions.Schema.DomainSchema
import Mathlib.Logic.Function.Basic

/-! Manifest files. A schema is written as a tree of string-keyed mappings,
lists and strings; loading rebuilds a schema from whatever tree the file parses
to. PyYAML itself is a parameter, and so is the file system. -/
namespace CapillaryActions.Schema

open Python Python.Pydantic Semantics.Validation

/-- An open text file, as it is read: some text, and then the end of the file,
or an exception, as from a byte that cannot be decoded. -/
structure TextStream where
  text : String
  failure : Option Exn
  deriving DecidableEq, Repr

/-- A stream that is read to its end. -/
def TextStream.ofText (text : String) : TextStream := ⟨text, none⟩

/-- The two functions of PyYAML that the program calls. -/
structure PyYAML where
  safeDump : YamlTree → String
  safeLoad : TextStream → Except Exn YamlTree

/-- A PyYAML that knows a single document. -/
def PyYAML.ofDocument (text : String) (tree : YamlTree) : PyYAML where
  safeDump _ := text
  safeLoad stream := if stream = .ofText text then .ok tree else .error (.other "YAMLError")

@[simp] theorem PyYAML.safeLoad_ofDocument (text : String) (tree : YamlTree) :
    (PyYAML.ofDocument text tree).safeLoad (.ofText text) = .ok tree := if_pos rfl

/-- What the program does with files. Opening a path may raise anything, and so
may writing a text to it, whatever this has left behind by then. -/
class FileSystem (Disk : Type) where
  openText : Disk → String → Except Exn TextStream
  write : Disk → String → String → Except Exn Unit × Disk

/-- A text, once it is written to a path, can be read back from it in full. Not every
text can: reading translates carriage returns, of which a dump has none. -/
def FileSystem.ReadsBack {Disk : Type} [FileSystem Disk] (disk : Disk) (path text : String) : Prop :=
  ∀ disk', write disk path text = (.ok (), disk') → openText disk' path = .ok (.ofText text)

/-- A directory of text files that has no others below it. -/
def Directory := String → Option String

namespace Directory

/-- The file that a path names, with or without the directory in front. -/
def fileName (path : String) : String :=
  match path.toList with
  | '.' :: '/' :: name => String.ofList name
  | _ => path

instance : FileSystem Directory where
  openText files path :=
    match files (fileName path) with
    | some text => .ok (.ofText text)
    | none => .error (.fileNotFoundError path)
  write files path text :=
    if '/' ∈ (fileName path).toList then (.error (.fileNotFoundError path), files)
    else (.ok (), Function.update files (fileName path) (some text))

theorem openText_of_some {files : Directory} {path text : String}
    (h : files (fileName path) = some text) :
    FileSystem.openText files path = .ok (.ofText text) := by
  simp only [FileSystem.openText, h]

theorem openText_of_none {files : Directory} {path : String} (h : files (fileName path) = none) :
    FileSystem.openText files path = .error (.fileNotFoundError path) := by
  simp only [FileSystem.openText, h]

theorem openText_congr {files files' : Directory} {path : String}
    (h : files (fileName path) = files' (fileName path)) :
    FileSystem.openText files path = FileSystem.openText files' path := by
  cases hFile : files (fileName path) with
  | some text => rw [openText_of_some hFile, openText_of_some (h ▸ hFile)]
  | none => rw [openText_of_none hFile, openText_of_none (h ▸ hFile)]

theorem write_eq_ok {files files' : Directory} {path text : String}
    (h : FileSystem.write files path text = (.ok (), files')) :
    files' = Function.update files (fileName path) (some text) := by
  simp only [FileSystem.write] at h
  split at h
  · cases h
  · cases h
    rfl

/-- A write to another file, also one that raises. -/
theorem write_of_ne (files : Directory) {path name : String} (text : String) (h : name ≠ fileName path) :
    (FileSystem.write files path text).2 name = files name := by
  simp only [FileSystem.write]
  split
  · rfl
  · exact Function.update_of_ne h ..

theorem readsBack (files : Directory) (path text : String) :
    FileSystem.ReadsBack files path text := by
  intro files' h
  rw [write_eq_ok h]
  exact openText_of_some (Function.update_self ..)

end Directory

/-- A dictionary display with string keys. -/
def mapping (entries : List (String × YamlTree)) : YamlTree :=
  .dict (entries.map fun entry => (.str entry.1, entry.2))

/-- A list of strings. -/
def strings (names : List String) : YamlTree := .list (names.map .str)

def DimensionSpec.data (dimension : DimensionSpec) : YamlTree :=
  mapping [
    ("name", .str dimension.name),
    ("fields", strings dimension.fields),
    ("write", .str dimension.write),
    ("decay", .str dimension.decay)]

def KnowledgeBaseWiring.data (knowledgeBase : KnowledgeBaseWiring) : YamlTree :=
  mapping [
    ("kb_names", strings knowledgeBase.kbNames),
    ("retrieval", .str knowledgeBase.retrieval)]

/-- The tree that `schema_to_yaml` builds. -/
def DomainSchema.data (schema : DomainSchema) : YamlTree :=
  mapping [
    ("domain", .str schema.domain),
    ("subject", .str schema.subject),
    ("dimensions", .list (schema.dimensions.map DimensionSpec.data)),
    ("knowledge_base", schema.knowledgeBase.data),
    ("engagements", strings schema.engagements)]

/-- What becomes of the call, and of the files. -/
def DomainSchema.schemaToYaml {Disk : Type} [FileSystem Disk] (yaml : PyYAML) (schema : DomainSchema)
    (disk : Disk) (yamlFile : String) : Except Exn Unit × Disk :=
  FileSystem.write disk yamlFile (yaml.safeDump schema.data)

/-- Keyword arguments of a model's constructor, by name. -/
def kwargs (given : List (String × YamlTree)) (name : String) : Option YamlTree := given.lookup name

/-- One round of the comprehension over `data["dimensions"]`. -/
def loadDimension (dimension : YamlTree) : Except Exn DimensionSpec := do
  let name ← dimension.getItem "name"
  let fields ← dimension.getItem "fields"
  let write ← dimension.get (.str "write") (.str "event-driven")
  let decay ← dimension.get (.str "decay") (.str "none")
  construct "DimensionSpec" (DimensionSpec.validate
    (kwargs [("name", name), ("fields", fields), ("write", write), ("decay", decay)]))

/-- The argument `knowledge_base`, from `data["knowledge_base"]`. -/
def loadKnowledgeBase (data : YamlTree) : Except Exn KnowledgeBaseWiring := do
  let kbNames ← (← data.getItem "knowledge_base").getItem "kb_names"
  let retrieval ←
    (← data.getItem "knowledge_base").get (.str "retrieval") (.str "corrective_rag")
  construct "KnowledgeBaseWiring" (KnowledgeBaseWiring.validate
    (kwargs [("kb_names", kbNames), ("retrieval", retrieval)]))

/-- The schema that `load` rebuilds from a parsed file. Its arguments are read
one by one; only the specs and the wiring are models already when the
constructor of the schema validates the rest. -/
def rebuild (data : YamlTree) : Except Exn DomainSchema := do
  let domain ← data.getItem "domain"
  let subject ← data.getItem "subject"
  let dimensions ← (← (← data.getItem "dimensions").iterate).mapM loadDimension
  let knowledgeBase ← loadKnowledgeBase data
  let engagements ← data.getItem "engagements"
  construct "DomainSchema" (DomainSchema.assemble
    (required "domain" strField (some domain))
    (required "subject" strField (some subject))
    (.ok dimensions)
    (.ok knowledgeBase)
    (required "engagements" (listField strField) (some engagements)))

def load {Disk : Type} [FileSystem Disk] (yaml : PyYAML) (disk : Disk) (path : String) :
    Except Exn DomainSchema := do
  let file ← FileSystem.openText disk path
  let data ← yaml.safeLoad file
  rebuild data

/-! What each model accepts, field by field. Both the declared validation and
the loader are compared with these conditions. -/

theorem DimensionSpec.validate_eq_ok {given : String → Option YamlTree} {spec : DimensionSpec} :
    DimensionSpec.validate given = .ok spec ↔
      given "name" = some (.str spec.name) ∧
      given "fields" = some (strings spec.fields) ∧
      (given "write").getD (.str "event-driven") = .str spec.write ∧
      (given "decay").getD (.str "none") = .str spec.decay := by
  obtain ⟨name, fields, write, decay, hFields⟩ := spec
  have hBounded : ∀ bounded : {items : List String // items.length ≤ 10},
      (required "fields" (boundedListField 10 strField) (given "fields") = .ok bounded ↔
        given "fields" = some (strings bounded.val)) := by
    intro bounded
    simp only [required_eq_ok, boundedListField_eq_ok, listField_strField_eq_ok, exists_eq_right,
      strings]
  unfold DimensionSpec.validate
  simp only [map_eq_ok, both_eq_ok, hBounded, required_strField_eq_ok, defaulted_strField_eq_ok]
  constructor
  · intro h
    obtain ⟨⟨_, _, _, _⟩, hGiven, hSpec⟩ := h
    cases hSpec
    exact hGiven
  · intro hGiven
    exact ⟨⟨name, ⟨fields, hFields⟩, write, decay⟩, hGiven, rfl⟩

theorem KnowledgeBaseWiring.validate_eq_ok {given : String → Option YamlTree}
    {wiring : KnowledgeBaseWiring} :
    KnowledgeBaseWiring.validate given = .ok wiring ↔
      given "kb_names" = some (strings wiring.kbNames) ∧
      (given "retrieval").getD (.str "corrective_rag") = .str wiring.retrieval := by
  obtain ⟨kbNames, retrieval⟩ := wiring
  unfold KnowledgeBaseWiring.validate
  simp only [map_eq_ok, both_eq_ok, required_strings_eq_ok, defaulted_strField_eq_ok]
  constructor
  · intro h
    obtain ⟨⟨_, _⟩, hGiven, hWiring⟩ := h
    cases hWiring
    exact hGiven
  · intro hGiven
    exact ⟨⟨kbNames, retrieval⟩, hGiven, rfl⟩

/-- An assembled schema has the fields it was assembled from. -/
theorem DomainSchema.assemble_eq_ok {domain subject : Checked String}
    {dimensions : Checked (List DimensionSpec)} {knowledgeBase : Checked KnowledgeBaseWiring}
    {engagements : Checked (List String)} {schema : DomainSchema} :
    DomainSchema.assemble domain subject dimensions knowledgeBase engagements = .ok schema ↔
      domain = .ok schema.domain ∧ subject = .ok schema.subject ∧
      dimensions = .ok schema.dimensions ∧ knowledgeBase = .ok schema.knowledgeBase ∧
      engagements = .ok schema.engagements := by
  obtain ⟨d, s, specs, kb, names, hLength, hAccepted⟩ := schema
  unfold DomainSchema.assemble
  simp only [map_eq_ok, both_eq_ok, bind_eq_ok, at_eq_ok, checkDimensions_eq_ok]
  constructor
  · intro h
    obtain ⟨⟨_, _, _, _, _⟩, ⟨hDomain, hSubject, ⟨_, hDimensions, rfl⟩, hRest⟩, hSchema⟩ := h
    cases hSchema
    exact ⟨hDomain, hSubject, hDimensions, hRest⟩
  · intro h
    obtain ⟨hDomain, hSubject, hDimensions, hRest⟩ := h
    exact ⟨⟨d, s, ⟨specs, hLength, hAccepted⟩, kb, names⟩,
      ⟨hDomain, hSubject, ⟨specs, hDimensions, rfl⟩, hRest⟩, rfl⟩

end CapillaryActions.Schema
