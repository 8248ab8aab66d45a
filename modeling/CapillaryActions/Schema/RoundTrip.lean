import CapillaryActions.Schema.Grammar

/-! The manifest round trip. What is assumed of PyYAML is the round trip of one
tree of string-keyed mappings, lists and strings; what is proved is that the
loader rebuilds from this tree the schema that it was written from. -/
namespace CapillaryActions.Schema

open Python Python.Pydantic Semantics.Validation

/-- Trees of mappings with distinct string keys, lists and strings. -/
inductive Plain : YamlTree → Prop where
  | str (s : String) : Plain (.str s)
  | list (elements : List YamlTree) (h : ∀ element ∈ elements, Plain element) :
      Plain (.list elements)
  | dict (entries : List (Scalar × YamlTree)) (hKeys : ∀ entry ∈ entries, ∃ name, entry.1 = .str name)
      (hDistinct : (entries.map Prod.fst).Nodup) (h : ∀ entry ∈ entries, Plain entry.2) :
      Plain (.dict entries)

/-- What PyYAML promises of a tree: `safe_load(safe_dump(tree)) == tree`. -/
def PyYAML.RoundTrips (yaml : PyYAML) (tree : YamlTree) : Prop :=
  Plain tree → yaml.safeLoad (.ofText (yaml.safeDump tree)) = .ok tree

theorem plain_strings (names : List String) : Plain (strings names) := by
  apply Plain.list
  intro element hMem
  obtain ⟨name, _, rfl⟩ := List.mem_map.mp hMem
  exact .str name

theorem plain_mapping {entries : List (String × YamlTree)} (hDistinct : (entries.map Prod.fst).Nodup)
    (h : ∀ entry ∈ entries, Plain entry.2) : Plain (mapping entries) := by
  apply Plain.dict
  · intro entry hMem
    obtain ⟨given, _, rfl⟩ := List.mem_map.mp hMem
    exact ⟨given.1, rfl⟩
  · have hKeys : (entries.map fun entry => (Scalar.str entry.1, entry.2)).map Prod.fst =
        (entries.map Prod.fst).map Scalar.str := by simp
    rw [hKeys]
    exact hDistinct.map fun _ _ => Scalar.str.inj
  · intro entry hMem
    obtain ⟨given, hGiven, rfl⟩ := List.mem_map.mp hMem
    exact h given hGiven

theorem DimensionSpec.plain_data (dimension : DimensionSpec) : Plain dimension.data := by
  apply plain_mapping (by simp)
  simp [Plain.str, plain_strings]

theorem KnowledgeBaseWiring.plain_data (knowledgeBase : KnowledgeBaseWiring) :
    Plain knowledgeBase.data := by
  apply plain_mapping (by simp)
  simp [Plain.str, plain_strings]

/-- A schema is written without numbers, booleans and nulls. -/
theorem DomainSchema.plain_data (schema : DomainSchema) : Plain schema.data := by
  have hDimensions : Plain (.list (schema.dimensions.map DimensionSpec.data)) := by
    apply Plain.list
    intro element hMem
    obtain ⟨dimension, _, rfl⟩ := List.mem_map.mp hMem
    exact dimension.plain_data
  apply plain_mapping (by simp)
  simp [Plain.str, plain_strings, hDimensions, schema.knowledgeBase.plain_data]

/-- What is written of a dimension is accepted as this dimension. -/
theorem DimensionSpec.validate_data (dimension : DimensionSpec) :
    modelField DimensionSpec.validate dimension.data = .ok dimension :=
  modelField_eq_ok.mpr ⟨_, rfl, DimensionSpec.validate_eq_ok.mpr ⟨rfl, rfl, rfl, rfl⟩⟩

theorem KnowledgeBaseWiring.validate_data (knowledgeBase : KnowledgeBaseWiring) :
    modelField KnowledgeBaseWiring.validate knowledgeBase.data = .ok knowledgeBase :=
  modelField_eq_ok.mpr ⟨_, rfl, KnowledgeBaseWiring.validate_eq_ok.mpr ⟨rfl, rfl⟩⟩

theorem holdSpecs_data (dimensions : List DimensionSpec) :
    HoldSpecs (dimensions.map DimensionSpec.data) dimensions := by
  induction dimensions with
  | nil => exact .nil
  | cons dimension dimensions ih => exact .cons dimension.validate_data ih

/-- The written tree is in the declared grammar, and denotes the schema. -/
theorem DomainSchema.modelValidate_data (schema : DomainSchema) :
    DomainSchema.modelValidate schema.data = .ok schema :=
  modelValidate_eq_ok.mpr ⟨_, rfl, ⟨rfl, rfl, ⟨_, rfl, schema.knowledgeBase.validate_data⟩, rfl⟩, _, rfl,
    holdSpecs_data schema.dimensions⟩

/-- A schema that is written and loaded again is the same in every field.
Writing what was loaded from any manifest therefore changes nothing for the
next load, whichever optional or unknown keys that manifest had. -/
theorem load_schemaToYaml {Disk : Type} [FileSystem Disk] (yaml : PyYAML) (schema : DomainSchema)
    (disk : Disk) (yamlFile : String) (hRoundTrip : yaml.RoundTrips schema.data)
    (hFile : FileSystem.ReadsBack disk yamlFile (yaml.safeDump schema.data)) :
    (∀ disk', schema.schemaToYaml yaml disk yamlFile = (.ok (), disk') →
      load yaml disk' yamlFile = .ok schema) ∧
    ∀ path, load yaml disk path = .ok schema →
      ∀ disk', schema.schemaToYaml yaml disk yamlFile = (.ok (), disk') →
        load yaml disk' yamlFile = load yaml disk path := by
  have hWritten : ∀ disk', schema.schemaToYaml yaml disk yamlFile = (.ok (), disk') →
      load yaml disk' yamlFile = .ok schema := by
    intro disk' hWrite
    rw [load_eq_rebuild (hFile disk' hWrite) (hRoundTrip schema.plain_data)]
    exact rebuild_of_modelValidate schema.modelValidate_data
  refine ⟨hWritten, fun path hLoad disk' hWrite => ?_⟩
  rw [hWritten disk' hWrite, hLoad]

/-- The manifest of the education domain, in a directory. -/
theorem load_schemaToYaml_education :
    let text := "domain: education\nsubject: learner\ndimensions:\n" ++
      "- name: history\n  fields:\n  - courses\n  - scores\n" ++
      "  write: event-driven\n  decay: none\n" ++
      "- name: affinities\n  fields:\n  - subject preferences\n" ++
      "  write: event-driven\n  decay: none\n" ++
      "knowledge_base:\n  kb_names:\n  - primer-education-kb\n  retrieval: corrective_rag\n" ++
      "engagements:\n- tutor-concept\n"
    let schema : DomainSchema := {
      domain := "education"
      subject := "learner"
      dimensions := [
        ⟨"history", ["courses", "scores"], "event-driven", "none", by decide⟩,
        ⟨"affinities", ["subject preferences"], "event-driven", "none", by decide⟩]
      knowledgeBase := ⟨["primer-education-kb"], "corrective_rag"⟩
      engagements := ["tutor-concept"]
      dimensions_le := by decide
      accepted := rejectDuplicateDimensionNames_eq_ok.mpr ⟨by decide, rfl⟩ }
    let yaml := PyYAML.ofDocument text schema.data
    ∀ files : Directory, load yaml (schema.schemaToYaml yaml files "education.manifest.yaml").2
      "education.manifest.yaml" = .ok schema := by
  intro text schema yaml files
  have hWrite : schema.schemaToYaml yaml files "education.manifest.yaml" =
      (.ok (), Function.update files "education.manifest.yaml" (some text)) := rfl
  rw [hWrite]
  exact (load_schemaToYaml yaml schema files "education.manifest.yaml"
    (fun _ => PyYAML.safeLoad_ofDocument text schema.data) (files.readsBack _ _)).1 _ hWrite

end CapillaryActions.Schema
