import CapillaryActions.Schema.Manifest

/-! Which manifests the loader accepts. The loader reads field by field what
the declared models would validate as a whole. The two agree on every part of
a manifest but one: the comprehension over `dimensions` goes through whatever
can be iterated over, before anything has checked that it is a list. -/
namespace CapillaryActions.Schema

open Python Python.Pydantic Semantics.Validation

/-- A mapping's entries under string keys, as validation looks them up. -/
def fieldsOf (entries : List (Scalar × YamlTree)) (name : String) : Option YamlTree :=
  entries.lookup (.str name)

theorem DimensionSpec.validate_kwargs {name fields write decay : YamlTree} {spec : DimensionSpec} :
    DimensionSpec.validate
        (kwargs [("name", name), ("fields", fields), ("write", write), ("decay", decay)]) = .ok spec ↔
      name = .str spec.name ∧ fields = strings spec.fields ∧ write = .str spec.write ∧
        decay = .str spec.decay := by
  simp [DimensionSpec.validate_eq_ok, kwargs, List.lookup_cons]

theorem KnowledgeBaseWiring.validate_kwargs {kbNames retrieval : YamlTree}
    {wiring : KnowledgeBaseWiring} :
    KnowledgeBaseWiring.validate (kwargs [("kb_names", kbNames), ("retrieval", retrieval)]) =
        .ok wiring ↔
      kbNames = strings wiring.kbNames ∧ retrieval = .str wiring.retrieval := by
  simp [KnowledgeBaseWiring.validate_eq_ok, kwargs, List.lookup_cons]

/-- A single dimension is loaded exactly when its model accepts it. The
defaults that the loader repeats are those of the model. -/
theorem loadDimension_eq_ok {v : YamlTree} {spec : DimensionSpec} :
    loadDimension v = .ok spec ↔ modelField DimensionSpec.validate v = .ok spec := by
  unfold loadDimension
  simp only [bind_eq_ok, Value.getItem_eq_ok, construct_eq_ok, DimensionSpec.validate_kwargs]
  simp only [modelField_eq_ok, DimensionSpec.validate_eq_ok]
  constructor
  · intro h
    obtain ⟨_, ⟨entries, rfl, hName⟩, _, ⟨_, hSame, hFields⟩, _, hWrite, _, hDecay, hSpec⟩ := h
    obtain ⟨rfl, rfl, rfl, rfl⟩ := hSpec
    rw [← Value.dict.inj hSame] at hFields
    exact ⟨entries, rfl, hName, hFields, Except.ok.inj hWrite, Except.ok.inj hDecay⟩
  · intro h
    obtain ⟨entries, rfl, hName, hFields, hWrite, hDecay⟩ := h
    exact ⟨_, ⟨entries, rfl, hName⟩, _, ⟨entries, rfl, hFields⟩, _, congrArg Except.ok hWrite, _,
      congrArg Except.ok hDecay, rfl, rfl, rfl, rfl⟩

/-- So is the wiring of knowledge bases. -/
theorem loadKnowledgeBase_eq_ok {data : YamlTree} {wiring : KnowledgeBaseWiring} :
    loadKnowledgeBase data = .ok wiring ↔
      ∃ v, data.getItem "knowledge_base" = .ok v ∧
        modelField KnowledgeBaseWiring.validate v = .ok wiring := by
  unfold loadKnowledgeBase
  simp only [bind_eq_ok, construct_eq_ok, KnowledgeBaseWiring.validate_kwargs]
  simp only [modelField_eq_ok, KnowledgeBaseWiring.validate_eq_ok]
  constructor
  · intro h
    obtain ⟨v, hItem, _, hNames, _, hAgain, _, hRetrieval, rfl, rfl⟩ := h
    obtain ⟨entries, rfl, hLookup⟩ := Value.getItem_eq_ok.mp hNames
    rw [hItem] at hAgain
    cases hAgain
    exact ⟨_, hItem, entries, rfl, hLookup, Except.ok.inj hRetrieval⟩
  · intro h
    obtain ⟨_, hItem, entries, rfl, hNames, hRetrieval⟩ := h
    have hLookup := Value.getItem_eq_ok.mpr ⟨entries, rfl, hNames⟩
    exact ⟨_, hItem, _, hLookup, _, hItem, _, congrArg Except.ok hRetrieval, rfl, rfl⟩

/-- The entries other than `dimensions` hold what a schema has there. -/
structure HoldsRest (given : String → Option YamlTree) (schema : DomainSchema) : Prop where
  domain : given "domain" = some (.str schema.domain)
  subject : given "subject" = some (.str schema.subject)
  knowledgeBase : ∃ v, given "knowledge_base" = some v ∧
    modelField KnowledgeBaseWiring.validate v = .ok schema.knowledgeBase
  engagements : given "engagements" = some (strings schema.engagements)

/-- Each of these items is accepted as the spec at its place. -/
def HoldSpecs (items : List YamlTree) (specs : List DimensionSpec) : Prop :=
  List.Forall₂ (fun item spec => modelField DimensionSpec.validate item = .ok spec) items specs

/-- The declared grammar. -/
theorem modelValidate_eq_ok {tree : YamlTree} {schema : DomainSchema} :
    DomainSchema.modelValidate tree = .ok schema ↔
      ∃ entries, tree = .dict entries ∧ HoldsRest (fieldsOf entries) schema ∧
        ∃ items, fieldsOf entries "dimensions" = some (.list items) ∧
          HoldSpecs items schema.dimensions := by
  unfold DomainSchema.modelValidate
  simp only [modelField_eq_ok, DomainSchema.assemble_eq_ok, required_strField_eq_ok,
    required_strings_eq_ok, required_boundedListField_eq_ok, schema.dimensions_le, true_and]
  simp only [required_eq_ok, listField_eq_ok]
  constructor
  · intro h
    obtain ⟨entries, rfl, hDomain, hSubject, hDimensions, hKnowledge, hEngagements⟩ := h
    obtain ⟨_, hDimensions, items, rfl, hItems⟩ := hDimensions
    exact ⟨entries, rfl, ⟨hDomain, hSubject, hKnowledge, hEngagements⟩, items, hDimensions, hItems⟩
  · intro h
    obtain ⟨entries, rfl, hRest, items, hDimensions, hItems⟩ := h
    exact ⟨entries, rfl, hRest.domain, hRest.subject, ⟨_, hDimensions, items, rfl, hItems⟩,
      hRest.knowledgeBase, hRest.engagements⟩

/-- The grammar of the loader. -/
theorem rebuild_eq_ok {tree : YamlTree} {schema : DomainSchema} :
    rebuild tree = .ok schema ↔
      ∃ entries, tree = .dict entries ∧ HoldsRest (fieldsOf entries) schema ∧
        ∃ v items, fieldsOf entries "dimensions" = some v ∧ v.iterate = .ok items ∧
          HoldSpecs items schema.dimensions := by
  unfold rebuild
  simp only [bind_eq_ok, mapM_eq_ok, loadDimension_eq_ok, loadKnowledgeBase_eq_ok,
    construct_eq_ok, DomainSchema.assemble_eq_ok, required_strField_eq_ok, required_strings_eq_ok,
    Option.some.injEq, Except.ok.injEq]
  constructor
  · intro h
    obtain ⟨_, hDomain, _, hSubject, v, hDimensions, items, hItems, _, hSpecs, _, hKnowledge, _,
      hEngagements, rfl, rfl, rfl, rfl, rfl⟩ := h
    obtain ⟨entries, rfl, hLookup⟩ := Value.getItem_eq_ok.mp hDomain
    have hField : ∀ {name item}, (Value.dict entries : YamlTree).getItem name = .ok item →
        fieldsOf entries name = some item := by
      intro name item hItem
      obtain ⟨_, hSame, hLookup⟩ := Value.getItem_eq_ok.mp hItem
      rwa [← Value.dict.inj hSame] at hLookup
    obtain ⟨w, hKnowledge, hWiring⟩ := hKnowledge
    exact ⟨entries, rfl, ⟨hLookup, hField hSubject, ⟨w, hField hKnowledge, hWiring⟩,
      hField hEngagements⟩, v, items, hField hDimensions, hItems, hSpecs⟩
  · intro h
    obtain ⟨entries, rfl, hRest, v, items, hDimensions, hItems, hSpecs⟩ := h
    have hItem : ∀ {name item}, fieldsOf entries name = some item →
        (Value.dict entries : YamlTree).getItem name = .ok item := fun hField =>
      Value.getItem_eq_ok.mpr ⟨entries, rfl, hField⟩
    obtain ⟨w, hKnowledge, hWiring⟩ := hRest.knowledgeBase
    exact ⟨_, hItem hRest.domain, _, hItem hRest.subject, v, hItem hDimensions, items, hItems, _,
      hSpecs, _, ⟨w, hItem hKnowledge, hWiring⟩, _, hItem hRest.engagements, rfl, rfl, rfl, rfl, rfl⟩

theorem load_eq_rebuild {Disk : Type} [FileSystem Disk] {yaml : PyYAML} {disk : Disk} {path : String}
    {file : TextStream} {tree : YamlTree} (hFile : FileSystem.openText disk path = .ok file)
    (hParse : yaml.safeLoad file = .ok tree) : load yaml disk path = rebuild tree := by
  simp [load, hFile, hParse, bind, Except.bind]

/-- What iteration yields from a mapping or a string is never a mapping. -/
theorem modelField_toValue_ne_ok {α : Type} {model : (String → Option YamlTree) → Checked α}
    {key : Scalar} {a : α} : modelField model key.toValue ≠ .ok a := by
  cases key <;> simp [Scalar.toValue, modelField, reject]

/-- Specs come out of an iteration over a list, or there are none of them. -/
theorem HoldSpecs.iterate {v : YamlTree} {items : List YamlTree} {specs : List DimensionSpec}
    (hItems : v.iterate = .ok items) (h : HoldSpecs items specs) :
    v = .list items ∨ (specs = [] ∧ (v = .str "" ∨ v = .dict [])) := by
  cases v with
  | list elements =>
      cases hItems
      exact Or.inl rfl
  | dict entries =>
      cases hItems
      cases entries with
      | nil => exact Or.inr ⟨List.forall₂_nil_left_iff.mp h, Or.inr rfl⟩
      | cons entry entries =>
          cases h with
          | cons hFirst _ => exact absurd hFirst modelField_toValue_ne_ok
  | str s =>
      cases hItems
      cases hChars : s.toList with
      | nil =>
          rw [hChars] at h
          exact Or.inr ⟨List.forall₂_nil_left_iff.mp h, Or.inl (by simpa using hChars)⟩
      | cons c chars =>
          rw [hChars] at h
          cases h with
          | cons hFirst _ => cases hFirst
  | _ => cases hItems

/-- The entries other than `dimensions` are as declared. -/
def RestWellTyped (given : String → Option YamlTree) : Prop :=
  (∃ domain, given "domain" = some (.str domain)) ∧
  (∃ subject, given "subject" = some (.str subject)) ∧
  (∃ wiring, given "knowledge_base" = some (.dict wiring) ∧
    (∃ names, fieldsOf wiring "kb_names" = some (strings names)) ∧
    ∀ retrieval, fieldsOf wiring "retrieval" = some retrieval → ∃ s, retrieval = .str s) ∧
  ∃ names, given "engagements" = some (strings names)

theorem HoldsRest.restWellTyped {given : String → Option YamlTree} {schema : DomainSchema}
    (h : HoldsRest given schema) : RestWellTyped given := by
  obtain ⟨v, hKnowledge, hWiring⟩ := h.knowledgeBase
  obtain ⟨wiring, rfl, hFields⟩ := modelField_eq_ok.mp hWiring
  obtain ⟨hNames, hRetrieval⟩ := KnowledgeBaseWiring.validate_eq_ok.mp hFields
  refine ⟨⟨_, h.domain⟩, ⟨_, h.subject⟩, ⟨wiring, hKnowledge, ⟨_, hNames⟩, ?_⟩, ⟨_, h.engagements⟩⟩
  intro retrieval hGiven
  rw [fieldsOf] at hGiven
  rw [hGiven] at hRetrieval
  exact ⟨_, hRetrieval⟩

/-- With no dimensions at all, nothing else stands in the way of a schema. -/
theorem RestWellTyped.exists_schema {given : String → Option YamlTree} (h : RestWellTyped given) :
    ∃ schema : DomainSchema, HoldsRest given schema ∧ schema.dimensions = [] := by
  obtain ⟨⟨domain, hDomain⟩, ⟨subject, hSubject⟩, ⟨wiring, hKnowledge, ⟨names, hNames⟩, hRetrieval⟩,
    ⟨engagements, hEngagements⟩⟩ := h
  have hWiring : ∃ kb, modelField KnowledgeBaseWiring.validate (.dict wiring) = .ok kb := by
    have hString : ∃ s, (fieldsOf wiring "retrieval").getD (.str "corrective_rag") = .str s := by
      cases hGiven : fieldsOf wiring "retrieval" with
      | none => exact ⟨_, rfl⟩
      | some retrieval => exact hRetrieval retrieval hGiven
    obtain ⟨s, hString⟩ := hString
    exact ⟨⟨names, s⟩, modelField_eq_ok.mpr ⟨wiring, rfl,
      KnowledgeBaseWiring.validate_eq_ok.mpr ⟨hNames, hString⟩⟩⟩
  obtain ⟨kb, hKb⟩ := hWiring
  have hAccepted : rejectDuplicateDimensionNames [] = .ok [] :=
    rejectDuplicateDimensionNames_eq_ok.mpr ⟨List.nodup_nil, rfl⟩
  exact ⟨⟨domain, subject, [], kb, engagements, by simp, hAccepted⟩,
    ⟨hDomain, hSubject, ⟨_, hKnowledge, hKb⟩, hEngagements⟩, rfl⟩

/-- `dimensions` is an empty string or an empty mapping, where a list belongs,
and nothing else is wrong with the manifest. -/
def EmptyNotList (tree : YamlTree) : Prop :=
  ∃ entries, tree = .dict entries ∧ RestWellTyped (fieldsOf entries) ∧
    (fieldsOf entries "dimensions" = some (.str "") ∨
      fieldsOf entries "dimensions" = some (.dict []))

/-- The loader accepts all that the declared models accept, with the same
result. -/
theorem rebuild_of_modelValidate {tree : YamlTree} {schema : DomainSchema}
    (h : DomainSchema.modelValidate tree = .ok schema) : rebuild tree = .ok schema := by
  obtain ⟨entries, rfl, hRest, items, hDimensions, hSpecs⟩ := modelValidate_eq_ok.mp h
  exact rebuild_eq_ok.mpr ⟨entries, rfl, hRest, _, items, hDimensions, rfl, hSpecs⟩

/-- What the loader accepts beyond the declared models has an empty value of
the wrong type for its dimensions. -/
theorem modelValidate_of_rebuild {tree : YamlTree} {schema : DomainSchema}
    (h : rebuild tree = .ok schema) :
    DomainSchema.modelValidate tree = .ok schema ∨ EmptyNotList tree := by
  obtain ⟨entries, rfl, hRest, v, items, hDimensions, hItems, hSpecs⟩ := rebuild_eq_ok.mp h
  rcases hSpecs.iterate hItems with rfl | ⟨_, rfl | rfl⟩
  · exact Or.inl (modelValidate_eq_ok.mpr ⟨entries, rfl, hRest, items, hDimensions, hSpecs⟩)
  · exact Or.inr ⟨entries, rfl, hRest.restWellTyped, Or.inl hDimensions⟩
  · exact Or.inr ⟨entries, rfl, hRest.restWellTyped, Or.inr hDimensions⟩

/-- Such a manifest is loaded as a schema without dimensions, but no schema is
declared by it. -/
theorem EmptyNotList.diverges {tree : YamlTree} (h : EmptyNotList tree) :
    ∃ schema, rebuild tree = .ok schema ∧ DomainSchema.modelValidate tree ≠ .ok schema := by
  obtain ⟨entries, rfl, hRest, hDimensions⟩ := h
  obtain ⟨schema, hHolds, hNil⟩ := hRest.exists_schema
  have hSpecs : HoldSpecs [] schema.dimensions := hNil ▸ .nil
  refine ⟨schema, rebuild_eq_ok.mpr ⟨entries, rfl, hHolds, ?_⟩, ?_⟩
  · rcases hDimensions with hDimensions | hDimensions
    · exact ⟨_, [], hDimensions, rfl, hSpecs⟩
    · exact ⟨_, [], hDimensions, rfl, hSpecs⟩
  · intro hValid
    obtain ⟨entries', hSame, _, items, hList, _⟩ := modelValidate_eq_ok.mp hValid
    cases hSame
    rcases hDimensions with hDimensions | hDimensions
    · rw [hDimensions] at hList
      cases hList
    · rw [hDimensions] at hList
      cases hList

/-- Loading a file and validating its tree against the declared models agree,
in what they accept and in the schema, unless the dimensions are an empty
value of the wrong type in an otherwise well-typed manifest. -/
theorem load_eq_modelValidate_iff {Disk : Type} [FileSystem Disk] (yaml : PyYAML) (disk : Disk)
    (path : String) (file : TextStream) (tree : YamlTree)
    (hFile : FileSystem.openText disk path = .ok file) (hParse : yaml.safeLoad file = .ok tree) :
    (∀ schema, load yaml disk path = .ok schema ↔ DomainSchema.modelValidate tree = .ok schema) ↔
      ¬EmptyNotList tree := by
  rw [load_eq_rebuild hFile hParse]
  constructor
  · intro hAgree hEmpty
    obtain ⟨schema, hLoad, hNot⟩ := hEmpty.diverges
    exact hNot ((hAgree schema).mp hLoad)
  · intro hNot schema
    refine ⟨fun h => ?_, rebuild_of_modelValidate⟩
    rcases modelValidate_of_rebuild h with hValid | hEmpty
    · exact hValid
    · exact absurd hEmpty hNot

/-- A manifest that omits everything optional. -/
theorem load_eq_modelValidate_iff_terse :
    let text := "domain: d\nsubject: s\ndimensions:\n- name: n\n  fields: []\n" ++
      "knowledge_base:\n  kb_names: []\nengagements: []\n"
    let tree := mapping [("domain", .str "d"), ("subject", .str "s"),
      ("dimensions", .list [mapping [("name", .str "n"), ("fields", .list [])]]),
      ("knowledge_base", mapping [("kb_names", .list [])]), ("engagements", .list [])]
    let files : Directory := fun _ => some text
    ∀ schema, load (.ofDocument text tree) files "domain.manifest.yaml" = .ok schema ↔
      DomainSchema.modelValidate tree = .ok schema := by
  intro text tree files
  apply (load_eq_modelValidate_iff (.ofDocument text tree) files "domain.manifest.yaml"
    (.ofText text) tree (Directory.openText_of_some rfl) (PyYAML.safeLoad_ofDocument text tree)).mpr
  intro hEmpty
  obtain ⟨entries, hTree, _, hDimensions⟩ := hEmpty
  obtain rfl := Value.dict.inj hTree
  rcases hDimensions with h | h <;> cases Option.some.inj h

/-- `dimensions: ''` is loaded as a schema without dimensions, where the model
reports that the field is not a list. -/
theorem load_ne_modelValidate_emptyString :
    let text := "domain: d\nsubject: s\ndimensions: ''\n" ++
      "knowledge_base:\n  kb_names: []\nengagements: []\n"
    let tree := mapping [("domain", .str "d"), ("subject", .str "s"), ("dimensions", .str ""),
      ("knowledge_base", mapping [("kb_names", .list [])]), ("engagements", .list [])]
    let files : Directory := fun _ => some text
    (∃ schema, load (.ofDocument text tree) files "domain.manifest.yaml" = .ok schema ∧
      schema.dimensions = []) ∧
    DomainSchema.modelValidate tree = .error [⟨[.field "dimensions"], .listType⟩] := by
  intro text tree files
  refine ⟨?_, by rfl⟩
  have hAccepted : rejectDuplicateDimensionNames [] = .ok [] :=
    rejectDuplicateDimensionNames_eq_ok.mpr ⟨List.nodup_nil, rfl⟩
  refine ⟨⟨"d", "s", [], ⟨[], "corrective_rag"⟩, [], by simp, hAccepted⟩, ?_, rfl⟩
  have hFile : FileSystem.openText files "domain.manifest.yaml" = .ok (.ofText text) :=
    Directory.openText_of_some rfl
  rw [load_eq_rebuild hFile (PyYAML.safeLoad_ofDocument text tree)]
  exact rebuild_eq_ok.mpr ⟨_, rfl, ⟨rfl, rfl, ⟨_, rfl, rfl⟩, rfl⟩, _, [], rfl, rfl, .nil⟩

end CapillaryActions.Schema
