import CapillaryActions.Schema.RoundTrip

/-! The normal form of a manifest: the declared keys and no others, in the order
of the declarations, with the defaults filled in. The loader does not tell a
manifest from its normal form, whether it accepts it or raises; and the normal
form is the tree that a loaded schema is written as. -/
namespace CapillaryActions.Schema

open Python Python.Pydantic Semantics.Validation

/-- A key that a normal form has, what it is read as when it is absent, and the
form of its value. -/
structure DeclaredKey where
  name : String
  default : Option YamlTree
  form : YamlTree → YamlTree

/-- The entries of a mapping under the declared keys. -/
def formOf (keys : List DeclaredKey) (entries : List (Scalar × YamlTree)) :
    List (Scalar × YamlTree) :=
  keys.filterMap fun key =>
    (((entries.lookup (.str key.name)).map key.form).or key.default).map fun v =>
      (Scalar.str key.name, v)

def dimensionKeys : List DeclaredKey := [
  ⟨"name", none, id⟩, ⟨"fields", none, id⟩, ⟨"write", some (.str "event-driven"), id⟩,
  ⟨"decay", some (.str "none"), id⟩]

def dimensionForm : YamlTree → YamlTree
  | .dict entries => .dict (formOf dimensionKeys entries)
  | v => v

/-- Empty strings and mappings are iterated over like the empty list. -/
def dimensionsForm : YamlTree → YamlTree
  | .list elements => .list (elements.map dimensionForm)
  | .str s => if s = "" then .list [] else .str s
  | .dict [] => .list []
  | v => v

def wiringKeys : List DeclaredKey := [
  ⟨"kb_names", none, id⟩, ⟨"retrieval", some (.str "corrective_rag"), id⟩]

def wiringForm : YamlTree → YamlTree
  | .dict entries => .dict (formOf wiringKeys entries)
  | v => v

def manifestKeys : List DeclaredKey := [
  ⟨"domain", none, id⟩, ⟨"subject", none, id⟩, ⟨"dimensions", none, dimensionsForm⟩,
  ⟨"knowledge_base", none, wiringForm⟩, ⟨"engagements", none, id⟩]

def normalForm : YamlTree → YamlTree
  | .dict entries => .dict (formOf manifestKeys entries)
  | v => v

/-! What is read from a normal form. -/

section

variable {keys : List DeclaredKey} {entries : List (Scalar × YamlTree)} {key : DeclaredKey}

theorem lookup_formOf_of_not_mem {name : String} (h : name ∉ keys.map DeclaredKey.name) :
    (formOf keys entries).lookup (.str name) = none := by
  rw [List.lookup_eq_none_iff]
  intro entry hMem
  obtain ⟨key, hKey, hEntry⟩ := List.mem_filterMap.mp hMem
  obtain ⟨v, _, rfl⟩ := Option.map_eq_some_iff.mp hEntry
  have hName : key.name ≠ name := fun hSame => h (hSame ▸ List.mem_map_of_mem hKey)
  simpa using hName.symm

theorem lookup_formOf (hDistinct : (keys.map DeclaredKey.name).Nodup) (hKey : key ∈ keys) :
    (formOf keys entries).lookup (.str key.name) =
      ((entries.lookup (.str key.name)).map key.form).or key.default := by
  induction keys with
  | nil => cases hKey
  | cons first keys ih =>
      obtain ⟨hNew, hRest⟩ := List.nodup_cons.mp hDistinct
      rw [formOf, List.filterMap_cons]
      rcases List.mem_cons.mp hKey with rfl | hKey
      · cases hValue : ((entries.lookup (.str key.name)).map key.form).or key.default with
        | none => exact lookup_formOf_of_not_mem hNew
        | some v => simp
      · have hOther : key.name ≠ first.name :=
          fun hSame => hNew (hSame ▸ List.mem_map_of_mem hKey)
        cases ((entries.lookup (.str first.name)).map first.form).or first.default with
        | none => exact ih hRest hKey
        | some v =>
            have hBeq : (Scalar.str key.name == Scalar.str first.name) = false := by simpa using hOther
            simp only [Option.map_some, List.lookup_cons, hBeq]
            exact ih hRest hKey

/-- A key without a default is there or missing as before. -/
theorem getItem_formOf (hDistinct : (keys.map DeclaredKey.name).Nodup) {name : String}
    {form : YamlTree → YamlTree} (hKey : ⟨name, none, form⟩ ∈ keys) :
    (Value.dict (formOf keys entries) : YamlTree).getItem name =
      ((Value.dict entries : YamlTree).getItem name).map form := by
  have hLookup : (formOf keys entries).lookup (.str name) =
      ((entries.lookup (.str name)).map form).or none := lookup_formOf hDistinct hKey
  rw [Option.or_none] at hLookup
  rw [Value.getItem, Value.getItem, hLookup]
  cases entries.lookup (.str name) <;> rfl

/-- A key with a default is read as before. -/
theorem get_formOf (hDistinct : (keys.map DeclaredKey.name).Nodup) {name : String}
    {default : YamlTree} (hKey : ⟨name, some default, id⟩ ∈ keys) :
    (Value.dict (formOf keys entries) : YamlTree).get (.str name) default =
      (Value.dict entries : YamlTree).get (.str name) default := by
  have hLookup : (formOf keys entries).lookup (.str name) =
      ((entries.lookup (.str name)).map id).or (some default) := lookup_formOf hDistinct hKey
  rw [Value.get_dict, Value.get_dict, hLookup]
  cases entries.lookup (.str name) <;> rfl

end

/-- The three declarations have distinct keys. -/
theorem nodup_dimensionKeys : (dimensionKeys.map DeclaredKey.name).Nodup := by decide

theorem nodup_wiringKeys : (wiringKeys.map DeclaredKey.name).Nodup := by decide

theorem nodup_manifestKeys : (manifestKeys.map DeclaredKey.name).Nodup := by decide

theorem getItem_formOf_id {keys : List DeclaredKey} {entries : List (Scalar × YamlTree)}
    (hDistinct : (keys.map DeclaredKey.name).Nodup) {name : String}
    (hKey : ⟨name, none, id⟩ ∈ keys) :
    (Value.dict (formOf keys entries) : YamlTree).getItem name =
      (Value.dict entries : YamlTree).getItem name := by
  rw [getItem_formOf hDistinct hKey, Except.map_id, id]

/-! The loader on a normal form, from the inside out. -/

theorem loadDimension_form (v : YamlTree) : loadDimension (dimensionForm v) = loadDimension v := by
  cases v with
  | dict entries =>
      rw [dimensionForm, loadDimension, loadDimension,
        getItem_formOf_id nodup_dimensionKeys (by simp [dimensionKeys]),
        getItem_formOf_id nodup_dimensionKeys (by simp [dimensionKeys]),
        get_formOf nodup_dimensionKeys (by simp [dimensionKeys]),
        get_formOf nodup_dimensionKeys (by simp [dimensionKeys])]
  | _ => rfl

theorem mapM_loadDimension_form (items : List YamlTree) :
    (items.map dimensionForm).mapM loadDimension = items.mapM loadDimension := by
  rw [List.mapM_map]
  congr 1
  exact funext loadDimension_form

theorem loadDimensions_form (v : YamlTree) :
    (do (← (dimensionsForm v).iterate).mapM loadDimension) =
      (do (← v.iterate).mapM loadDimension) := by
  cases v with
  | list elements => exact mapM_loadDimension_form elements
  | str s =>
      by_cases hEmpty : s = ""
      · subst hEmpty
        rfl
      · rw [dimensionsForm, if_neg hEmpty]
  | dict entries =>
      cases entries with
      | nil => rfl
      | cons entry entries => rfl
  | _ => rfl

theorem loadKnowledgeBase_form (entries : List (Scalar × YamlTree)) :
    loadKnowledgeBase (.dict (formOf manifestKeys entries)) = loadKnowledgeBase (.dict entries) := by
  have hKey : ⟨"knowledge_base", none, wiringForm⟩ ∈ manifestKeys := by simp [manifestKeys]
  have hNames : ⟨"kb_names", none, id⟩ ∈ wiringKeys := by simp [wiringKeys]
  have hRetrieval : ⟨"retrieval", some (.str "corrective_rag"), id⟩ ∈ wiringKeys := by
    simp [wiringKeys]
  rw [loadKnowledgeBase, loadKnowledgeBase, getItem_formOf nodup_manifestKeys hKey]
  cases (Value.dict entries : YamlTree).getItem "knowledge_base" with
  | error raised => rfl
  | ok v =>
      cases v with
      | dict wiring =>
          simp only [Except.map, bind, Except.bind, wiringForm,
            getItem_formOf_id nodup_wiringKeys hNames, get_formOf nodup_wiringKeys hRetrieval]
      | _ => rfl

/-- The argument `dimensions`, read on its own. -/
def loadDimensions (data : YamlTree) : Except Exn (List DimensionSpec) := do
  (← (← data.getItem "dimensions").iterate).mapM loadDimension

theorem rebuild_eq (data : YamlTree) : rebuild data = (do
    let domain ← data.getItem "domain"
    let subject ← data.getItem "subject"
    let dimensions ← loadDimensions data
    let knowledgeBase ← loadKnowledgeBase data
    let engagements ← data.getItem "engagements"
    construct "DomainSchema" (DomainSchema.assemble
      (required "domain" strField (some domain))
      (required "subject" strField (some subject))
      (.ok dimensions)
      (.ok knowledgeBase)
      (required "engagements" (listField strField) (some engagements)))) := by
  simp only [rebuild, loadDimensions, bind_assoc]

theorem loadDimensions_normalForm (entries : List (Scalar × YamlTree)) :
    loadDimensions (.dict (formOf manifestKeys entries)) = loadDimensions (.dict entries) := by
  have hKey : ⟨"dimensions", none, dimensionsForm⟩ ∈ manifestKeys := by simp [manifestKeys]
  rw [loadDimensions, loadDimensions, getItem_formOf nodup_manifestKeys hKey]
  cases (Value.dict entries : YamlTree).getItem "dimensions" with
  | error raised => rfl
  | ok v => exact loadDimensions_form v

/-- Loading does not tell a manifest from its normal form. -/
theorem rebuild_normalForm (tree : YamlTree) : rebuild (normalForm tree) = rebuild tree := by
  cases tree with
  | dict entries =>
      rw [rebuild_eq, rebuild_eq, normalForm, loadDimensions_normalForm, loadKnowledgeBase_form,
        getItem_formOf_id nodup_manifestKeys (by simp [manifestKeys]),
        getItem_formOf_id nodup_manifestKeys (by simp [manifestKeys]),
        getItem_formOf_id nodup_manifestKeys (by simp [manifestKeys])]
  | _ => rfl

/-! What a loaded schema is written as. -/

theorem DimensionSpec.data_eq_form {v : YamlTree} {spec : DimensionSpec}
    (h : modelField DimensionSpec.validate v = .ok spec) : spec.data = dimensionForm v := by
  obtain ⟨entries, rfl, hFields⟩ := modelField_eq_ok.mp h
  obtain ⟨hName, hList, hWrite, hDecay⟩ := DimensionSpec.validate_eq_ok.mp hFields
  simp [DimensionSpec.data, mapping, dimensionForm, formOf, dimensionKeys, Option.or_some, hName,
    hList, hWrite, hDecay]

theorem KnowledgeBaseWiring.data_eq_form {v : YamlTree} {wiring : KnowledgeBaseWiring}
    (h : modelField KnowledgeBaseWiring.validate v = .ok wiring) : wiring.data = wiringForm v := by
  obtain ⟨entries, rfl, hFields⟩ := modelField_eq_ok.mp h
  obtain ⟨hNames, hRetrieval⟩ := KnowledgeBaseWiring.validate_eq_ok.mp hFields
  simp [KnowledgeBaseWiring.data, mapping, wiringForm, formOf, wiringKeys, Option.or_some, hNames,
    hRetrieval]

theorem HoldSpecs.data_eq_form {items : List YamlTree} {specs : List DimensionSpec}
    (h : HoldSpecs items specs) : specs.map DimensionSpec.data = items.map dimensionForm := by
  induction h with
  | nil => rfl
  | cons hFirst _ ih => rw [List.map_cons, List.map_cons, DimensionSpec.data_eq_form hFirst, ih]

theorem dimensions_data_eq_form {v : YamlTree} {items : List YamlTree} {specs : List DimensionSpec}
    (hItems : v.iterate = .ok items) (h : HoldSpecs items specs) :
    .list (specs.map DimensionSpec.data) = dimensionsForm v := by
  rcases h.iterate hItems with rfl | ⟨rfl, rfl | rfl⟩
  · rw [h.data_eq_form]
    rfl
  · rfl
  · rfl

theorem data_eq_normalForm {tree : YamlTree} {schema : DomainSchema}
    (h : rebuild tree = .ok schema) : schema.data = normalForm tree := by
  obtain ⟨entries, rfl, hRest, v, items, hDimensions, hItems, hSpecs⟩ := rebuild_eq_ok.mp h
  obtain ⟨w, hKnowledge, hWiring⟩ := hRest.knowledgeBase
  have hDomain := hRest.domain
  have hSubject := hRest.subject
  have hEngagements := hRest.engagements
  rw [fieldsOf] at hDomain hSubject hDimensions hKnowledge hEngagements
  simp [DomainSchema.data, mapping, normalForm, formOf, manifestKeys, hDomain, hSubject, hDimensions,
    hKnowledge, hEngagements, dimensions_data_eq_form hItems hSpecs,
    KnowledgeBaseWiring.data_eq_form hWiring]

/-- The normal form of a manifest. Every manifest is loaded like its normal form,
or raises like it. A schema that is loaded is written as the normal form of the
manifest it is from; so two manifests give the same schema exactly if they have
the same normal form. -/
theorem manifest_normalForm (tree : YamlTree) :
    rebuild (normalForm tree) = rebuild tree ∧
    ∀ schema, rebuild tree = .ok schema →
      schema.data = normalForm tree ∧
      ∀ tree' schema', rebuild tree' = .ok schema' →
        (schema = schema' ↔ normalForm tree = normalForm tree') := by
  refine ⟨rebuild_normalForm tree, fun schema h => ⟨data_eq_normalForm h, ?_⟩⟩
  intro tree' schema' h'
  constructor
  · rintro rfl
    rw [← data_eq_normalForm h, ← data_eq_normalForm h']
  · intro hSame
    rw [← rebuild_normalForm, hSame, rebuild_normalForm, h'] at h
    exact (Except.ok.inj h).symm

/-- A manifest in another order, with an unknown key and without the defaults. -/
theorem manifest_normalForm_terse :
    let tree := mapping [("engagements", .list []), ("owner", .str "me"), ("subject", .str "s"),
      ("dimensions", .list [mapping [("fields", .list []), ("name", .str "n")]]),
      ("knowledge_base", mapping [("kb_names", .list [])]), ("domain", .str "d")]
    ∃ schema, rebuild tree = .ok schema ∧ schema.data = mapping [
      ("domain", .str "d"), ("subject", .str "s"),
      ("dimensions", .list [mapping [("name", .str "n"), ("fields", .list []),
        ("write", .str "event-driven"), ("decay", .str "none")]]),
      ("knowledge_base", mapping [("kb_names", .list []), ("retrieval", .str "corrective_rag")]),
      ("engagements", .list [])] := by
  intro tree
  let spec : DimensionSpec := ⟨"n", [], "event-driven", "none", by decide⟩
  have hAccepted : rejectDuplicateDimensionNames [spec] = .ok [spec] :=
    rejectDuplicateDimensionNames_eq_ok.mpr ⟨by decide, rfl⟩
  have hLoad : rebuild tree =
      .ok ⟨"d", "s", [spec], ⟨[], "corrective_rag"⟩, [], by decide, hAccepted⟩ :=
    rebuild_eq_ok.mpr ⟨_, rfl, ⟨rfl, rfl, ⟨_, rfl, rfl⟩, rfl⟩, _, _, rfl, rfl, .cons rfl .nil⟩
  exact ⟨_, hLoad, ((manifest_normalForm tree).2 _ hLoad).1.trans rfl⟩

end CapillaryActions.Schema
