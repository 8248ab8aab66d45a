import CapillaryActions.Models.StudentModel
import CapillaryActions.Python.Pydantic
import Mathlib.Data.String.Basic
import Mathlib.Data.List.Sort
import Mathlib.Data.List.Dedup

/-! The models of a domain manifest. Each model carries what its validators
check, so a value of these types has been accepted by them. `modelValidate`
validates a parsed tree against the declarations alone; `assemble` below is what
both it and the loader run once the fields are known. -/
namespace CapillaryActions.Schema

open Python Python.Pydantic Semantics.Validation

structure DimensionSpec where
  name : String
  fields : List String
  write : String
  decay : String
  fields_le : fields.length ≤ 10
  deriving DecidableEq, Repr

/-- Validation of the fields of a `DimensionSpec`, given by name. -/
def DimensionSpec.validate (given : String → Option YamlTree) : Checked DimensionSpec :=
  let name := required "name" strField (given "name")
  let fields := required "fields" (boundedListField 10 strField) (given "fields")
  let write := defaulted "write" strField "event-driven" (given "write")
  let decay := defaulted "decay" strField "none" (given "decay")
  (both name (both fields (both write decay))).map fun (name, fields, write, decay) =>
    ⟨name, fields.val, write, decay, fields.property⟩

structure KnowledgeBaseWiring where
  kbNames : List String
  retrieval : String
  deriving DecidableEq, Repr

/-- Validation of the fields of a `KnowledgeBaseWiring`, given by name. -/
def KnowledgeBaseWiring.validate (given : String → Option YamlTree) :
    Checked KnowledgeBaseWiring :=
  let kbNames := required "kb_names" (listField strField) (given "kb_names")
  let retrieval := defaulted "retrieval" strField "corrective_rag" (given "retrieval")
  (both kbNames retrieval).map fun (kbNames, retrieval) => ⟨kbNames, retrieval⟩

/-- `sorted({name for name in names if names.count(name) > 1})`. -/
def duplicateNames (names : List String) : List String :=
  ((names.filter fun name => names.count name > 1).dedup).mergeSort (· ≤ ·)

theorem duplicateNames_eq_nil_iff (names : List String) :
    duplicateNames names = [] ↔ names.Nodup := by
  have hSort : duplicateNames names = [] ↔
      (names.filter fun name => names.count name > 1) = [] := by
    rw [← List.length_eq_zero_iff, duplicateNames, List.length_mergeSort,
      List.length_eq_zero_iff, List.dedup_eq_nil]
  rw [hSort, List.filter_eq_nil_iff, List.nodup_iff_count_le_one]
  constructor
  · intro h name
    by_cases hMem : name ∈ names
    · simpa using h name hMem
    · simp [List.count_eq_zero_of_not_mem hMem]
  · intro h name _
    simpa using h name

/-- The validator of the field `dimensions`. -/
def rejectDuplicateDimensionNames (dimensions : List DimensionSpec) :
    Except (List Piece) (List DimensionSpec) :=
  let names := dimensions.map (·.name)
  let duplicates := duplicateNames names
  if duplicates ≠ [] then
    .error [.text "Duplicate dimension names are not allowed: ", .strs duplicates]
  else
    .ok dimensions

theorem rejectDuplicateDimensionNames_eq_ok {dimensions kept : List DimensionSpec} :
    rejectDuplicateDimensionNames dimensions = .ok kept ↔
      (dimensions.map (·.name)).Nodup ∧ dimensions = kept := by
  rw [← duplicateNames_eq_nil_iff]
  unfold rejectDuplicateDimensionNames
  by_cases h : duplicateNames (dimensions.map (·.name)) = [] <;> simp [h]

/-- A manifest that all validators have accepted. -/
structure DomainSchema where
  domain : String
  subject : String
  dimensions : List DimensionSpec
  knowledgeBase : KnowledgeBaseWiring
  engagements : List String
  dimensions_le : dimensions.length ≤ 10
  accepted : rejectDuplicateDimensionNames dimensions = .ok dimensions
  deriving DecidableEq, Repr

/-- The field `dimensions` once its elements are specs: the length limit, and
then the validator. -/
def checkDimensions (dimensions : List DimensionSpec) :
    Checked {dimensions : List DimensionSpec // dimensions.length ≤ 10 ∧
      rejectDuplicateDimensionNames dimensions = .ok dimensions} :=
  maxLength 10 dimensions >>= fun bounded =>
    match hAccepted : rejectDuplicateDimensionNames bounded.val with
    | .error message => reject (.valueError message)
    | .ok _ => .ok ⟨bounded.val, bounded.property, by
        rw [hAccepted, (rejectDuplicateDimensionNames_eq_ok.mp hAccepted).2]⟩

theorem checkDimensions_eq_ok {dimensions : List DimensionSpec}
    {result : {dimensions : List DimensionSpec // dimensions.length ≤ 10 ∧
      rejectDuplicateDimensionNames dimensions = .ok dimensions}} :
    checkDimensions dimensions = .ok result ↔ dimensions = result.val := by
  obtain ⟨result, hLength, hAccepted⟩ := result
  simp only [checkDimensions, bind_eq_ok, maxLength_eq_ok]
  constructor
  · intro h
    obtain ⟨bounded, rfl, h⟩ := h
    split at h
    · cases h
    · exact congrArg Subtype.val (Except.ok.inj h)
  · rintro rfl
    refine ⟨⟨dimensions, hLength⟩, rfl, ?_⟩
    split
    · rename_i hRejected
      rw [hAccepted] at hRejected
      cases hRejected
    · rfl

/-- A `DomainSchema` from the outcomes of its fields, all of them checked. -/
def DomainSchema.assemble (domain subject : Checked String)
    (dimensions : Checked (List DimensionSpec)) (knowledgeBase : Checked KnowledgeBaseWiring)
    (engagements : Checked (List String)) : Checked DomainSchema :=
  let dimensions := dimensions >>= fun specs => at_ (.field "dimensions") (checkDimensions specs)
  (both domain (both subject (both dimensions (both knowledgeBase engagements)))).map
    fun (domain, subject, dimensions, knowledgeBase, engagements) =>
      ⟨domain, subject, dimensions.val, knowledgeBase, engagements,
        dimensions.property.1, dimensions.property.2⟩

/-- `DomainSchema.model_validate(tree)`: the tree against the declarations of
the three models, and nothing else. -/
def DomainSchema.modelValidate : YamlTree → Checked DomainSchema :=
  modelField fun given =>
    assemble
      (required "domain" strField (given "domain"))
      (required "subject" strField (given "subject"))
      ((required "dimensions" (boundedListField 10 (modelField DimensionSpec.validate))
        (given "dimensions")).map Subtype.val)
      (required "knowledge_base" (modelField KnowledgeBaseWiring.validate) (given "knowledge_base"))
      (required "engagements" (listField strField) (given "engagements"))

namespace DomainSchema

def dimensionNames (schema : DomainSchema) : List String := schema.dimensions.map (·.name)

/-- The first dimension of the given name. -/
def dimension (schema : DomainSchema) (name : String) : Option DimensionSpec :=
  schema.dimensions.find? fun dimension => dimension.name = name

/-- What the validator of `dimensions` established. -/
theorem nodup_dimensionNames (schema : DomainSchema) : schema.dimensionNames.Nodup :=
  (rejectDuplicateDimensionNames_eq_ok.mp schema.accepted).1

end DomainSchema

/-- Raises for an entry whose dimension the schema does not declare. -/
def validateMemoryEntry {Obj : Type} (entry : Models.MemoryEntry Obj) (schema : DomainSchema) :
    Except Exn Unit :=
  if entry.dimension ∉ schema.dimensionNames then
    .error (.valueError [.text "Unknown dimension ", .repr entry.dimension,
      .text " for domain ", .repr schema.domain,
      .text "; valid dimensions: ", .strs schema.dimensionNames])
  else
    .ok ()

theorem validateMemoryEntry_eq_ok {Obj : Type} {entry : Models.MemoryEntry Obj}
    {schema : DomainSchema} :
    validateMemoryEntry entry schema = .ok () ↔ entry.dimension ∈ schema.dimensionNames := by
  unfold validateMemoryEntry
  by_cases h : entry.dimension ∈ schema.dimensionNames <;> simp [h]

end CapillaryActions.Schema
