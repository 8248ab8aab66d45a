import CapillaryActions.Schema.Manifest
import CapillaryActions.Semantics.Index

/-! Dimension names as keys. The validator of `dimensions` counts names, the
lookup stops at the first match, and the check of memory entries asks for
membership; on what the validator accepts, all three mean the same thing, and
none of them depends on the order of the dimensions. -/
namespace CapillaryActions.Schema

open Python Python.Pydantic Models Semantics Semantics.Validation

/-- The reported names are in strict order. -/
theorem sortedLT_duplicateNames (names : List String) : (duplicateNames names).SortedLT := by
  rw [List.sortedLT_iff_nodup_and_sortedLE]
  exact ⟨List.nodup_mergeSort.mpr (List.nodup_dedup _), List.sortedLE_mergeSort⟩

/-- A name is reported once if it occurs at least twice, and otherwise not. -/
theorem count_duplicateNames (names : List String) (name : String) :
    (duplicateNames names).count name = if 2 ≤ names.count name then 1 else 0 := by
  have hTwice : name ∈ names.filter (fun name => names.count name > 1) ↔ 2 ≤ names.count name := by
    rw [List.mem_filter, ← List.count_pos_iff]
    constructor
    · intro h
      exact of_decide_eq_true h.2
    · intro h
      exact ⟨by omega, decide_eq_true h⟩
  rw [duplicateNames, (List.mergeSort_perm _ _).count_eq, List.count_dedup]
  exact if_congr hTwice rfl rfl

/-- What the validator raises for a list that it does not accept. -/
theorem rejectDuplicateDimensionNames_eq_error {dimensions : List DimensionSpec}
    {message : List Piece} :
    rejectDuplicateDimensionNames dimensions = .error message ↔
      ¬(dimensions.map (·.name)).Nodup ∧
      message = [.text "Duplicate dimension names are not allowed: ",
        .strs (duplicateNames (dimensions.map (·.name)))] := by
  rw [← duplicateNames_eq_nil_iff]
  unfold rejectDuplicateDimensionNames
  by_cases h : duplicateNames (dimensions.map (·.name)) = []
  · simp [h]
  · simp [h, eq_comm]

namespace DomainSchema

variable (schema : DomainSchema)

/-- A dimension is found by its own name and by no other. -/
theorem dimension_eq_some_iff (name : String) (spec : DimensionSpec) :
    schema.dimension name = some spec ↔ spec ∈ schema.dimensions ∧ spec.name = name :=
  Index.find?_eq_some_iff DimensionSpec.name schema.nodup_dimensionNames name spec

theorem dimension_isSome_iff (name : String) :
    (schema.dimension name).isSome ↔ name ∈ schema.dimensionNames :=
  Index.find?_isSome_iff DimensionSpec.name schema.dimensions name

end DomainSchema

/-- A name is declared exactly if every entry of that dimension passes. -/
theorem mem_dimensionNames_iff_validates (Obj : Type) (schema : DomainSchema) (name : String) :
    name ∈ schema.dimensionNames ↔ ∀ entry : MemoryEntry Obj, entry.dimension = name →
      validateMemoryEntry entry schema = .ok () := by
  constructor
  · intro hMem entry hDimension
    rw [validateMemoryEntry_eq_ok, hDimension]
    exact hMem
  · intro h
    have hEntry := h ⟨⟨0⟩, "episodic", name, ∅, 0, ⟨0, none⟩, none, ∅⟩ rfl
    exact validateMemoryEntry_eq_ok.mp hEntry

/-- Dimension names are keys. The validator accepts a list of dimensions
exactly if their names are distinct, and reports the repeated ones otherwise.
In a schema, every dimension is the one found by its name, the names that are
found are those that entries may have, and the order of the dimensions has no
part in either. -/
theorem dimension_names_are_keys (Obj : Type) :
    (∀ dimensions : List DimensionSpec,
      let names := dimensions.map (·.name)
      (rejectDuplicateDimensionNames dimensions = .ok dimensions ↔ names.Nodup) ∧
      ∀ message, rejectDuplicateDimensionNames dimensions = .error message →
        ∃ duplicates : List String,
          message = [.text "Duplicate dimension names are not allowed: ", .strs duplicates] ∧
          duplicates.SortedLT ∧
          ∀ name, duplicates.count name = if 2 ≤ names.count name then 1 else 0) ∧
    ∀ schema : DomainSchema,
      (∀ (i : Nat) (spec : DimensionSpec), schema.dimensions[i]? = some spec →
        schema.dimension spec.name = some spec ∧
        (schema.dimensions.findIdx? fun other => other.name = spec.name) = some i) ∧
      (∀ name, (schema.dimension name ≠ none ↔ name ∈ schema.dimensionNames) ∧
        (name ∈ schema.dimensionNames ↔ ∀ entry : MemoryEntry Obj, entry.dimension = name →
          validateMemoryEntry entry schema = .ok ())) ∧
      ∀ dimensions : List DimensionSpec, dimensions.Perm schema.dimensions →
        ∃ permuted : DomainSchema,
          DomainSchema.assemble (.ok schema.domain) (.ok schema.subject) (.ok dimensions)
            (.ok schema.knowledgeBase) (.ok schema.engagements) = .ok permuted ∧
          permuted.dimensions = dimensions ∧
          (∀ name, permuted.dimension name = schema.dimension name) ∧
          ∀ entry : MemoryEntry Obj, validateMemoryEntry entry permuted = .ok () ↔
            validateMemoryEntry entry schema = .ok () := by
  refine ⟨?_, ?_⟩
  · intro dimensions names
    refine ⟨by simp [rejectDuplicateDimensionNames_eq_ok, names], ?_⟩
    intro message hRejected
    obtain ⟨_, hMessage⟩ := rejectDuplicateDimensionNames_eq_error.mp hRejected
    exact ⟨duplicateNames names, hMessage, sortedLT_duplicateNames names,
      count_duplicateNames names⟩
  · intro schema
    have hDistinct : (schema.dimensions.map (·.name)).Nodup := schema.nodup_dimensionNames
    refine ⟨?_, ?_, ?_⟩
    · intro i spec hAt
      have hFound := (schema.dimension_eq_some_iff spec.name spec).mpr
        ⟨List.mem_of_getElem? hAt, rfl⟩
      exact ⟨hFound, Index.findIdx?_eq_some DimensionSpec.name hDistinct hAt⟩
    · intro name
      refine ⟨?_, mem_dimensionNames_iff_validates Obj schema name⟩
      rw [← schema.dimension_isSome_iff name, Option.isSome_iff_ne_none]
    · intro dimensions hPerm
      have hDistinct' : (dimensions.map (·.name)).Nodup := (hPerm.map _).nodup_iff.mpr hDistinct
      have hLength : dimensions.length ≤ 10 := hPerm.length_eq.trans_le schema.dimensions_le
      let permuted : DomainSchema := ⟨schema.domain, schema.subject, dimensions,
        schema.knowledgeBase, schema.engagements, hLength,
        rejectDuplicateDimensionNames_eq_ok.mpr ⟨hDistinct', rfl⟩⟩
      refine ⟨permuted, DomainSchema.assemble_eq_ok.mpr ⟨rfl, rfl, rfl, rfl, rfl⟩, rfl, ?_, ?_⟩
      · intro name
        exact Index.find?_perm DimensionSpec.name hDistinct hPerm name
      · intro entry
        rw [validateMemoryEntry_eq_ok, validateMemoryEntry_eq_ok]
        exact (hPerm.map DimensionSpec.name).mem_iff

/-- A repeated dimension, and two dimensions in either order. -/
theorem dimension_names_are_keys_two :
    let history : DimensionSpec := ⟨"history", ["courses"], "event-driven", "none", by decide⟩
    let affinities : DimensionSpec := ⟨"affinities", [], "event-driven", "none", by decide⟩
    let schema : DomainSchema := {
      domain := "education"
      subject := "learner"
      dimensions := [history, affinities]
      knowledgeBase := ⟨["primer-education-kb"], "corrective_rag"⟩
      engagements := []
      dimensions_le := by decide
      accepted := rejectDuplicateDimensionNames_eq_ok.mpr ⟨by decide, rfl⟩ }
    (∃ duplicates : List String, duplicates.count "history" = 1 ∧
      rejectDuplicateDimensionNames [history, affinities, history] =
        .error [.text "Duplicate dimension names are not allowed: ", .strs duplicates]) ∧
    ∃ permuted : DomainSchema, permuted.dimensions = [affinities, history] ∧
      permuted.dimension "history" = schema.dimension "history" := by
  intro history affinities schema
  obtain ⟨hValidator, hSchemas⟩ := dimension_names_are_keys Empty
  have hRejected : rejectDuplicateDimensionNames [history, affinities, history] =
      .error [.text "Duplicate dimension names are not allowed: ",
        .strs (duplicateNames ["history", "affinities", "history"])] :=
    rejectDuplicateDimensionNames_eq_error.mpr ⟨by decide, rfl⟩
  obtain ⟨duplicates, hMessage, _, hCount⟩ :=
    (hValidator [history, affinities, history]).2 _ hRejected
  obtain ⟨_, _, hPermuted⟩ := hSchemas schema
  obtain ⟨permuted, _, hDimensions, hLookup, _⟩ := hPermuted [affinities, history] (.swap ..)
  exact ⟨⟨duplicates, hCount "history", hMessage ▸ hRejected⟩, permuted, hDimensions,
    hLookup "history"⟩

end CapillaryActions.Schema
