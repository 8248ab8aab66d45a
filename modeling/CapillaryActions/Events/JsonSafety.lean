import CapillaryActions.Events.ToDict

/-! Whether serialised events can be encoded as JSON. All entries are JSON trees
if the contents of the event are, except for one: every class inherits the
entry `timestamp`, which is the datetime itself. -/
namespace CapillaryActions

open Python

variable {Obj : Type}

/-- A tree of null, booleans, numbers, texts, lists and string-keyed mappings,
without any other object. -/
inductive IsJson : AnyValue Obj → Prop where
  | null : IsJson .null
  | bool (b : Bool) : IsJson (.bool b)
  | int (n : Int) : IsJson (.int n)
  | float (bits : UInt64) : IsJson (.float bits)
  | str (s : String) : IsJson (.str s)
  | list {elements : List (AnyValue Obj)} (h : ∀ element ∈ elements, IsJson element) :
      IsJson (.list elements)
  | dict {entries : List (String × AnyValue Obj)} (h : ∀ entry ∈ entries, IsJson entry.2) :
      IsJson (.dict entries)

theorem not_isJson_object (o : Obj) : ¬IsJson (.object o) := by
  intro h
  cases h

/-- A dictionary whose values are all JSON trees. -/
def JsonSafe (d : Dict String (AnyValue Obj)) : Prop :=
  ∀ key v, d.lookup key = some v → IsJson v

/-- The contents of the fields that are annotated `Any`. -/
def EventClass.JsonContents : EventClass Obj → Prop
  | stateSnapshot state => IsJson (dictValue state)
  | stateDelta delta => IsJson (deltaValue delta)
  | event | runStarted | runFinished | runError _ _ | textMessageStart _ _ | textMessageContent _ _
  | textMessageEnd _ | toolCallStart _ _ | toolCallArgs _ _ | toolCallEnd _
  | toolCallResult _ _ => True

theorem isJson_optionalStr (s : Option String) : IsJson (optionalStr s : AnyValue Obj) := by
  cases s with
  | none => exact .null
  | some s => exact .str s

/-- What a subclass adds is a JSON tree if its contents are. -/
theorem EventClass.isJson_ownItems {body : EventClass Obj} (h : body.JsonContents) :
    ∀ item ∈ body.ownItems, IsJson item.2 := by
  cases body with
  | event | runStarted | runFinished => simp [ownItems]
  | runError error code => simp [ownItems, IsJson.str, isJson_optionalStr]
  | stateSnapshot state => simpa [ownItems, JsonContents] using h
  | stateDelta delta => simpa [ownItems, JsonContents] using h
  | textMessageStart _ _ | textMessageContent _ _ | textMessageEnd _ | toolCallStart _ _
  | toolCallArgs _ _ | toolCallEnd _ | toolCallResult _ _ => simp [ownItems, IsJson.str]

/-- Of the entries of the base class, the timestamp alone is no JSON tree. -/
theorem AGUIEvent.isJson_baseItems [DatetimeObject Obj] (event : AGUIEvent Obj) :
    ∀ item ∈ event.baseItems, IsJson item.2 ↔ item.1 ≠ "timestamp" := by
  simp [baseItems, IsJson.str, not_isJson_object]

/-- Every entry of the dictionary was listed. -/
theorem AGUIEvent.mem_of_lookup_toDict [DatetimeObject Obj] {event : AGUIEvent Obj} {key : String}
    {v : AnyValue Obj} (h : event.toDict.lookup key = some v) :
    (key, v) ∈ event.baseItems ++ event.body.ownItems := by
  have hListed : key ∈ (event.baseItems ++ event.body.ownItems).map Prod.fst := by
    by_contra hNew
    rw [List.map_append, List.mem_append, not_or] at hNew
    rw [toDict, event.fresh_ownItems.lookup_merge_of_notMem hNew.2,
      event.fresh_baseItems.lookup_merge_of_notMem hNew.1, AList.lookup_empty] at h
    cases h
  obtain ⟨item, hMem, rfl⟩ := List.mem_map.mp hListed
  rw [event.lookup_toDict hMem] at h
  rwa [← Option.some.inj h]

/-- No serialised event is JSON-safe, whatever its class and contents. If the
contents are JSON trees, so is every entry but the timestamp. -/
theorem toDict_not_jsonSafe [DatetimeObject Obj] (event : AGUIEvent Obj)
    (hContents : event.body.JsonContents) :
    ¬JsonSafe event.toDict ∧
    ∀ key v, event.toDict.lookup key = some v → (IsJson v ↔ key ≠ "timestamp") := by
  have hEntries : ∀ key v, event.toDict.lookup key = some v → (IsJson v ↔ key ≠ "timestamp") := by
    intro key v hLookup
    rcases List.mem_append.mp (AGUIEvent.mem_of_lookup_toDict hLookup) with hBase | hOwn
    · exact event.isJson_baseItems _ hBase
    · have hKey : key ∈ ownKeys event.body.ownType := by
        rw [← EventClass.ownItems_keys]
        exact List.mem_map_of_mem (f := Prod.fst) hOwn
      refine iff_of_true (EventClass.isJson_ownItems hContents _ hOwn) ?_
      rintro rfl
      exact (ownKeys_disjoint _).2 _ hKey (by decide)
  refine ⟨?_, hEntries⟩
  intro hSafe
  have hListed : ("timestamp", .object (DatetimeObject.ofDatetime event.timestamp)) ∈
      event.baseItems ++ event.body.ownItems := by
    simp [AGUIEvent.baseItems]
  have hTimestamp := event.lookup_toDict hListed
  exact (hEntries _ _ hTimestamp).mp (hSafe _ _ hTimestamp) rfl

/-- A state of numbers and texts. -/
theorem toDict_not_jsonSafe_snapshot :
    let state : Dict String (AnyValue Datetime) :=
      (AList.singleton "score" (.int 3)).insert "phase" (.str "draft")
    let event : AGUIEvent Datetime :=
      ⟨.stateSnapshot, "thread-1", "run-1", ⟨0, some 0⟩, "event-1", .stateSnapshot state⟩
    ¬JsonSafe event.toDict := by
  intro state event
  have hContents : event.body.JsonContents := by
    have hItems : state.items = [("phase", .str "draft"), ("score", .int 3)] := rfl
    refine .dict ?_
    rw [hItems]
    simp [IsJson.str, IsJson.int]
  exact (toDict_not_jsonSafe event hContents).1

/-- The start of a run, which has no contents at all. -/
theorem runStarted_not_jsonSafe :
    let event : AGUIEvent Datetime :=
      ⟨.runStarted, "thread-1", "run-1", ⟨0, some 0⟩, "event-1", .runStarted⟩
    event.WellTagged ∧ event.body.JsonContents ∧
      event.toDict.lookup "timestamp" = some (.object ⟨0, some 0⟩) ∧ ¬JsonSafe event.toDict := by
  intro event
  have hTimestamp : event.toDict.lookup "timestamp" = some (.object ⟨0, some 0⟩) := rfl
  exact ⟨rfl, trivial, hTimestamp, fun hSafe => not_isJson_object _ (hSafe _ _ hTimestamp)⟩

end CapillaryActions
