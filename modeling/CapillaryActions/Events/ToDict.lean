import CapillaryActions.Events
import CapillaryActions.Python.Equality

/-! Serialisation of events. Every class merges its own entries into those of
the base class. The keys are distinct, the tag tells the class, and so the
dictionary tells every field of the event. -/
namespace CapillaryActions

open Python

/-- The value of each member. -/
def AGUIEventType.value : AGUIEventType → String
  | runStarted => "RUN_STARTED"
  | runFinished => "RUN_FINISHED"
  | runError => "RUN_ERROR"
  | textMessageStart => "TEXT_MESSAGE_START"
  | textMessageContent => "TEXT_MESSAGE_CONTENT"
  | textMessageEnd => "TEXT_MESSAGE_END"
  | stateSnapshot => "STATE_SNAPSHOT"
  | stateDelta => "STATE_DELTA"
  | toolCallStart => "TOOL_CALL_START"
  | toolCallArgs => "TOOL_CALL_ARGS"
  | toolCallEnd => "TOOL_CALL_END"
  | toolCallResult => "TOOL_CALL_RESULT"

theorem AGUIEventType.value_injective : Function.Injective AGUIEventType.value := by
  intro first second h
  cases first <;> cases second <;> first | rfl | exact absurd h (by decide)

section

variable {Obj : Type}

/-- A field annotated `str | None`. -/
def optionalStr : Option String → AnyValue Obj
  | some s => .str s
  | none => .null

/-- A dictionary as an item of another. -/
def dictValue (d : Dict String (AnyValue Obj)) : AnyValue Obj := .dict d.items

def deltaValue (delta : List (Dict String (AnyValue Obj))) : AnyValue Obj :=
  .list (delta.map dictValue)

/-- What `AGUIEvent.to_dict` lists. -/
def AGUIEvent.baseItems [DatetimeObject Obj] (event : AGUIEvent Obj) :
    List (String × AnyValue Obj) := [
  ("type", .str event.eventType.value),
  ("thread_id", .str event.threadId),
  ("run_id", .str event.runId),
  ("timestamp", .object (DatetimeObject.ofDatetime event.timestamp)),
  ("event_id", .str event.eventId)]

/-- What the `to_dict` of each class merges into the dictionary of the base
class. The first three classes inherit it as it is. -/
def EventClass.ownItems : EventClass Obj → List (String × AnyValue Obj)
  | event => []
  | runStarted => []
  | runFinished => []
  | runError error code => [("error", .str error), ("code", optionalStr code)]
  | textMessageStart messageId role => [("message_id", .str messageId), ("role", .str role)]
  | textMessageContent messageId content =>
      [("message_id", .str messageId), ("content", .str content)]
  | textMessageEnd messageId => [("message_id", .str messageId)]
  | stateSnapshot state => [("state", dictValue state)]
  | stateDelta delta => [("delta", deltaValue delta)]
  | toolCallStart toolCallId toolName =>
      [("tool_call_id", .str toolCallId), ("tool_name", .str toolName)]
  | toolCallArgs toolCallId argsChunk =>
      [("tool_call_id", .str toolCallId), ("args_chunk", .str argsChunk)]
  | toolCallEnd toolCallId => [("tool_call_id", .str toolCallId)]
  | toolCallResult toolCallId result =>
      [("tool_call_id", .str toolCallId), ("result", .str result)]

def AGUIEvent.toDict [DatetimeObject Obj] (event : AGUIEvent Obj) : Dict String (AnyValue Obj) :=
  (Dict.merge ∅ event.baseItems).merge event.body.ownItems

/-- The keys of a class. -/
def ownKeys : Option AGUIEventType → List String
  | none => []
  | some .runStarted => []
  | some .runFinished => []
  | some .runError => ["error", "code"]
  | some .textMessageStart => ["message_id", "role"]
  | some .textMessageContent => ["message_id", "content"]
  | some .textMessageEnd => ["message_id"]
  | some .stateSnapshot => ["state"]
  | some .stateDelta => ["delta"]
  | some .toolCallStart => ["tool_call_id", "tool_name"]
  | some .toolCallArgs => ["tool_call_id", "args_chunk"]
  | some .toolCallEnd => ["tool_call_id"]
  | some .toolCallResult => ["tool_call_id", "result"]

def baseKeys : List String := ["type", "thread_id", "run_id", "timestamp", "event_id"]

theorem EventClass.ownItems_keys (body : EventClass Obj) :
    body.ownItems.map Prod.fst = ownKeys body.ownType := by
  cases body <;> rfl

/-- No class lists a key twice, or one of the base class. -/
theorem ownKeys_disjoint (ownType : Option AGUIEventType) :
    (ownKeys ownType).Nodup ∧ ∀ key ∈ ownKeys ownType, key ∉ baseKeys := by
  cases ownType with
  | none => decide
  | some eventType => cases eventType <;> decide

/-- Two events of one class with equal fields. Texts are equal as they are, a
`state` key by key, and a `delta` element by element. -/
inductive EventClass.Agrees [DatetimeObject Obj] (eq : ItemEq Obj) :
    EventClass Obj → EventClass Obj → Prop where
  | event : Agrees eq .event .event
  | runStarted : Agrees eq .runStarted .runStarted
  | runFinished : Agrees eq .runFinished .runFinished
  | runError (error : String) (code : Option String) :
      Agrees eq (.runError error code) (.runError error code)
  | textMessageStart (messageId role : String) :
      Agrees eq (.textMessageStart messageId role) (.textMessageStart messageId role)
  | textMessageContent (messageId content : String) :
      Agrees eq (.textMessageContent messageId content) (.textMessageContent messageId content)
  | textMessageEnd (messageId : String) :
      Agrees eq (.textMessageEnd messageId) (.textMessageEnd messageId)
  | stateSnapshot {state state' : Dict String (AnyValue Obj)}
      (h : Dict.Same eq.same state state') :
      Agrees eq (.stateSnapshot state) (.stateSnapshot state')
  | stateDelta {delta delta' : List (Dict String (AnyValue Obj))}
      (h : List.Forall₂ (Dict.Same eq.same) delta delta') :
      Agrees eq (.stateDelta delta) (.stateDelta delta')
  | toolCallStart (toolCallId toolName : String) :
      Agrees eq (.toolCallStart toolCallId toolName) (.toolCallStart toolCallId toolName)
  | toolCallArgs (toolCallId argsChunk : String) :
      Agrees eq (.toolCallArgs toolCallId argsChunk) (.toolCallArgs toolCallId argsChunk)
  | toolCallEnd (toolCallId : String) : Agrees eq (.toolCallEnd toolCallId) (.toolCallEnd toolCallId)
  | toolCallResult (toolCallId result : String) :
      Agrees eq (.toolCallResult toolCallId result) (.toolCallResult toolCallId result)

/-- Agreement on the class and on every field, the inherited ones included. -/
structure AGUIEvent.Agrees [DatetimeObject Obj] (eq : ItemEq Obj) (event other : AGUIEvent Obj) :
    Prop where
  eventType : event.eventType = other.eventType
  threadId : event.threadId = other.threadId
  runId : event.runId = other.runId
  timestamp : event.timestamp.Same other.timestamp
  eventId : event.eventId = other.eventId
  body : event.body.Agrees eq other.body

section

variable [DatetimeObject Obj]

/-- Two lists of items, compared one by one. -/
def SameItems (eq : ItemEq Obj) (items items' : List (String × AnyValue Obj)) : Prop :=
  List.Forall₂ (fun item item' => eq.same item.2 item'.2) items items'

theorem Python.ItemEq.optionalStr_iff (eq : ItemEq Obj) (s s' : Option String) :
    eq.same (optionalStr s) (optionalStr s') ↔ s = s' := by
  cases s <;> cases s' <;> simp [optionalStr, eq.null_null, eq.str_str, eq.null_str, eq.str_null]

theorem Python.ItemEq.dictValue_iff (eq : ItemEq Obj) (d d' : Dict String (AnyValue Obj)) :
    eq.same (dictValue d) (dictValue d') ↔ Dict.Same eq.same d d' := eq.dict_items_iff d d'

theorem Python.ItemEq.deltaValue_iff (eq : ItemEq Obj) (delta delta' : List (Dict String (AnyValue Obj))) :
    eq.same (deltaValue delta) (deltaValue delta') ↔
      List.Forall₂ (Dict.Same eq.same) delta delta' := by
  simp only [deltaValue, eq.list_list, List.forall₂_map_left_iff, List.forall₂_map_right_iff,
    eq.dictValue_iff]

/-- Bodies agree if they are of one class and list equal items. -/
theorem EventClass.agrees_iff (eq : ItemEq Obj) (body other : EventClass Obj) :
    body.Agrees eq other ↔
      body.ownType = other.ownType ∧ SameItems eq body.ownItems other.ownItems := by
  constructor
  · intro h
    cases h <;>
      simp_all [SameItems, ownItems, ownType, eq.str_str, eq.optionalStr_iff, eq.dictValue_iff,
        eq.deltaValue_iff]
  · intro h
    obtain ⟨hType, hItems⟩ := h
    cases body with
    | event | runStarted | runFinished =>
        cases other <;> cases hType
        constructor
    | runError error code =>
        cases other <;> cases hType
        simp only [SameItems, ownItems, List.forall₂_cons, eq.str_str, eq.optionalStr_iff] at hItems
        obtain ⟨rfl, rfl, _⟩ := hItems
        exact .runError error code
    | textMessageStart _ _ | textMessageContent _ _ | toolCallStart _ _ | toolCallArgs _ _
    | toolCallResult _ _ =>
        -- Two texts each.
        cases other <;> cases hType
        simp only [SameItems, ownItems, List.forall₂_cons, eq.str_str] at hItems
        obtain ⟨rfl, rfl, _⟩ := hItems
        constructor
    | textMessageEnd _ | toolCallEnd _ =>
        cases other <;> cases hType
        simp only [SameItems, ownItems, List.forall₂_cons, eq.str_str] at hItems
        obtain ⟨rfl, _⟩ := hItems
        constructor
    | stateSnapshot state =>
        cases other <;> cases hType
        exact .stateSnapshot ((eq.dictValue_iff _ _).mp (List.forall₂_cons.mp hItems).1)
    | stateDelta delta =>
        cases other <;> cases hType
        exact .stateDelta ((eq.deltaValue_iff _ _).mp (List.forall₂_cons.mp hItems).1)

theorem AGUIEvent.baseItems_same_iff (eq : ItemEq Obj) (event other : AGUIEvent Obj) :
    SameItems eq event.baseItems other.baseItems ↔
      event.eventType = other.eventType ∧ event.threadId = other.threadId ∧
      event.runId = other.runId ∧
      event.timestamp.Same other.timestamp ∧ event.eventId = other.eventId := by
  simp only [SameItems, baseItems, List.forall₂_cons, eq.str_str, eq.datetime_datetime,
    List.forall₂_nil_left_iff, and_true, AGUIEventType.value_injective.eq_iff]

end

namespace AGUIEvent

variable [DatetimeObject Obj] (event other : AGUIEvent Obj)

theorem fresh_baseItems : Dict.Fresh ∅ event.baseItems where
  distinct := by
    change baseKeys.Nodup
    decide
  notMem _ _ := AList.notMem_empty _

/-- The base class lists these keys and no others. -/
theorem mem_merge_baseItems (key : String) :
    key ∈ Dict.merge ∅ event.baseItems ↔ key ∈ baseKeys := by
  rw [← AList.lookup_isSome]
  by_cases h : key ∈ event.baseItems.map Prod.fst
  · obtain ⟨item, hMem, rfl⟩ := List.mem_map.mp h
    rw [event.fresh_baseItems.lookup_merge hMem]
    exact iff_of_true rfl h
  · rw [event.fresh_baseItems.lookup_merge_of_notMem h, AList.lookup_empty]
    exact iff_of_false Bool.false_ne_true h

/-- No subclass overwrites an entry of the base class. -/
theorem fresh_ownItems : Dict.Fresh (Dict.merge ∅ event.baseItems) event.body.ownItems where
  distinct := by
    rw [EventClass.ownItems_keys]
    exact (ownKeys_disjoint _).1
  notMem item hMem hBase := by
    have hKey : item.1 ∈ ownKeys event.body.ownType := by
      rw [← EventClass.ownItems_keys]
      exact List.mem_map_of_mem hMem
    exact (ownKeys_disjoint _).2 _ hKey ((event.mem_merge_baseItems _).mp hBase)

/-- Everything that is listed is found under its key. -/
theorem lookup_toDict {item : String × AnyValue Obj}
    (hMem : item ∈ event.baseItems ++ event.body.ownItems) :
    event.toDict.lookup item.1 = some item.2 := by
  rcases List.mem_append.mp hMem with hBase | hOwn
  · have hKey : item.1 ∉ event.body.ownItems.map Prod.fst := by
      rw [EventClass.ownItems_keys]
      intro hOwn
      exact (ownKeys_disjoint _).2 _ hOwn (List.mem_map_of_mem (f := Prod.fst) hBase)
    rw [toDict, event.fresh_ownItems.lookup_merge_of_notMem hKey,
      event.fresh_baseItems.lookup_merge hBase]
  · exact event.fresh_ownItems.lookup_merge hOwn

theorem lookup_toDict_type : event.toDict.lookup "type" = some (.str event.eventType.value) :=
  event.lookup_toDict (List.mem_append_left _ (List.mem_cons_self ..))

/-- For one class, dictionaries are compared item by item. -/
theorem toDict_same_iff (eq : ItemEq Obj) (hClass : event.body.ownType = other.body.ownType) :
    Dict.Same eq.same event.toDict other.toDict ↔
      SameItems eq event.baseItems other.baseItems ∧
      SameItems eq event.body.ownItems other.body.ownItems := by
  have hKeys : event.body.ownItems.map Prod.fst = other.body.ownItems.map Prod.fst := by
    rw [EventClass.ownItems_keys, EventClass.ownItems_keys, hClass]
  have hEmpty : Dict.Same eq.same (∅ : Dict String (AnyValue Obj)) ∅ := by
    intro key
    rw [AList.lookup_empty]
    exact .none
  rw [toDict, toDict, Dict.same_merge_iff event.fresh_ownItems other.fresh_ownItems hKeys,
    Dict.same_merge_iff event.fresh_baseItems other.fresh_baseItems rfl]
  simp only [SameItems, hEmpty, true_and]

end AGUIEvent

/-- Serialisation loses nothing. For events of the twelve subclasses that carry
their own tags, the dictionaries are equal exactly if the events are of one
class and agree on every field. The tag alone tells the class, and every entry
that the base class or the subclass lists is in the dictionary. -/
theorem toDict_loses_nothing [DatetimeObject Obj] (eq : ItemEq Obj) (event other : AGUIEvent Obj)
    (hEvent : event.WellTagged) (hOther : other.WellTagged) :
    (Dict.Same eq.same event.toDict other.toDict ↔ event.Agrees eq other) ∧
    (event.toDict.lookup "type" = other.toDict.lookup "type" →
      event.body.ownType = other.body.ownType) ∧
    ∀ item ∈ event.baseItems ++ event.body.ownItems, event.toDict.lookup item.1 = some item.2 := by
  have hClass : event.eventType = other.eventType → event.body.ownType = other.body.ownType := by
    intro hType
    rw [show event.body.ownType = some event.eventType from hEvent, hType]
    exact hOther.symm
  refine ⟨?_, ?_, fun item => event.lookup_toDict⟩
  · constructor
    · intro hSame
      have hType := hSame "type"
      rw [event.lookup_toDict_type, other.lookup_toDict_type] at hType
      cases hType with
      | some hValue =>
          have hOwn := hClass (AGUIEventType.value_injective ((eq.str_str _ _).mp hValue))
          obtain ⟨hBase, hItems⟩ := (event.toDict_same_iff other eq hOwn).mp hSame
          obtain ⟨hTag, hThread, hRun, hTime, hId⟩ := (event.baseItems_same_iff eq other).mp hBase
          exact ⟨hTag, hThread, hRun, hTime, hId, (EventClass.agrees_iff eq _ _).mpr ⟨hOwn, hItems⟩⟩
    · intro h
      obtain ⟨hOwn, hItems⟩ := (EventClass.agrees_iff eq _ _).mp h.body
      have hBase := (event.baseItems_same_iff eq other).mpr
        ⟨h.eventType, h.threadId, h.runId, h.timestamp, h.eventId⟩
      exact (event.toDict_same_iff other eq hOwn).mpr ⟨hBase, hItems⟩
  · intro hLookup
    rw [event.lookup_toDict_type, other.lookup_toDict_type] at hLookup
    have hValue : event.eventType.value = other.eventType.value := by simpa using hLookup
    exact hClass (AGUIEventType.value_injective hValue)

/-- An absent error code is told from one that is there. -/
theorem toDict_loses_nothing_code :
    let event : AGUIEvent Datetime :=
      ⟨.runError, "thread-1", "run-1", ⟨0, some 0⟩, "event-1", .runError "oops" none⟩
    let other : AGUIEvent Datetime := { event with body := .runError "oops" (some "E001") }
    ¬Dict.Same ItemEq.alike.same event.toDict other.toDict := by
  intro event other hSame
  have hAgrees := (toDict_loses_nothing .alike event other rfl rfl).1.mp hSame
  cases hAgrees.body

end

end CapillaryActions
