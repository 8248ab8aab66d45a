import CapillaryActions.Reference.Slack.Calls
import CapillaryActions.Semantics.Delimited

/-! Reading a state off its section. A field shows a key and a value in one text,
and the key may have in it what stands between the two. The section tells the
state, up to the formatting of its values, just if no key with the stars and the
line end begins another one. -/
namespace CapillaryActions.Reference.Slack

open Python Models Semantics Semantics.Delimited Semantics.Validation

variable {Obj : Type}

/-- A snapshot of a state. -/
def snapshotCall (state : Dict String (AnyValue Obj)) (session : ChannelSession Obj) : Call Obj :=
  .sendEvent ⟨.stateSnapshot, "", "", ⟨0, none⟩, "", .stateSnapshot state⟩ session

/-- What stands between the key and the value of a field. -/
def fieldMark : List Char := "*\n".toList

/-- The keys in their order, with the texts of their values. -/
def formatted (runtime : Runtime Obj) (items : List (String × AnyValue Obj)) :
    List (String × Except Exn String) :=
  items.map fun item => (item.1, runtime.formatValue item.2)

/-- The field of an item. -/
def Shows (runtime : Runtime Obj) (item : String × AnyValue Obj) (field : TextObject) : Prop :=
  ∃ value, runtime.formatValue item.2 = .ok value ∧
    field = ⟨"mrkdwn", "*" ++ item.1 ++ "*\n" ++ value⟩

theorem stateFields_eq_ok_iff {runtime : Runtime Obj} {state : Dict String (AnyValue Obj)}
    {fields : List TextObject} :
    SlackChannelAdapter.stateFields runtime state = .ok fields ↔
      List.Forall₂ (Shows runtime) state.items fields := by
  rw [SlackChannelAdapter.stateFields, mapM_eq_ok]
  have hField : ∀ item field,
      ((do
        let value ← runtime.formatValue item.2
        return ⟨"mrkdwn", "*" ++ item.1 ++ "*\n" ++ value⟩ : Except Exn TextObject) = .ok field) ↔
        Shows runtime item field := by
    intro item field
    rw [bind_eq_ok]
    simp [Shows, pure, Except.pure, eq_comm]
  simp only [hField]

theorem field_text_toList (key value : String) :
    ("*" ++ key ++ "*\n" ++ value).toList = '*' :: delimit fieldMark key.toList value.toList := by
  simp [delimit, fieldMark]

section

variable {runtime : Runtime Obj} {keys : Set String}

/-- The keys as texts. -/
def texts (keys : Set String) : Set (List Char) := String.toList '' keys

theorem mem_texts {key : String} : key.toList ∈ texts keys ↔ key ∈ keys := by
  simp [texts, String.toList_inj]

theorem formatted_eq (h : MarkFree fieldMark (texts keys))
    {items items' : List (String × AnyValue Obj)} {fields : List TextObject}
    (hKeys : ∀ item ∈ items, item.1 ∈ keys) (hKeys' : ∀ item ∈ items', item.1 ∈ keys)
    (hFields : List.Forall₂ (Shows runtime) items fields)
    (hFields' : List.Forall₂ (Shows runtime) items' fields) :
    formatted runtime items = formatted runtime items' := by
  induction hFields generalizing items' with
  | nil =>
      cases hFields'
      rfl
  | @cons item field items fields hShows _ ih =>
      cases hFields' with
      | @cons item' _ items' _ hShows' hRest' =>
          obtain ⟨hKey, hKeys⟩ := List.forall_mem_cons.mp hKeys
          obtain ⟨hKey', hKeys'⟩ := List.forall_mem_cons.mp hKeys'
          obtain ⟨value, hValue, rfl⟩ := hShows
          obtain ⟨value', hValue', hText⟩ := hShows'
          have hList := congrArg (fun field => field.text.toList) hText
          simp only [field_text_toList, List.cons.injEq, true_and] at hList
          obtain ⟨hName, hRead⟩ := (delimit_readable_iff _ _).mpr h _ (mem_texts.mpr hKey) _
            (mem_texts.mpr hKey') _ _ hList
          rw [String.toList_inj] at hName hRead
          have hRest := ih hKeys hKeys' hRest'
          rw [formatted, List.map_cons, hName, hValue, hRead, ← hValue']
          exact congrArg (List.cons _) hRest

/-- What a snapshot posts: its section, unless a value cannot be formatted. -/
theorem emitted_snapshotCall (runtime : Runtime Obj) (self : SlackChannelAdapter Obj)
    (session : ChannelSession Obj) (state : Dict String (AnyValue Obj)) (entry : OutboxEntry Obj) :
    (adapterMachine runtime).emitted self [snapshotCall state session] = [(some session.id, entry)] ↔
      ∃ fields, List.Forall₂ (Shows runtime) state.items fields ∧
        entry = .blocks (channelOf session) (threadTsOf session) [.sectionFields fields] := by
  rw [Transducer.emitted_cons, Transducer.emitted_nil, List.append_nil, adapterMachine_step_snd]
  simp only [← stateFields_eq_ok_iff]
  cases hFields : SlackChannelAdapter.stateFields runtime state with
  | ok fields =>
      simp [snapshotCall, sessionStep, EventClass.state?, hFields, Call.sessionId?, Call.session?, eq_comm]
  | error raised =>
      simp [snapshotCall, sessionStep, EventClass.state?, hFields]

end

/-- No key with the stars and the line end begins another one. -/
def KeysApart (keys : Set String) : Prop :=
  ∀ key ∈ keys, ∀ other ∈ keys, (key ++ "*\n").toList <+: (other ++ "*\n").toList → key = other

theorem keysApart_iff {keys : Set String} : KeysApart keys ↔ MarkFree fieldMark (texts keys) := by
  simp only [KeysApart, MarkFree, texts, Set.forall_mem_image, String.toList_append, fieldMark,
    String.toList_inj]

/-- Keys on one line are apart. -/
theorem keysApart_of_line {keys : Set String} (h : ∀ key ∈ keys, '\n' ∉ key.toList) :
    KeysApart keys := by
  rw [keysApart_iff]
  apply markFree_of_notMem '\n' (by decide)
  rintro _ ⟨key, hKey, rfl⟩
  exact h key hKey

/-- States can be read off what a snapshot posts. Two snapshots with keys from a
set that post the same entry have the same keys, in the same order, and values
that are formatted the same, if and only if no key of the set, with the stars and
the line end, begins another one. -/
theorem snapshot_readable_iff (runtime : Runtime Obj) (self : SlackChannelAdapter Obj)
    (session : ChannelSession Obj) (keys : Set String) :
    (∀ (state state' : Dict String (AnyValue Obj)) (entry : OutboxEntry Obj),
      (∀ item ∈ state.items, item.1 ∈ keys) → (∀ item ∈ state'.items, item.1 ∈ keys) →
      (adapterMachine runtime).emitted self [snapshotCall state session] =
        [(some session.id, entry)] →
      (adapterMachine runtime).emitted self [snapshotCall state' session] =
        [(some session.id, entry)] →
      formatted runtime state.items = formatted runtime state'.items) ↔
      KeysApart keys := by
  constructor
  · intro h key hKey other hOther hPrefix
    obtain ⟨text, hText⟩ := hPrefix
    let state : Dict String (AnyValue Obj) := AList.singleton key (.str (String.ofList text))
    let state' : Dict String (AnyValue Obj) := AList.singleton other (.str "")
    have hItems : state.items = [(key, .str (String.ofList text))] := rfl
    have hItems' : state'.items = [(other, .str "")] := rfl
    have hField : "*" ++ key ++ "*\n" ++ String.ofList text = "*" ++ other ++ "*\n" ++ "" := by
      rw [← String.toList_inj, field_text_toList, field_text_toList]
      simpa [delimit, fieldMark] using hText
    let field : TextObject := ⟨"mrkdwn", "*" ++ other ++ "*\n" ++ ""⟩
    have hShows : List.Forall₂ (Shows runtime) state.items [field] := by
      rw [hItems]
      exact .cons ⟨_, rfl, by rw [hField]⟩ .nil
    have hShows' : List.Forall₂ (Shows runtime) state'.items [field] := by
      rw [hItems']
      exact .cons ⟨_, rfl, rfl⟩ .nil
    have hSame := h state state' _ (by simpa [hItems] using hKey) (by simpa [hItems'] using hOther)
      ((emitted_snapshotCall runtime self session state _).mpr ⟨_, hShows, rfl⟩)
      ((emitted_snapshotCall runtime self session state' _).mpr ⟨_, hShows', rfl⟩)
    rw [hItems, hItems'] at hSame
    exact (Prod.mk.inj (List.cons.inj hSame).1).1
  · intro h state state' entry hKeys hKeys' hPosts hPosts'
    obtain ⟨fields, hFields, hEntry⟩ := (emitted_snapshotCall ..).mp hPosts
    obtain ⟨fields', hFields', hEntry'⟩ := (emitted_snapshotCall ..).mp hPosts'
    have hSame : fields = fields' := by simpa using hEntry.symm.trans hEntry'
    exact formatted_eq (keysApart_iff.mp h) hKeys hKeys' hFields (hSame ▸ hFields')

end CapillaryActions.Reference.Slack
