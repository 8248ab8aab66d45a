import CapillaryActions.Reference.Slack.Text
import Mathlib.Data.Set.List

/-! What the adapter keeps. Nothing but an `END` takes an entry out of the
buffer, so an adapter that lives long keeps one entry for each session whose
last text event was not an `END`, and no others. -/
namespace CapillaryActions.Reference.Slack

open Python Models Semantics Semantics.Framing

variable {Obj : Type} {runtime : Runtime Obj} {self : SlackChannelAdapter Obj}

/-- Keys other than that of the session are left alone by each branch. -/
theorem mem_messageBuffer_sendEvent {event : AGUIEvent Obj} {session : ChannelSession Obj}
    {key : String} (hKey : key ≠ session.id.str) :
    key ∈ (self.next runtime (.sendEvent event session)).messageBuffer ↔
      key ∈ self.messageBuffer := by
  cases hType : event.eventType with
  | textMessageStart =>
      simp only [SlackChannelAdapter.next, Call.perform, SlackChannelAdapter.sendEvent, hType,
        SlackChannelAdapter.setBuffer, AdapterM.exec_modify, AList.mem_insert, hKey, false_or]
  | textMessageContent =>
      cases hContent : event.body.content? with
      | none =>
          simp only [SlackChannelAdapter.next, Call.perform, SlackChannelAdapter.sendEvent, hType,
            hContent, AdapterM.exec_throw]
      | some content =>
          simp only [SlackChannelAdapter.next, Call.perform, SlackChannelAdapter.sendEvent, hType,
            hContent, SlackChannelAdapter.setBuffer, AdapterM.exec_get_bind, AdapterM.exec_ite,
            AdapterM.exec_modify_bind, AdapterM.exec_modify]
          split <;> simp [AList.mem_insert, hKey]
  | textMessageEnd =>
      simp only [SlackChannelAdapter.next, Call.perform, SlackChannelAdapter.sendEvent, hType,
        SlackChannelAdapter.exec_popBuffer_bind, SlackChannelAdapter.post, AdapterM.exec_modify,
        AList.mem_erase, ne_eq, hKey, not_false_eq_true, true_and]
  | stateSnapshot =>
      simp only [SlackChannelAdapter.next, Call.perform, SlackChannelAdapter.sendEvent, hType]
      cases hState : event.body.state? with
      | none => rfl
      | some state =>
          simp only [AdapterM.exec_lift_bind]
          cases SlackChannelAdapter.stateFields runtime state <;> rfl
  | runError =>
      simp only [SlackChannelAdapter.next, Call.perform, SlackChannelAdapter.sendEvent, hType]
      cases event.body.error? <;> rfl
  | _ =>
      simp only [SlackChannelAdapter.next, Call.perform, SlackChannelAdapter.sendEvent, hType]
      rfl

/-- A call adds no key but the text of a session id. -/
theorem mem_messageBuffer_next {call : Call Obj} {key : String}
    (hKey : ∀ id : UUID, key ≠ id.str) :
    key ∈ (self.next runtime call).messageBuffer ↔ key ∈ self.messageBuffer := by
  cases call with
  | sendEvent event session => exact mem_messageBuffer_sendEvent (hKey session.id)
  | sendError error session => rfl
  | renderHitlGate gateType gateConfig session =>
      simp only [SlackChannelAdapter.next, Call.perform, SlackChannelAdapter.renderHitlGate,
        AdapterM.exec_ite]
      split <;> rfl
  | receiveMessage fresh rawPayload => rw [next_eq_self rfl]
  | receiveFile rawPayload => rw [next_eq_self rfl]
  | resolveSession fresh rawPayload => rw [next_eq_self rfl]

/-- Every key of a new adapter is the text of a session id, after any run. -/
theorem keys_after (runtime : Runtime Obj) (botToken signingSecret : String)
    (calls : List (Call Obj)) :
    ∀ key ∈ ((adapterMachine runtime).after (.init botToken signingSecret) calls).messageBuffer,
      ∃ id : UUID, id.str = key := by
  let inv (self : SlackChannelAdapter Obj) : Prop :=
    ∀ key ∈ self.messageBuffer, ∃ id : UUID, id.str = key
  have hStep : ∀ self, ∀ call ∈ calls, inv self → inv ((adapterMachine runtime).step self call).1 := by
    intro self call _ hInv key hMem
    by_contra hNone
    have hKey : ∀ id : UUID, key ≠ id.str := fun id h => hNone ⟨id, h.symm⟩
    exact hNone (hInv key ((mem_messageBuffer_next hKey).mp hMem))
  apply (adapterMachine runtime).after_invariant inv hStep
  intro key hMem
  cases hMem

/-- What is retained. After any run of a new adapter, with calls of every kind
for any sessions, the buffer has one entry for each session with a message left
open, and none for anything else. -/
theorem retained_sessions (runtime : Runtime Obj) (botToken signingSecret : String)
    (calls : List (Call Obj)) :
    let final := (adapterMachine runtime).after (.init botToken signingSecret) calls
    ∃ ids : List UUID, ids.Nodup ∧ final.messageBuffer.keys = ids.map UUID.str ∧
      ∀ id, id ∈ ids ↔ ¬Settled (callMarks id calls) := by
  intro final
  have hKeys : final.messageBuffer.keys ∈ Set.range (List.map UUID.str) := by
    rw [Set.range_list_map]
    intro key hMem
    exact keys_after runtime botToken signingSecret calls key hMem
  obtain ⟨ids, hIds⟩ := hKeys
  refine ⟨ids, ?_, hIds.symm, ?_⟩
  · have hNodup := final.messageBuffer.keys_nodup
    rw [← hIds] at hNodup
    exact hNodup.of_map
  · intro id
    have hOpen : id.str ∈ final.messageBuffer ↔ ¬Settled (callMarks id calls) := by
      rw [← AList.lookup_isSome, lookup_after_marks, ← buffer_eq_none_iff,
        Option.isSome_iff_ne_none]
    rw [← hOpen, AList.mem_keys, ← hIds, List.mem_map_of_injective UUID.str_injective]

end CapillaryActions.Reference.Slack
