import CapillaryActions.Reference.Slack.Calls

/-! Sessions do not interfere. What a session sees of a run on a shared adapter
is what it would see on an adapter of its own. The adapter keys its buffers by
the text of the session id, and by nothing that two sessions may share. -/
namespace CapillaryActions.Reference.Slack

open Python Models Semantics

variable {Obj : Type}

/-- The calls addressed to one session id. -/
def callsFor (id : UUID) (calls : List (Call Obj)) : List (Call Obj) :=
  calls.filter fun call => call.sessionId? = some id

@[simp] theorem buffers_init (botToken signingSecret : String) :
    buffers (SlackChannelAdapter.init botToken signingSecret : SlackChannelAdapter Obj) =
      fun _ => none := by
  funext key
  cases key <;> rfl

section

variable (runtime : Runtime Obj) (botToken signingSecret : String) (calls : List (Call Obj)) (id : UUID)

/-- The buffer of a session after a run is that of its session machine after
the calls for this session. -/
theorem lookup_after :
    ((adapterMachine runtime).after (.init botToken signingSecret) calls).messageBuffer.lookup id.str =
      (sessionMachine runtime).after none (callsFor id calls) := by
  rw [← buffers_some, (adapterMachine_refines runtime).after, Transducer.keyed_after, buffers_init,
    Transducer.select_map_label]
  rfl

/-- The entries that the calls of a session append are those of its session
machine. -/
theorem select_emitted :
    Transducer.select (some id)
        ((adapterMachine runtime).emitted (.init botToken signingSecret) calls) =
      (sessionMachine runtime).emitted none (callsFor id calls) := by
  rw [← List.map_id ((adapterMachine runtime).emitted _ calls),
    (adapterMachine_refines runtime).emitted, Transducer.select_keyed_emitted, buffers_init,
    Transducer.select_map_label]
  rfl

/-- If all calls are for one session, the outbox is what its machine emits. -/
theorem outbox_callsFor :
    ((adapterMachine runtime).after (.init botToken signingSecret) (callsFor id calls)).outbox =
      (sessionMachine runtime).emitted none (callsFor id calls) := by
  have hKey : ∀ output ∈ (adapterMachine runtime).emitted (.init botToken signingSecret)
      (callsFor id calls), output.1 = some id := by
    rw [← List.map_id ((adapterMachine runtime).emitted _ _), (adapterMachine_refines runtime).emitted]
    apply Transducer.keyed_emitted_key
    intro input hMem
    obtain ⟨call, hCall, rfl⟩ := List.mem_map.mp hMem
    simpa using (List.mem_filter.mp hCall).2
  rw [outbox_after, ← Transducer.select_eq_map hKey, select_emitted]
  simp [callsFor, SlackChannelAdapter.init]

end

/-- Session non-interference. On a new adapter, the buffer that a session is
left with and the outbox entries appended for it are those of a run of its own
calls on another new adapter. Inbound calls do not change the adapter. -/
theorem sessions_do_not_interfere (runtime : Runtime Obj) (botToken signingSecret : String)
    (botToken' signingSecret' : String) (calls : List (Call Obj)) (id : UUID) :
    let start : SlackChannelAdapter Obj := .init botToken signingSecret
    let start' : SlackChannelAdapter Obj := .init botToken' signingSecret'
    let shared := (adapterMachine runtime).after start calls
    let alone := (adapterMachine runtime).after start' (callsFor id calls)
    let posted := (adapterMachine runtime).emitted start calls
    shared.messageBuffer.lookup id.str = alone.messageBuffer.lookup id.str ∧
    shared.outbox = posted.map Prod.snd ∧
    Transducer.select (some id) posted = alone.outbox ∧
    (adapterMachine runtime).after start (calls.filter fun call => call.session?.isSome) = shared := by
  intro start start' shared alone posted
  have hOwn : callsFor id (callsFor id calls) = callsFor id calls := by
    simp [callsFor, List.filter_filter]
  refine ⟨?_, ?_, ?_, ?_⟩
  · rw [lookup_after, lookup_after, hOwn]
  · exact outbox_after runtime start calls
  · rw [select_emitted, outbox_callsFor]
  · apply (adapterMachine runtime).after_filter
    intro self call hInbound
    exact next_eq_self (by simpa using hInbound)

end CapillaryActions.Reference.Slack
