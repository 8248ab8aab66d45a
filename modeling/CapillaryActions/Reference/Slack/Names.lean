import CapillaryActions.Reference.Slack.Chunking
import CapillaryActions.Semantics.Simulation

/-! What the adapter looks at. Of an event it reads the tag and the one field
that this tag asks for, of a session the channel, the thread and the id; and ids
are compared, never shown. Runs that differ in anything else, even in the ids
throughout, have the same outbox, as long as no two sessions are taken for one. -/
namespace CapillaryActions.Reference.Slack

open Python Models Semantics Semantics.Framing

variable {Obj : Type}

/-- Events with the same tag, and the same in the field that the tag asks for. -/
structure SameContent (event event' : AGUIEvent Obj) : Prop where
  eventType : event'.eventType = event.eventType
  content : event.eventType = .textMessageContent → event'.body.content? = event.body.content?
  state : event.eventType = .stateSnapshot → event'.body.state? = event.body.state?
  error : event.eventType = .runError → event'.body.error? = event.body.error?

/-- Sessions that are answered in the same place, one under a new id. -/
structure SamePlace (rename : UUID → UUID) (session session' : ChannelSession Obj) : Prop where
  id : session'.id = rename session.id
  channel : channelOf session' = channelOf session
  threadTs : threadTsOf session' = threadTsOf session

/-- Gates that show the same. Whatever is not a review is an input gate. -/
structure SameGate (gateType gateType' : String) (gateConfig gateConfig' : HitlGateConfig Obj) :
    Prop where
  type : gateType' = "human_review" ↔ gateType = "human_review"
  instructions : gateConfig'.instructions = gateConfig.instructions
  options : gateType = "human_review" → gateConfig'.options = gateConfig.options
  prompt : gateType ≠ "human_review" → gateConfig'.prompt = gateConfig.prompt

/-- Calls that the adapter cannot tell apart but for the id of the session. Inbound
calls may be replaced by any others. -/
inductive Call.Alike (rename : UUID → UUID) : Call Obj → Call Obj → Prop where
  | sendEvent {event event' : AGUIEvent Obj} {session session' : ChannelSession Obj}
      (hEvent : SameContent event event') (hSession : SamePlace rename session session') :
      Alike rename (.sendEvent event session) (.sendEvent event' session')
  | sendError (error : String) {session session' : ChannelSession Obj}
      (hSession : SamePlace rename session session') :
      Alike rename (.sendError error session) (.sendError error session')
  | renderHitlGate {gateType gateType' : String} {gateConfig gateConfig' : HitlGateConfig Obj}
      {session session' : ChannelSession Obj} (hGate : SameGate gateType gateType' gateConfig gateConfig')
      (hSession : SamePlace rename session session') :
      Alike rename (.renderHitlGate gateType gateConfig session)
        (.renderHitlGate gateType' gateConfig' session')
  | inbound {call call' : Call Obj} (h : call.session? = none) (h' : call'.session? = none) :
      Alike rename call call'

section Alike

variable {rename : UUID → UUID} {call call' : Call Obj}

theorem Call.Alike.sessionId? (h : Call.Alike rename call call') :
    call'.sessionId? = call.sessionId?.map rename := by
  cases h with
  | sendEvent hEvent hSession => exact congrArg some hSession.id
  | sendError error hSession => exact congrArg some hSession.id
  | renderHitlGate hGate hSession => exact congrArg some hSession.id
  | inbound h h' => simp [Call.sessionId?, h, h']

theorem sessionStep_sendEvent_congr (runtime : Runtime Obj) (held : Option (List String))
    {event event' : AGUIEvent Obj} {session session' : ChannelSession Obj}
    (hEvent : SameContent event event') (hSession : SamePlace rename session session') :
    sessionStep runtime held (.sendEvent event' session') =
      sessionStep runtime held (.sendEvent event session) := by
  have hChannel := hSession.channel
  have hThread := hSession.threadTs
  cases hType : event.eventType with
  | textMessageContent =>
      simp only [sessionStep, hEvent.eventType, hType, hEvent.content hType]
  | stateSnapshot =>
      simp only [sessionStep, hEvent.eventType, hType, hEvent.state hType, hChannel, hThread]
  | runError =>
      simp only [sessionStep, hEvent.eventType, hType, hEvent.error hType, hChannel, hThread]
  | _ => simp only [sessionStep, hEvent.eventType, hType, hChannel, hThread]

/-- A session machine does the same on both calls. -/
theorem Call.Alike.sessionStep (runtime : Runtime Obj) (held : Option (List String))
    (h : Call.Alike rename call call') :
    Slack.sessionStep runtime held call' = Slack.sessionStep runtime held call := by
  cases h with
  | sendEvent hEvent hSession => exact sessionStep_sendEvent_congr runtime held hEvent hSession
  | sendError error hSession =>
      simp only [Slack.sessionStep, hSession.channel, hSession.threadTs]
  | @renderHitlGate gateType gateType' _ _ _ _ hGate hSession =>
      by_cases hType : gateType = "human_review"
      · have hType' : gateType' = "human_review" := hGate.type.mpr hType
        simp only [Slack.sessionStep, if_pos hType, if_pos hType', hGate.options hType,
          hGate.instructions, hSession.channel, hSession.threadTs]
      · have hType' : gateType' ≠ "human_review" := fun h => hType (hGate.type.mp h)
        simp only [Slack.sessionStep, if_neg hType, if_neg hType', hGate.prompt hType,
          hGate.instructions, hSession.channel, hSession.threadTs]
  | inbound h h' => rw [sessionStep_of_inbound runtime held h, sessionStep_of_inbound runtime held h']

end Alike

/-- The second adapter has the same buffers, under the new ids. -/
def Renamed (rename : UUID → UUID) (self self' : SlackChannelAdapter Obj) : Prop :=
  ∀ id, buffers self' (some (rename id)) = buffers self (some id)

theorem buffers_of_renamed {rename : UUID → UUID} {self self' : SlackChannelAdapter Obj}
    (h : Renamed rename self self') (id? : Option UUID) :
    buffers self' (id?.map rename) = buffers self id? := by
  cases id? with
  | none => rfl
  | some id => exact h id

/-- As long as the new ids are distinct, the two adapters stay in step. -/
theorem renaming_simulation (runtime : Runtime Obj) {rename : UUID → UUID}
    (hRename : rename.Injective) :
    Simulation (adapterMachine runtime) (adapterMachine runtime) (Renamed rename)
      (Call.Alike rename) (fun posted posted' => posted' = posted.map (Option.map rename) id) where
  state {self self' call call'} hRelated hAlike id := by
    have hStep := hAlike.sessionStep runtime (buffers self call.sessionId?)
    have hHeld := buffers_of_renamed hRelated call.sessionId?
    have hKeys : some (rename id) = call.sessionId?.map rename ↔ some id = call.sessionId? := by
      rw [← Option.map_some, (Option.map_injective hRename).eq_iff]
    simp only [adapterMachine_step_fst, (serves_next _).buffers, hAlike.sessionId?, hHeld, hStep,
      Function.update_apply, hKeys, hRelated id]
  output {self self' call call'} hRelated hAlike := by
    have hStep := hAlike.sessionStep runtime (buffers self call.sessionId?)
    have hHeld := buffers_of_renamed hRelated call.sessionId?
    rw [adapterMachine_step_snd, adapterMachine_step_snd, hAlike.sessionId?, hHeld, hStep,
      List.forall₂_map_right_iff, List.forall₂_map_left_iff]
    exact List.forall₂_same.mpr fun _ _ => rfl

/-- A chunk for one session, and the `END` of another or the same one. -/
theorem outbox_chunk_end (runtime : Runtime Obj) (botToken signingSecret : String)
    (first second : UUID) (content : String) :
    ((adapterMachine runtime).after (.init botToken signingSecret)
      [chunkCall first content, endCall second]).outbox =
        [.message (.str "") (if second = first then content else "") .null] := by
  have hSends : (chunkCall first content : Call Obj).Sends first content := chunkCall_sends ..
  have hStart : pendingText (.init botToken signingSecret : SlackChannelAdapter Obj) second = "" := rfl
  rw [outbox_after, Transducer.emitted_cons, adapterMachine_step_fst, emitted_endCall,
    hSends.emitted, hSends.pendingText_next, hStart]
  simp [SlackChannelAdapter.init]

/-- Ids are only compared, and nothing else is looked at. Runs of new adapters that
are alike but for the ids have the same outbox, if and only if the new ids are
distinct for distinct sessions. -/
theorem outbox_alike_iff (runtime : Runtime Obj) (botToken signingSecret : String)
    (rename : UUID → UUID) :
    (∀ calls calls' : List (Call Obj), List.Forall₂ (Call.Alike rename) calls calls' →
      ((adapterMachine runtime).after (.init botToken signingSecret) calls').outbox =
        ((adapterMachine runtime).after (.init botToken signingSecret) calls).outbox) ↔
      rename.Injective := by
  constructor
  · intro h first second hRename
    by_contra hDistinct
    have hPlace : ∀ id, SamePlace rename (bareSession id : ChannelSession Obj)
        (bareSession (rename id)) := fun _ => ⟨rfl, rfl, rfl⟩
    have hAlike : List.Forall₂ (Call.Alike rename)
        [chunkCall first "text", endCall second]
        [chunkCall (rename first) "text", (endCall (rename second) : Call Obj)] :=
      .cons (.sendEvent ⟨rfl, fun _ => rfl, fun _ => rfl, fun _ => rfl⟩ (hPlace first))
        (.cons (.sendEvent ⟨rfl, fun _ => rfl, fun _ => rfl, fun _ => rfl⟩ (hPlace second)) .nil)
    have hOutbox := h _ _ hAlike
    rw [outbox_chunk_end, outbox_chunk_end, if_pos hRename.symm, if_neg (Ne.symm hDistinct)] at hOutbox
    simp at hOutbox
  · intro hRename calls calls' hAlike
    have hStart : Renamed rename (.init botToken signingSecret : SlackChannelAdapter Obj)
        (.init botToken signingSecret) := by
      intro id
      rw [buffers_init]
    have hPosted := (renaming_simulation runtime hRename).emitted hStart hAlike
    have hSame : ((adapterMachine runtime).emitted (.init botToken signingSecret) calls').map Prod.snd =
        ((adapterMachine runtime).emitted (.init botToken signingSecret) calls).map Prod.snd := by
      rw [← List.forall₂_eq_eq_eq, List.forall₂_map_left_iff, List.forall₂_map_right_iff]
      exact hPosted.flip.imp fun posted posted' h => congrArg Prod.snd h
    rw [outbox_after, outbox_after, hSame]

end CapillaryActions.Reference.Slack
