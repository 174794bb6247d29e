import LiveMediaExt.RtspService

/-!
# Requests that wait for the task

The checks of `createChannel` and `removeChannel` read the map, which lags behind the accepted
requests until the task has run. They miss requests that still wait in the queues.
-/
namespace LiveMediaExt.Rtsp
open Execution Media ServiceRun

def liveStep (channelId : ℕ) (live : Bool) : Request → Bool
  | .createChannel channel => if channel.channelId = channelId then true else live
  | .removeChannel other => if other = channelId then false else live
  | .doCheckChannelsTask => live

/-- The last accepted request for the id was to create its channel. -/
def isLive (channelId : ℕ) (accepted : List Request) : Bool :=
  accepted.foldl (liveStep channelId) false

theorem isLive_snoc (channelId : ℕ) (accepted : List Request) (request : Request) :
    isLive channelId (accepted ++ [request]) =
      liveStep channelId (isLive channelId accepted) request := by
  simp [isLive]

section Ledger
variable {β : Type} {r r' : ServiceRun β} {request : Request}

/-- How the queues relate to the map and to the accepted requests. -/
structure Ledger (r : ServiceRun β) : Prop where
  removals : ∀ channel ∈ r.service.channelsToBeRemoved,
    r.service.channels.find channel.channelId = some channel
  additions : ∀ channel ∈ r.service.channelsToBeAdded,
    r.service.channels.find channel.channelId = none ∧
      isLive channel.channelId r.accepted = true
  live : ∀ channelId, isLive channelId r.accepted = true →
    channelId ∈ r.service.channelsToBeAdded.map Channel.channelId ∨
      (r.service.channels.find channelId ≠ none ∧
        channelId ∉ r.service.channelsToBeRemoved.map Channel.channelId)

theorem initialised_ledger (newBuffer : β) : Ledger (initialised newBuffer) where
  removals := by simp [initialised, RtspService.new]
  additions := by simp [initialised, RtspService.new]
  live := by simp [initialised, isLive]

theorem Ledger.createChannel {channel : Channel} (h : Ledger r)
    (hstep : requestStep r (.createChannel channel) = .ok r') : Ledger r' := by
  rcases createChannel_step hstep with ⟨-, rfl⟩ | ⟨hfind, rfl⟩
  · exact h
  · exact
      { removals := h.removals
        additions := by
          intro other hother
          rw [isLive_snoc]
          rcases List.mem_append.mp hother with hother | hother
          · obtain ⟨hunknown, hlive⟩ := h.additions other hother
            exact ⟨hunknown, by simp [liveStep, hlive]⟩
          · rw [List.mem_singleton.mp hother]
            exact ⟨hfind, by simp [liveStep]⟩
        live := by
          intro channelId hlive
          rw [isLive_snoc] at hlive
          by_cases hid : channel.channelId = channelId
          · exact .inl (by simp [hid])
          · simp only [liveStep, if_neg hid] at hlive
            have hbefore := h.live channelId hlive
            rw [List.map_append, List.mem_append]
            exact hbefore.imp_left .inl }

theorem Ledger.removeChannel {channelId : ℕ} (h : Ledger r)
    (hstep : requestStep r (.removeChannel channelId) = .ok r') : Ledger r' := by
  rcases removeChannel_step hstep with ⟨-, rfl⟩ | ⟨channel, hfind, rfl⟩
  · exact h
  · have hid : channel.channelId = channelId := ChannelMap.channelId_of_find hfind
    exact
      { removals := by
          intro other hother
          rcases List.mem_append.mp hother with hother | hother
          · exact h.removals other hother
          · rw [List.mem_singleton.mp hother, hid]
            exact hfind
        additions := by
          intro other hother
          obtain ⟨hunknown, hlive⟩ := h.additions other hother
          have hne : channelId ≠ other.channelId := by
            rintro rfl
            simp [hfind] at hunknown
          rw [isLive_snoc]
          exact ⟨hunknown, by simp [liveStep, hne, hlive]⟩
        live := by
          intro other hlive
          rw [isLive_snoc] at hlive
          have hne : channelId ≠ other := by
            rintro rfl
            simp [liveStep] at hlive
          simp only [liveStep, if_neg hne] at hlive
          refine (h.live other hlive).imp_right fun hknown => ⟨hknown.1, ?_⟩
          simpa [hid, Ne.symm hne] using hknown.2 }

theorem Ledger.doCheckChannelsTask (h : Ledger r)
    (hstep : requestStep r .doCheckChannelsTask = .ok r') : Ledger r' := by
  obtain ⟨env, m₁, env₁, m₂, env₂, -, hremove, hadd, rfl⟩ := doCheckChannelsTask_step hstep
  exact
    { removals := by simp
      additions := by simp
      live := by
        intro channelId hlive
        rw [isLive_snoc] at hlive
        have hbefore := h.live channelId hlive
        refine .inr ⟨?_, by simp⟩
        intro hnone
        obtain ⟨hfind, hqueue⟩ := (RtspService.addChannels_find hadd channelId).mp hnone
        rw [RtspService.removeChannels_find hremove] at hfind
        rcases hbefore with hadded | ⟨hknown, hkept⟩
        · exact hqueue hadded
        · rw [if_neg hkept] at hfind
          exact hknown hfind }

theorem ledger_step (h : Ledger r) (hstep : requestStep r request = .ok r') : Ledger r' := by
  cases request with
  | createChannel channel => exact h.createChannel hstep
  | removeChannel channelId => exact h.removeChannel hstep
  | doCheckChannelsTask => exact h.doCheckChannelsTask hstep

theorem run_ledger {newBuffer : β} {requests : List Request}
    (h : run requestStep (initialised newBuffer) requests = .ok r) : Ledger r :=
  run_invariant (initialised_ledger newBuffer) (fun _ _ _ hm ht => ledger_step hm ht) h

end Ledger

section Uniqueness
variable {β : Type} {r : ServiceRun β}

/-- A call of `createChannel` for a live id is refused. -/
def RefusesLive (r : ServiceRun β) (request : Request) : Prop :=
  ∀ channel, request = .createChannel channel → isLive channel.channelId r.accepted = true →
    (r.service.createChannel channel).1 ≠ .success

/-- A call of `createChannel` is not for an id whose addition waits. -/
def CreatesOnce (r : ServiceRun β) (request : Request) : Prop :=
  ∀ channel, request = .createChannel channel →
    channel.channelId ∉ r.service.channelsToBeAdded.map Channel.channelId

theorem createChannel_success_iff {channel : Channel} :
    (r.service.createChannel channel).1 = .success ↔
      r.service.channels.find channel.channelId = none := by
  unfold RtspService.createChannel
  cases r.service.channels.find channel.channelId <;> simp

theorem refusesLive_iff (h : Ledger r) (request : Request) :
    RefusesLive r request ↔ CreatesOnce r request := by
  constructor
  · intro hrefuses channel he hmem
    obtain ⟨pending, hpending, hid⟩ := List.mem_map.mp hmem
    obtain ⟨hunknown, hlive⟩ := h.additions pending hpending
    rw [hid] at hunknown hlive
    exact hrefuses channel he hlive (createChannel_success_iff.mpr hunknown)
  · intro honce channel he hlive hsuccess
    rw [createChannel_success_iff] at hsuccess
    rcases h.live channel.channelId hlive with hpending | ⟨hknown, -⟩
    · exact honce channel he hpending
    · exact hknown hsuccess

/-- An id is never created twice at a time exactly when no `createChannel` is called for an id
whose addition still waits for the task. -/
theorem created_once_iff (newBuffer : β) (requests : List Request) :
    Along requestStep (fun _ r request => RefusesLive r request) (initialised newBuffer) requests ↔
      Along requestStep (fun _ r request => CreatesOnce r request) (initialised newBuffer)
        requests := by
  refine along_congr fun before r request hrun => ?_
  have hledger : Ledger r := run_ledger hrun
  exact refusesLive_iff hledger request

/-- A channel with a video descriptor only. -/
def videoChannel (channelId : ℕ) (channelName codec : String) : Channel where
  channelId := channelId
  channelName := channelName
  videoDescriptor := some ⟨codec, "", ""⟩
  audioDescriptor := none
  described := .inl rfl

/-- Two calls in a row, before the task has run, both succeed. -/
theorem channel_created_twice : ∃ r : ServiceRun Unit,
    run requestStep (initialised ()) [.createChannel (videoChannel 7 "a" "H264")] = .ok r ∧
      isLive 7 r.accepted = true ∧
      (r.service.createChannel (videoChannel 7 "a" "H264")).1 = .success :=
  ⟨_, rfl, by decide, by decide⟩

end Uniqueness

section Removal
variable {β : Type} {r r' : ServiceRun β} {request : Request}
open RtspService

/-- A call of `removeChannel` is not for an id whose removal waits. -/
def RemovesOnce (r : ServiceRun β) (request : Request) : Prop :=
  ∀ channelId, request = .removeChannel channelId →
    channelId ∉ r.service.channelsToBeRemoved.map Channel.channelId

/-- The removal of a channel that the map knows. -/
theorem removeChannels_cons {channel : Channel} {m : ChannelMap}
    (hfind : m.find channel.channelId ≠ none) (queue : List Channel) (env : LiveEnvironment β) :
    removeChannels (channel :: queue) m env =
      removeChannels queue (m.erase channel.channelId) (env.removeRtspMediaSession channel) := by
  simp only [removeChannels, removeQueued, hfind, if_false, bind, Except.bind]

theorem removeChannels_unknown {queue : List Channel} {m : ChannelMap} {env : LiveEnvironment β}
    (h : ∃ channel ∈ queue, m.find channel.channelId = none) :
    removeChannels queue m env = .error .channelMissing := by
  induction queue generalizing m env with
  | nil => simp at h
  | cons channel queue ih =>
    by_cases hfind : m.find channel.channelId = none
    · simp [removeChannels, removeQueued, hfind, bind, Except.bind]
    · have hrest : ∃ other ∈ queue, (m.erase channel.channelId).find other.channelId = none := by
        obtain ⟨other, hother, hnone⟩ := h
        rcases List.mem_cons.mp hother with rfl | hother
        · exact absurd hnone hfind
        · refine ⟨other, hother, ?_⟩
          rw [ChannelMap.find_erase, hnone, ite_self]
      rw [removeChannels_cons hfind]
      exact ih hrest

/-- Two removals of one channel in the queue fail the assertion at the second. -/
theorem removeChannels_twice {queue : List Channel} {m : ChannelMap} {env : LiveEnvironment β}
    (h : ¬ (queue.map Channel.channelId).Nodup) :
    removeChannels queue m env = .error .channelMissing := by
  induction queue generalizing m env with
  | nil => simp at h
  | cons channel queue ih =>
    by_cases hfind : m.find channel.channelId = none
    · exact removeChannels_unknown ⟨channel, by simp, hfind⟩
    · rw [removeChannels_cons hfind]
      by_cases hagain : channel.channelId ∈ queue.map Channel.channelId
      · obtain ⟨other, hother, hid⟩ := List.mem_map.mp hagain
        refine removeChannels_unknown ⟨other, hother, ?_⟩
        rw [ChannelMap.find_erase, if_pos hid.symm]
      · refine ih fun hnodup => h ?_
        rw [List.map_cons, List.nodup_cons]
        exact ⟨hagain, hnodup⟩

theorem removeChannels_once {queue : List Channel} {m : ChannelMap}
    (hnodup : (queue.map Channel.channelId).Nodup)
    (hknown : ∀ channel ∈ queue, m.find channel.channelId ≠ none) (env : LiveEnvironment β) :
    ∃ m' env', removeChannels queue m env = .ok (m', env') := by
  induction queue generalizing m env with
  | nil => exact ⟨m, env, rfl⟩
  | cons channel queue ih =>
    rw [List.map_cons, List.nodup_cons] at hnodup
    rw [removeChannels_cons (hknown channel (by simp))]
    refine ih hnodup.2 (fun other hother => ?_) _
    have hne : channel.channelId ≠ other.channelId := by
      intro heq
      exact hnodup.1 (by rw [heq]; exact List.mem_map_of_mem hother)
    rw [ChannelMap.find_erase, if_neg hne]
    exact hknown other (by simp [hother])

theorem addChannels_error {queue : List Channel} {m : ChannelMap} {env : LiveEnvironment β}
    {f : Fault} (h : addChannels queue m env = .error f) : f ≠ .channelMissing := by
  induction queue generalizing m env with
  | nil => cases h
  | cons channel queue ih =>
    rcases bind_error.mp h with hadd | ⟨⟨m₁, env₁⟩, -, h⟩
    · rcases bind_error.mp hadd with hadd | ⟨env₁, -, h⟩
      · rcases LiveEnvironment.addRtspMediaSession_error hadd with rfl | rfl <;> simp
      · cases h
    · exact ih h

/-- Only the task has the assertion, and it holds while no channel is queued twice. -/
theorem requestStep_channelMissing (hledger : Ledger r)
    (h : requestStep r request = .error .channelMissing) :
    ¬ (r.service.channelsToBeRemoved.map Channel.channelId).Nodup := by
  intro hnodup
  cases request with
  | createChannel channel => cases h
  | removeChannel channelId => cases h
  | doCheckChannelsTask =>
    rcases bind_error.mp h with htask | ⟨service, -, h⟩
    · unfold RtspService.doCheckChannelsTask at htask
      cases henv : r.service.environment with
      | none => simp [henv] at htask
      | some env =>
        have hknown : ∀ channel ∈ r.service.channelsToBeRemoved,
            r.service.channels.find channel.channelId ≠ none := by
          intro channel hchannel
          simp [hledger.removals channel hchannel]
        obtain ⟨m₁, env₁, hremove⟩ := removeChannels_once hnodup hknown env
        rw [henv] at htask
        simp only [hremove, bind, Except.bind] at htask
        cases hadd : addChannels r.service.channelsToBeAdded m₁ env₁ with
        | error f =>
          rw [hadd] at htask
          exact addChannels_error hadd (Except.error.inj htask)
        | ok p =>
          rw [hadd] at htask
          cases htask
    · cases h

theorem requestStep_environment (henv : r.service.environment ≠ none)
    (h : requestStep r request = .ok r') : r'.service.environment ≠ none := by
  cases request with
  | createChannel channel =>
    rcases createChannel_step h with ⟨-, rfl⟩ | ⟨-, rfl⟩
    · exact henv
    · exact henv
  | removeChannel channelId =>
    rcases removeChannel_step h with ⟨-, rfl⟩ | ⟨channel, -, rfl⟩
    · exact henv
    · exact henv
  | doCheckChannelsTask =>
    obtain ⟨env, m₁, env₁, m₂, env₂, -, -, -, rfl⟩ := doCheckChannelsTask_step h
    simp

theorem task_twice (henv : r.service.environment ≠ none)
    (h : ¬ (r.service.channelsToBeRemoved.map Channel.channelId).Nodup) :
    requestStep r .doCheckChannelsTask = .error .channelMissing := by
  obtain ⟨env, henv⟩ := Option.ne_none_iff_exists'.mp henv
  have hremove : removeChannels r.service.channelsToBeRemoved r.service.channels env =
      .error .channelMissing := removeChannels_twice h
  simp [requestStep, RtspService.doCheckChannelsTask, henv, hremove, bind, Except.bind]

/-- Calls of the application leave waiting removals in the queue. -/
theorem call_twice (h : ¬ (r.service.channelsToBeRemoved.map Channel.channelId).Nodup)
    (hcall : request ≠ .doCheckChannelsTask) :
    ∃ r', requestStep r request = .ok r' ∧
      ¬ (r'.service.channelsToBeRemoved.map Channel.channelId).Nodup := by
  cases request with
  | createChannel channel =>
    refine ⟨_, rfl, ?_⟩
    rcases createChannel_step rfl with ⟨-, hsame⟩ | ⟨-, hsame⟩
    · rw [hsame]
      exact h
    · rw [hsame]
      exact h
  | removeChannel channelId =>
    refine ⟨_, rfl, ?_⟩
    rcases removeChannel_step rfl with ⟨-, hsame⟩ | ⟨channel, -, hsame⟩
    · rw [hsame]
      exact h
    · rw [hsame, List.map_append]
      intro hnodup
      exact h hnodup.of_append_left
  | doCheckChannelsTask => exact absurd rfl hcall

/-- Removals of one channel that wait together are still together when the task runs. -/
theorem run_twice {requests : List Request} (henv : r.service.environment ≠ none)
    (h : ¬ (r.service.channelsToBeRemoved.map Channel.channelId).Nodup) :
    run requestStep r (requests ++ [.doCheckChannelsTask]) = .error .channelMissing := by
  induction requests generalizing r with
  | nil =>
    rw [List.nil_append, run_singleton]
    exact task_twice henv h
  | cons request requests ih =>
    rw [List.cons_append]
    by_cases hcall : request = .doCheckChannelsTask
    · subst hcall
      exact run_cons_error (task_twice henv h) _
    · obtain ⟨r', hstep, hwait⟩ := call_twice h hcall
      rw [run_cons_ok hstep]
      exact ih (requestStep_environment henv hstep) hwait

theorem requestStep_nodup (honce : RemovesOnce r request)
    (hnodup : (r.service.channelsToBeRemoved.map Channel.channelId).Nodup)
    (h : requestStep r request = .ok r') :
    (r'.service.channelsToBeRemoved.map Channel.channelId).Nodup := by
  cases request with
  | createChannel channel =>
    rcases createChannel_step h with ⟨-, rfl⟩ | ⟨-, rfl⟩
    · exact hnodup
    · exact hnodup
  | removeChannel channelId =>
    rcases removeChannel_step h with ⟨-, rfl⟩ | ⟨channel, hfind, rfl⟩
    · exact hnodup
    · have hnew := honce channelId rfl
      rw [← ChannelMap.channelId_of_find hfind] at hnew
      rw [List.map_append, List.map_singleton]
      exact hnodup.append (List.nodup_singleton _) (by simpa using hnew)
  | doCheckChannelsTask =>
    obtain ⟨env, m₁, env₁, m₂, env₂, -, -, -, rfl⟩ := doCheckChannelsTask_step h
    simp

/-- While no `removeChannel` is called for an id whose removal waits, the task finds every
channel it removes; after one that is, the next run of the task fails the assertion. -/
theorem removed_channel_present (newBuffer : β) (requests : List Request) :
    (Along requestStep (fun _ r request => RemovesOnce r request) (initialised newBuffer)
        requests →
      run requestStep (initialised newBuffer) requests ≠ .error .channelMissing) ∧
    (¬ Along requestStep (fun _ r request => RemovesOnce r request) (initialised newBuffer)
        requests →
      run requestStep (initialised newBuffer) (requests ++ [.doCheckChannelsTask]) =
        .error .channelMissing) := by
  constructor
  · intro honce h
    obtain ⟨before, request, after, m, rfl, hm, hf⟩ := run_error h
    have hnodup : (m.service.channelsToBeRemoved.map Channel.channelId).Nodup := by
      refine run_induction_along (R := fun _ r =>
        (r.service.channelsToBeRemoved.map Channel.channelId).Nodup) ?_ ?_ honce.of_append hm
      · simp [initialised, RtspService.new]
      · exact fun _ _ _ _ _ hR hG ht => requestStep_nodup hG hR ht
    exact requestStep_channelMissing (run_ledger hm) hf hnodup
  · intro hagain
    unfold Along at hagain
    push Not at hagain
    obtain ⟨before, request, after, rfl, m, hm, hmissed⟩ := hagain
    unfold RemovesOnce at hmissed
    push Not at hmissed
    obtain ⟨channelId, rfl, hwaits⟩ := hmissed
    have henv : m.service.environment ≠ none := by
      refine run_invariant (I := fun r => r.service.environment ≠ none) ?_ ?_ hm
      · simp [initialised]
      · exact fun _ _ _ hI ht => requestStep_environment hI ht
    obtain ⟨pending, hpending, hid⟩ := List.mem_map.mp hwaits
    have hknown := (run_ledger hm).removals pending hpending
    rw [hid] at hknown
    have hstep : requestStep m (.removeChannel channelId) =
        .ok (m.record (.removeChannel channelId) (m.service.removeChannel channelId)) := rfl
    rw [List.append_assoc, List.cons_append, run_append_ok hm, run_cons_ok hstep]
    rcases removeChannel_step hstep with ⟨hunknown, -⟩ | ⟨channel, hfind, hsame⟩
    · rw [hunknown] at hknown
      cases hknown
    · rw [hsame]
      refine run_twice henv ?_
      rw [List.map_append, List.nodup_append]
      intro hnodup
      refine hnodup.2.2 channelId hwaits channelId ?_ rfl
      simp [ChannelMap.channelId_of_find hfind]

/-- Two removals of the channel are accepted before the task runs. -/
theorem channel_removed_twice :
    run requestStep (initialised ()) [.createChannel (videoChannel 7 "a" "H264"),
      .doCheckChannelsTask, .removeChannel 7, .removeChannel 7, .doCheckChannelsTask] =
        .error .channelMissing := by
  decide +kernel

end Removal

end LiveMediaExt.Rtsp
