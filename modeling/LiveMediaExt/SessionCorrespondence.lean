import LiveMediaExt.ChannelSessions

/-!
# One session for each channel

After a run of the task the channels and the sessions correspond by name as long as the channels
that it leaves have different names. Two channels that share a name share one session, which
goes with the first of them that is removed.
-/
namespace LiveMediaExt.Rtsp
open Execution Media Subsession Scheduler ServiceRun RtspService LiveEnvironment

section Loops
variable {β : Type} {env : LiveEnvironment β} {m : ChannelMap} {queue : List Channel}

/-- Induction on the queue: each removal takes its channel and the session of its name. -/
theorem removeChannels_hosted (h : Hosted m env)
    (hnodup : (queue.map Channel.channelId).Nodup)
    (hknown : ∀ channel ∈ queue, m.find channel.channelId = some channel) :
    ∃ m' env', removeChannels queue m env = .ok (m', env') ∧ Hosted m' env' ∧
      ∀ name, name ∈ env'.sessionNames ↔
        name ∈ env.sessionNames ∧ name ∉ queue.map Channel.streamName := by
  induction queue generalizing m env with
  | nil => exact ⟨m, env, rfl, h, by simp⟩
  | cons channel queue ih =>
    rw [List.map_cons, List.nodup_cons] at hnodup
    obtain ⟨env₁, hremove, hhosted, hnames⟩ := removeQueued_hosted h (hknown channel (by simp))
    have hrest : ∀ other ∈ queue,
        (m.erase channel.channelId).find other.channelId = some other := by
      intro other hother
      have hne : channel.channelId ≠ other.channelId := by
        intro heq
        exact hnodup.1 (by rw [heq]; exact List.mem_map_of_mem hother)
      rw [ChannelMap.find_erase, if_neg hne]
      exact hknown other (by simp [hother])
    obtain ⟨m', env', hloop, hhosted', hnames'⟩ := ih hhosted hnodup.2 hrest
    refine ⟨m', env', ?_, hhosted', fun name => ?_⟩
    · simp only [removeChannels, hremove, bind, Except.bind, hloop]
    · rw [hnames', hnames, List.map_cons, List.mem_cons, not_or, and_assoc]

/-- Each addition leaves its channel known and a session of its name. -/
theorem addChannels_hosted (h : Hosted m env) (hnodup : (queue.map Channel.channelId).Nodup)
    (hnew : ∀ channel ∈ queue, m.find channel.channelId = none ∧ none ∉ channel.kinds) :
    ∃ m' env', addChannels queue m env = .ok (m', env') ∧ Hosted m' env' ∧
      (∀ name, name ∈ env'.sessionNames ↔
        name ∈ env.sessionNames ∨ name ∈ queue.map Channel.streamName) ∧
      ∀ channel, m'.find channel.channelId = some channel ↔
        m.find channel.channelId = some channel ∨ channel ∈ queue := by
  induction queue generalizing m env with
  | nil => exact ⟨m, env, rfl, h, by simp, by simp⟩
  | cons channel queue ih =>
    rw [List.map_cons, List.nodup_cons] at hnodup
    obtain ⟨hfind, hkinds⟩ := hnew channel (by simp)
    obtain ⟨env₁, hadd, hhosted, hnames⟩ := addQueued_hosted h hfind hkinds
    have hrest : ∀ other ∈ queue,
        (m.insert channel).find other.channelId = none ∧ none ∉ other.kinds := by
      intro other hother
      have hne : channel.channelId ≠ other.channelId := by
        intro heq
        exact hnodup.1 (by rw [heq]; exact List.mem_map_of_mem hother)
      rw [ChannelMap.find_insert, if_neg hne]
      exact hnew other (by simp [hother])
    obtain ⟨m', env', hloop, hhosted', hnames', hfind'⟩ := ih hhosted hnodup.2 hrest
    refine ⟨m', env', ?_, hhosted', fun name => ?_, fun other => ?_⟩
    · simp only [addChannels, hadd, bind, Except.bind, hloop]
    · rw [hnames', hnames, List.map_cons, List.mem_cons, or_assoc]
    · rw [hfind', ChannelMap.find_insert, List.mem_cons]
      by_cases hid : channel.channelId = other.channelId
      · rw [if_pos hid, ← hid, hfind]
        simp [eq_comm]
      · have hne : other ≠ channel := by
          rintro rfl
          exact hid rfl
        simp [hid, hne]

end Loops

section Runs
variable {β : Type} {r r' : ServiceRun β} {request : Request}

/-- Accepted requests create a channel of supported codecs that is not live and remove one
that is. -/
def WellUsed (r : ServiceRun β) : Request → Prop
  | .createChannel channel =>
    (r.service.createChannel channel).1 = .success →
      none ∉ channel.kinds ∧ isLive channel.channelId r.accepted = false
  | .removeChannel channelId =>
    (r.service.removeChannel channelId).1 = .success → isLive channelId r.accepted = true
  | .doCheckChannelsTask => True

instance (r : ServiceRun β) : (request : Request) → Decidable (WellUsed r request)
  | .createChannel channel =>
    inferInstanceAs (Decidable ((r.service.createChannel channel).1 = .success →
      none ∉ channel.kinds ∧ isLive channel.channelId r.accepted = false))
  | .removeChannel channelId =>
    inferInstanceAs (Decidable ((r.service.removeChannel channelId).1 = .success →
      isLive channelId r.accepted = true))
  | .doCheckChannelsTask => inferInstanceAs (Decidable True)

/-- The channel is there after the next run of the task. -/
def Remains (s : RtspService β) (channel : Channel) : Prop :=
  (s.channels.find channel.channelId = some channel ∧
    channel.channelId ∉ s.channelsToBeRemoved.map Channel.channelId) ∨
  channel ∈ s.channelsToBeAdded

def NamesDistinct (s : RtspService β) : Prop :=
  ∀ channel other, Remains s channel → Remains s other →
    channel.streamName = other.streamName → channel = other

/-- Channels and sessions are in one-to-one correspondence by name. -/
structure Corresponds (s : RtspService β) (env : LiveEnvironment β) : Prop where
  environment : s.environment = some env
  nodup : env.sessionNames.Nodup
  channel_of_session : ∀ name ∈ env.sessionNames, ∃ channel,
    s.channels.find channel.channelId = some channel ∧ channel.streamName = name
  session_of_channel : ∀ channel, s.channels.find channel.channelId = some channel →
    channel.streamName ∈ env.sessionNames
  injective : ∀ channel other, s.channels.find channel.channelId = some channel →
    s.channels.find other.channelId = some other →
    channel.streamName = other.streamName → channel = other

/-- The invariant of well-used runs. -/
structure Orderly (r : ServiceRun β) : Prop where
  ledger : Ledger r
  removals : (r.service.channelsToBeRemoved.map Channel.channelId).Nodup
  additions : (r.service.channelsToBeAdded.map Channel.channelId).Nodup
  supported : ∀ channel ∈ r.service.channelsToBeAdded, none ∉ channel.kinds
  hosted : ∃ env, r.service.environment = some env ∧ Hosted r.service.channels env

theorem initialised_orderly (newBuffer : β) : Orderly (initialised newBuffer) where
  ledger := initialised_ledger newBuffer
  removals := by simp [initialised, RtspService.new]
  additions := by simp [initialised, RtspService.new]
  supported := by simp [initialised, RtspService.new]
  hosted := ⟨_, rfl, createNew_hosted newBuffer⟩

/-- What the task does in an orderly state. -/
theorem Orderly.task (h : Orderly r) :
    ∃ env r' env', requestStep r .doCheckChannelsTask = .ok r' ∧ Orderly r' ∧
      r.service.environment = some env ∧ r'.service.environment = some env' ∧
      Hosted r'.service.channels env' ∧
      (∀ name, name ∈ env'.sessionNames ↔
        (name ∈ env.sessionNames ∧
          name ∉ r.service.channelsToBeRemoved.map Channel.streamName) ∨
        name ∈ r.service.channelsToBeAdded.map Channel.streamName) ∧
      ∀ channel, r'.service.channels.find channel.channelId = some channel ↔
        Remains r.service channel := by
  obtain ⟨env, henv, hhosted⟩ := h.hosted
  obtain ⟨m₁, env₁, hremove, hhosted₁, hnames₁⟩ :=
    removeChannels_hosted hhosted h.removals h.ledger.removals
  have hnew : ∀ channel ∈ r.service.channelsToBeAdded,
      m₁.find channel.channelId = none ∧ none ∉ channel.kinds := by
    intro channel hchannel
    rw [removeChannels_find hremove, (h.ledger.additions channel hchannel).1, ite_self]
    exact ⟨rfl, h.supported channel hchannel⟩
  obtain ⟨m₂, env₂, hadd, hhosted₂, hnames₂, hfind₂⟩ := addChannels_hosted hhosted₁ h.additions hnew
  have hstep : requestStep r .doCheckChannelsTask = .ok ⟨{ r.service with
      channels := m₂
      channelsToBeAdded := []
      channelsToBeRemoved := []
      environment := some env₂ }, r.accepted ++ [.doCheckChannelsTask]⟩ := by
    simp [requestStep, RtspService.doCheckChannelsTask, henv, hremove, hadd, bind, Except.bind,
      pure, Except.pure]
  refine ⟨env, _, env₂, hstep, ?_, henv, rfl, hhosted₂, fun name => ?_, fun channel => ?_⟩
  · exact
      { ledger := ledger_step h.ledger hstep
        removals := by simp
        additions := by simp
        supported := by simp
        hosted := ⟨env₂, rfl, hhosted₂⟩ }
  · rw [hnames₂, hnames₁]
  · rw [hfind₂, removeChannels_find hremove]
    unfold Remains
    refine or_congr_left ?_
    by_cases hqueue : channel.channelId ∈ r.service.channelsToBeRemoved.map Channel.channelId
    · simp [hqueue]
    · simp [hqueue]

theorem removeChannel_success_iff {channelId : ℕ} :
    (r.service.removeChannel channelId).1 = .success ↔
      r.service.channels.find channelId ≠ none := by
  unfold RtspService.removeChannel
  cases r.service.channels.find channelId <;> simp

theorem Orderly.createChannel {channel : Channel} (h : Orderly r)
    (hused : WellUsed r (.createChannel channel))
    (hstep : requestStep r (.createChannel channel) = .ok r') : Orderly r' := by
  have hledger := ledger_step h.ledger hstep
  rcases createChannel_step hstep with ⟨-, rfl⟩ | ⟨hfind, rfl⟩
  · exact h
  · obtain ⟨hkinds, hdead⟩ := hused (createChannel_success_iff.mpr hfind)
    have hnew : channel.channelId ∉ r.service.channelsToBeAdded.map Channel.channelId := by
      intro hmem
      obtain ⟨pending, hpending, hid⟩ := List.mem_map.mp hmem
      have hlive := (h.ledger.additions pending hpending).2
      rw [hid, hdead] at hlive
      cases hlive
    exact
      { ledger := hledger
        removals := h.removals
        additions := by
          rw [List.map_append, List.map_singleton]
          exact h.additions.append (List.nodup_singleton _) (by simpa using hnew)
        supported := by
          intro other hother
          rcases List.mem_append.mp hother with hother | hother
          · exact h.supported other hother
          · rw [List.mem_singleton.mp hother]
            exact hkinds
        hosted := h.hosted }

theorem Orderly.removeChannel {channelId : ℕ} (h : Orderly r)
    (hused : WellUsed r (.removeChannel channelId))
    (hstep : requestStep r (.removeChannel channelId) = .ok r') : Orderly r' := by
  have hledger := ledger_step h.ledger hstep
  rcases removeChannel_step hstep with ⟨-, rfl⟩ | ⟨channel, hfind, rfl⟩
  · exact h
  · have hknown : r.service.channels.find channelId ≠ none := by simp [hfind]
    have hlive := hused (removeChannel_success_iff.mpr hknown)
    have hnew : channelId ∉ r.service.channelsToBeRemoved.map Channel.channelId := by
      rcases h.ledger.live channelId hlive with hpending | ⟨-, hnew⟩
      · obtain ⟨pending, hpending, hid⟩ := List.mem_map.mp hpending
        have hunknown := (h.ledger.additions pending hpending).1
        rw [hid] at hunknown
        exact absurd hunknown hknown
      · exact hnew
    exact
      { ledger := hledger
        removals := by
          rw [List.map_append, List.map_singleton, ChannelMap.channelId_of_find hfind]
          exact h.removals.append (List.nodup_singleton _) (by simpa using hnew)
        additions := h.additions
        supported := h.supported
        hosted := h.hosted }

theorem orderly_step (h : Orderly r) (hused : WellUsed r request)
    (hstep : requestStep r request = .ok r') : Orderly r' := by
  cases request with
  | createChannel channel => exact h.createChannel hused hstep
  | removeChannel channelId => exact h.removeChannel hused hstep
  | doCheckChannelsTask =>
    obtain ⟨env, r₁, env', htask, hr₁, -⟩ := h.task
    rw [hstep] at htask
    cases htask
    exact hr₁

theorem run_orderly {newBuffer : β} {requests : List Request}
    (hused : Along requestStep (fun _ => WellUsed) (initialised newBuffer)
      requests)
    (h : run requestStep (initialised newBuffer) requests = .ok r) : Orderly r := by
  refine run_induction_along (R := fun _ r => Orderly r)
    (G := fun _ => WellUsed) (initialised_orderly newBuffer) ?_ hused h
  exact fun _ _ _ _ _ hm hG ht => orderly_step hm hG ht

/-- The task keeps the correspondence of an orderly state whose remaining channels have
different names. -/
theorem Orderly.task_corresponds {env : LiveEnvironment β} (h : Orderly r)
    (hcorr : Corresponds r.service env) (hnames : NamesDistinct r.service)
    (hstep : requestStep r .doCheckChannelsTask = .ok r') :
    ∃ env', Corresponds r'.service env' := by
  obtain ⟨env₀, r₁, env', htask, -, henv, henv', hhosted, hsessions, hfind⟩ := h.task
  rw [hstep] at htask
  cases htask
  rw [hcorr.environment] at henv
  cases henv
  have hsession : ∀ channel, Remains r.service channel → channel.streamName ∈ env'.sessionNames := by
    intro channel hremains
    rw [hsessions]
    rcases hremains with ⟨hknown, hkept⟩ | hadded
    · refine .inl ⟨hcorr.session_of_channel channel hknown, fun hmem => hkept ?_⟩
      obtain ⟨other, hother, hname⟩ := List.mem_map.mp hmem
      have hsame := hcorr.injective other channel (h.ledger.removals other hother) hknown hname
      rw [← hsame]
      exact List.mem_map_of_mem hother
    · exact .inr (List.mem_map_of_mem hadded)
  exact ⟨env',
    { environment := henv'
      nodup := hhosted.nodup
      channel_of_session := by
        intro name hname
        rw [sessionNames_eq] at hname
        obtain ⟨entry, hentry, rfl⟩ := List.mem_map.mp hname
        obtain ⟨owner, howner, hownerName, -⟩ := hhosted.owned entry hentry
        exact ⟨owner, howner, hownerName⟩
      session_of_channel := fun channel hknown => hsession channel ((hfind channel).mp hknown)
      injective := fun channel other hc ho =>
        hnames channel other ((hfind channel).mp hc) ((hfind other).mp ho) }⟩

/-- A request that the task has not seen yet changes neither store. -/
theorem corresponds_step {env : LiveEnvironment β} (h : Orderly r)
    (hcorr : Corresponds r.service env)
    (hnames : request = .doCheckChannelsTask → NamesDistinct r.service)
    (hstep : requestStep r request = .ok r') : ∃ env', Corresponds r'.service env' := by
  cases request with
  | createChannel channel =>
    rcases createChannel_step hstep with ⟨-, rfl⟩ | ⟨-, rfl⟩
    · exact ⟨env, hcorr⟩
    · exact ⟨env, hcorr.environment, hcorr.nodup, hcorr.channel_of_session,
        hcorr.session_of_channel, hcorr.injective⟩
  | removeChannel channelId =>
    rcases removeChannel_step hstep with ⟨-, rfl⟩ | ⟨channel, -, rfl⟩
    · exact ⟨env, hcorr⟩
    · exact ⟨env, hcorr.environment, hcorr.nodup, hcorr.channel_of_session,
        hcorr.session_of_channel, hcorr.injective⟩
  | doCheckChannelsTask => exact h.task_corresponds hcorr (hnames rfl) hstep

theorem initialised_corresponds (newBuffer : β) :
    Corresponds (initialised newBuffer).service (.createNew newBuffer) where
  environment := rfl
  nodup := by simp [sessionNames, LiveEnvironment.createNew]
  channel_of_session := by simp [sessionNames, LiveEnvironment.createNew]
  session_of_channel := by simp [initialised, RtspService.new]
  injective := by simp [initialised, RtspService.new]

/-- In a well-used run no call faults, and channels and sessions correspond after every run of
the task exactly when the channels that it is to leave have different names. -/
theorem sessions_correspond_iff (newBuffer : β) (requests : List Request)
    (hused : Along requestStep (fun _ => WellUsed) (initialised newBuffer)
      requests) :
    (∃ r, run requestStep (initialised newBuffer) requests = .ok r) ∧
    (Along requestStep (fun _ r request => request = .doCheckChannelsTask →
        ∀ r', requestStep r request = .ok r' → ∃ env, Corresponds r'.service env)
        (initialised newBuffer) requests ↔
      Along requestStep (fun _ r request => request = .doCheckChannelsTask →
        NamesDistinct r.service) (initialised newBuffer) requests) := by
  refine ⟨?_, ?_, ?_⟩
  · cases h : run requestStep (initialised newBuffer) requests with
    | ok r => exact ⟨r, rfl⟩
    | error f =>
      obtain ⟨before, request, after, m, rfl, hm, hf⟩ := run_error h
      have hm := run_orderly hused.of_append hm
      cases request with
      | createChannel channel => cases hf
      | removeChannel channelId => cases hf
      | doCheckChannelsTask =>
        obtain ⟨env, r', env', htask, -⟩ := hm.task
        rw [hf] at htask
        cases htask
  · intro hcorr before request after he m hm hrequest channel other hchannel hother hname
    subst he hrequest
    have horderly := run_orderly hused.of_append hm
    obtain ⟨env, r', env', htask, -, -, -, -, -, hfind⟩ := horderly.task
    obtain ⟨env'', hcorr'⟩ := hcorr before _ after rfl m hm rfl r' htask
    exact hcorr'.injective channel other ((hfind channel).mpr hchannel)
      ((hfind other).mpr hother) hname
  · intro hnames before request after he m hm _ r' hstep
    subst he
    have hreach : ∃ env, Corresponds m.service env := by
      refine run_induction_along (R := fun _ r => Orderly r ∧ ∃ env, Corresponds r.service env)
        (G := fun _ r request => WellUsed r request ∧
          (request = .doCheckChannelsTask → NamesDistinct r.service))
        ⟨initialised_orderly newBuffer, _, initialised_corresponds newBuffer⟩ ?_ ?_ hm |>.2
      · rintro es s e t - ⟨hs, env, henv⟩ ⟨hG, hG'⟩ ht
        exact ⟨orderly_step hs hG ht, corresponds_step hs henv hG' ht⟩
      · intro before' e after' he m' hm'
        exact ⟨hused.of_append before' e after' he m' hm', hnames.of_append before' e after' he m' hm'⟩
    obtain ⟨env, henv⟩ := hreach
    exact corresponds_step (run_orderly hused.of_append hm) henv
      (hnames before request after rfl m hm) hstep

/-- Two channels of one name, of which the first is removed. -/
def sharedName : List Request :=
  [.createChannel (videoChannel 1 "a" "H264"), .createChannel (videoChannel 2 "a" "H264"),
    .doCheckChannelsTask, .removeChannel 1, .doCheckChannelsTask]

theorem sessions_correspond_sharedName :
    (∃ r, run requestStep (initialised ()) sharedName = .ok r) ∧
    (Along requestStep (fun _ r request => request = .doCheckChannelsTask →
        ∀ r', requestStep r request = .ok r' → ∃ env, Corresponds r'.service env)
        (initialised ()) sharedName ↔
      Along requestStep (fun _ r request => request = .doCheckChannelsTask →
        NamesDistinct r.service) (initialised ()) sharedName) :=
  sessions_correspond_iff () sharedName (by decide +kernel)

/-- The second channel stays in the map but loses the session of its name. -/
theorem shared_session_lost :
    Along requestStep (fun _ => WellUsed) (initialised ()) sharedName ∧
    (run requestStep (initialised ()) sharedName).map (fun r =>
      (r.service.channels.find 2, r.service.environment.map LiveEnvironment.sessionNames)) =
        .ok (some (videoChannel 2 "a" "H264"), some []) := by
  decide +kernel

end Runs

end LiveMediaExt.Rtsp
