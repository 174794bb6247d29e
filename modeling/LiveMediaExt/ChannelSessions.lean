import LiveMediaExt.ChannelRequests

/-!
# Channels of the service and sessions of the server

The service indexes channels by id, the server sessions by name. One addition gives a channel
its session when the name and the places in the scheduler are free; over a whole run the two
stores agree as long as no two channels share a name.
-/
namespace LiveMediaExt.Rtsp
open Execution Media Subsession Scheduler ServiceRun RtspService LiveEnvironment

section Addition
variable {β : Type} {env env' : LiveEnvironment β} {channel : Channel} {m m' : ChannelMap}

/-- The server has got a session with one registered subsession for each descriptor. -/
def SessionGained (channel : Channel) (env env' : LiveEnvironment β) : Prop :=
  ∃ subsessions,
    env'.serverMediaSessions = env.serverMediaSessions ++ [⟨channel.streamName, subsessions⟩] ∧
    subsessions.map (fun sub => some sub.kind) = channel.kinds ∧
    ∀ sub ∈ subsessions,
      env'.scheduler.registered (sub.channelId, sub.sourceId) = some sub.self

/-- Creation has failed on an unsupported codec and left nothing behind. -/
def CreationUndone (channel : Channel) (m m' : ChannelMap) (env env' : LiveEnvironment β) :
    Prop :=
  env.lookupServerMediaSession channel.streamName = none ∧ none ∈ channel.kinds ∧ m' = m ∧
    env'.serverMediaSessions = env.serverMediaSessions ∧
    env'.scheduler.registered = env.scheduler.registered

/-- The processing of an addition ends in either of the two ways. -/
def AdditionComplete (s : ChannelMap × LiveEnvironment β) (channel : Channel) : Prop :=
  ∃ m' env', addStep s channel = .ok (m', env') ∧
    ((m'.find channel.channelId = some channel ∧ SessionGained channel s.2 env') ∨
      CreationUndone channel s.1 m' s.2 env')

/-- All codecs are supported, the name is new and the places of the subsessions are free. -/
def AdditionPossible (s : ChannelMap × LiveEnvironment β) (channel : Channel) : Prop :=
  none ∉ channel.kinds ∧ s.2.lookupServerMediaSession channel.streamName = none ∧
    ∀ i < channel.kinds.length, s.2.scheduler.registered (channel.channelId, i) = none

theorem additionComplete_iff (s : ChannelMap × LiveEnvironment β) (channel : Channel) :
    AdditionComplete s channel ↔ AdditionPossible s channel := by
  obtain ⟨m, env⟩ := s
  constructor
  · rintro ⟨m', env', hadd, houtcome⟩
    obtain ⟨-, henv⟩ := addQueued_ok hadd
    have hname : env.lookupServerMediaSession channel.streamName = none := by
      rcases houtcome with ⟨-, subsessions, hsessions, -⟩ | ⟨hname, -⟩
      · by_contra hexists
        rw [addRtspMediaSession_exists hexists] at henv
        cases henv
        simp at hsessions
      · exact hname
    have hkinds : none ∉ channel.kinds := fun hnone =>
      addRtspMediaSession_unsupported hname hnone henv
    refine ⟨hkinds, hname, fun i hi => ?_⟩
    by_contra htaken
    rw [addRtspMediaSession_taken hname hkinds hi htaken] at henv
    cases henv
  · rintro ⟨hkinds, hname, hfree⟩
    obtain ⟨subsessions, env', henv, hgains⟩ := addRtspMediaSession_free hname hkinds hfree
    refine ⟨m.insert channel, env', ?_, .inl ⟨?_, subsessions, hgains.serverMediaSessions,
      hgains.kind_eq, ?_⟩⟩
    · simp [addStep, addQueued, henv, bind, Except.bind, pure, Except.pure]
    · rw [ChannelMap.find_insert, if_pos rfl]
    · intro sub hsub
      obtain ⟨hid, hregistered⟩ := hgains.registered sub hsub
      rw [hid, hregistered]

/-- Every addition that a run of the task processes meets `P`. -/
def TaskAdditions (P : ChannelMap × LiveEnvironment β → Channel → Prop) (r : ServiceRun β)
    (request : Request) : Prop :=
  request = .doCheckChannelsTask → ∀ env s, r.service.environment = some env →
    removeChannels r.service.channelsToBeRemoved r.service.channels env = .ok s →
    Along addStep (fun _ => P) s r.service.channelsToBeAdded

/-- All additions of a run end in either of the two ways exactly when each is possible at its
turn. -/
theorem additions_complete_iff (r : ServiceRun β) (requests : List Request) :
    Along requestStep (fun _ => TaskAdditions AdditionComplete) r requests ↔
      Along requestStep (fun _ => TaskAdditions AdditionPossible) r requests := by
  refine along_congr fun _ r request _ => ?_
  refine forall_congr' fun _ => forall₂_congr fun env s => forall₂_congr fun _ _ => ?_
  exact along_congr fun _ s channel _ => additionComplete_iff s channel

/-- The task goes on to announce the session that could not be created. -/
theorem unsupported_codec_fault :
    run requestStep (initialised ()) [.createChannel (videoChannel 7 "a" "H265"),
      .doCheckChannelsTask] = .error .nullPointer := by
  decide +kernel

end Addition

section Hosting
variable {β : Type} {env env' : LiveEnvironment β} {channel : Channel} {m m' : ChannelMap}
  {queue : List Channel}

/-- Sessions have different names, belong to known channels and account for every registered
subsession. -/
structure Hosted (m : ChannelMap) (env : LiveEnvironment β) : Prop where
  nodup : env.sessionNames.Nodup
  owned : ∀ entry ∈ env.table, ∃ channel, m.find channel.channelId = some channel ∧
    channel.streamName = entry.1 ∧ ∀ p ∈ entry.2, p.1 = channel.channelId
  placed : ∀ p, env.scheduler.registered p ≠ none → ∃ entry ∈ env.table, p ∈ entry.2

theorem createNew_hosted (newBuffer : β) : Hosted .empty (.createNew newBuffer) where
  nodup := by simp [sessionNames, LiveEnvironment.createNew]
  owned := by simp [table, LiveEnvironment.createNew]
  placed := by
    intro p hp
    simp [LiveEnvironment.createNew, LiveSourceTaskScheduler0.createNew,
      LiveSourceTaskScheduler0.registered, NestedMap.lookup_empty] at hp

theorem Hosted.remove (h : Hosted m env) (hfind : m.find channel.channelId = some channel) :
    Hosted (m.erase channel.channelId) (env.removeRtspMediaSession channel) := by
  obtain ⟨htable, hkept⟩ := env.removeRtspMediaSession_spec channel
  exact
    { nodup := by
        rw [sessionNames_eq, htable]
        exact (env.sessionNames_eq ▸ h.nodup).sublist (List.filter_sublist.map _)
      owned := by
        intro entry hentry
        rw [htable, List.mem_filter] at hentry
        obtain ⟨owner, howner, hname, hplaces⟩ := h.owned entry hentry.1
        have hne : channel.channelId ≠ owner.channelId := by
          intro heq
          rw [heq, howner] at hfind
          cases hfind
          simp [hname] at hentry
        refine ⟨owner, ?_, hname, hplaces⟩
        rw [ChannelMap.find_erase, if_neg hne, howner]
      placed := by
        intro p hp
        obtain ⟨hbefore, hout⟩ := hkept h.nodup p hp
        obtain ⟨entry, hentry, hp⟩ := h.placed p hbefore
        refine ⟨entry, ?_, hp⟩
        rw [htable, List.mem_filter]
        refine ⟨hentry, ?_⟩
        have hname : entry.1 ≠ channel.streamName := fun heq => hout entry hentry heq hp
        simpa using hname }

theorem Hosted.insert (h : Hosted m env) (hfind : m.find channel.channelId = none) :
    Hosted (m.insert channel) env where
  nodup := h.nodup
  owned := by
    intro entry hentry
    obtain ⟨owner, howner, hname, hplaces⟩ := h.owned entry hentry
    have hne : channel.channelId ≠ owner.channelId := by
      intro heq
      rw [heq, howner] at hfind
      cases hfind
    refine ⟨owner, ?_, hname, hplaces⟩
    rw [ChannelMap.find_insert, if_neg hne, howner]
  placed := h.placed

theorem Hosted.gain {subsessions : List (LiveMediaSubsession β)} (h : Hosted m env)
    (hfind : m.find channel.channelId = some channel)
    (hname : env.lookupServerMediaSession channel.streamName = none)
    (hgains : Gains channel env env' subsessions) : Hosted m env' := by
  have htable : env'.table = env.table ++
      [(channel.streamName, subsessions.map fun sub => (sub.channelId, sub.sourceId))] := by
    simp [table, hgains.serverMediaSessions, ServerMediaSession.entry]
  rw [lookup_eq_none_iff] at hname
  exact
    { nodup := by
        rw [sessionNames_eq, htable, List.map_append, List.map_singleton, ← sessionNames_eq]
        refine h.nodup.append (List.nodup_singleton _) ?_
        rw [List.disjoint_singleton, sessionNames_eq]
        intro hmem
        obtain ⟨entry, hentry, heq⟩ := List.mem_map.mp hmem
        exact hname entry hentry heq
      owned := by
        intro entry hentry
        rw [htable] at hentry
        rcases List.mem_append.mp hentry with hentry | hentry
        · exact h.owned entry hentry
        · rw [List.mem_singleton.mp hentry]
          refine ⟨channel, hfind, rfl, fun p hp => ?_⟩
          obtain ⟨sub, hsub, rfl⟩ := List.mem_map.mp hp
          exact (hgains.registered sub hsub).1
      placed := by
        intro p hp
        rw [htable]
        by_cases hnew : p.1 = channel.channelId ∧ p.2 ∈ List.range channel.kinds.length
        · refine ⟨_, List.mem_append_right _ (List.mem_singleton_self _), ?_⟩
          rw [← hgains.sourceId_eq, List.mem_map] at hnew
          obtain ⟨hid, sub, hsub, hsource⟩ := hnew
          refine List.mem_map.mpr ⟨sub, hsub, ?_⟩
          rw [(hgains.registered sub hsub).1, hsource, ← hid]
        · rw [not_and_or] at hnew
          rw [hgains.others p hnew] at hp
          obtain ⟨entry, hentry, hp⟩ := h.placed p hp
          exact ⟨entry, List.mem_append_left _ hentry, hp⟩ }

/-- The place of a subsession of an unknown channel is free. -/
theorem Hosted.free (h : Hosted m env) (hfind : m.find channel.channelId = none) (i : ℕ) :
    env.scheduler.registered (channel.channelId, i) = none := by
  by_contra htaken
  obtain ⟨entry, hentry, hp⟩ := h.placed _ htaken
  obtain ⟨owner, howner, -, hplaces⟩ := h.owned entry hentry
  have hid := hplaces _ hp
  rw [← hid, hfind] at howner
  cases howner

theorem addQueued_hosted (h : Hosted m env) (hfind : m.find channel.channelId = none)
    (hkinds : none ∉ channel.kinds) :
    ∃ env', addQueued channel m env = .ok (m.insert channel, env') ∧
      Hosted (m.insert channel) env' ∧ ∀ name, name ∈ env'.sessionNames ↔
        name ∈ env.sessionNames ∨ name = channel.streamName := by
  have hinsert := h.insert hfind
  by_cases hname : env.lookupServerMediaSession channel.streamName = none
  · obtain ⟨subsessions, env', henv, hgains⟩ :=
      addRtspMediaSession_free hname hkinds fun i _ => h.free hfind i
    refine ⟨env', ?_, hinsert.gain ?_ hname hgains, fun name => ?_⟩
    · simp [addQueued, henv, bind, Except.bind, pure, Except.pure]
    · rw [ChannelMap.find_insert, if_pos rfl]
    · simp [sessionNames, hgains.serverMediaSessions]
  · refine ⟨env, ?_, hinsert, fun name => ?_⟩
    · simp [addQueued, addRtspMediaSession_exists hname, bind, Except.bind, pure, Except.pure]
    · rw [lookup_eq_none_iff] at hname
      push Not at hname
      obtain ⟨entry, hentry, heq⟩ := hname
      have hmem : channel.streamName ∈ env.sessionNames := by
        rw [← heq, sessionNames_eq]
        exact List.mem_map_of_mem hentry
      constructor
      · exact .inl
      · rintro (hbefore | rfl)
        · exact hbefore
        · exact hmem

theorem removeQueued_hosted (h : Hosted m env) (hfind : m.find channel.channelId = some channel) :
    ∃ env', removeQueued channel m env = .ok (m.erase channel.channelId, env') ∧
      Hosted (m.erase channel.channelId) env' ∧ ∀ name, name ∈ env'.sessionNames ↔
        name ∈ env.sessionNames ∧ name ≠ channel.streamName := by
  refine ⟨env.removeRtspMediaSession channel, by simp [removeQueued, hfind], h.remove hfind, ?_⟩
  intro name
  rw [sessionNames_eq, sessionNames_eq, (env.removeRtspMediaSession_spec channel).1]
  simp only [List.mem_map, List.mem_filter, bne_iff_ne]
  constructor
  · rintro ⟨entry, ⟨hentry, hne⟩, rfl⟩
    exact ⟨⟨entry, hentry, rfl⟩, hne⟩
  · rintro ⟨⟨entry, hentry, rfl⟩, hne⟩
    exact ⟨entry, ⟨hentry, hne⟩, rfl⟩

end Hosting

end LiveMediaExt.Rtsp
