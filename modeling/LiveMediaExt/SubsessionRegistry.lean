import LiveMediaExt.LiveSourcePolling
import LiveMediaExt.ServiceLifecycle
import LiveMediaExt.SessionCreation
import LiveMediaExt.SessionRemoval

/-!
# Registered subsessions are alive

The scheduler keeps bare pointers to subsessions. However channels are added and removed while the
service is restarted, every pointer in the registry is that of a subsession of a session of the
server, so the samples of a turn go to live subsessions of their own source.
-/
namespace LiveMediaExt.Rtsp
open Execution Media Subsession Scheduler ServiceRun LiveSourceTaskScheduler0

section Roll
variable {β : Type}

/-- The address of a subsession and its place in the scheduler. -/
def identity (sub : LiveMediaSubsession β) : ℕ × ℕ × ℕ := (sub.self, sub.channelId, sub.sourceId)

namespace LiveEnvironment
variable {env env' : LiveEnvironment β} {entries : List (ℕ × ℕ × ℕ)} {channel : Channel}

/-- The subsessions of the server. -/
def subsessions (env : LiveEnvironment β) : List (LiveMediaSubsession β) :=
  env.serverMediaSessions.flatMap ServerMediaSession.subsessions

/-- The subsessions with the given identities have different addresses, all in use, and all that
is registered is theirs. -/
structure Accounted (entries : List (ℕ × ℕ × ℕ)) (env : LiveEnvironment β) : Prop where
  used : ∀ entry ∈ entries, entry.1 < env.nextSubsession
  distinct : (entries.map Prod.fst).Nodup
  alive : ∀ place self, env.scheduler.registered place = some self → (self, place) ∈ entries

/-- A new subsession is registered at its own place. -/
theorem Accounted.newSubsession (h : Accounted entries env) {sessionName : String}
    {channelId sourceId : ℕ} {kind : SubsessionKind} {sub : LiveMediaSubsession β}
    (hnew : env.newSubsession sessionName channelId sourceId kind = .ok (sub, env')) :
    Accounted (entries ++ [identity sub]) env' ∧
      env'.serverMediaSessions = env.serverMediaSessions := by
  obtain ⟨scheduler, hadd, hnew⟩ := bind_ok.mp hnew
  obtain ⟨-, hregistered⟩ := addMediaSubsession_ok hadd
  cases hnew
  refine ⟨⟨?_, ?_, ?_⟩, rfl⟩
  · intro entry hentry
    rcases List.mem_append.mp hentry with hentry | hentry
    · exact (h.used entry hentry).trans (Nat.lt_succ_self _)
    · rw [List.mem_singleton.mp hentry]
      exact Nat.lt_succ_self _
  · rw [List.map_append, List.map_singleton]
    refine h.distinct.append (List.nodup_singleton _) ?_
    rw [List.disjoint_singleton]
    intro hmem
    obtain ⟨entry, hentry, hself⟩ := List.mem_map.mp hmem
    have hlt := h.used entry hentry
    rw [hself] at hlt
    exact lt_irrefl _ hlt
  · intro place self hplace
    rw [hregistered] at hplace
    by_cases hsame : place = (channelId, sourceId)
    · subst hsame
      rw [Function.update_self] at hplace
      rw [← Option.some.inj hplace]
      exact List.mem_append_right _ (List.mem_singleton_self _)
    · rw [Function.update_of_ne hsame] at hplace
      exact List.mem_append_left _ (h.alive place self hplace)

theorem Accounted.buildSubsessions {kinds : List SubsessionKind} {sourceId : ℕ}
    {built : List (LiveMediaSubsession β)} (h : Accounted entries env)
    (hbuild : buildSubsessions channel sourceId kinds env = .ok (built, env')) :
    Accounted (entries ++ built.map identity) env' ∧
      env'.serverMediaSessions = env.serverMediaSessions := by
  induction kinds generalizing sourceId env built entries with
  | nil =>
    cases hbuild
    rw [List.map_nil, List.append_nil]
    exact ⟨h, rfl⟩
  | cons kind kinds ih =>
    obtain ⟨⟨sub, env₁⟩, hnew, hbuild⟩ := bind_ok.mp hbuild
    obtain ⟨⟨rest, env₂⟩, hrest, hbuild⟩ := bind_ok.mp hbuild
    cases hbuild
    obtain ⟨hfirst, hsame⟩ := h.newSubsession hnew
    obtain ⟨hall, hsame'⟩ := ih hfirst hrest
    rw [List.append_assoc] at hall
    exact ⟨hall, hsame'.trans hsame⟩

/-- A place that is still registered belongs to whom it did. -/
theorem closeServerMediaSession_kept {subs : List (LiveMediaSubsession β)} {place : ℕ × ℕ}
    {self : ℕ} (h : (subs.foldl deleteSubsession env).scheduler.registered place = some self) :
    env.scheduler.registered place = some self := by
  induction subs generalizing env with
  | nil => exact h
  | cons sub rest ih =>
    have hkept := ih h
    rw [deleteSubsession] at hkept
    dsimp only at hkept
    by_cases hfree : env.scheduler.registered (sub.channelId, sub.sourceId) = none
    · rw [removeMediaSubsession_free hfree] at hkept
      exact hkept
    · rw [removeMediaSubsession_taken hfree] at hkept
      have herase := NestedMap.lookup_erase env.scheduler.mediaSessions sub.channelId place
      unfold registered at hkept ⊢
      rw [herase] at hkept
      split_ifs at hkept
      exact hkept

theorem closeServerMediaSession_nextSubsession (subs : List (LiveMediaSubsession β))
    (env : LiveEnvironment β) :
    (subs.foldl deleteSubsession env).nextSubsession = env.nextSubsession := by
  induction subs generalizing env with
  | nil => rfl
  | cons sub rest ih => exact ih (env.deleteSubsession sub)

/-- The identities of the subsessions of a server. -/
def roll (env : LiveEnvironment β) : List (ℕ × ℕ × ℕ) := env.subsessions.map identity

/-- The invariant of a server. -/
structure Sound (env : LiveEnvironment β) : Prop where
  names : env.sessionNames.Nodup
  accounted : Accounted env.roll env

theorem createNew_sound (newBuffer : β) : Sound (.createNew newBuffer) where
  names := List.nodup_nil
  accounted :=
    { used := by simp [roll, subsessions, LiveEnvironment.createNew]
      distinct := by simp [roll, subsessions, LiveEnvironment.createNew]
      alive := by
        intro place self hplace
        simp [LiveEnvironment.createNew, LiveSourceTaskScheduler0.createNew, registered,
          NestedMap.lookup_empty] at hplace }

/-- An addition that returns has found the name or built the subsessions of a new session. -/
theorem Sound.addRtspMediaSession (h : Sound env)
    (hadd : env.addRtspMediaSession channel = .ok env') : Sound env' := by
  by_cases hname : env.lookupServerMediaSession channel.streamName = none
  · have hkinds : none ∉ channel.kinds := fun hnone =>
      addRtspMediaSession_unsupported hname hnone hadd
    obtain ⟨kinds, hsome⟩ := exists_map_some hkinds
    rw [LiveEnvironment.addRtspMediaSession, hname] at hadd
    obtain ⟨⟨sms, env₁⟩, hsms, hadd⟩ := bind_ok.mp hadd
    rw [createNewSMS_supported hsome] at hsms
    obtain ⟨⟨built, env₂⟩, hbuild, hsms⟩ := bind_ok.mp hsms
    cases hsms
    cases hadd
    obtain ⟨haccounted, hsame⟩ := h.accounted.buildSubsessions hbuild
    have hlookup : env₁.lookupServerMediaSession channel.streamName = none := by
      unfold lookupServerMediaSession at hname ⊢
      rw [hsame, hname]
    have hadded : env₁.addServerMediaSession (some ⟨channel.streamName, built⟩) =
        { env₁ with serverMediaSessions :=
          env₁.serverMediaSessions ++ [⟨channel.streamName, built⟩] } := by
      simp only [addServerMediaSession, hlookup]
    rw [hadded]
    constructor
    · have hnames : ({ env₁ with serverMediaSessions := env₁.serverMediaSessions ++
          [⟨channel.streamName, built⟩] } : LiveEnvironment β).sessionNames =
          env.sessionNames ++ [channel.streamName] := by
        simp [sessionNames, hsame]
      rw [hnames]
      refine h.names.append (List.nodup_singleton _) ?_
      rw [List.disjoint_singleton, sessionNames_eq]
      intro hmem
      obtain ⟨entry, hentry, heq⟩ := List.mem_map.mp hmem
      exact lookup_eq_none_iff.mp hname entry hentry heq
    · have hroll : ({ env₁ with serverMediaSessions := env₁.serverMediaSessions ++
          [⟨channel.streamName, built⟩] } : LiveEnvironment β).roll =
          env.roll ++ built.map identity := by
        simp [roll, subsessions, hsame]
      rw [hroll]
      exact ⟨haccounted.used, haccounted.distinct, haccounted.alive⟩
  · rw [addRtspMediaSession_exists hname] at hadd
    cases hadd
    exact h

/-- Kicking clients changes no subsession's identity. -/
theorem kickClient_identities (env : LiveEnvironment β) (clientId : ℕ) :
    (env.kickClient clientId).serverMediaSessions.map
        (fun sms => (sms.streamName, sms.subsessions.map identity)) =
      env.serverMediaSessions.map (fun sms => (sms.streamName, sms.subsessions.map identity)) ∧
    (env.kickClient clientId).scheduler = env.scheduler ∧
    (env.kickClient clientId).nextSubsession = env.nextSubsession := by
  unfold kickClient
  split_ifs
  · refine ⟨?_, rfl, rfl⟩
    simp [identity, Function.comp_def]
  · exact ⟨rfl, rfl, rfl⟩

theorem endServerSession_identities (session : String) (env : LiveEnvironment β) :
    (env.endServerSession session).serverMediaSessions.map
        (fun sms => (sms.streamName, sms.subsessions.map identity)) =
      env.serverMediaSessions.map (fun sms => (sms.streamName, sms.subsessions.map identity)) ∧
    (env.endServerSession session).scheduler = env.scheduler ∧
    (env.endServerSession session).nextSubsession = env.nextSubsession := by
  have hall (clientIds : List ℕ) (env : LiveEnvironment β) :
      (clientIds.foldl kickClient env).serverMediaSessions.map
          (fun sms => (sms.streamName, sms.subsessions.map identity)) =
        env.serverMediaSessions.map (fun sms => (sms.streamName, sms.subsessions.map identity)) ∧
      (clientIds.foldl kickClient env).scheduler = env.scheduler ∧
      (clientIds.foldl kickClient env).nextSubsession = env.nextSubsession := by
    induction clientIds generalizing env with
    | nil => exact ⟨rfl, rfl, rfl⟩
    | cons clientId rest ih =>
      obtain ⟨hrest, hscheduler, hnext⟩ := ih (env.kickClient clientId)
      obtain ⟨hfirst, hscheduler', hnext'⟩ := env.kickClient_identities clientId
      exact ⟨hrest.trans hfirst, hscheduler.trans hscheduler', hnext.trans hnext'⟩
  unfold endServerSession
  cases env.lookupServerMediaSession session with
  | none => exact ⟨rfl, rfl, rfl⟩
  | some sms => exact hall _ env

/-- The invariant speaks of names, identities and the registry only. -/
theorem Sound.congr (h : Sound env)
    (hsame : env'.serverMediaSessions.map
        (fun sms => (sms.streamName, sms.subsessions.map identity)) =
      env.serverMediaSessions.map (fun sms => (sms.streamName, sms.subsessions.map identity)))
    (hscheduler : env'.scheduler = env.scheduler)
    (hnext : env'.nextSubsession = env.nextSubsession) : Sound env' := by
  have hnames : env'.sessionNames = env.sessionNames := by
    have hfirst := congrArg (List.map Prod.fst) hsame
    simpa [sessionNames, Function.comp_def] using hfirst
  have hroll : env'.roll = env.roll := by
    have hsecond := congrArg (List.flatMap Prod.snd) hsame
    simpa [roll, subsessions, List.map_flatMap, List.flatMap_map] using hsecond
  refine ⟨by rw [hnames]; exact h.names, ?_⟩
  rw [hroll]
  exact
    { used := by
        rw [hnext]
        exact h.accounted.used
      distinct := h.accounted.distinct
      alive := by
        rw [hscheduler]
        exact h.accounted.alive }

/-- A session that goes takes its places with it. -/
theorem Sound.removeServerMediaSession (h : Sound env) {sms : ServerMediaSession β}
    (hmem : sms ∈ env.serverMediaSessions) : Sound (env.removeServerMediaSession sms) := by
  set kept := env.serverMediaSessions.filter fun other => other.streamName != sms.streamName
    with hkept
  have hsessions : (env.removeServerMediaSession sms).serverMediaSessions = kept :=
    closeServerMediaSession_sessions _ _
  have hsublist : kept.Sublist env.serverMediaSessions := List.filter_sublist
  have hnext : (env.removeServerMediaSession sms).nextSubsession = env.nextSubsession :=
    closeServerMediaSession_nextSubsession _ _
  have hroll : (env.removeServerMediaSession sms).roll =
      (kept.flatMap ServerMediaSession.subsessions).map identity := by
    unfold roll subsessions
    rw [hsessions]
  have hless : (env.removeServerMediaSession sms).roll.Sublist env.roll := by
    rw [hroll]
    exact (hsublist.flatMap _).map _
  refine ⟨?_, ?_, ?_, ?_⟩
  · unfold sessionNames
    rw [hsessions]
    exact h.names.sublist (hsublist.map _)
  · intro entry hentry
    rw [hnext]
    exact h.accounted.used entry (hless.subset hentry)
  · exact h.accounted.distinct.sublist (hless.map _)
  · intro place self hplace
    have hbefore := closeServerMediaSession_kept hplace
    have hne : (env.removeServerMediaSession sms).scheduler.registered place ≠ none := by
      rw [hplace]
      exact Option.some_ne_none _
    obtain ⟨-, hout⟩ := closeServerMediaSession_registered hne
    have hentry := h.accounted.alive place self hbefore
    obtain ⟨sub, hsub, hidentity⟩ := List.mem_map.mp hentry
    obtain ⟨owner, howner, hsub⟩ := List.mem_flatMap.mp hsub
    rw [hroll]
    refine List.mem_map.mpr ⟨sub, List.mem_flatMap.mpr ⟨owner, ?_, hsub⟩, hidentity⟩
    rw [hkept, List.mem_filter]
    refine ⟨howner, ?_⟩
    rw [bne_iff_ne]
    intro hname
    have hsame : owner = sms := List.inj_on_of_nodup_map h.names howner hmem hname
    subst hsame
    refine hout (List.mem_map.mpr ⟨sub, hsub, ?_⟩)
    exact congrArg Prod.snd hidentity

theorem Sound.removeRtspMediaSession (h : Sound env) (channel : Channel) :
    Sound (env.removeRtspMediaSession channel) := by
  obtain ⟨hsame, hscheduler, hnext⟩ := env.endServerSession_identities channel.streamName
  have hended := h.congr hsame hscheduler hnext
  unfold LiveEnvironment.removeRtspMediaSession
  dsimp only
  cases hlookup :
      (env.endServerSession channel.streamName).lookupServerMediaSession channel.streamName with
  | none => exact hended
  | some sms => exact hended.removeServerMediaSession (List.mem_of_find?_eq_some hlookup)

end LiveEnvironment

end Roll

section Lifecycle
variable {β : Type} {r r' : ServiceRun β} {m m' : ChannelMap} {env env' : LiveEnvironment β}
  {queue : List Channel}
open LiveEnvironment

theorem removeChannels_sound (hsound : env.Sound)
    (h : RtspService.removeChannels queue m env = .ok (m', env')) : env'.Sound := by
  induction queue generalizing m env with
  | nil =>
    cases h
    exact hsound
  | cons channel queue ih =>
    obtain ⟨⟨m₁, env₁⟩, hremove, h⟩ := bind_ok.mp h
    obtain ⟨-, -, rfl⟩ := RtspService.removeQueued_ok hremove
    exact ih (hsound.removeRtspMediaSession channel) h

theorem addChannels_sound (hsound : env.Sound)
    (h : RtspService.addChannels queue m env = .ok (m', env')) : env'.Sound := by
  induction queue generalizing m env with
  | nil =>
    cases h
    exact hsound
  | cons channel queue ih =>
    obtain ⟨⟨m₁, env₁⟩, hadd, h⟩ := bind_ok.mp h
    obtain ⟨-, hadd⟩ := RtspService.addQueued_ok hadd
    exact ih (hsound.addRtspMediaSession hadd) h

/-- The server of a service, if it has one, meets the invariant. -/
def ServerSound (r : ServiceRun β) : Prop :=
  ∀ env, r.service.environment = some env → env.Sound

theorem requestStep_sound {request : Request} (h : ServerSound r)
    (hstep : requestStep r request = .ok r') : ServerSound r' := by
  cases request with
  | createChannel channel =>
    rcases createChannel_step hstep with ⟨-, rfl⟩ | ⟨-, rfl⟩
    · exact h
    · exact h
  | removeChannel channelId =>
    rcases removeChannel_step hstep with ⟨-, rfl⟩ | ⟨channel, -, rfl⟩
    · exact h
    · exact h
  | doCheckChannelsTask =>
    obtain ⟨env, m₁, env₁, m₂, env₂, henv, hremove, hadd, rfl⟩ := doCheckChannelsTask_step hstep
    intro env' henv'
    obtain rfl := Option.some.inj henv'
    exact addChannels_sound (removeChannels_sound (h env henv) hremove) hadd

theorem lifecycleStep_sound {event : LifecycleEvent β} (h : ServerSound r)
    (hstep : lifecycleStep r event = .ok r') : ServerSound r' := by
  cases event with
  | init newBuffer =>
    let r₁ : ServiceRun β :=
      { r with service := { r.service with environment := some (.createNew newBuffer) } }
    have hinit : ServerSound r₁ := by
      intro env henv
      obtain rfl := Option.some.inj henv
      exact createNew_sound newBuffer
    have htask : requestStep r₁ .doCheckChannelsTask = .ok r' := hstep
    exact requestStep_sound hinit htask
  | start =>
    obtain ⟨service, hservice, hstep⟩ := bind_ok.mp hstep
    obtain ⟨-, rfl⟩ := start_ok hservice
    cases hstep
    exact h
  | stop =>
    cases hstep
    exact h
  | leaveEventLoop =>
    cases hstep
    intro env henv
    dsimp only at henv
    unfold RtspService.leaveEventLoop at henv
    split_ifs at henv
    exact h env henv
  | request request =>
    cases request with
    | createChannel channel =>
      have hrequest : requestStep r (.createChannel channel) = .ok r' := hstep
      exact requestStep_sound h hrequest
    | removeChannel channelId =>
      have hrequest : requestStep r (.removeChannel channelId) = .ok r' := hstep
      exact requestStep_sound h hrequest
    | doCheckChannelsTask =>
      unfold lifecycleStep at hstep
      split_ifs at hstep
      · exact requestStep_sound h hstep
      · cases hstep
        exact h

theorem run_sound {events : List (LifecycleEvent β)}
    (h : run lifecycleStep fresh events = .ok r) : ServerSound r :=
  run_invariant (I := ServerSound)
    (fun env henv => absurd henv (Option.some_ne_none env).symm)
    (fun _ _ _ hm ht => lifecycleStep_sound hm ht) h

/-- Whatever requests the service has got through, every sample that a turn hands over goes to a
subsession of the server, and to the one whose ids the sample is given. -/
theorem calls_reach_live_subsessions (events : List (LifecycleEvent β)) (r : ServiceRun β)
    (env : LiveEnvironment β) (h : run lifecycleStep fresh events = .ok r)
    (henv : r.service.environment = some env) {σ : Type*} (callees : Callees σ) (world : σ) :
    (env.subsessions.map LiveMediaSubsession.self).Nodup ∧
    ∃ p, processLiveSources callees env.scheduler world = .ok p ∧
      ∀ self mediaSample, (self, mediaSample) ∈ p.calls.filterMap Call.added →
        ∃ sub ∈ env.subsessions, sub.self = self ∧
          mediaSample.channelId = some sub.channelId ∧ mediaSample.sourceId = some sub.sourceId := by
  have hsound := run_sound h env henv
  have hdistinct := hsound.accounted.distinct
  unfold roll at hdistinct
  rw [List.map_map] at hdistinct
  refine ⟨hdistinct, ?_⟩
  obtain ⟨p, hp, -, -, hhanded⟩ := processLiveSources_hands callees env.scheduler world
  refine ⟨p, hp, fun self mediaSample hcall => ?_⟩
  have hplaced := List.mem_map_of_mem (f := Prod.map some id) hcall
  rw [hhanded] at hplaced
  obtain ⟨⟨ids, polled⟩, -, hsame⟩ := List.mem_map.mp hplaced
  have hregistered : env.scheduler.registered ids = some self := congrArg Prod.fst hsame
  have hsample : { polled with channelId := some ids.1, sourceId := some ids.2 } = mediaSample :=
    congrArg Prod.snd hsame
  obtain ⟨sub, hsub, hidentity⟩ := List.mem_map.mp (hsound.accounted.alive ids self hregistered)
  obtain ⟨rfl, rfl⟩ := Prod.mk.inj hidentity
  subst hsample
  exact ⟨sub, hsub, rfl, rfl, rfl⟩

/-- A channel that is requested before the service comes up, and a manager that always has a
sample. -/
def firstChannel : List (LifecycleEvent Unit) :=
  [.request (.createChannel (videoChannel 7 "a" "H264")), .init (), .start]

def endlessMedia : Callees Unit where
  getMedia _ _ world := (some {}, world)
  addMediaSample _ _ world := world

theorem calls_reach_live_subsessions_first : ∃ r env,
    run lifecycleStep fresh firstChannel = .ok r ∧ r.service.environment = some env ∧
    ∃ p, processLiveSources endlessMedia env.scheduler () = .ok p ∧
      ∀ self mediaSample, (self, mediaSample) ∈ p.calls.filterMap Call.added →
        ∃ sub ∈ env.subsessions, sub.self = self ∧
          mediaSample.channelId = some sub.channelId ∧ mediaSample.sourceId = some sub.sourceId := by
  have hrun : ((run lifecycleStep fresh firstChannel).toOption.bind
      fun r => r.service.environment).isSome = true := by decide +kernel
  cases h : run lifecycleStep fresh firstChannel with
  | error f => simp [h, Except.toOption] at hrun
  | ok r =>
    cases henv : r.service.environment with
    | none => simp [h, Except.toOption, henv] at hrun
    | some env =>
      exact ⟨r, env, rfl, henv,
        (calls_reach_live_subsessions firstChannel r env h henv endlessMedia ()).2⟩

end Lifecycle

end LiveMediaExt.Rtsp
