import LiveMediaExt.ChannelSessions
import LiveMediaExt.ClientStreams
import LiveMediaExt.SubsessionRegistry
import LiveMediaExt.TurnFaults

/-!
# From the packet manager to the clients

The application delivers samples to the packet manager, the event loop takes them over in its
turns, and the clients of the subsessions come, ask for frames and go. Whatever the order of these
events, a client is fed the samples that waited when its source was created and those delivered
afterwards, but for what still waits.
-/
namespace LiveMediaExt.System
open Execution Media Sources Subsession Scheduler Rtsp

/-- What a client has its subsession do. -/
inductive ClientCall
  | createSource (clientId frameSize : ℕ)
  | destroySource (source : ℕ)
  | getNextFrame (source : ℕ) (request : Sources.Request) (world : ℕ → Delivery)
  | stopGettingFrames (source : ℕ)

def ClientCall.event : ClientCall → Subsession.Event
  | .createSource clientId frameSize => .createSource clientId frameSize
  | .destroySource source => .destroySource source
  | .getNextFrame source request world => .getNextFrame source request world
  | .stopGettingFrames source => .stopGettingFrames source

inductive SystemEvent
  | deliver (media : MediaType) (mediaSamples : List MediaSample)
  | turn (worlds : ℕ → ℕ → ℕ → Delivery)
  | client (mediaSubsession : ℕ) (call : ClientCall)

namespace Pipeline
variable {β : Type}

/-- `addVideoMediaSamples` and `addAudioMediaSamples` of the media channel. -/
def addMediaSamples (media : MediaType) (assertions : Bool) (mediaSamples : List MediaSample)
    (p : Pipeline β) : Except SystemFault (Pipeline β) :=
  match p.manager.packetManager.deliver media assertions mediaSamples with
  | .error f => .error (.raised f)
  | .ok packetManager => .ok { p with manager := { p.manager with packetManager } }

def callClient [IMediaSampleBuffer β] (mediaSubsession : ℕ) (call : ClientCall)
    (p : Pipeline β) : Except SystemFault (Pipeline β) :=
  match p.subsessions mediaSubsession with
  | none => .error .danglingPointer
  | some sub =>
    match sub.step call.event with
    | .error f => .error (.raised f)
    | .ok sub =>
      .ok { p with subsessions := Function.update p.subsessions mediaSubsession (some sub) }

end Pipeline

def systemStep {β : Type} [IMediaSampleBuffer β] (assertions : Bool)
    (scheduler : LiveSourceTaskScheduler0) (p : Pipeline β) :
    SystemEvent → Except SystemFault (Pipeline β)
  | .deliver media mediaSamples => p.addMediaSamples media assertions mediaSamples
  | .turn worlds => turn scheduler worlds p
  | .client mediaSubsession call => p.callClient mediaSubsession call

/-- The samples of the media type that an event delivers. -/
def SystemEvent.delivered (media : MediaType) : SystemEvent → List MediaSample
  | .deliver media' mediaSamples => if media' = media then mediaSamples else []
  | .turn _ => []
  | .client _ _ => []

def deliveredIn (media : MediaType) (events : List SystemEvent) : List MediaSample :=
  events.flatMap (SystemEvent.delivered media)

/-- The queue has room for all that is delivered. -/
def Accepts {β : Type} (p : Pipeline β) : SystemEvent → Prop
  | .deliver media mediaSamples =>
    ((p.manager.packetManager.samples media).push mediaSamples).2 = []
  | .turn _ => True
  | .client _ _ => True

instance {β : Type} (p : Pipeline β) (e : SystemEvent) : Decidable (Accepts p e) :=
  match e with
  | .deliver media mediaSamples =>
    inferInstanceAs (Decidable (((p.manager.packetManager.samples media).push mediaSamples).2 = []))
  | .turn _ => isTrue trivial
  | .client _ _ => isTrue trivial

section Feeding
variable {β : Type} [IMediaSampleBuffer β] {scheduler : LiveSourceTaskScheduler0}
  {assertions : Bool} {p m t : Pipeline β} {e : SystemEvent} {events : List SystemEvent}

omit [IMediaSampleBuffer β] in
/-- A delivery that fits ends up behind what waits. -/
theorem addMediaSamples_ok {media : MediaType} {mediaSamples : List MediaSample}
    (hfits : ((p.manager.packetManager.samples media).push mediaSamples).2 = [])
    (h : p.addMediaSamples media assertions mediaSamples = .ok t) :
    t.manager.ids = p.manager.ids ∧ t.subsessions = p.subsessions ∧
      ∀ other, t.manager.queue other =
        p.manager.queue other ++ SystemEvent.delivered other (.deliver media mediaSamples) := by
  unfold Pipeline.addMediaSamples at h
  cases hdeliver : p.manager.packetManager.deliver media assertions mediaSamples with
  | error f =>
    rw [hdeliver] at h
    cases h
  | ok packetManager =>
    rw [hdeliver] at h
    obtain rfl := Except.ok.inj h
    obtain rfl := PacketManagerMediaChannel.deliver_ok hdeliver
    refine ⟨?_, rfl, fun other => ?_⟩
    · funext other
      cases other <;> rfl
    · have hpush := (p.manager.packetManager.samples media).push_conserves mediaSamples
      rw [hfits, List.append_nil] at hpush
      unfold SingleChannelManager.queue SystemEvent.delivered
      dsimp only
      rw [PacketManagerMediaChannel.samples_setSamples]
      by_cases hsame : media = other
      · subst hsame
        rw [if_pos rfl, if_pos rfl, hpush]
      · rw [if_neg hsame, if_neg hsame, List.append_nil]

/-- A call of a client that returns is an event of one subsession. -/
theorem callClient_ok {mediaSubsession : ℕ} {call : ClientCall}
    (h : p.callClient mediaSubsession call = .ok t) :
    ∃ sub sub', p.subsessions mediaSubsession = some sub ∧ sub.step call.event = .ok sub' ∧
      t = { p with subsessions := Function.update p.subsessions mediaSubsession (some sub') } := by
  unfold Pipeline.callClient at h
  cases hsub : p.subsessions mediaSubsession with
  | none =>
    rw [hsub] at h
    cases h
  | some sub =>
    rw [hsub] at h
    dsimp only at h
    cases hstep : sub.step call.event with
    | error f =>
      rw [hstep] at h
      cases h
    | ok sub' =>
      rw [hstep] at h
      exact ⟨sub, sub', rfl, hstep, (Except.ok.inj h).symm⟩

theorem samplesAdded_call (call : ClientCall) : samplesAdded [call.event] = [] := by
  cases call <;> rfl

/-- A subsession keeps its place. -/
theorem step_place {sub sub' : LiveMediaSubsession β} {e : Subsession.Event}
    (h : sub.step e = .ok sub') :
    (sub'.channelId, sub'.sourceId) = (sub.channelId, sub.sourceId) := by
  cases e with
  | addMediaSample mediaSample worlds =>
    obtain ⟨buffer, -, h⟩ := bind_ok.mp h
    obtain ⟨sources, -, h⟩ := bind_ok.mp h
    cases h
    rfl
  | createSource clientId frameSize =>
    cases h
    rfl
  | destroySource source =>
    cases h
    rfl
  | getNextFrame source request world =>
    obtain ⟨sources, rfl, -⟩ := callSource_ok h
    rfl
  | stopGettingFrames source =>
    obtain ⟨sources, rfl, -⟩ := callSource_ok h
    rfl

theorem run_place {sub sub' : LiveMediaSubsession β} {events : List Subsession.Event}
    (h : run LiveMediaSubsession.step sub events = .ok sub') :
    (sub'.channelId, sub'.sourceId) = (sub.channelId, sub.sourceId) :=
  run_induction
    (R := fun _ t => (t.channelId, t.sourceId) = (sub.channelId, sub.sourceId)) rfl
    (fun _ _ _ _ _ hm ht => (step_place ht).trans hm) h

/-- What events do to the system: each subsession goes on from where it was, and is fed the oldest
of the samples that waited or were delivered. -/
structure Feeds (scheduler : LiveSourceTaskScheduler0) (events : List SystemEvent)
    (p t : Pipeline β) : Prop where
  ids : t.manager.ids = p.manager.ids
  alive : ∀ mediaSubsession sub, p.subsessions mediaSubsession = some sub →
    ∃ sub', t.subsessions mediaSubsession = some sub' ∧
      (sub'.channelId, sub'.sourceId) = (sub.channelId, sub.sourceId) ∧ sub'.kind = sub.kind
  fed : ∀ media mediaSubsession sub,
    scheduler.registered (p.manager.ids media) = some mediaSubsession →
    p.subsessions mediaSubsession = some sub →
    ∃ sub' calls reached, t.subsessions mediaSubsession = some sub' ∧
      run LiveMediaSubsession.step sub calls = .ok sub' ∧
      samplesAdded calls = reached.map (sent (p.manager.ids media)) ∧
      reached ++ t.manager.queue media = p.manager.queue media ++ deliveredIn media events

theorem Feeds.wired (h : Feeds scheduler events p t) (hwired : Wired scheduler p) :
    Wired scheduler t where
  sourcesDiffer := sourcesDiffer_of_ids hwired.sourcesDiffer h.ids
  placed := by
    rw [h.ids]
    exact hwired.placed
  alive := by
    intro ids mediaSubsession hregistered
    obtain ⟨sub, hsub, hids⟩ := hwired.alive ids mediaSubsession hregistered
    obtain ⟨sub', hsub', hplace, -⟩ := h.alive mediaSubsession sub hsub
    exact ⟨sub', hsub', hplace.trans hids⟩

theorem Feeds.append {later : List SystemEvent} (h : Feeds scheduler events p m)
    (h' : Feeds scheduler later m t) : Feeds scheduler (events ++ later) p t where
  ids := h'.ids.trans h.ids
  alive := by
    intro mediaSubsession sub hsub
    obtain ⟨m', hm', hplace, hkind⟩ := h.alive mediaSubsession sub hsub
    obtain ⟨t', ht', hplace', hkind'⟩ := h'.alive mediaSubsession m' hm'
    exact ⟨t', ht', hplace'.trans hplace, hkind'.trans hkind⟩
  fed := by
    intro media mediaSubsession sub hplace hsub
    obtain ⟨m', calls, reached, hm', hrun, hadded, hqueue⟩ :=
      h.fed media mediaSubsession sub hplace hsub
    have hplace' := hplace
    rw [← h.ids] at hplace'
    obtain ⟨t', calls', reached', ht', hrun', hadded', hqueue'⟩ :=
      h'.fed media mediaSubsession m' hplace' hm'
    refine ⟨t', calls ++ calls', reached ++ reached', ht', ?_, ?_, ?_⟩
    · rw [run_append_ok hrun, hrun']
    · rw [samplesAdded_append, hadded, hadded', h.ids, List.map_append]
    · unfold deliveredIn at hqueue hqueue' ⊢
      rw [List.append_assoc, hqueue', ← List.append_assoc, hqueue, List.flatMap_append,
        List.append_assoc]

/-- A turn feeds the subsessions and nobody else. -/
theorem feeds_turn {worlds : ℕ → ℕ → ℕ → Delivery} (hwired : Wired scheduler p)
    (h : turn scheduler worlds p = .ok t) : Feeds scheduler [.turn worlds] p t := by
  obtain ⟨calls, heffect, -⟩ := turn_ok hwired.sourcesDiffer h
  refine ⟨heffect.ids, fun mediaSubsession sub hsub => ?_, fun media mediaSubsession sub hplace hsub => ?_⟩
  · obtain ⟨sub', events, hsub', hrun, -⟩ := heffect.fed mediaSubsession sub hsub
    exact ⟨sub', hsub', run_place hrun, run_kind hrun⟩
  · obtain ⟨hqueue, sub₀, sub', events, hsub₀, hsub', hrun, -, hadded⟩ :=
      turn_taken hwired h hplace
    obtain rfl : sub = sub₀ := Option.some.inj (hsub.symm.trans hsub₀)
    refine ⟨sub', events, (p.manager.queue media).take 15, hsub', hrun, hadded, ?_⟩
    rw [hqueue, List.take_append_drop]
    exact (List.append_nil _).symm

/-- One event. -/
theorem feeds_step (hwired : Wired scheduler p) (hfits : Accepts p e)
    (h : systemStep assertions scheduler p e = .ok t) : Feeds scheduler [e] p t := by
  cases e with
  | deliver media mediaSamples =>
    obtain ⟨hids, hsubsessions, hqueue⟩ := addMediaSamples_ok hfits h
    refine ⟨hids, fun mediaSubsession sub hsub => ?_, fun other mediaSubsession sub _ hsub => ?_⟩
    · exact ⟨sub, by rw [hsubsessions, hsub], rfl, rfl⟩
    · refine ⟨sub, [], [], by rw [hsubsessions, hsub], rfl, rfl, ?_⟩
      rw [List.nil_append, hqueue other]
      simp [deliveredIn]
  | turn worlds => exact feeds_turn hwired h
  | client mediaSubsession call =>
    obtain ⟨sub, sub', hsub, hstep, rfl⟩ := callClient_ok h
    have hall : ∀ other old, p.subsessions other = some old → ∃ new calls,
        Function.update p.subsessions mediaSubsession (some sub') other = some new ∧
        run LiveMediaSubsession.step old calls = .ok new ∧ samplesAdded calls = [] := by
      intro other old hold
      by_cases hsame : other = mediaSubsession
      · subst hsame
        obtain rfl : sub = old := Option.some.inj (hsub.symm.trans hold)
        exact ⟨sub', [call.event], Function.update_self .., by rw [run_singleton, hstep],
          samplesAdded_call call⟩
      · exact ⟨old, [], by rw [Function.update_of_ne hsame, hold], rfl, rfl⟩
    refine ⟨rfl, fun other old hold => ?_, fun media other old _ hold => ?_⟩
    · obtain ⟨new, calls, hnew, hrun, -⟩ := hall other old hold
      exact ⟨new, hnew, run_place hrun, run_kind hrun⟩
    · obtain ⟨new, calls, hnew, hrun, hnone⟩ := hall other old hold
      refine ⟨new, calls, [], hnew, hrun, hnone, ?_⟩
      exact (List.append_nil _).symm

end Feeding

section Hosting
variable {β : Type} {channel : Channel} {newBuffer : β} {env : LiveEnvironment β}

/-- The manager as the application constructs it: it knows the sources by the ids that the server
gives them. -/
def managerOf (channel : Channel) : SingleChannelManager :=
  if channel.videoDescriptor.isSome then .createWithSources channel.channelId 0 1
  else .createWithSources channel.channelId 1 0

/-- The server of the environment beside the manager of the channel. -/
def hosting (channel : Channel) (env : LiveEnvironment β) : Pipeline β where
  manager := managerOf channel
  subsessions mediaSubsession := env.subsessions.find? fun sub => sub.self == mediaSubsession
  handed := 0

theorem managerOf_sourcesDiffer (channel : Channel) : (managerOf channel).SourcesDiffer := by
  unfold managerOf
  split_ifs
  · exact Nat.zero_ne_one
  · exact Nat.one_ne_zero

theorem managerOf_queue (channel : Channel) (media : MediaType) :
    (managerOf channel).queue media = [] := by
  unfold managerOf
  split_ifs <;> cases media <;> rfl

/-- Every source id that the server gives is one of the manager's. -/
theorem managerOf_ids {i : ℕ} (hi : i < channel.kinds.length) :
    ∃ media, (managerOf channel).ids media = (channel.channelId, i) := by
  unfold Channel.kinds at hi
  unfold managerOf
  cases hvideo : channel.videoDescriptor with
  | none =>
    rw [hvideo, List.length_append] at hi
    have hzero : i = 0 := by
      cases haudio : channel.audioDescriptor with
      | none => simp [haudio] at hi
      | some audioDescriptor => simpa [haudio] using hi
    exact ⟨.audio, by simp [SingleChannelManager.createWithSources, SingleChannelManager.ids, hzero]⟩
  | some videoDescriptor =>
    rw [hvideo, List.length_append] at hi
    have htwo : i < 2 := by
      cases haudio : channel.audioDescriptor with
      | none =>
        simp only [haudio, Option.map_some, Option.toList_some, List.length_singleton,
          Option.map_none, Option.toList_none, List.length_nil] at hi
        omega
      | some audioDescriptor => simpa [haudio] using hi
    rcases Nat.lt_succ_iff_lt_or_eq.mp htwo with hone | rfl
    · obtain rfl := Nat.lt_one_iff.mp hone
      exact ⟨.video, by simp [SingleChannelManager.createWithSources, SingleChannelManager.ids]⟩
    · exact ⟨.audio, by simp [SingleChannelManager.createWithSources, SingleChannelManager.ids]⟩

/-- A session that was added to a new server is wired to the manager of its channel. -/
theorem hosting_wired
    (hopen : (LiveEnvironment.createNew newBuffer).addRtspMediaSession channel = .ok env) :
    Wired env.scheduler (hosting channel env) := by
  have hsound := (LiveEnvironment.createNew_sound newBuffer).addRtspMediaSession hopen
  have hdistinct : (env.subsessions.map LiveMediaSubsession.self).Nodup := by
    have hroll := hsound.accounted.distinct
    unfold LiveEnvironment.roll at hroll
    rw [List.map_map] at hroll
    exact hroll
  have howned : ∀ ids mediaSubsession, env.scheduler.registered ids = some mediaSubsession →
      ∃ sub ∈ env.subsessions, sub.self = mediaSubsession ∧
        (sub.channelId, sub.sourceId) = ids := by
    intro ids mediaSubsession hregistered
    obtain ⟨sub, hsub, hidentity⟩ :=
      List.mem_map.mp (hsound.accounted.alive ids mediaSubsession hregistered)
    exact ⟨sub, hsub, (Prod.mk.inj hidentity).1, (Prod.mk.inj hidentity).2⟩
  have hname : (LiveEnvironment.createNew newBuffer).lookupServerMediaSession channel.streamName =
      none := rfl
  have hkinds : none ∉ channel.kinds := fun hnone =>
    LiveEnvironment.addRtspMediaSession_unsupported hname hnone hopen
  obtain ⟨subs, env', hopen', hgains⟩ :=
    LiveEnvironment.addRtspMediaSession_free hname hkinds fun i _ =>
      (createNew_hosted newBuffer).free (m := .empty) (by simp [ChannelMap.find, ChannelMap.empty]) i
  obtain rfl : env = env' := Except.ok.inj (hopen.symm.trans hopen')
  refine ⟨managerOf_sourcesDiffer channel, fun ids hids => ?_, fun ids mediaSubsession hids => ?_⟩
  · obtain ⟨mediaSubsession, hregistered⟩ := Option.ne_none_iff_exists'.mp hids
    obtain ⟨sub, hsub, -, rfl⟩ := howned ids mediaSubsession hregistered
    have hmem : sub ∈ subs := by
      unfold LiveEnvironment.subsessions at hsub
      rw [hgains.serverMediaSessions] at hsub
      simpa [LiveEnvironment.createNew] using hsub
    have hsource : sub.sourceId < channel.kinds.length := by
      rw [← List.mem_range, ← hgains.sourceId_eq]
      exact List.mem_map_of_mem hmem
    rw [(hgains.registered sub hmem).1]
    exact managerOf_ids hsource
  · obtain ⟨sub, hsub, rfl, hplace⟩ := howned ids mediaSubsession hids
    refine ⟨sub, ?_, hplace⟩
    have hfound : (env.subsessions.find? fun other => other.self == sub.self).isSome := by
      rw [List.find?_isSome]
      exact ⟨sub, hsub, beq_self_eq_true _⟩
    obtain ⟨found, hfind⟩ := Option.isSome_iff_exists.mp hfound
    have hsame : found.self = sub.self := by simpa using List.find?_some hfind
    have heq : found = sub :=
      List.inj_on_of_nodup_map hdistinct (List.mem_of_find?_eq_some hfind) hsub hsame
    rw [← heq]
    exact heq ▸ hfind

/-- New subsessions have no clients. -/
theorem buildSubsessions_new {kinds : List SubsessionKind} {sourceId : ℕ}
    {env env' : LiveEnvironment β} {built : List (LiveMediaSubsession β)}
    (h : LiveEnvironment.buildSubsessions channel sourceId kinds env = .ok (built, env')) :
    ∀ sub ∈ built, sub.deviceSources = [] ∧ sub.nextSource = 0 := by
  induction kinds generalizing sourceId env built with
  | nil =>
    cases h
    simp
  | cons kind kinds ih =>
    obtain ⟨⟨first, env₁⟩, hnew, h⟩ := bind_ok.mp h
    obtain ⟨⟨rest, env₂⟩, hrest, h⟩ := bind_ok.mp h
    cases h
    obtain ⟨scheduler, -, hnew⟩ := bind_ok.mp hnew
    cases hnew
    intro sub hsub
    rcases List.mem_cons.mp hsub with rfl | hsub
    · exact ⟨rfl, rfl⟩
    · exact ih hrest sub hsub

theorem hosting_new
    (hopen : (LiveEnvironment.createNew newBuffer).addRtspMediaSession channel = .ok env) :
    ∀ sub ∈ env.subsessions, sub.deviceSources = [] ∧ sub.nextSource = 0 := by
  have hname : (LiveEnvironment.createNew newBuffer).lookupServerMediaSession channel.streamName =
      none := rfl
  have hkinds : none ∉ channel.kinds := fun hnone =>
    LiveEnvironment.addRtspMediaSession_unsupported hname hnone hopen
  obtain ⟨kinds, hsome⟩ := LiveEnvironment.exists_map_some hkinds
  rw [LiveEnvironment.addRtspMediaSession, hname] at hopen
  obtain ⟨⟨sms, env₁⟩, hsms, hopen⟩ := bind_ok.mp hopen
  rw [LiveEnvironment.createNewSMS_supported hsome] at hsms
  obtain ⟨⟨built, env₂⟩, hbuild, hsms⟩ := bind_ok.mp hsms
  cases hsms
  cases hopen
  have hsame := ((LiveEnvironment.createNew_sound newBuffer).accounted.buildSubsessions hbuild).2
  have hsessions : env₁.serverMediaSessions = [] := hsame
  intro sub hsub
  have hmem : sub ∈ built := by
    unfold LiveEnvironment.subsessions LiveEnvironment.addServerMediaSession
      LiveEnvironment.lookupServerMediaSession at hsub
    rw [hsessions] at hsub
    simpa [hsessions] using hsub
  exact buildSubsessions_new hbuild sub hmem

end Hosting

section Clients
variable {kind : SubsessionKind} {mediaSamples : List MediaSample} {ids : ℕ × ℕ}

theorem proper_sent {mediaSample : MediaSample} (h : Proper kind mediaSample) :
    Proper kind (sent ids mediaSample) := by
  cases kind with
  | aac numChannels bitsPerSample samplingFrequency configStr => exact h
  | amr numChannels bitsPerSample samplingFrequency => exact h
  | h264 sps pps => exact h

/-- The audio channel of the application. -/
def testChannel : Channel where
  channelId := 12345
  channelName := "test"
  videoDescriptor := none
  audioDescriptor := some ⟨"AMR", 1, 8, 8000, ""⟩
  described := .inr rfl

def testBuffer : SingleMediaSampleBuffer := .create Buffer.empty.data Buffer.empty.length_lt

def testServer : LiveEnvironment SingleMediaSampleBuffer where
  scheduler :=
    ⟨(∅ : Std.ExtTreeMap ℕ (Std.ExtTreeMap ℕ ℕ)).insert 12345 ((∅ : Std.ExtTreeMap ℕ ℕ).insert 0 0)⟩
  serverMediaSessions :=
    [⟨"test", [.create 0 12345 0 "test" (.amr 1 8 8000) testBuffer]⟩]
  rtspClientSessions := []
  newBuffer := testBuffer
  nextSubsession := 1

def amrSample (b : UInt8) : MediaSample := { data := ⟨[0x44, b], (by decide : 2 < 2 ^ 32)⟩ }

/-- A sample is taken before the client comes, one waits then, one arrives and is taken, and one
still waits at the end. -/
def testBefore : List SystemEvent :=
  [.deliver .audio [amrSample 1], .turn fun _ => unasked, .deliver .audio [amrSample 2]]

end Clients

end LiveMediaExt.System
