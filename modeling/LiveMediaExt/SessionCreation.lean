import LiveMediaExt.RtspServer

/-!
# Creating the session of a channel

Creation goes through four components. It succeeds for a channel with supported codecs whose
subsessions find their place in the scheduler free; then each descriptor has got a registered
subsession and nothing else has changed.
-/
namespace LiveMediaExt.Rtsp
open Execution Media Subsession Scheduler LiveSourceTaskScheduler0

/-- For each descriptor the subsession that it asks for, if its codec is supported. -/
def Channel.kinds (channel : Channel) : List (Option SubsessionKind) :=
  (channel.videoDescriptor.map VideoChannelDescriptor.kind).toList ++
    (channel.audioDescriptor.map AudioChannelDescriptor.kind).toList

namespace LiveEnvironment
variable {β : Type} {env env' : LiveEnvironment β} {channel : Channel}

/-- The subsessions of the given kinds with source ids that count up. -/
def buildSubsessions (channel : Channel) : ℕ → List SubsessionKind → LiveEnvironment β →
    Except Fault (List (LiveMediaSubsession β) × LiveEnvironment β)
  | _, [], env => .ok ([], env)
  | sourceId, kind :: kinds, env => do
    let (subsession, env) ← env.newSubsession channel.channelName channel.channelId sourceId kind
    let (subsessions, env) ← buildSubsessions channel (sourceId + 1) kinds env
    return (subsession :: subsessions, env)

theorem addAudio_supported {audioId : ℕ} {sms : ServerMediaSession β}
    {kinds : List SubsessionKind}
    (h : (channel.audioDescriptor.map AudioChannelDescriptor.kind).toList = kinds.map some) :
    env.addAudio channel audioId sms = (do
      let (subsessions, env) ← buildSubsessions channel audioId kinds env
      return (some { sms with subsessions := sms.subsessions ++ subsessions }, env)) := by
  cases ha : channel.audioDescriptor with
  | none =>
    rw [ha] at h
    have hkinds : kinds = [] := by simpa using h
    subst hkinds
    have hsms : ({ sms with subsessions := sms.subsessions ++ [] } : ServerMediaSession β) = sms := by
      rw [List.append_nil]
    simp only [addAudio, ha, buildSubsessions, bind, Except.bind, pure, Except.pure, hsms]
  | some a =>
    obtain ⟨kind, hkind, rfl⟩ : ∃ kind, a.kind = some kind ∧ kinds = [kind] := by
      rw [ha] at h
      cases kinds with
      | nil => simp at h
      | cons kind rest => simpa using h
    simp only [addAudio, ha, createAudioSubsession, createSubsession, hkind, buildSubsessions]
    cases env.newSubsession channel.channelName channel.channelId audioId kind <;> rfl

/-- With supported codecs `createNewSMS` builds one subsession for each descriptor. -/
theorem createNewSMS_supported {kinds : List SubsessionKind}
    (h : channel.kinds = kinds.map some) :
    env.createNewSMS channel = (do
      let (subsessions, env) ← buildSubsessions channel 0 kinds env
      return (some ⟨channel.streamName, subsessions⟩, env)) := by
  unfold Channel.kinds at h
  cases hv : channel.videoDescriptor with
  | none =>
    rw [hv] at h
    have haudio : (channel.audioDescriptor.map AudioChannelDescriptor.kind).toList =
        kinds.map some := by simpa using h
    simp only [createNewSMS, hv, addAudio_supported haudio, List.nil_append]
  | some v =>
    obtain ⟨kind, rest, rfl, hkind, haudio⟩ : ∃ kind rest, kinds = kind :: rest ∧
        v.kind = some kind ∧
        (channel.audioDescriptor.map AudioChannelDescriptor.kind).toList = rest.map some := by
      rw [hv] at h
      cases kinds with
      | nil => simp at h
      | cons kind rest => exact ⟨kind, rest, rfl, by simpa using h⟩
    simp only [createNewSMS, hv, createVideoSubsession, createSubsession, hkind, addAudio_supported haudio,
      buildSubsessions]
    cases env.newSubsession channel.channelName channel.channelId 0 kind with
    | error f => rfl
    | ok r =>
      obtain ⟨subsession, env'⟩ := r
      simp only [bind, Except.bind, pure, Except.pure]
      cases buildSubsessions channel 1 rest env' <;> rfl

theorem addAudio_unsupported {audioId : ℕ} {sms sms' : ServerMediaSession β}
    (h : channel.audioDescriptor.map AudioChannelDescriptor.kind = some none) :
    env.addAudio channel audioId sms ≠ .ok (some sms', env') := by
  obtain ⟨a, ha, hkind⟩ := Option.map_eq_some_iff.mp h
  simp [addAudio, ha, createAudioSubsession, createSubsession, hkind, bind, Except.bind, pure, Except.pure]

/-- An unsupported codec yields no session, whichever of the two it is. -/
theorem createNewSMS_unsupported (h : none ∈ channel.kinds) (sms : ServerMediaSession β) :
    env.createNewSMS channel ≠ .ok (some sms, env') := by
  intro hsms
  have hparts : channel.videoDescriptor.map VideoChannelDescriptor.kind = some none ∨
      channel.audioDescriptor.map AudioChannelDescriptor.kind = some none := by
    simpa [Channel.kinds, eq_comm] using h
  unfold createNewSMS at hsms
  cases hv : channel.videoDescriptor with
  | none =>
    rw [hv] at hsms hparts
    have haudio := hparts.resolve_left (by simp)
    exact addAudio_unsupported haudio hsms
  | some v =>
    rw [hv] at hsms hparts
    obtain ⟨⟨subsession, env₁⟩, hvideo, hsms⟩ := bind_ok.mp hsms
    cases hkind : v.kind with
    | none =>
      simp only [createVideoSubsession, createSubsession, hkind, Except.ok.injEq, Prod.mk.injEq] at hvideo
      obtain ⟨rfl, rfl⟩ := hvideo
      simp [pure, Except.pure] at hsms
    | some kind =>
      have haudio := hparts.resolve_left (by simp [hkind])
      cases subsession with
      | none => simp [pure, Except.pure] at hsms
      | some subsession => exact addAudio_unsupported haudio hsms

/-- A new subsession whose place is free takes it and touches nothing else. -/
theorem newSubsession_free {sourceId : ℕ}
    (h : env.scheduler.registered (channel.channelId, sourceId) = none) (kind : SubsessionKind) :
    ∃ env', env.newSubsession channel.channelName channel.channelId sourceId kind =
        .ok (.create env.nextSubsession channel.channelId sourceId channel.channelName kind
          env.newBuffer, env') ∧
      env'.scheduler.registered = Function.update env.scheduler.registered
        (channel.channelId, sourceId) (some env.nextSubsession) ∧
      env'.serverMediaSessions = env.serverMediaSessions ∧
      env'.rtspClientSessions = env.rtspClientSessions := by
  obtain ⟨scheduler, hadd, hregistered⟩ := addMediaSubsession_free h env.nextSubsession
  refine ⟨{ env with scheduler := scheduler, nextSubsession := env.nextSubsession + 1 }, ?_,
    hregistered, rfl, rfl⟩
  simp [newSubsession, hadd, bind, Except.bind, pure, Except.pure]

theorem newSubsession_taken {sourceId : ℕ}
    (h : env.scheduler.registered (channel.channelId, sourceId) ≠ none) (kind : SubsessionKind) :
    env.newSubsession channel.channelName channel.channelId sourceId kind =
      .error .alreadyRegistered := by
  simp [newSubsession, addMediaSubsession_taken h, bind, Except.bind]

/-- What a successful construction of subsessions leaves behind. -/
structure Built (channel : Channel) (sourceId : ℕ) (kinds : List SubsessionKind)
    (env env' : LiveEnvironment β) (subsessions : List (LiveMediaSubsession β)) : Prop where
  kind_eq : subsessions.map LiveMediaSubsession.kind = kinds
  sourceId_eq : subsessions.map LiveMediaSubsession.sourceId = List.range' sourceId kinds.length
  registered : ∀ sub ∈ subsessions, sub.channelId = channel.channelId ∧
    env'.scheduler.registered (channel.channelId, sub.sourceId) = some sub.self
  others : ∀ p, p.1 ≠ channel.channelId ∨ p.2 ∉ List.range' sourceId kinds.length →
    env'.scheduler.registered p = env.scheduler.registered p
  serverMediaSessions : env'.serverMediaSessions = env.serverMediaSessions
  rtspClientSessions : env'.rtspClientSessions = env.rtspClientSessions

theorem Built.cons {sourceId : ℕ} {kind : SubsessionKind} {kinds : List SubsessionKind}
    {env₁ : LiveEnvironment β} {subsessions : List (LiveMediaSubsession β)} {self : ℕ}
    (hregistered : env₁.scheduler.registered = Function.update env.scheduler.registered
      (channel.channelId, sourceId) (some self))
    (hsessions : env₁.serverMediaSessions = env.serverMediaSessions)
    (hclients : env₁.rtspClientSessions = env.rtspClientSessions)
    (h : Built channel (sourceId + 1) kinds env₁ env' subsessions) :
    Built channel sourceId (kind :: kinds) env env'
      (.create self channel.channelId sourceId channel.channelName kind env.newBuffer ::
        subsessions) where
  kind_eq := by
    rw [List.map_cons, h.kind_eq]
    rfl
  sourceId_eq := by
    rw [List.map_cons, h.sourceId_eq, List.length_cons, List.range'_succ]
    rfl
  registered := by
    intro sub hsub
    rcases List.mem_cons.mp hsub with rfl | hsub
    · have hout : sourceId ∉ List.range' (sourceId + 1) kinds.length := by
        rw [List.mem_range'_1]
        omega
      refine ⟨rfl, ?_⟩
      have hother := h.others (channel.channelId, sourceId) (.inr hout)
      rw [hregistered, Function.update_self] at hother
      exact hother
    · exact h.registered sub hsub
  others := by
    intro p hp
    have hrest : p.1 ≠ channel.channelId ∨ p.2 ∉ List.range' (sourceId + 1) kinds.length := by
      refine hp.imp_right fun hout hin => hout ?_
      rw [List.length_cons, List.range'_succ]
      exact List.mem_cons_of_mem _ hin
    have hne : p ≠ (channel.channelId, sourceId) := by
      rintro rfl
      simp [List.range'_succ] at hp
    rw [h.others p hrest, hregistered, Function.update_of_ne hne]
  serverMediaSessions := h.serverMediaSessions.trans hsessions
  rtspClientSessions := h.rtspClientSessions.trans hclients

/-- Induction on the kinds: each construction takes the next source id. -/
theorem buildSubsessions_free {sourceId : ℕ} {kinds : List SubsessionKind}
    (h : ∀ i ∈ List.range' sourceId kinds.length,
      env.scheduler.registered (channel.channelId, i) = none) :
    ∃ subsessions env', buildSubsessions channel sourceId kinds env = .ok (subsessions, env') ∧
      Built channel sourceId kinds env env' subsessions := by
  induction kinds generalizing sourceId env with
  | nil => exact ⟨[], env, rfl, ⟨rfl, rfl, by simp, fun _ _ => rfl, rfl, rfl⟩⟩
  | cons kind kinds ih =>
    simp only [List.length_cons, List.range'_succ, List.forall_mem_cons] at h
    obtain ⟨hfirst, hrest⟩ := h
    obtain ⟨env₁, hnew, hregistered, hsessions, hclients⟩ := newSubsession_free hfirst kind
    have hfree : ∀ i ∈ List.range' (sourceId + 1) kinds.length,
        env₁.scheduler.registered (channel.channelId, i) = none := by
      intro i hi
      have hne : (channel.channelId, i) ≠ (channel.channelId, sourceId) := by
        have hlt := (List.mem_range'_1.mp hi).1
        intro heq
        cases heq
        omega
      rw [hregistered, Function.update_of_ne hne, hrest i hi]
    obtain ⟨subsessions, env', hbuild, hbuilt⟩ := ih hfree
    refine ⟨_, env', ?_, hbuilt.cons hregistered hsessions hclients⟩
    simp only [buildSubsessions, hnew, bind, Except.bind, hbuild]
    rfl

/-- A place that is taken fails the assertion of the scheduler. -/
theorem buildSubsessions_taken {sourceId i : ℕ} {kinds : List SubsessionKind}
    (hi : i ∈ List.range' sourceId kinds.length)
    (h : env.scheduler.registered (channel.channelId, i) ≠ none) :
    buildSubsessions channel sourceId kinds env = .error .alreadyRegistered := by
  induction kinds generalizing sourceId env with
  | nil => simp at hi
  | cons kind kinds ih =>
    by_cases hfirst : env.scheduler.registered (channel.channelId, sourceId) = none
    · have hne : i ≠ sourceId := by
        rintro rfl
        exact h hfirst
      have hrest : i ∈ List.range' (sourceId + 1) kinds.length := by
        rw [List.length_cons, List.range'_succ] at hi
        exact (List.mem_cons.mp hi).resolve_left hne
      obtain ⟨env₁, hnew, hregistered, -, -⟩ := newSubsession_free hfirst kind
      have htaken : env₁.scheduler.registered (channel.channelId, i) ≠ none := by
        rw [hregistered, Function.update_of_ne (by simp [hne])]
        exact h
      simp only [buildSubsessions, hnew, bind, Except.bind, ih hrest htaken]
    · simp only [buildSubsessions, newSubsession_taken hfirst, bind, Except.bind]

/-- What a channel's addition does to a server without a session of its name. -/
structure Gains (channel : Channel) (env env' : LiveEnvironment β)
    (subsessions : List (LiveMediaSubsession β)) : Prop where
  serverMediaSessions :
    env'.serverMediaSessions = env.serverMediaSessions ++ [⟨channel.streamName, subsessions⟩]
  kind_eq : subsessions.map (fun sub => some sub.kind) = channel.kinds
  sourceId_eq : subsessions.map LiveMediaSubsession.sourceId = List.range channel.kinds.length
  registered : ∀ sub ∈ subsessions, sub.channelId = channel.channelId ∧
    env'.scheduler.registered (channel.channelId, sub.sourceId) = some sub.self
  others : ∀ p, p.1 ≠ channel.channelId ∨ p.2 ∉ List.range channel.kinds.length →
    env'.scheduler.registered p = env.scheduler.registered p

theorem exists_map_some {α : Type*} {l : List (Option α)} (h : none ∉ l) :
    ∃ l', l = List.map some l' := by
  induction l with
  | nil => exact ⟨[], rfl⟩
  | cons x l ih =>
    rw [List.mem_cons, not_or] at h
    obtain ⟨l', rfl⟩ := ih h.2
    obtain ⟨a, rfl⟩ := Option.ne_none_iff_exists'.mp (Ne.symm h.1)
    exact ⟨a :: l', rfl⟩

theorem addRtspMediaSession_exists
    (h : env.lookupServerMediaSession channel.streamName ≠ none) :
    env.addRtspMediaSession channel = .ok env := by
  obtain ⟨sms, hsms⟩ := Option.ne_none_iff_exists'.mp h
  simp [addRtspMediaSession, hsms]

theorem addRtspMediaSession_free
    (hname : env.lookupServerMediaSession channel.streamName = none)
    (hkinds : none ∉ channel.kinds)
    (hfree : ∀ i < channel.kinds.length,
      env.scheduler.registered (channel.channelId, i) = none) :
    ∃ subsessions env', env.addRtspMediaSession channel = .ok env' ∧
      Gains channel env env' subsessions := by
  obtain ⟨kinds, hsome⟩ := exists_map_some hkinds
  have hlength : channel.kinds.length = kinds.length := by rw [hsome, List.length_map]
  obtain ⟨subsessions, env₁, hbuild, hbuilt⟩ :
      ∃ subsessions env₁, buildSubsessions channel 0 kinds env = .ok (subsessions, env₁) ∧
        Built channel 0 kinds env env₁ subsessions := by
    refine buildSubsessions_free fun i hi => hfree i ?_
    rw [List.mem_range'_1] at hi
    omega
  have hlookup : env₁.lookupServerMediaSession channel.streamName = none := by
    unfold lookupServerMediaSession at hname ⊢
    rw [hbuilt.serverMediaSessions, hname]
  refine ⟨subsessions, { env₁ with
    serverMediaSessions := env₁.serverMediaSessions ++ [⟨channel.streamName, subsessions⟩] }, ?_, ?_⟩
  · rw [addRtspMediaSession, hname]
    simp only [createNewSMS_supported hsome, hbuild, bind, Except.bind, pure, Except.pure,
      addServerMediaSession, hlookup, announceStream]
  · exact
      { serverMediaSessions := by rw [hbuilt.serverMediaSessions]
        kind_eq := by
          rw [hsome, ← hbuilt.kind_eq, List.map_map]
          rfl
        sourceId_eq := by rw [hbuilt.sourceId_eq, hlength, List.range_eq_range']
        registered := hbuilt.registered
        others := by
          rw [hlength, List.range_eq_range']
          exact hbuilt.others }

theorem addRtspMediaSession_unsupported
    (hname : env.lookupServerMediaSession channel.streamName = none)
    (hkinds : none ∈ channel.kinds) : env.addRtspMediaSession channel ≠ .ok env' := by
  intro h
  rw [addRtspMediaSession, hname] at h
  obtain ⟨⟨sms, env₁⟩, hsms, h⟩ := bind_ok.mp h
  cases sms with
  | none =>
    obtain ⟨url, hurl, -⟩ := bind_ok.mp h
    cases hurl
  | some sms => exact createNewSMS_unsupported hkinds sms hsms

section Faults
variable {sessionName : String} {channelId sourceId : ℕ} {f : Fault}

theorem newSubsession_error {kind : SubsessionKind}
    (h : env.newSubsession sessionName channelId sourceId kind = .error f) :
    f = .alreadyRegistered := by
  rcases bind_error.mp h with hadd | ⟨scheduler, -, h⟩
  · exact addMediaSubsession_error hadd
  · cases h

theorem createSubsession_error {kind : Option SubsessionKind}
    (h : env.createSubsession sessionName channelId sourceId kind = .error f) :
    f = .alreadyRegistered := by
  cases kind with
  | none => cases h
  | some kind =>
    rcases bind_error.mp h with hnew | ⟨subsession, -, h⟩
    · exact newSubsession_error hnew
    · cases h

theorem addAudio_error {audioId : ℕ} {sms : ServerMediaSession β}
    (h : env.addAudio channel audioId sms = .error f) : f = .alreadyRegistered := by
  unfold addAudio at h
  cases ha : channel.audioDescriptor with
  | none => simp [ha] at h
  | some descriptor =>
    rw [ha] at h
    rcases bind_error.mp h with hcreate | ⟨⟨subsession, env₁⟩, -, h⟩
    · exact createSubsession_error hcreate
    · cases subsession <;> cases h

theorem createNewSMS_error (h : env.createNewSMS channel = .error f) :
    f = .alreadyRegistered := by
  unfold createNewSMS at h
  cases hv : channel.videoDescriptor with
  | none =>
    rw [hv] at h
    exact addAudio_error h
  | some descriptor =>
    rw [hv] at h
    rcases bind_error.mp h with hcreate | ⟨⟨subsession, env₁⟩, -, h⟩
    · exact createSubsession_error hcreate
    · cases subsession with
      | none => cases h
      | some subsession => exact addAudio_error h

/-- An addition fails at a place that is taken or on the null session. -/
theorem addRtspMediaSession_error (h : env.addRtspMediaSession channel = .error f) :
    f = .alreadyRegistered ∨ f = .nullPointer := by
  unfold addRtspMediaSession at h
  cases hlookup : env.lookupServerMediaSession channel.streamName with
  | some sms => simp [hlookup] at h
  | none =>
    rw [hlookup] at h
    rcases bind_error.mp h with hcreate | ⟨⟨sms, env₁⟩, -, h⟩
    · exact .inl (createNewSMS_error hcreate)
    · cases sms with
      | none => exact .inr (Except.error.inj h).symm
      | some sms => cases h

end Faults

theorem addRtspMediaSession_taken {i : ℕ}
    (hname : env.lookupServerMediaSession channel.streamName = none)
    (hkinds : none ∉ channel.kinds) (hi : i < channel.kinds.length)
    (htaken : env.scheduler.registered (channel.channelId, i) ≠ none) :
    env.addRtspMediaSession channel = .error .alreadyRegistered := by
  obtain ⟨kinds, hsome⟩ := exists_map_some hkinds
  have hrange : i ∈ List.range' 0 kinds.length := by
    rw [hsome, List.length_map] at hi
    rw [List.mem_range'_1]
    omega
  rw [addRtspMediaSession, hname]
  simp only [createNewSMS_supported hsome, buildSubsessions_taken hrange htaken, bind, Except.bind]

end LiveEnvironment

end LiveMediaExt.Rtsp
