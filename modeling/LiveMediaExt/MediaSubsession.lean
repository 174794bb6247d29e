import LiveMediaExt.FrameDelivery

/-!
# A media subsession and its clients

The subsession stores an arriving sample in its buffer and then lets every registered source
retrieve it, in the order of registration. Between arrivals clients come and go and their sinks
ask for frames or stop asking.
-/
namespace LiveMediaExt.Subsession
open Execution Media Sources

/-- The subclasses of the subsession with what their constructors are given. -/
inductive SubsessionKind
  | h264 (sps pps : String)
  | amr (numChannels bitsPerSample samplingFrequency : ℕ)
  | aac (numChannels bitsPerSample samplingFrequency : ℕ) (configStr : String)
  deriving DecidableEq, Repr

/-- The source that `createSubsessionSpecificSource` constructs for a client. -/
def SubsessionKind.sourceClass : SubsessionKind → Subclass
  | .h264 .. => .h264 true
  | .amr .. => .amr false 0
  | .aac .. => .device

/-- `self` is the address of the object and `nextSource` the address of the next source:
`new` never returns the address of a live object. -/
structure LiveMediaSubsession (β : Type) where
  self : ℕ
  channelId : ℕ
  sourceId : ℕ
  sessionName : String
  kind : SubsessionKind
  sampleBuffer : β
  deviceSources : List LiveDeviceSource
  nextSource : ℕ
  deriving DecidableEq

/-- What happens to a subsession. The deliveries that an event sets off take their
surroundings from `world`, one entry for each frame; for an arrival, one such sequence for
each source. -/
inductive Event
  | addMediaSample (mediaSample : MediaSample) (worlds : ℕ → ℕ → Delivery)
  | createSource (clientId frameSize : ℕ)
  | destroySource (source : ℕ)
  | getNextFrame (source : ℕ) (request : Request) (world : ℕ → Delivery)
  | stopGettingFrames (source : ℕ)

/-- The number of sources that an event constructs. -/
def Event.creations : Event → ℕ
  | .createSource .. => 1
  | _ => 0

/-- A source's share of `addMediaSample`. -/
def offerFrame (world : ℕ → Delivery) (frame : Option Frame) (src : LiveDeviceSource) :
    Except Fault LiveDeviceSource := do
  let (gotFrame, src) ← src.retrieveMediaSampleFromBuffer frame
  if gotFrame then
    if !src.isPlaying then src.deliverFrame world else .ok src
  else .ok src

namespace LiveMediaSubsession
variable {β : Type}

def create (self channelId sourceId : ℕ) (sessionName : String) (kind : SubsessionKind)
    (sampleBuffer : β) : LiveMediaSubsession β where
  self := self
  channelId := channelId
  sourceId := sourceId
  sessionName := sessionName
  kind := kind
  sampleBuffer := sampleBuffer
  deviceSources := []
  nextSource := 0

def addDeviceSource (source : LiveDeviceSource) (sub : LiveMediaSubsession β) :
    LiveMediaSubsession β :=
  { sub with deviceSources := sub.deviceSources ++ [source] }

def removeDeviceSource (source : ℕ) (sub : LiveMediaSubsession β) : LiveMediaSubsession β :=
  { sub with deviceSources := sub.deviceSources.eraseP fun src => src.self == source }

/-- The constructor of the source registers it with the subsession. -/
def createNewStreamSource (clientId frameSize : ℕ) (sub : LiveMediaSubsession β) :
    LiveMediaSubsession β :=
  { sub.addDeviceSource (.createNew sub.nextSource clientId sub.kind.sourceClass frameSize) with
    nextSource := sub.nextSource + 1 }

def getConnectedClientIds (sub : LiveMediaSubsession β) : List ℕ :=
  sub.deviceSources.map LiveDeviceSource.clientId

def addMediaSample [IMediaSampleBuffer β] (worlds : ℕ → ℕ → Delivery) (mediaSample : MediaSample)
    (sub : LiveMediaSubsession β) : Except Fault (LiveMediaSubsession β) := do
  let buffer ← IMediaSampleBuffer.addMediaSample sub.sampleBuffer mediaSample
  let sources ← sub.deviceSources.mapM fun src =>
    offerFrame (worlds src.self) (Media.getNextFrame buffer) src
  return { sub with sampleBuffer := buffer, deviceSources := sources }

/-- A call on the source at the given address; a sink whose source is gone makes none. -/
def callSource (source : ℕ) (call : LiveDeviceSource → Except Fault LiveDeviceSource)
    (sub : LiveMediaSubsession β) : Except Fault (LiveMediaSubsession β) := do
  let sources ← sub.deviceSources.mapM fun src => if src.self = source then call src else .ok src
  return { sub with deviceSources := sources }

def step [IMediaSampleBuffer β] (sub : LiveMediaSubsession β) :
    Event → Except Fault (LiveMediaSubsession β)
  | .addMediaSample mediaSample worlds => sub.addMediaSample worlds mediaSample
  | .createSource clientId frameSize => .ok (sub.createNewStreamSource clientId frameSize)
  | .destroySource source => .ok (sub.removeDeviceSource source)
  | .getNextFrame source request world =>
    sub.callSource source fun src => src.getNextFrame world request
  | .stopGettingFrames source => sub.callSource source fun src => .ok src.stopGettingFrames

end LiveMediaSubsession

section Inversion
variable {β : Type} [IMediaSampleBuffer β] {sub sub' : LiveMediaSubsession β} {e : Event}
open LiveMediaSubsession

/-- What an event does to one live source of a subsession whose buffer is `b`. -/
def ClientStep (b : β) (e : Event) (src t : LiveDeviceSource) : Prop :=
  match e with
  | .addMediaSample mediaSample worlds =>
    ∃ buffer, IMediaSampleBuffer.addMediaSample b mediaSample = .ok buffer ∧
      offerFrame (worlds src.self) (Media.getNextFrame buffer) src = .ok t
  | .getNextFrame source request world =>
    (src.self = source ∧ src.getNextFrame world request = .ok t) ∨ t = src
  | .stopGettingFrames source =>
    (src.self = source ∧ t = src.stopGettingFrames) ∨ t = src
  | .createSource .. | .destroySource _ => t = src

omit [IMediaSampleBuffer β] in
theorem callSource_ok {source : ℕ} {call : LiveDeviceSource → Except Fault LiveDeviceSource}
    (h : sub.callSource source call = .ok sub') :
    ∃ sources, sub' = { sub with deviceSources := sources } ∧ ∀ t ∈ sources,
      ∃ src ∈ sub.deviceSources, (src.self = source ∧ call src = .ok t) ∨ t = src := by
  obtain ⟨sources, hsources, h⟩ := bind_ok.mp h
  cases h
  refine ⟨sources, rfl, fun t ht => ?_⟩
  obtain ⟨src, hsrc, hcall⟩ := mapM_ok_mem hsources ht
  refine ⟨src, hsrc, ?_⟩
  split_ifs at hcall with hself
  · exact .inl ⟨hself, hcall⟩
  · cases hcall
    exact .inr rfl

/-- Every source after a step is one from before that took its own step, or has just been
constructed. -/
theorem step_source (h : sub.step e = .ok sub') {t : LiveDeviceSource}
    (ht : t ∈ sub'.deviceSources) :
    (∃ src ∈ sub.deviceSources, ClientStep sub.sampleBuffer e src t) ∨
    ∃ clientId frameSize, e = .createSource clientId frameSize ∧
      t = .createNew sub.nextSource clientId sub.kind.sourceClass frameSize := by
  cases e with
  | addMediaSample mediaSample worlds =>
    obtain ⟨buffer, hbuffer, h⟩ := bind_ok.mp h
    obtain ⟨sources, hsources, h⟩ := bind_ok.mp h
    cases h
    obtain ⟨src, hsrc, hoffer⟩ := mapM_ok_mem hsources ht
    exact .inl ⟨src, hsrc, buffer, hbuffer, hoffer⟩
  | createSource clientId frameSize =>
    cases h
    rcases List.mem_append.mp ht with ht | ht
    · exact .inl ⟨t, ht, rfl⟩
    · exact .inr ⟨clientId, frameSize, rfl, List.mem_singleton.mp ht⟩
  | destroySource source =>
    cases h
    exact .inl ⟨t, List.mem_of_mem_eraseP ht, rfl⟩
  | getNextFrame source request world =>
    obtain ⟨sources, rfl, hsources⟩ := callSource_ok h
    exact .inl (hsources t ht)
  | stopGettingFrames source =>
    obtain ⟨sources, rfl, hsources⟩ := callSource_ok h
    obtain ⟨src, hsrc, hcall⟩ := hsources t ht
    refine .inl ⟨src, hsrc, ?_⟩
    rcases hcall with ⟨hself, hstop⟩ | rfl
    · exact .inl ⟨hself, (Except.ok.inj hstop).symm⟩
    · exact .inr rfl

/-- A fault of a step is a fault of the buffer, or of a source that an arrival or its sink
calls. -/
theorem step_error {f : Fault} (h : sub.step e = .error f) :
    (∃ mediaSample worlds, e = .addMediaSample mediaSample worlds ∧
      IMediaSampleBuffer.addMediaSample sub.sampleBuffer mediaSample = .error f) ∨
    (∃ mediaSample worlds buffer, e = .addMediaSample mediaSample worlds ∧
      IMediaSampleBuffer.addMediaSample sub.sampleBuffer mediaSample = .ok buffer ∧
      ∃ src ∈ sub.deviceSources,
        offerFrame (worlds src.self) (Media.getNextFrame buffer) src = .error f) ∨
    ∃ source request world, e = .getNextFrame source request world ∧
      ∃ src ∈ sub.deviceSources, src.getNextFrame world request = .error f := by
  cases e with
  | addMediaSample mediaSample worlds =>
    rcases bind_error.mp h with hbuffer | ⟨buffer, hbuffer, h⟩
    · exact .inl ⟨mediaSample, worlds, rfl, hbuffer⟩
    · rcases bind_error.mp h with hsources | ⟨sources, -, h⟩
      · exact .inr (.inl ⟨mediaSample, worlds, buffer, rfl, hbuffer, mapM_error hsources⟩)
      · cases h
  | createSource clientId frameSize => cases h
  | destroySource source => cases h
  | getNextFrame source request world =>
    rcases bind_error.mp h with hsources | ⟨sources, -, h⟩
    · obtain ⟨src, hsrc, hcall⟩ := mapM_error hsources
      split_ifs at hcall
      exact .inr (.inr ⟨source, request, world, rfl, src, hsrc, hcall⟩)
    · cases h
  | stopGettingFrames source =>
    rcases bind_error.mp h with hsources | ⟨sources, -, h⟩
    · obtain ⟨src, -, hcall⟩ := mapM_error hsources
      split_ifs at hcall
    · cases h

/-- A step leaves the identity of the subsession alone; only a creation takes an address. -/
theorem step_frame (h : sub.step e = .ok sub') :
    sub'.kind = sub.kind ∧ sub'.nextSource = sub.nextSource + e.creations := by
  cases e with
  | addMediaSample mediaSample worlds =>
    obtain ⟨buffer, -, h⟩ := bind_ok.mp h
    obtain ⟨sources, -, h⟩ := bind_ok.mp h
    cases h
    exact ⟨rfl, rfl⟩
  | createSource clientId frameSize =>
    cases h
    exact ⟨rfl, rfl⟩
  | destroySource source =>
    cases h
    exact ⟨rfl, rfl⟩
  | getNextFrame source request world =>
    obtain ⟨sources, rfl, -⟩ := callSource_ok h
    exact ⟨rfl, rfl⟩
  | stopGettingFrames source =>
    obtain ⟨sources, rfl, -⟩ := callSource_ok h
    exact ⟨rfl, rfl⟩

/-- How a source takes an arriving frame: it retrieves, and delivers if it got something
and is not playing. -/
theorem offerFrame_ok {world : ℕ → Delivery} {frame : Option Frame} {src t : LiveDeviceSource}
    (h : offerFrame world frame src = .ok t) :
    ∃ got u, src.retrieveMediaSampleFromBuffer frame = .ok (got, u) ∧
      ((t = u ∧ (got = false ∨ u.isPlaying = true)) ∨
        (got = true ∧ u.isPlaying = false ∧ u.deliverFrame world = .ok t)) := by
  obtain ⟨⟨got, u⟩, hret, h⟩ := bind_ok.mp h
  refine ⟨got, u, hret, ?_⟩
  dsimp only at h
  split_ifs at h with hgot hplay
  · exact .inr ⟨hgot, by simpa using hplay, h⟩
  · cases h
    exact .inl ⟨rfl, .inr (by simpa using hplay)⟩
  · cases h
    exact .inl ⟨rfl, .inl (by simpa using hgot)⟩

theorem offerFrame_error {world : ℕ → Delivery} {frame : Option Frame} {src : LiveDeviceSource}
    {f : Fault} (h : offerFrame world frame src = .error f) :
    src.retrieveMediaSampleFromBuffer frame = .error f ∨
      ∃ u, src.retrieveMediaSampleFromBuffer frame = .ok (true, u) ∧ u.isPlaying = false ∧
        u.deliverFrame world = .error f := by
  rcases bind_error.mp h with hret | ⟨⟨got, u⟩, hret, h⟩
  · exact .inl hret
  · dsimp only at h
    split_ifs at h with hgot hplay
    subst hgot
    exact .inr ⟨u, hret, by simpa using hplay, h⟩

end Inversion

end LiveMediaExt.Subsession
