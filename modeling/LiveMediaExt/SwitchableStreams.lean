import LiveMediaExt.ClientStreams
import LiveMediaExt.Lockstep
import LiveMediaExt.MultiSampleBuffer

/-!
# Subsessions with several channels

A subsession with more than one channel is fed samples that multiplex a stream for each of them,
and its buffer hands out the stream of the current channel. To its clients it is a subsession
with one channel that is fed the streams of the channels that are current when they arrive.
-/
namespace LiveMediaExt.Media
open Execution Words Sources

/-- What a sender multiplexes into one sample: a stream below 2 GiB for each channel. The writer
of the header takes fewer than 16 of them. -/
structure MultiplexedSample (uiChannels : ℕ) where
  fourCC : UInt32
  streams : List (List UInt8)
  presentationTime : ℚ
  count : streams.length = uiChannels
  few : uiChannels < 16
  small : ∀ stream ∈ streams, stream.length < 2 ^ 31
  size_lt : 5 + uiChannels * 4 + streams.flatten.length < 2 ^ 32

namespace MultiplexedSample
variable {uiChannels : ℕ} (sample : MultiplexedSample uiChannels)

def header : MultiplexedMediaHeader where
  version := 0
  fourCC := sample.fourCC
  streamLengths := sample.streams.map fun stream => UInt32.ofNat stream.length

theorem header_few : sample.header.streamLengths.length < 16 := by
  rw [header, List.length_map, sample.count]
  exact sample.few

theorem length_header (order : ByteOrder) :
    (sample.header.headerBytes order).length ≤ 5 + uiChannels * 4 := by
  rw [MultiplexedMediaHeader.length_headerBytes sample.header_few,
    MultiplexedMediaHeader.getHeaderLength_eq sample.header_few, header, List.length_map,
    sample.count]
  split_ifs
  · omega
  · omega

/-- The sample as it is sent: the header and behind it the streams. -/
def mediaSample (order : ByteOrder) : MediaSample where
  presentationTime := sample.presentationTime
  data := {
    data := sample.header.headerBytes order ++ sample.streams.flatten
    length_lt := by
      have hheader := sample.length_header order
      have hsize := sample.size_lt
      rw [List.length_append]
      omega }

/-- The stream of a channel as a sample of its own. -/
def stream (channel : ℕ) : MediaSample where
  presentationTime := sample.presentationTime
  data := {
    data := sample.streams.getD channel []
    length_lt := by
      rw [List.getD_eq_getElem?_getD]
      cases h : sample.streams[channel]? with
      | none => norm_num
      | some stream => exact (sample.small stream (List.mem_of_getElem? h)).trans (by norm_num) }

/-- The writer of the header writes just these bytes. -/
theorem multiplexes (order : ByteOrder) : MultiMediaSampleBuffer.Multiplexes order sample.fourCC
    sample.streams (sample.mediaSample order).data.data := by
  have hlength : (List.replicate sample.header.getHeaderLength (0 : UInt8)).length =
      sample.header.getHeaderLength := List.length_replicate
  have hrest : (List.replicate sample.header.getHeaderLength (0 : UInt8)).drop
      sample.header.getHeaderLength = [] := List.drop_eq_nil_of_le hlength.le
  refine ⟨List.replicate sample.header.getHeaderLength 0, sample.header.headerBytes order,
    hlength, ?_, rfl⟩
  refine (MultiplexedMediaHeader.writeHeader_complete sample.header_few hlength.ge
    hlength.ge).trans ?_
  rw [hrest, List.append_nil]

end MultiplexedSample

namespace MultiMediaSampleBuffer
variable {machine : Machine} {uiChannels : ℕ} {b : MultiMediaSampleBuffer machine}

/-- After a multiplexed sample is stored the grabber hands out the stream of the current channel,
followed by what its allocation held there before. -/
theorem addMediaSample_presents (hdoubled : Doubled uiChannels b)
    (hinside : b.currentChannel < uiChannels) (sample : MultiplexedSample uiChannels) :
    ∃ b', b.addMediaSample (sample.mediaSample machine.order) = .ok b' ∧ Doubled uiChannels b' ∧
      b'.currentChannel = b.currentChannel ∧
      ∃ rest, Media.getNextFrame b' = some (storedFrame (sample.stream b.currentChannel) rest) := by
  obtain ⟨b', hadd, hcurrent, hholds⟩ := addMediaSample_complete hdoubled sample.count
    sample.small (sample.multiplexes machine.order)
  have hgrown : ∀ channel ∈ b'.channels, channel.Grown :=
    ((List.forall₂_and_left _ _).mp (hholds.imp fun channel stream h => ⟨h.grown, h⟩)).1
  have hcount : b'.channels.length = sample.streams.length := hholds.length_eq
  obtain ⟨channel, stream, hget, hstream, hkeeps⟩ : ∃ channel stream,
      b'.channels[b.currentChannel]? = some channel ∧
      sample.streams[b.currentChannel]? = some stream ∧ ChannelBuffer.Holds channel stream := by
    have hstream : b.currentChannel < sample.streams.length := by rwa [sample.count]
    have hchannel : b.currentChannel < b'.channels.length := by rwa [hcount]
    exact ⟨_, _, List.getElem?_eq_getElem hchannel, List.getElem?_eq_getElem hstream,
      hholds.get hchannel hstream⟩
  have hsmall := sample.small stream (List.mem_of_getElem? hstream)
  have hbytes : (sample.stream b.currentChannel).data.data = stream := by
    change sample.streams.getD b.currentChannel [] = stream
    rw [List.getD_eq_getElem?_getD, hstream]
    rfl
  have hsize : (channel.size % 2 ^ 32).toNat = stream.length := by
    rw [hkeeps.size]
    omega
  have hmemory : channel.memory = stream ++ channel.memory.drop stream.length := by
    rw [← List.take_append_drop stream.length channel.memory, hkeeps.take_memory, List.drop_left]
  refine ⟨b', hadd, ⟨hcount.trans sample.count, hgrown⟩, hcurrent,
    channel.memory.drop stream.length, ?_⟩
  have hbuffer : b'.getCurrentBuffer = some channel.memory := by
    rw [getCurrentBuffer, getBufferAt, hcurrent, hget]
    rfl
  have hcurrentSize : b'.getCurrentSize = stream.length := by
    rw [getCurrentSize, hcurrent, hget]
    exact hsize
  have hframe : Media.getNextFrame b' =
      some ⟨channel.memory, b'.getCurrentSize, b'.startTime⟩ := by
    change b'.getCurrentBuffer.map _ = _
    rw [hbuffer]
    rfl
  rw [hframe, hcurrentSize, (addMediaSample_frame hadd).2.2]
  unfold storedFrame MediaSample.getMediaSize Buffer.getSize
  rw [hbytes, ← hmemory]
  rfl

end MultiMediaSampleBuffer

end LiveMediaExt.Media

namespace LiveMediaExt.Sources
open Execution Media

/-- The bytes that a source reads of a frame before it asks for the frame's size. -/
def Subclass.readsAhead : Subclass → ℕ
  | .device => 0
  | .amr .. => 1
  | .h264 _ => 5

namespace LiveDeviceSource
variable {src t : LiveDeviceSource} {mediaSample : MediaSample}

/-- A source that gets what it reads ahead does not look behind the frame. -/
theorem retrieve_alone (h : src.subclass.readsAhead ≤ mediaSample.getMediaSize)
    (rest : List UInt8) :
    src.retrieveMediaSampleFromBuffer (some (storedFrame mediaSample rest)) =
      src.retrieveMediaSampleFromBuffer (some (storedFrame mediaSample [])) := by
  cases hclass : src.subclass with
  | device =>
    have hcopy := copyBytes_append mediaSample.data
    unfold retrieveMediaSampleFromBuffer
    rw [hclass]
    simp only [retrieveDevice, storedFrame, MediaSample.getMediaSize, hcopy]
  | amr isWideband header =>
    rw [hclass] at h
    obtain ⟨first, tail, hdata⟩ := List.exists_cons_of_length_pos (l := mediaSample.data.data) h
    rw [retrieve_storedFrame hclass hdata rest, retrieve_storedFrame hclass hdata []]
  | h264 waitingForIdr =>
    rw [hclass] at h
    have hsplit := Subsession.split_stored h
    unfold retrieveMediaSampleFromBuffer
    rw [hclass]
    simp only [retrieveH264, storedFrame, hsplit]

theorem retrieve_readsAhead {frame : Option Frame} {got : Bool}
    (h : src.retrieveMediaSampleFromBuffer frame = .ok (got, t)) :
    t.subclass.readsAhead = src.subclass.readsAhead := by
  unfold retrieveMediaSampleFromBuffer at h
  cases hclass : src.subclass with
  | device =>
    rw [hclass] at h
    rcases retrieveDevice_ok h with ⟨-, -, rfl⟩ | ⟨f, data, -, -, -, rfl⟩
    · rw [hclass]
    · simp [pushBack, hclass]
  | amr isWideband header =>
    rw [hclass] at h
    obtain ⟨f, header', data, -, -, rfl⟩ := retrieveAmr_ok h
    unfold pushBack noteFrameHeader
    dsimp only
    split_ifs <;> rfl
  | h264 waitingForIdr =>
    rw [hclass] at h
    rcases retrieveH264_ok h with ⟨-, rfl⟩ | ⟨f, mediaSamples, -, -, -, rfl, -⟩
    · rw [hclass]
    · cases waitingForIdr <;> simp [hclass, Subclass.readsAhead]

end LiveDeviceSource

end LiveMediaExt.Sources

namespace LiveMediaExt.Subsession
open Execution Lockstep Media Sources LiveMediaSubsession

section ReadsAhead
variable {β : Type} [IMediaSampleBuffer β] {sub sub' : LiveMediaSubsession β} {e : Event}

theorem clientStep_readsAhead {b : β} {src t : LiveDeviceSource} (h : ClientStep b e src t) :
    t.subclass.readsAhead = src.subclass.readsAhead := by
  cases e with
  | addMediaSample mediaSample worlds =>
    obtain ⟨buffer, -, hoffer⟩ := h
    obtain ⟨got, u, hret, hcase⟩ := offerFrame_ok hoffer
    have hclass := LiveDeviceSource.retrieve_readsAhead hret
    rcases hcase with ⟨rfl, -⟩ | ⟨-, -, hdeliver⟩
    · exact hclass
    · rw [(LiveDeviceSource.deliverFrame_spec hdeliver).1.subclass, hclass]
  | createSource clientId frameSize =>
    cases h
    rfl
  | destroySource source =>
    cases h
    rfl
  | getNextFrame source request world =>
    rcases h with ⟨-, hcall⟩ | rfl
    · rw [(LiveDeviceSource.getNextFrame_spec hcall).1.subclass]
    · rfl
  | stopGettingFrames source =>
    rcases h with ⟨-, rfl⟩ | rfl
    · rw [(LiveDeviceSource.stopGettingFrames_spec src).1.subclass]
    · rfl

/-- The sources read ahead what those of the kind do. -/
def ReadAhead (sub : LiveMediaSubsession β) : Prop :=
  ∀ src ∈ sub.deviceSources, src.subclass.readsAhead = sub.kind.sourceClass.readsAhead

theorem ReadAhead.step (hahead : ReadAhead sub) (h : sub.step e = .ok sub') :
    ReadAhead sub' := by
  intro t ht
  rw [(step_frame h).1]
  rcases step_source h ht with ⟨src, hsrc, hstep⟩ | ⟨clientId, frameSize, -, rfl⟩
  · rw [clientStep_readsAhead hstep, hahead src hsrc]
  · rfl

end ReadsAhead

/-- What happens to a subsession with several channels: a multiplexed sample arrives, the current
channel of the buffer is changed, or a client comes, goes or asks. -/
inductive SwitchEvent (uiChannels : ℕ)
  | addMediaSample (sample : MultiplexedSample uiChannels) (worlds : ℕ → ℕ → Delivery)
  | setCurrentChannel (uiChannel : ℕ)
  | client (e : Event) (h : e.sample? = none)

section Switching
variable {machine : Machine} {uiChannels channel : ℕ}
  {sub : LiveMediaSubsession (MultiMediaSampleBuffer machine)}
  {plain : LiveMediaSubsession SingleMediaSampleBuffer}

def switchStep (sub : LiveMediaSubsession (MultiMediaSampleBuffer machine)) :
    SwitchEvent uiChannels → Except Fault (LiveMediaSubsession (MultiMediaSampleBuffer machine))
  | .addMediaSample sample worlds => sub.addMediaSample worlds (sample.mediaSample machine.order)
  | .setCurrentChannel uiChannel =>
    .ok { sub with sampleBuffer := sub.sampleBuffer.setCurrentChannel uiChannel }
  | .client e _ => sub.step e

/-- The same with one channel: the streams of the current channel arrive, and a change of the
channel is not seen. -/
def select (channel : ℕ) : SwitchEvent uiChannels → ℕ × List Event
  | .addMediaSample sample worlds => (channel, [.addMediaSample (sample.stream channel) worlds])
  | .setCurrentChannel uiChannel => (if uiChannel < uiChannels then uiChannel else channel, [])
  | .client e _ => (channel, [e])

/-- The subsessions have the same clients, and the channel is the current one. -/
structure Mirrors (uiChannels channel : ℕ)
    (sub : LiveMediaSubsession (MultiMediaSampleBuffer machine))
    (plain : LiveMediaSubsession SingleMediaSampleBuffer) : Prop where
  kind : sub.kind = plain.kind
  deviceSources : sub.deviceSources = plain.deviceSources
  nextSource : sub.nextSource = plain.nextSource
  doubled : MultiMediaSampleBuffer.Doubled uiChannels sub.sampleBuffer
  current : sub.sampleBuffer.currentChannel = channel
  inside : channel < uiChannels

theorem create_mirrors (hpos : 0 < uiChannels) (self channelId sourceId : ℕ) (sessionName : String)
    (kind : SubsessionKind) (buffer : SingleMediaSampleBuffer) :
    Mirrors uiChannels 0 (create self channelId sourceId sessionName kind
        (MultiMediaSampleBuffer.create machine uiChannels))
      (create self channelId sourceId sessionName kind buffer) :=
  ⟨rfl, rfl, rfl, MultiMediaSampleBuffer.create_doubled uiChannels, rfl, hpos⟩

/-- A multiplexed sample does to the clients what its current stream does. -/
theorem Mirrors.addMediaSample (h : Mirrors uiChannels channel sub plain)
    (hahead : ReadAhead plain) (sample : MultiplexedSample uiChannels) (worlds : ℕ → ℕ → Delivery)
    (hsize : plain.kind.sourceClass.readsAhead ≤ (sample.stream channel).getMediaSize) :
    Alike (Mirrors uiChannels channel)
      (sub.addMediaSample worlds (sample.mediaSample machine.order))
      (plain.addMediaSample worlds (sample.stream channel)) := by
  obtain ⟨b', hadd, hdoubled, hcurrent, rest, hframe⟩ :=
    MultiMediaSampleBuffer.addMediaSample_presents h.doubled (by rw [h.current]; exact h.inside)
      sample
  obtain ⟨rest', hframe'⟩ := plain.sampleBuffer.getNextFrame_addMediaSample (sample.stream channel)
  rw [h.current] at hframe hcurrent
  have hoffers : ∀ src ∈ plain.deviceSources,
      offerFrame (worlds src.self) (Media.getNextFrame b') src =
        offerFrame (worlds src.self)
          (Media.getNextFrame (plain.sampleBuffer.addMediaSample (sample.stream channel))) src := by
    intro src hsrc
    have hle : src.subclass.readsAhead ≤ (sample.stream channel).getMediaSize := by
      rw [hahead src hsrc]
      exact hsize
    have halone := LiveDeviceSource.retrieve_alone hle
    unfold offerFrame
    rw [hframe, hframe', halone rest]
    exact congrArg (· >>= _) (halone rest').symm
  have hsources := mapM_alike hoffers
  have hsub : sub.addMediaSample worlds (sample.mediaSample machine.order) =
      (plain.deviceSources.mapM fun src =>
        offerFrame (worlds src.self) (Media.getNextFrame b') src) >>= fun sources =>
          .ok { sub with sampleBuffer := b', deviceSources := sources } := by
    unfold LiveMediaSubsession.addMediaSample
    rw [← h.deviceSources]
    change (MultiMediaSampleBuffer.addMediaSample _ _ >>= _) = _
    rw [hadd]
    rfl
  rw [hsub, hsources]
  change Alike _ _ ((plain.deviceSources.mapM _) >>= _)
  refine Alike.bind (alike_self fun _ _ => rfl) ?_
  rintro sources _ rfl
  exact ⟨h.kind, rfl, h.nextSource, hdoubled, hcurrent, h.inside⟩

theorem Mirrors.setCurrentChannel (h : Mirrors uiChannels channel sub plain) (uiChannel : ℕ) :
    Mirrors uiChannels (if uiChannel < uiChannels then uiChannel else channel)
      { sub with sampleBuffer := sub.sampleBuffer.setCurrentChannel uiChannel } plain := by
  unfold MultiMediaSampleBuffer.setCurrentChannel
  rw [h.doubled.channels]
  split_ifs with hinside
  · exact ⟨h.kind, h.deviceSources, h.nextSource, ⟨h.doubled.channels, h.doubled.grown⟩, rfl,
      hinside⟩
  · exact ⟨h.kind, h.deviceSources, h.nextSource, h.doubled, h.current, h.inside⟩

theorem Mirrors.callSource (h : Mirrors uiChannels channel sub plain) (source : ℕ)
    (call : LiveDeviceSource → Except Fault LiveDeviceSource) :
    Alike (Mirrors uiChannels channel) (sub.callSource source call)
      (plain.callSource source call) := by
  unfold LiveMediaSubsession.callSource
  rw [h.deviceSources]
  refine Alike.bind (alike_self fun _ _ => rfl) ?_
  rintro sources _ rfl
  exact ⟨h.kind, rfl, h.nextSource, h.doubled, h.current, h.inside⟩

theorem Mirrors.client (h : Mirrors uiChannels channel sub plain) {e : Event}
    (he : e.sample? = none) :
    Alike (Mirrors uiChannels channel) (sub.step e) (plain.step e) := by
  cases e with
  | addMediaSample mediaSample worlds => cases he
  | createSource clientId frameSize =>
    refine ⟨h.kind, ?_, ?_, h.doubled, h.current, h.inside⟩
    · change sub.deviceSources ++ _ = plain.deviceSources ++ _
      rw [h.deviceSources, h.kind, h.nextSource]
    · change sub.nextSource + 1 = plain.nextSource + 1
      rw [h.nextSource]
  | destroySource source =>
    refine ⟨h.kind, ?_, h.nextSource, h.doubled, h.current, h.inside⟩
    exact congrArg (List.eraseP _) h.deviceSources
  | getNextFrame source request world => exact h.callSource source _
  | stopGettingFrames source => exact h.callSource source _

/-- The relation that the steps keep. -/
def InStep (machine : Machine) (uiChannels : ℕ) (kind : SubsessionKind) (channel : ℕ)
    (sub : LiveMediaSubsession (MultiMediaSampleBuffer machine))
    (plain : LiveMediaSubsession SingleMediaSampleBuffer) : Prop :=
  Mirrors uiChannels channel sub plain ∧ ReadAhead plain ∧ plain.kind = kind

/-- The event adds no sample that is shorter than what the sources of the kind read ahead. -/
def LongEnough (kind : SubsessionKind) (e : Event) : Prop :=
  ∀ s, e.sample? = some s → kind.sourceClass.readsAhead ≤ s.getMediaSize

theorem InStep.step {kind : SubsessionKind} (h : InStep machine uiChannels kind channel sub plain)
    (e : SwitchEvent uiChannels) (hlong : ∀ d ∈ (select channel e).2, LongEnough kind d) :
    Alike (InStep machine uiChannels kind (select channel e).1) (switchStep sub e)
      (run LiveMediaSubsession.step plain (select channel e).2) := by
  obtain ⟨hmirrors, hahead, rfl⟩ := h
  have hkept (plain' : LiveMediaSubsession SingleMediaSampleBuffer)
      (hrun : run LiveMediaSubsession.step plain (select channel e).2 = .ok plain') :
      ReadAhead plain' ∧ plain'.kind = plain.kind :=
    run_invariant (I := fun t => ReadAhead t ∧ t.kind = plain.kind) ⟨hahead, rfl⟩
      (fun _ _ _ hm ht => ⟨hm.1.step ht, (step_frame ht).1.trans hm.2⟩) hrun
  refine Alike.and_right ?_ hkept
  cases e with
  | addMediaSample sample worlds =>
    change Alike _ _ (run LiveMediaSubsession.step plain [.addMediaSample _ worlds])
    rw [run_singleton]
    exact hmirrors.addMediaSample hahead sample worlds (hlong _ List.mem_cons_self _ rfl)
  | setCurrentChannel uiChannel => exact hmirrors.setCurrentChannel uiChannel
  | client e he =>
    change Alike _ _ (run LiveMediaSubsession.step plain [e])
    rw [run_singleton]
    exact hmirrors.client he

/-- Clients of a subsession with several channels are served like clients of one with a single
channel to which just the streams of the current channels are added, faults included, as long as
no such stream is shorter than what the sources read ahead. -/
theorem switchable_like_plain (machine : Machine) (uiChannels : ℕ) (hpos : 0 < uiChannels)
    (self channelId sourceId : ℕ) (sessionName : String) (kind : SubsessionKind)
    (buffer : SingleMediaSampleBuffer) (events : List (SwitchEvent uiChannels))
    (hlong : ∀ s ∈ samplesAdded (translated select 0 events),
      kind.sourceClass.readsAhead ≤ s.getMediaSize) :
    (run switchStep (create self channelId sourceId sessionName kind
        (MultiMediaSampleBuffer.create machine uiChannels)) events).map
          LiveMediaSubsession.deviceSources =
      (run LiveMediaSubsession.step (create self channelId sourceId sessionName kind buffer)
        (translated select 0 events)).map LiveMediaSubsession.deviceSources := by
  have hstart : InStep machine uiChannels kind 0 (create self channelId sourceId sessionName kind
      (MultiMediaSampleBuffer.create machine uiChannels))
      (create self channelId sourceId sessionName kind buffer) :=
    ⟨create_mirrors hpos self channelId sourceId sessionName kind buffer,
      by simp [ReadAhead, create], rfl⟩
  have hevents : ∀ d ∈ translated select 0 events, LongEnough kind d := fun d hd s hs =>
    hlong s (List.mem_filterMap.mpr ⟨d, hd, hs⟩)
  have halike := run_alike (R := InStep machine uiChannels kind)
    (fun _ _ _ e h hd => h.step e hd) hstart events hevents
  exact halike.map_eq fun _ _ h => h.1.deviceSources

/-- A client that comes first, and a change to the second of two channels between two samples. -/
def switchedOnce : List (SwitchEvent 2) :=
  [.client (.createSource 7 0) rfl,
    .addMediaSample ⟨0, [[10, 11, 12], [20]], 0, rfl, by decide, by decide, by decide⟩ unasked,
    .setCurrentChannel 1,
    .addMediaSample ⟨0, [[13], [21, 22]], 0, rfl, by decide, by decide, by decide⟩ unasked]

theorem switchable_like_plain_switchedOnce :
    ((run switchStep (create 0 1 1 "" (.aac 1 16 8000 "")
        (MultiMediaSampleBuffer.create MultiMediaSampleBuffer.sevens 2)) switchedOnce).map
          LiveMediaSubsession.deviceSources).map
            (fun sources => sources.map fun src => src.mediaSamples.map fun s => s.data.data) =
      .ok [[[10, 11, 12], [21, 22]]] := by
  rw [switchable_like_plain MultiMediaSampleBuffer.sevens 2 (by decide) 0 1 1 ""
    (.aac 1 16 8000 "") (.create [] (by decide)) switchedOnce (fun _ _ => Nat.zero_le _)]
  decide +kernel

end Switching

end LiveMediaExt.Subsession
