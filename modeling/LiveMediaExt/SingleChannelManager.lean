import LiveMediaExt.PacketManager

/-!
# The manager of a single channel

The scheduler asks for media by the ids of a channel and a source. The manager of a single channel
knows one channel and the ids of its video and its audio source, and asserts that it is asked for
nothing else.
-/
namespace LiveMediaExt.Media
open Execution Queues

/-- The assertions of the manager. -/
inductive ManagerFault
  | wrongChannel
  | unknownSource
  | sourceIdTaken
  deriving DecidableEq, Repr

structure SingleChannelManager where
  packetManager : PacketManagerMediaChannel
  channelId : ℕ
  videoSourceId : ℕ
  audioSourceId : ℕ

namespace SingleChannelManager

/-- `UINT_MAX`, the id of a source that was not set. -/
def uintMax : ℕ := 2 ^ 32 - 1

def create (channelId : ℕ) : SingleChannelManager := ⟨.create, channelId, uintMax, uintMax⟩

/-- The second constructor. -/
def createWithSources (channelId videoSourceId audioSourceId : ℕ) : SingleChannelManager :=
  ⟨.create, channelId, videoSourceId, audioSourceId⟩

def setVideoSourceId (videoSourceId : ℕ) (manager : SingleChannelManager) :
    Except ManagerFault SingleChannelManager :=
  if videoSourceId = manager.audioSourceId then .error .sourceIdTaken
  else .ok { manager with videoSourceId }

def setAudioSourceId (audioSourceId : ℕ) (manager : SingleChannelManager) :
    Except ManagerFault SingleChannelManager :=
  if audioSourceId = manager.videoSourceId then .error .sourceIdTaken
  else .ok { manager with audioSourceId }

def getMedia (channelId sourceId : ℕ) (manager : SingleChannelManager) :
    Except ManagerFault (Option MediaSample × SingleChannelManager) :=
  if channelId ≠ manager.channelId then .error .wrongChannel
  else if sourceId = manager.videoSourceId then
    let (mediaSample, packetManager) := manager.packetManager.getVideo
    .ok (mediaSample, { manager with packetManager })
  else if sourceId = manager.audioSourceId then
    let (mediaSample, packetManager) := manager.packetManager.getAudio
    .ok (mediaSample, { manager with packetManager })
  else .error .unknownSource

/-- The ids under which the samples of the media type are asked for. -/
def ids (manager : SingleChannelManager) : MediaType → ℕ × ℕ
  | .video => (manager.channelId, manager.videoSourceId)
  | .audio => (manager.channelId, manager.audioSourceId)

/-- The samples that wait in the media channel. -/
def queue (manager : SingleChannelManager) (media : MediaType) : List MediaSample :=
  (manager.packetManager.samples media).items

/-- The manager after a sample of the media type was taken. -/
def pop (manager : SingleChannelManager) (media : MediaType) : SingleChannelManager :=
  { manager with packetManager := (manager.packetManager.get media).2 }

section Taking
variable {manager manager' : SingleChannelManager} {media : MediaType}

@[simp] theorem ids_pop (manager : SingleChannelManager) (media : MediaType) :
    (manager.pop media).ids = manager.ids := by
  funext media'
  cases media' <;> rfl

theorem queue_pop_self (manager : SingleChannelManager) (media : MediaType) :
    (manager.pop media).queue media = (manager.queue media).tail := by
  unfold queue pop PacketManagerMediaChannel.get
  dsimp only
  rw [PacketManagerMediaChannel.samples_setSamples, if_pos rfl]
  rfl

theorem queue_pop_of_ne {other : MediaType} (hne : media ≠ other) :
    (manager.pop media).queue other = manager.queue other := by
  unfold queue pop PacketManagerMediaChannel.get
  dsimp only
  rw [PacketManagerMediaChannel.samples_setSamples, if_neg hne]

/-- The two sources can be told apart. -/
def SourcesDiffer (manager : SingleChannelManager) : Prop :=
  manager.videoSourceId ≠ manager.audioSourceId

theorem ids_injective (h : manager.SourcesDiffer) : Function.Injective manager.ids := by
  intro media media' hsame
  have hsource := congrArg Prod.snd hsame
  cases media with
  | video =>
    cases media' with
    | video => rfl
    | audio => exact absurd hsource h
  | audio =>
    cases media' with
    | video => exact absurd hsource.symm h
    | audio => rfl

/-- A call that returns has asked for one of the two sources and taken its oldest sample. -/
theorem getMedia_ok {channelId sourceId : ℕ} {answer : Option MediaSample}
    (h : manager.getMedia channelId sourceId = .ok (answer, manager')) :
    ∃ media, manager.ids media = (channelId, sourceId) ∧
      answer = (manager.queue media).head? ∧ manager' = manager.pop media := by
  unfold getMedia at h
  split_ifs at h with hchannel hvideo haudio
  · obtain ⟨rfl, rfl⟩ := Prod.mk.inj (Except.ok.inj h)
    rw [not_not] at hchannel
    exact ⟨.video, by rw [ids, hchannel, hvideo], rfl, rfl⟩
  · obtain ⟨rfl, rfl⟩ := Prod.mk.inj (Except.ok.inj h)
    rw [not_not] at hchannel
    exact ⟨.audio, by rw [ids, hchannel, haudio], rfl, rfl⟩

/-- The sources of the manager are found. -/
theorem getMedia_ids (h : manager.SourcesDiffer) (media : MediaType) :
    manager.getMedia (manager.ids media).1 (manager.ids media).2 =
      .ok ((manager.queue media).head?, manager.pop media) := by
  unfold getMedia
  cases media with
  | video =>
    have hchannel : (manager.ids .video).1 = manager.channelId := rfl
    have hvideo : (manager.ids .video).2 = manager.videoSourceId := rfl
    rw [if_neg (not_not_intro hchannel), if_pos hvideo]
    rfl
  | audio =>
    have hchannel : (manager.ids .audio).1 = manager.channelId := rfl
    have hvideo : (manager.ids .audio).2 ≠ manager.videoSourceId := Ne.symm h
    have haudio : (manager.ids .audio).2 = manager.audioSourceId := rfl
    rw [if_neg (not_not_intro hchannel), if_neg hvideo, if_pos haudio]
    rfl

end Taking

end SingleChannelManager

end LiveMediaExt.Media
