import LiveMediaExt.BoundedQueue
import LiveMediaExt.Execution
import LiveMediaExt.MediaSample

/-!
# The packet manager's media channel

The lock-free configuration: one bounded queue for each media type between the packet manager,
which delivers, and the task scheduler, which gets. Nothing is lost as long as every delivery
finds room; one that does not raises the assertion or, without assertions, loses its tail.
-/
namespace LiveMediaExt.Media
open Execution Queues

inductive MediaType
  | video
  | audio
  deriving DecidableEq, Repr

/-- `LF_CAPACITY`. -/
def lfCapacity : ℕ := 10240

structure PacketManagerMediaChannel where
  videoSamples : BoundedQueue MediaSample lfCapacity
  audioSamples : BoundedQueue MediaSample lfCapacity

namespace PacketManagerMediaChannel

def create : PacketManagerMediaChannel := ⟨.empty, .empty⟩

/-- The queue of the media type. -/
def samples (channel : PacketManagerMediaChannel) : MediaType →
    BoundedQueue MediaSample lfCapacity
  | .video => channel.videoSamples
  | .audio => channel.audioSamples

def setSamples (channel : PacketManagerMediaChannel) (media : MediaType)
    (queue : BoundedQueue MediaSample lfCapacity) : PacketManagerMediaChannel :=
  match media with
  | .video => { channel with videoSamples := queue }
  | .audio => { channel with audioSamples := queue }

/-- `it == mediaSamples.end()` when nothing is left to push. A call that returns reports
success. -/
def deliver (media : MediaType) (assertions : Bool) (mediaSamples : List MediaSample)
    (channel : PacketManagerMediaChannel) : Except Fault PacketManagerMediaChannel :=
  let (queue, rest) := (channel.samples media).push mediaSamples
  if assertions = true ∧ rest ≠ [] then .error .samplesLeft
  else .ok (channel.setSamples media queue)

def deliverVideo := deliver .video

def deliverAudio := deliver .audio

def get (media : MediaType) (channel : PacketManagerMediaChannel) :
    Option MediaSample × PacketManagerMediaChannel :=
  let (mediaSample, queue) := (channel.samples media).pop
  (mediaSample, channel.setSamples media queue)

def getVideo := get .video

def getAudio := get .audio

@[simp] theorem samples_setSamples (channel : PacketManagerMediaChannel) (media media' : MediaType)
    (queue : BoundedQueue MediaSample lfCapacity) :
    (channel.setSamples media queue).samples media' =
      if media = media' then queue else channel.samples media' := by
  cases media with
  | video => cases media' <;> rfl
  | audio => cases media' <;> rfl

theorem deliver_ok {media : MediaType} {assertions : Bool} {mediaSamples : List MediaSample}
    {channel channel' : PacketManagerMediaChannel}
    (h : channel.deliver media assertions mediaSamples = .ok channel') :
    channel' = channel.setSamples media ((channel.samples media).push mediaSamples).1 := by
  unfold deliver at h
  dsimp only at h
  split_ifs at h with hassert
  exact (Except.ok.inj h).symm

/-- Room for the whole vector. -/
theorem deliver_fits {media : MediaType} (assertions : Bool) {mediaSamples : List MediaSample}
    {channel : PacketManagerMediaChannel}
    (h : ((channel.samples media).push mediaSamples).2 = []) :
    channel.deliver media assertions mediaSamples =
      .ok (channel.setSamples media ((channel.samples media).push mediaSamples).1) := by
  unfold deliver
  dsimp only
  rw [if_neg (by simp [h])]

end PacketManagerMediaChannel

section Exchange
open PacketManagerMediaChannel

/-- A channel with the samples it has returned. -/
structure Exchange where
  channel : PacketManagerMediaChannel
  returned : MediaType → List MediaSample

namespace Exchange

def start : Exchange := ⟨.create, fun _ => []⟩

inductive Event
  | deliverVideo (mediaSamples : List MediaSample)
  | deliverAudio (mediaSamples : List MediaSample)
  | getVideo
  | getAudio

/-- One media type's samples: those returned, then those queued. -/
def stream (s : Exchange) (media : MediaType) : List MediaSample :=
  s.returned media ++ (s.channel.samples media).items

/-- The sample that a call returned, if any, is noted. -/
def note (s : Exchange) (media : MediaType)
    (result : Option MediaSample × PacketManagerMediaChannel) : Exchange :=
  { channel := result.2
    returned := Function.update s.returned media (s.returned media ++ result.1.toList) }

def step (assertions : Bool) (s : Exchange) : Event → Except Fault Exchange
  | .deliverVideo mediaSamples => do
    let channel ← s.channel.deliverVideo assertions mediaSamples
    return { s with channel }
  | .deliverAudio mediaSamples => do
    let channel ← s.channel.deliverAudio assertions mediaSamples
    return { s with channel }
  | .getVideo => .ok (s.note .video s.channel.getVideo)
  | .getAudio => .ok (s.note .audio s.channel.getAudio)

/-- The delivered samples of the media type. -/
def delivered (media : MediaType) : Event → List MediaSample
  | .deliverVideo mediaSamples => if media = .video then mediaSamples else []
  | .deliverAudio mediaSamples => if media = .audio then mediaSamples else []
  | .getVideo => []
  | .getAudio => []

/-- The queue has room for the whole vector. -/
def HasRoom (media : MediaType) (mediaSamples : List MediaSample) (s : Exchange) : Prop :=
  (s.channel.samples media).items.length + mediaSamples.length ≤ lfCapacity

/-- A delivery finds room. -/
def Fits (s : Exchange) : Event → Prop
  | .deliverVideo mediaSamples => s.HasRoom .video mediaSamples
  | .deliverAudio mediaSamples => s.HasRoom .audio mediaSamples
  | .getVideo => True
  | .getAudio => True

variable {s : Exchange} {media : MediaType}

/-- A delivery appends its whole vector to its stream, and to no other, just when it finds
room. -/
theorem deliver_stream_iff (assertions : Bool) (mediaSamples : List MediaSample) :
    (∃ channel, s.channel.deliver media assertions mediaSamples = .ok channel ∧
        ∀ media', ({ s with channel } : Exchange).stream media' =
          s.stream media' ++ if media' = media then mediaSamples else []) ↔
      s.HasRoom media mediaSamples := by
  have hfits := (s.channel.samples media).push_fits_iff mediaSamples
  have hitems := (s.channel.samples media).push_items_iff mediaSamples
  constructor
  · intro ⟨channel, hdeliver, hstream⟩
    have hown := hstream media
    rw [deliver_ok hdeliver] at hown
    simp only [stream, samples_setSamples, if_true, List.append_assoc] at hown
    apply hfits.mp
    apply hitems.mp
    exact List.append_cancel_left hown
  · intro hroom
    have hrest := hfits.mpr hroom
    refine ⟨_, deliver_fits assertions hrest, fun media' => ?_⟩
    simp only [stream, samples_setSamples]
    by_cases hmedia : media = media'
    · subst hmedia
      rw [if_pos rfl, if_pos rfl, hitems.mpr hrest, List.append_assoc]
    · rw [if_neg hmedia, if_neg (Ne.symm hmedia), List.append_nil]

/-- Getting a sample takes it from the queue to the returned ones. -/
theorem get_stream (media' : MediaType) :
    (s.note media (s.channel.get media)).stream media' = s.stream media' := by
  unfold note PacketManagerMediaChannel.get stream
  dsimp only
  rw [samples_setSamples]
  by_cases hmedia : media = media'
  · subst hmedia
    have hpop := (s.channel.samples media).pop_conserves
    rw [Function.update_self, if_pos rfl, List.append_assoc, hpop]
  · rw [Function.update_of_ne (Ne.symm hmedia), if_neg hmedia]

/-- What a step does to the streams. -/
theorem step_stream_iff (assertions : Bool) (e : Event) :
    (∃ t, step assertions s e = .ok t ∧
        ∀ media, t.stream media = s.stream media ++ delivered media e) ↔ s.Fits e := by
  have hdeliver (media : MediaType) (mediaSamples : List MediaSample) :
      (∃ t, (do
          let channel ← s.channel.deliver media assertions mediaSamples
          return { s with channel } : Except Fault Exchange) = .ok t ∧
        ∀ media', t.stream media' =
          s.stream media' ++ if media' = media then mediaSamples else []) ↔
        s.HasRoom media mediaSamples := by
    rw [← deliver_stream_iff assertions mediaSamples]
    constructor
    · intro ⟨t, ht, hstream⟩
      obtain ⟨channel, hchannel, ht⟩ := bind_ok.mp ht
      cases ht
      exact ⟨channel, hchannel, hstream⟩
    · intro ⟨channel, hchannel, hstream⟩
      exact ⟨_, bind_ok.mpr ⟨channel, hchannel, rfl⟩, hstream⟩
  have hget (media : MediaType) :
      ∀ media', (s.note media (s.channel.get media)).stream media' = s.stream media' ++ [] := by
    intro media'
    rw [get_stream, List.append_nil]
  cases e with
  | deliverVideo mediaSamples => exact hdeliver .video mediaSamples
  | deliverAudio mediaSamples => exact hdeliver .audio mediaSamples
  | getVideo => exact iff_of_true ⟨_, rfl, hget .video⟩ trivial
  | getAudio => exact iff_of_true ⟨_, rfl, hget .audio⟩ trivial

/-- With and without assertions: in every interleaving, what was returned and what is queued
is at every moment what was delivered, in order, exactly when every delivery finds room. -/
theorem streams_delivered_iff (assertions : Bool) (events : List Event) :
    (∀ before after, events = before ++ after → ∃ s, run (step assertions) start before = .ok s ∧
        ∀ media, s.returned media ++ (s.channel.samples media).items =
          before.flatMap (delivered media)) ↔
      Along (step assertions) (fun _ s e => s.Fits e) start events := by
  let conserved : List Event → Exchange → Prop := fun before s =>
    ∀ media, s.stream media = before.flatMap (delivered media)
  have hstart : conserved [] start := by
    intro media
    cases media <;> rfl
  apply reaches_iff (R := conserved) hstart
  · intro before s e hstream
    rw [← step_stream_iff assertions e]
    have hsnoc (media : MediaType) : (before ++ [e]).flatMap (delivered media) =
        s.stream media ++ delivered media e := by
      rw [List.flatMap_append, List.flatMap_singleton, hstream media]
    simp only [conserved, hsnoc]

/-- One delivery of a sample more than the queue holds fails the assertion; without
assertions it reports success and its last sample is gone. -/
theorem tail_dropped :
    run (step true) start [.deliverVideo (List.replicate (lfCapacity + 1) {})] =
        .error .samplesLeft ∧
      ∃ s, run (step false) start [.deliverVideo (List.replicate (lfCapacity + 1) {})] = .ok s ∧
        s.stream .video = List.replicate lfCapacity {} := by
  have hrest : ((start.channel.samples .video).push
      (List.replicate (lfCapacity + 1) {})).2 = [{}] := by
    simp [start, PacketManagerMediaChannel.create, samples, BoundedQueue.push, BoundedQueue.empty]
  have hqueued : ((start.channel.samples .video).push
      (List.replicate (lfCapacity + 1) {})).1.items = List.replicate lfCapacity {} := by
    simp [start, PacketManagerMediaChannel.create, samples, BoundedQueue.push, BoundedQueue.empty]
  have hreturned : start.returned .video = [] := rfl
  constructor
  · rw [run_singleton]
    simp [step, deliverVideo, deliver, hrest, bind, Except.bind]
  · rw [run_singleton]
    simp [step, deliverVideo, deliver, stream, hqueued, hreturned, bind, Except.bind, pure,
      Except.pure]

end Exchange
end Exchange

end LiveMediaExt.Media
