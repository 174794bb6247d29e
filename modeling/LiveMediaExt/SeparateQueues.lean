import LiveMediaExt.PacketManager

/-!
# The packet manager's channel with two unbounded queues

The configuration with mutexes and separate queues is the plain one: each media type has a deque
of its own. The lock-free configuration gives the same answers as long as its bounded queues have
room.
-/
namespace LiveMediaExt.Media
open Execution Queues PacketManagerMediaChannel

structure SeparateQueueChannel where
  videoSamples : List MediaSample
  audioSamples : List MediaSample
  deriving DecidableEq

namespace SeparateQueueChannel

def create : SeparateQueueChannel := ⟨[], []⟩

def samples (channel : SeparateQueueChannel) : MediaType → List MediaSample
  | .video => channel.videoSamples
  | .audio => channel.audioSamples

def setSamples (channel : SeparateQueueChannel) (media : MediaType) (queue : List MediaSample) :
    SeparateQueueChannel :=
  match media with
  | .video => { channel with videoSamples := queue }
  | .audio => { channel with audioSamples := queue }

def deliver (media : MediaType) (mediaSamples : List MediaSample)
    (channel : SeparateQueueChannel) : SeparateQueueChannel :=
  channel.setSamples media (channel.samples media ++ mediaSamples)

def get (media : MediaType) (channel : SeparateQueueChannel) :
    Option MediaSample × SeparateQueueChannel :=
  match channel.samples media with
  | [] => (none, channel)
  | mediaSample :: rest => (some mediaSample, channel.setSamples media rest)

@[simp] theorem samples_setSamples (channel : SeparateQueueChannel) (media other : MediaType)
    (queue : List MediaSample) :
    (channel.setSamples media queue).samples other =
      if media = other then queue else channel.samples other := by
  cases media with
  | video => cases other <;> rfl
  | audio => cases other <;> rfl

/-- A get call, on an empty queue or not. -/
theorem get_eq (media : MediaType) (channel : SeparateQueueChannel) :
    (channel.get media).1 = (channel.samples media).head? ∧
      ∀ other, (channel.get media).2.samples other =
        if media = other then (channel.samples media).tail else channel.samples other := by
  unfold get
  cases hqueue : channel.samples media with
  | nil =>
    refine ⟨rfl, fun other => ?_⟩
    by_cases hsame : media = other
    · subst hsame
      rw [if_pos rfl]
      exact hqueue
    · rw [if_neg hsame]
  | cons mediaSample rest => exact ⟨rfl, fun other => samples_setSamples _ _ _ _⟩

end SeparateQueueChannel

/-- A channel with the samples it has returned. -/
structure SeparateExchange where
  channel : SeparateQueueChannel
  returned : MediaType → List MediaSample

namespace SeparateExchange
open SeparateQueueChannel

def start : SeparateExchange := ⟨.create, fun _ => []⟩

def take (s : SeparateExchange) (media : MediaType) : SeparateExchange where
  channel := (s.channel.get media).2
  returned :=
    Function.update s.returned media (s.returned media ++ (s.channel.get media).1.toList)

/-- The same calls as on the lock-free channel; none of them can fail. -/
def step (s : SeparateExchange) : Exchange.Event → SeparateExchange
  | .deliverVideo mediaSamples => { s with channel := s.channel.deliver .video mediaSamples }
  | .deliverAudio mediaSamples => { s with channel := s.channel.deliver .audio mediaSamples }
  | .getVideo => s.take .video
  | .getAudio => s.take .audio

end SeparateExchange

section Agreement
variable {s : Exchange} {d : SeparateExchange} {media : MediaType}

/-- Both channels hold and have returned the same. -/
structure Agrees (s : Exchange) (d : SeparateExchange) : Prop where
  queues : ∀ media, (s.channel.samples media).items = d.channel.samples media
  returned : s.returned = d.returned

theorem start_agrees : Agrees .start .start where
  queues := fun media => by cases media <;> rfl
  returned := rfl

/-- Channels that agree answer the next call alike. -/
theorem Agrees.answer (h : Agrees s d) (media : MediaType) :
    (s.channel.get media).1 = (d.channel.get media).1 := by
  rw [(d.channel.get_eq media).1, ← h.queues media]
  rfl

theorem Agrees.note (h : Agrees s d) (media : MediaType) :
    Agrees (s.note media (s.channel.get media)) (d.take media) where
  queues := by
    intro other
    have hqueue := h.queues media
    unfold Exchange.note SeparateExchange.take PacketManagerMediaChannel.get
    dsimp only
    rw [PacketManagerMediaChannel.samples_setSamples, (d.channel.get_eq media).2]
    by_cases hsame : media = other
    · rw [if_pos hsame, if_pos hsame, ← hqueue]
      rfl
    · rw [if_neg hsame, if_neg hsame]
      exact h.queues other
  returned := by
    unfold Exchange.note SeparateExchange.take
    dsimp only
    rw [h.returned, h.answer media]

/-- A delivery leaves the channels in agreement just when it finds room. -/
theorem Agrees.deliver_iff (h : Agrees s d) (assertions : Bool) (mediaSamples : List MediaSample) :
    (∃ channel, s.channel.deliver media assertions mediaSamples = .ok channel ∧
        Agrees { s with channel } { d with channel := d.channel.deliver media mediaSamples }) ↔
      s.HasRoom media mediaSamples := by
  have hfits := (s.channel.samples media).push_fits_iff mediaSamples
  have hitems := (s.channel.samples media).push_items_iff mediaSamples
  constructor
  · rintro ⟨channel, hdeliver, hagrees⟩
    have hown := hagrees.queues media
    obtain rfl := deliver_ok hdeliver
    unfold SeparateQueueChannel.deliver at hown
    dsimp only at hown
    rw [PacketManagerMediaChannel.samples_setSamples, SeparateQueueChannel.samples_setSamples,
      if_pos rfl, if_pos rfl, ← h.queues media] at hown
    exact hfits.mp (hitems.mp hown)
  · intro hroom
    have hrest := hfits.mpr hroom
    refine ⟨_, deliver_fits assertions hrest, ⟨fun other => ?_, h.returned⟩⟩
    unfold SeparateQueueChannel.deliver
    dsimp only
    rw [PacketManagerMediaChannel.samples_setSamples, SeparateQueueChannel.samples_setSamples]
    by_cases hsame : media = other
    · rw [if_pos hsame, if_pos hsame, hitems.mpr hrest, h.queues media]
    · rw [if_neg hsame, if_neg hsame]
      exact h.queues other

/-- One call, over all kinds of them. -/
theorem Agrees.step_iff (h : Agrees s d) (assertions : Bool) (e : Exchange.Event) :
    (∃ t, Exchange.step assertions s e = .ok t ∧ Agrees t (d.step e)) ↔ s.Fits e := by
  have hdeliver (media : MediaType) (mediaSamples : List MediaSample) :
      (∃ t, (do
          let channel ← s.channel.deliver media assertions mediaSamples
          return { s with channel } : Except Fault Exchange) = .ok t ∧
        Agrees t { d with channel := d.channel.deliver media mediaSamples }) ↔
        s.HasRoom media mediaSamples := by
    rw [← h.deliver_iff assertions mediaSamples]
    constructor
    · rintro ⟨t, ht, hagrees⟩
      obtain ⟨channel, hchannel, ht⟩ := bind_ok.mp ht
      cases ht
      exact ⟨channel, hchannel, hagrees⟩
    · rintro ⟨channel, hchannel, hagrees⟩
      exact ⟨_, bind_ok.mpr ⟨channel, hchannel, rfl⟩, hagrees⟩
  cases e with
  | deliverVideo mediaSamples => exact hdeliver .video mediaSamples
  | deliverAudio mediaSamples => exact hdeliver .audio mediaSamples
  | getVideo => exact iff_of_true ⟨_, rfl, h.note .video⟩ trivial
  | getAudio => exact iff_of_true ⟨_, rfl, h.note .audio⟩ trivial

/-- The lock-free configuration holds and has returned at every moment what the plain one does, and
would answer the next call as it does, exactly when every delivery finds room in its queue. -/
theorem lockFree_refines_iff (assertions : Bool) (events : List Exchange.Event) :
    (∀ before after, events = before ++ after → ∃ s,
        run (Exchange.step assertions) .start before = .ok s ∧
        Agrees s (before.foldl SeparateExchange.step .start) ∧
        ∀ media, (s.channel.get media).1 =
          ((before.foldl SeparateExchange.step .start).channel.get media).1) ↔
      Along (Exchange.step assertions) (fun _ s e => s.Fits e) .start events := by
  have hreaches : (∀ before after, events = before ++ after → ∃ s,
      run (Exchange.step assertions) .start before = .ok s ∧
        Agrees s (before.foldl SeparateExchange.step .start)) ↔
      Along (Exchange.step assertions) (fun _ s e => s.Fits e) .start events := by
    refine reaches_iff
      (R := fun before s => Agrees s (before.foldl SeparateExchange.step .start)) start_agrees ?_
      events
    intro before s e hagrees
    rw [← hagrees.step_iff assertions e]
    simp only [List.foldl_append, List.foldl_cons, List.foldl_nil]
  rw [← hreaches]
  constructor
  · intro h before after hsplit
    obtain ⟨s, hrun, hagrees, -⟩ := h before after hsplit
    exact ⟨s, hrun, hagrees⟩
  · intro h before after hsplit
    obtain ⟨s, hrun, hagrees⟩ := h before after hsplit
    exact ⟨s, hrun, hagrees, hagrees.answer⟩

end Agreement

end LiveMediaExt.Media
