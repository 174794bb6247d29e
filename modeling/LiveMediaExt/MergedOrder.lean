import LiveMediaExt.MergedQueue

/-!
# The order of the merged queue

The search from the back finds the place of a sample among those of both media types, so the
queue is ordered by presentation time whatever is delivered, and what a get call takes from the
front is not later than what it leaves.
-/
namespace LiveMediaExt.Media
open Execution

namespace MergedQueueChannel
variable {α τ : Type*} [LinearOrder τ]

/-- The presentation times never decrease from the front to the back. -/
def Sorted (getPresentationTime : α → τ) (queue : List (MediaType × α)) : Prop :=
  queue.Pairwise fun a b => getPresentationTime a.2 ≤ getPresentationTime b.2

/-- A call that returns a sample leaves only samples that are not earlier, and one that returns
nothing leaves the channel as it was. -/
def TakesEarliest (getPresentationTime : α → τ) (channel : MergedQueueChannel α τ)
    (result : Option α × MergedQueueChannel α τ) : Prop :=
  match result.1 with
  | some mediaSample => ∀ queued ∈ result.2.mediaSamples,
      getPresentationTime mediaSample ≤ getPresentationTime queued.2
  | none => result.2 = channel

variable {getPresentationTime : α → τ} {media other : MediaType}
  {queue : List (MediaType × α)} {channel channel' : MergedQueueChannel α τ}

theorem mem_insertBehind {mediaSample queued : MediaType × α}
    (h : queued ∈ insertBehind getPresentationTime mediaSample queue) :
    queued = mediaSample ∨ queued ∈ queue := by
  by_cases hearlier : HasEarlier getPresentationTime queue mediaSample.2
  · exact List.mem_cons.mp ((insertBehind_perm hearlier).mem_iff.mp h)
  · rw [insertBehind_dropped hearlier] at h
    exact .inr h

/-- From the back the presentation times never increase. -/
theorem insertBehind_sorted (mediaSample : MediaType × α)
    (h : queue.Pairwise fun a b => getPresentationTime b.2 ≤ getPresentationTime a.2) :
    (insertBehind getPresentationTime mediaSample queue).Pairwise
      fun a b => getPresentationTime b.2 ≤ getPresentationTime a.2 := by
  induction queue with
  | nil => exact List.Pairwise.nil
  | cons queued rest ih =>
    obtain ⟨hqueued, hrest⟩ := List.pairwise_cons.mp h
    rw [insertBehind]
    split_ifs with hlater
    · refine List.pairwise_cons.mpr ⟨?_, h⟩
      intro behind hbehind
      rcases List.mem_cons.mp hbehind with rfl | hbehind
      · exact hlater.le
      · exact (hqueued behind hbehind).trans hlater.le
    · refine List.pairwise_cons.mpr ⟨?_, ih hrest⟩
      intro behind hbehind
      rcases mem_insertBehind hbehind with rfl | hbehind
      · exact not_lt.mp hlater
      · exact hqueued behind hbehind

theorem enqueue_sorted (h : Sorted getPresentationTime queue) (mediaSample : α) :
    Sorted getPresentationTime (enqueue getPresentationTime media queue mediaSample) := by
  by_cases hne : queue = []
  · rw [hne, enqueue_nil]
    exact List.pairwise_singleton _ _
  · rw [enqueue_of_ne_nil hne]
    exact List.pairwise_reverse.mpr (insertBehind_sorted _ (List.pairwise_reverse.mpr h))

theorem foldl_enqueue_sorted (h : Sorted getPresentationTime queue) (mediaSamples : List α) :
    Sorted getPresentationTime
      (mediaSamples.foldl (enqueue getPresentationTime media) queue) := by
  induction mediaSamples generalizing queue with
  | nil => exact h
  | cons mediaSample rest ih => exact ih (enqueue_sorted h mediaSample)

theorem deliver_sorted [Sub τ] {mediaSamples : List α}
    (h : Sorted getPresentationTime channel.mediaSamples)
    (hdeliver : channel.deliver getPresentationTime media mediaSamples = .ok channel') :
    Sorted getPresentationTime channel'.mediaSamples := by
  rw [deliver_ok hdeliver]
  exact foldl_enqueue_sorted h mediaSamples

theorem get_takesEarliest (h : Sorted getPresentationTime channel.mediaSamples) :
    TakesEarliest getPresentationTime channel (channel.get media other) := by
  unfold get
  split_ifs with hother
  · rfl
  · cases hqueue : channel.mediaSamples with
    | nil => rfl
    | cons front rest =>
      rw [hqueue] at h
      obtain ⟨hfront, -⟩ := List.pairwise_cons.mp h
      dsimp only
      split_ifs with hmedia
      · exact hfront
      · rfl

/-- What a get call leaves is a part of the queue. -/
theorem get_sorted (h : Sorted getPresentationTime channel.mediaSamples) :
    Sorted getPresentationTime (channel.get media other).2.mediaSamples := by
  have hconserved := get_conserves media other channel
  rw [← hconserved] at h
  exact (List.pairwise_append.mp h).2.1

end MergedQueueChannel

namespace MergedExchange
open MergedQueueChannel
variable {α τ : Type*} [LinearOrder τ] [Sub τ] {getPresentationTime : α → τ}
  {s t : MergedExchange α τ}

/-- One step, over all events. -/
theorem step_sorted (e : Event α) (h : Sorted getPresentationTime s.channel.mediaSamples)
    (hstep : step getPresentationTime s e = .ok t) :
    Sorted getPresentationTime t.channel.mediaSamples := by
  cases e with
  | deliverVideo mediaSamples =>
    obtain ⟨channel, hchannel, ht⟩ := bind_ok.mp hstep
    obtain rfl := Except.ok.inj ht
    exact deliver_sorted h hchannel
  | deliverAudio mediaSamples =>
    obtain ⟨channel, hchannel, ht⟩ := bind_ok.mp hstep
    obtain rfl := Except.ok.inj ht
    exact deliver_sorted h hchannel
  | getVideo =>
    obtain rfl := Except.ok.inj hstep
    exact get_sorted h
  | getAudio =>
    obtain rfl := Except.ok.inj hstep
    exact get_sorted h

/-- In every state that the calls reach the queue is sorted, and a get call takes a sample that
is not later than any it leaves. -/
theorem merged_sorted [Zero τ] (events : List (Event α))
    (h : run (step getPresentationTime) start events = .ok s) :
    Sorted getPresentationTime s.channel.mediaSamples ∧
      TakesEarliest getPresentationTime s.channel s.channel.getVideo ∧
      TakesEarliest getPresentationTime s.channel s.channel.getAudio := by
  have hstart : Sorted getPresentationTime (start : MergedExchange α τ).channel.mediaSamples :=
    List.Pairwise.nil
  have hsorted : Sorted getPresentationTime s.channel.mediaSamples :=
    run_invariant (I := fun m => Sorted getPresentationTime m.channel.mediaSamples) hstart
      (fun _ e _ hm hstep => step_sorted e hm hstep) h
  exact ⟨hsorted, get_takesEarliest hsorted, get_takesEarliest hsorted⟩

/-- A late audio sample is put between two video samples, and the first one is taken. -/
theorem merged_sorted_late :
    ∃ s : MergedExchange (ℕ × ℚ) ℚ,
      run (step Prod.snd) start
        [.deliverVideo [(1, 0), (2, 2)], .deliverAudio [(3, 1)], .getVideo] = .ok s ∧
      Sorted Prod.snd s.channel.mediaSamples ∧
      TakesEarliest Prod.snd s.channel s.channel.getVideo ∧
      TakesEarliest Prod.snd s.channel s.channel.getAudio := by
  have hrun : run (step Prod.snd) (start : MergedExchange (ℕ × ℚ) ℚ)
      [.deliverVideo [(1, 0), (2, 2)], .deliverAudio [(3, 1)], .getVideo] =
      .ok ⟨⟨[(.audio, (3, 1)), (.video, (2, 2))], 2⟩, [(.video, (1, 0))]⟩ := by
    decide +kernel
  exact ⟨_, hrun, merged_sorted _ hrun⟩

end MergedExchange

end LiveMediaExt.Media
