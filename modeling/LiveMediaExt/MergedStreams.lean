import LiveMediaExt.MergedOrder

/-!
# The two streams of the merged queue

A sample is put behind all queued samples that are earlier, so the samples of one media type stay
in the order of their delivery when their presentation times increase. The samples of the other
type, between which they are put, do not matter to this.
-/
namespace LiveMediaExt.Media
open Execution

/-- The samples of one media type. -/
def streamOf {α : Type*} (media : MediaType) (mediaSamples : List (MediaType × α)) :
    List (MediaType × α) :=
  mediaSamples.filter fun mediaSample => mediaSample.1 == media

section StreamOf
variable {α : Type*} {media : MediaType} {mediaSamples others : List (MediaType × α)}

@[simp] theorem streamOf_nil : streamOf media ([] : List (MediaType × α)) = [] := rfl

@[simp] theorem streamOf_append : streamOf media (mediaSamples ++ others) =
    streamOf media mediaSamples ++ streamOf media others :=
  List.filter_append _ _

theorem streamOf_cons (mediaSample : MediaType × α) :
    streamOf media (mediaSample :: mediaSamples) =
      if mediaSample.1 = media then mediaSample :: streamOf media mediaSamples
      else streamOf media mediaSamples := by
  unfold streamOf
  by_cases h : mediaSample.1 = media
  · rw [if_pos h, List.filter_cons_of_pos (by simpa using h)]
  · rw [if_neg h, List.filter_cons_of_neg (by simpa using h)]

theorem streamOf_reverse :
    streamOf media mediaSamples.reverse = (streamOf media mediaSamples).reverse :=
  List.filter_reverse

theorem streamOf_map (media other : MediaType) (delivered : List α) :
    streamOf media (delivered.map fun mediaSample => (other, mediaSample)) =
      if other = media then delivered.map fun mediaSample => (other, mediaSample) else [] := by
  by_cases h : other = media
  · rw [if_pos h]
    simp [streamOf, h]
  · rw [if_neg h]
    simp [streamOf, h]

theorem mem_streamOf {mediaSample : MediaType × α} :
    mediaSample ∈ streamOf media mediaSamples ↔
      mediaSample ∈ mediaSamples ∧ mediaSample.1 = media := by
  simp [streamOf]

/-- Both streams make up the whole. -/
theorem perm_of_streamOf (h : ∀ media, streamOf media mediaSamples = streamOf media others) :
    mediaSamples.Perm others := by
  classical
  rw [List.perm_iff_count]
  intro mediaSample
  have hown (l : List (MediaType × α)) :
      l.count mediaSample = (streamOf mediaSample.1 l).count mediaSample :=
    (List.count_filter (by simp)).symm
  rw [hown mediaSamples, hown others, h]

end StreamOf

namespace MergedQueueChannel
variable {α τ : Type*} [LinearOrder τ] {getPresentationTime : α → τ} {media other : MediaType}
  {queue : List (MediaType × α)} {mediaSample : α}

/-- All queued samples of the media type are earlier. -/
def Latest (getPresentationTime : α → τ) (media : MediaType) (queue : List (MediaType × α))
    (mediaSample : α) : Prop :=
  ∀ queued ∈ queue, queued.1 = media →
    getPresentationTime queued.2 < getPresentationTime mediaSample

/-- What is passed on the way from the back is of the other type. -/
theorem streamOf_insertBehind
    (hearlier : HasEarlier getPresentationTime queue mediaSample)
    (hlatest : Latest getPresentationTime media queue mediaSample) :
    streamOf media (insertBehind getPresentationTime (media, mediaSample) queue) =
      (media, mediaSample) :: streamOf media queue := by
  induction queue with
  | nil =>
    obtain ⟨queued, hqueued, -⟩ := hearlier
    cases hqueued
  | cons queued rest ih =>
    rw [insertBehind]
    split_ifs with hlater
    · rw [streamOf_cons, if_pos rfl]
    · have hother : queued.1 ≠ media := fun h => hlater (hlatest queued List.mem_cons_self h)
      have hrest : HasEarlier getPresentationTime rest mediaSample := by
        obtain ⟨earlier, hmem, hlt⟩ := hearlier
        rcases List.mem_cons.mp hmem with rfl | hmem
        · exact absurd hlt hlater
        · exact ⟨earlier, hmem, hlt⟩
      rw [streamOf_cons, if_neg hother, streamOf_cons, if_neg hother]
      exact ih hrest fun queued hqueued => hlatest queued (List.mem_cons_of_mem _ hqueued)

theorem streamOf_insertBehind_other (hne : media ≠ other) :
    streamOf other (insertBehind getPresentationTime (media, mediaSample) queue) =
      streamOf other queue := by
  induction queue with
  | nil => rfl
  | cons queued rest ih =>
    rw [insertBehind]
    split_ifs with hlater
    · rw [streamOf_cons, if_neg hne]
    · rw [streamOf_cons, streamOf_cons, ih]

/-- A sample that is later than those of its type goes to the end of its stream. -/
theorem streamOf_enqueue (hearlier : HasEarlier getPresentationTime queue mediaSample)
    (hlatest : Latest getPresentationTime media queue mediaSample) :
    streamOf media (enqueue getPresentationTime media queue mediaSample) =
      streamOf media queue ++ [(media, mediaSample)] := by
  have hne : queue ≠ [] := by
    rintro rfl
    obtain ⟨queued, hqueued, -⟩ := hearlier
    cases hqueued
  have hlatest' : Latest getPresentationTime media queue.reverse mediaSample :=
    fun queued hqueued => hlatest queued (List.mem_reverse.mp hqueued)
  rw [enqueue_of_ne_nil hne, streamOf_reverse,
    streamOf_insertBehind (hasEarlier_reverse.mpr hearlier) hlatest', List.reverse_cons,
    streamOf_reverse, List.reverse_reverse]

theorem streamOf_enqueue_other (hne : media ≠ other) :
    streamOf other (enqueue getPresentationTime media queue mediaSample) =
      streamOf other queue := by
  by_cases hempty : queue = []
  · rw [hempty, enqueue_nil, streamOf_cons, if_neg hne]
  · rw [enqueue_of_ne_nil hempty, streamOf_reverse, streamOf_insertBehind_other hne,
      streamOf_reverse, List.reverse_reverse]

theorem streamOf_foldl_enqueue_other (hne : media ≠ other) (mediaSamples : List α) :
    streamOf other (mediaSamples.foldl (enqueue getPresentationTime media) queue) =
      streamOf other queue := by
  induction mediaSamples generalizing queue with
  | nil => rfl
  | cons mediaSample rest ih => exact ih.trans (streamOf_enqueue_other hne)

theorem streamOf_foldl_enqueue {mediaSamples : List α}
    (hearlier : ∀ s ∈ mediaSamples, HasEarlier getPresentationTime queue s)
    (hlatest : ∀ s ∈ mediaSamples, Latest getPresentationTime media queue s)
    (hincreasing : mediaSamples.Pairwise fun a b =>
      getPresentationTime a < getPresentationTime b) :
    streamOf media (mediaSamples.foldl (enqueue getPresentationTime media) queue) =
      streamOf media queue ++ mediaSamples.map fun s => (media, s) := by
  induction mediaSamples generalizing queue with
  | nil => simp
  | cons mediaSample rest ih =>
    obtain ⟨hfirst, hrest⟩ := List.forall_mem_cons.mp hearlier
    obtain ⟨hlatestFirst, hlatestRest⟩ := List.forall_mem_cons.mp hlatest
    obtain ⟨hbelow, hincreasingRest⟩ := List.pairwise_cons.mp hincreasing
    have hperm := enqueue_perm media hfirst
    rw [List.foldl_cons, ih ?_ ?_ hincreasingRest, streamOf_enqueue hfirst hlatestFirst]
    · rw [List.append_assoc, List.map_cons]
      rfl
    · intro s hs
      rw [HasEarlier.perm hperm, hasEarlier_cons hfirst]
      exact hrest s hs
    · intro s hs queued hqueued hown
      rcases List.mem_cons.mp (hperm.mem_iff.mp hqueued) with rfl | hqueued
      · exact hbelow s hs
      · exact hlatestRest s hs queued hqueued hown

/-- A vector that is taken as a whole and increases is appended to its stream. -/
theorem streamOf_delivered {mediaSamples : List α}
    (htakes : TakesAll getPresentationTime queue mediaSamples)
    (hlatest : ∀ s ∈ mediaSamples, Latest getPresentationTime media queue s)
    (hincreasing : mediaSamples.Pairwise fun a b =>
      getPresentationTime a < getPresentationTime b) :
    streamOf media (mediaSamples.foldl (enqueue getPresentationTime media) queue) =
      streamOf media queue ++ mediaSamples.map fun s => (media, s) := by
  cases queue with
  | nil =>
    cases mediaSamples with
    | nil => exact htakes.elim
    | cons first later =>
      obtain ⟨hbelow, hincreasingLater⟩ := List.pairwise_cons.mp hincreasing
      rw [List.foldl_cons, enqueue_nil, streamOf_foldl_enqueue ?_ ?_ hincreasingLater]
      · rw [streamOf_cons, if_pos rfl]
        rfl
      · intro s hs
        exact ⟨_, List.mem_singleton_self _, hbelow s hs⟩
      · intro s hs queued hqueued _
        obtain rfl := List.mem_singleton.mp hqueued
        exact hbelow s hs
  | cons front rest => exact streamOf_foldl_enqueue htakes hlatest hincreasing

end MergedQueueChannel

namespace MergedExchange
open MergedQueueChannel
variable {α τ : Type*} {s t : MergedExchange α τ} {events : List (Event α)}

/-- For each media type what was returned and what is queued is what was delivered, in order. -/
def InOrder (events : List (Event α)) (s : MergedExchange α τ) : Prop :=
  ∀ media, streamOf media (s.returned ++ s.channel.mediaSamples) =
    streamOf media (events.flatMap Event.delivered)

/-- The presentation times that are delivered for a media type increase. -/
def Increasing [LT τ] (getPresentationTime : α → τ) (events : List (Event α)) : Prop :=
  ∀ media, (streamOf media (events.flatMap Event.delivered)).Pairwise fun a b =>
    getPresentationTime a.2 < getPresentationTime b.2

theorem InOrder.perm (h : InOrder events s) :
    (s.returned ++ s.channel.mediaSamples).Perm (events.flatMap Event.delivered) :=
  perm_of_streamOf h

theorem delivered_snoc (events : List (Event α)) (e : Event α) :
    (events ++ [e]).flatMap Event.delivered = events.flatMap Event.delivered ++ e.delivered := by
  rw [List.flatMap_append, List.flatMap_singleton]

theorem Increasing.of_append [LT τ] {getPresentationTime : α → τ} {later : List (Event α)}
    (h : Increasing getPresentationTime (events ++ later)) :
    Increasing getPresentationTime events := by
  intro media
  have hall := h media
  rw [List.flatMap_append, streamOf_append] at hall
  exact (List.pairwise_append.mp hall).1

theorem InOrder.note {e : Event α} (h : InOrder events s) (hnone : e.delivered = [])
    (media : MediaType) {result : Option α × MergedQueueChannel α τ}
    (hresult : result.1.toList.map (fun mediaSample => (media, mediaSample)) ++
      result.2.mediaSamples = s.channel.mediaSamples) :
    InOrder (events ++ [e]) (s.note media result) := by
  intro other
  rw [delivered_snoc, hnone, List.append_nil, ← h other, ← hresult]
  simp only [MergedExchange.note, List.append_assoc]

section Step
variable [LinearOrder τ] [Sub τ] {getPresentationTime : α → τ}

/-- In a state with both streams in order a delivery keeps them so just when it is taken as a
whole. -/
theorem InOrder.deliver_iff {e : Event α} {media : MediaType} {mediaSamples : List α}
    (h : InOrder events s) (hincreasing : Increasing getPresentationTime (events ++ [e]))
    (hdelivered : e.delivered = mediaSamples.map fun mediaSample => (media, mediaSample)) :
    (∃ t, (do
        let channel ← s.channel.deliver getPresentationTime media mediaSamples
        return { s with channel } : Except Fault (MergedExchange α τ)) = .ok t ∧
      InOrder (events ++ [e]) t) ↔
        TakesAll getPresentationTime s.channel.mediaSamples mediaSamples := by
  constructor
  · rintro ⟨t, ht, horder⟩
    obtain ⟨channel, hchannel, ht⟩ := bind_ok.mp ht
    obtain rfl := Except.ok.inj ht
    refine MergedQueueChannel.deliver_iff.mp ⟨channel, hchannel, ?_⟩
    have hall := horder.perm
    rw [delivered_snoc, hdelivered] at hall
    have hbefore := h.perm.symm.append_right
      (mediaSamples.map fun mediaSample => (media, mediaSample))
    rw [List.append_assoc] at hbefore
    exact (List.perm_append_left_iff s.returned).mp (hall.trans hbefore)
  · intro htakes
    obtain ⟨channel, hchannel, -⟩ := MergedQueueChannel.deliver_iff.mpr htakes
    refine ⟨_, bind_ok.mpr ⟨channel, hchannel, rfl⟩, fun other => ?_⟩
    have hbefore := h other
    have hown := hincreasing media
    rw [delivered_snoc, streamOf_append, hdelivered, streamOf_map, if_pos rfl, ← h media,
      List.pairwise_append] at hown
    obtain ⟨-, hvector, hlater⟩ := hown
    rw [List.pairwise_map] at hvector
    rw [streamOf_append] at hbefore
    rw [streamOf_append, deliver_ok hchannel, delivered_snoc, streamOf_append, hdelivered,
      streamOf_map, ← hbefore]
    by_cases hsame : media = other
    · subst hsame
      rw [if_pos rfl, streamOf_delivered htakes ?_ hvector,
        List.append_assoc]
      intro mediaSample hmem queued hqueued hmedia
      refine hlater queued ?_ (media, mediaSample) (List.mem_map_of_mem hmem)
      exact mem_streamOf.mpr ⟨List.mem_append_right _ hqueued, hmedia⟩
    · rw [if_neg hsame, streamOf_foldl_enqueue_other hsame, List.append_nil]

/-- One step, over all events. -/
theorem InOrder.step_iff (h : InOrder events s) {e : Event α}
    (hincreasing : Increasing getPresentationTime (events ++ [e])) :
    (∃ t, step getPresentationTime s e = .ok t ∧ InOrder (events ++ [e]) t) ↔
      Takes getPresentationTime s e := by
  cases e with
  | deliverVideo mediaSamples => exact h.deliver_iff hincreasing rfl
  | deliverAudio mediaSamples => exact h.deliver_iff hincreasing rfl
  | getVideo =>
    exact iff_of_true ⟨_, rfl, h.note rfl .video (get_conserves .video .audio s.channel)⟩ trivial
  | getAudio =>
    exact iff_of_true ⟨_, rfl, h.note rfl .audio (get_conserves .audio .video s.channel)⟩ trivial

/-- With increasing presentation times for each media type, however they are interleaved, the
video samples come out in the order they were delivered in and the audio samples do, with none
missing, exactly when every delivery is taken as a whole. -/
theorem merged_in_order_iff [Zero τ] (getPresentationTime : α → τ) (events : List (Event α))
    (hincreasing : Increasing getPresentationTime events) :
    (∀ before after, events = before ++ after → ∃ s,
        run (step getPresentationTime) start before = .ok s ∧ InOrder before s) ↔
      Along (step getPresentationTime) (fun _ s e => Takes getPresentationTime s e) start
        events := by
  have hstart : Increasing getPresentationTime ([] : List (Event α)) ∧
      InOrder [] (start : MergedExchange α τ) :=
    ⟨fun _ => List.Pairwise.nil, fun _ => rfl⟩
  have hreaches : (∀ before after, events = before ++ after → ∃ s,
      run (step getPresentationTime) start before = .ok s ∧
        Increasing getPresentationTime before ∧ InOrder before s) ↔
      Along (step getPresentationTime) (fun before s e =>
        Increasing getPresentationTime (before ++ [e]) ∧ Takes getPresentationTime s e) start
        events := by
    refine reaches_iff
      (R := fun before s => Increasing getPresentationTime before ∧ InOrder before s) hstart ?_
      events
    rintro before s e ⟨-, horder⟩
    constructor
    · rintro ⟨t, ht, hnext, hkept⟩
      exact ⟨hnext, (horder.step_iff hnext).mp ⟨t, ht, hkept⟩⟩
    · rintro ⟨hnext, htakes⟩
      obtain ⟨t, ht, hkept⟩ := (horder.step_iff hnext).mpr htakes
      exact ⟨t, ht, hnext, hkept⟩
  have hpart {before after : List (Event α)} (hsplit : events = before ++ after) :
      Increasing getPresentationTime before := by
    rw [hsplit] at hincreasing
    exact hincreasing.of_append
  constructor
  · intro h before e after hsplit m hm
    refine (hreaches.mp (fun before after hsplit => ?_) before e after hsplit m hm).2
    obtain ⟨s, hrun, horder⟩ := h before after hsplit
    exact ⟨s, hrun, hpart hsplit, horder⟩
  · intro htakes before after hsplit
    have hguarded : Along (step getPresentationTime) (fun before s e =>
        Increasing getPresentationTime (before ++ [e]) ∧ Takes getPresentationTime s e) start
        events := by
      intro before e after hsplit m hm
      have hnext : events = (before ++ [e]) ++ after := by simp [hsplit]
      exact ⟨hpart hnext, htakes before e after hsplit m hm⟩
    obtain ⟨s, hrun, -, horder⟩ := hreaches.mpr hguarded before after hsplit
    exact ⟨s, hrun, horder⟩

end Step

/-- Audio that arrives behind the video it belongs to. -/
def lateAudio : List (Event (ℕ × ℚ)) :=
  [.deliverVideo [(1, 0), (2, 2)], .deliverAudio [(3, 1)], .getVideo, .deliverVideo [(4, 3)],
    .getAudio]

instance [LinearOrder τ] (getPresentationTime : α → τ) (queue : List (MediaType × α))
    (mediaSample : α) : Decidable (HasEarlier getPresentationTime queue mediaSample) :=
  inferInstanceAs (Decidable (∃ queued ∈ queue, _))

instance [LinearOrder τ] (getPresentationTime : α → τ) (queue : List (MediaType × α))
    (mediaSamples : List α) : Decidable (TakesAll getPresentationTime queue mediaSamples) :=
  match queue, mediaSamples with
  | [], [] => isFalse id
  | [], _ :: later => inferInstanceAs (Decidable (∀ mediaSample ∈ later, _))
  | _ :: _, mediaSamples => inferInstanceAs (Decidable (∀ mediaSample ∈ mediaSamples, _))

instance [LinearOrder τ] (getPresentationTime : α → τ) (s : MergedExchange α τ) (e : Event α) :
    Decidable (Takes getPresentationTime s e) :=
  match e with
  | .deliverVideo _ => inferInstanceAs (Decidable (TakesAll ..))
  | .deliverAudio _ => inferInstanceAs (Decidable (TakesAll ..))
  | .getVideo => isTrue trivial
  | .getAudio => isTrue trivial

theorem merged_in_order_lateAudio : ∃ s : MergedExchange (ℕ × ℚ) ℚ,
    run (step Prod.snd) start lateAudio = .ok s ∧ InOrder lateAudio s := by
  have hincreasing : Increasing Prod.snd lateAudio := by
    intro media
    cases media <;> decide +kernel
  have htaken : Along (step Prod.snd) (fun _ s e => Takes Prod.snd s e)
      (start : MergedExchange (ℕ × ℚ) ℚ) lateAudio := by
    decide +kernel
  exact (merged_in_order_iff Prod.snd lateAudio hincreasing).mpr htaken lateAudio []
    (List.append_nil _).symm

end MergedExchange

end LiveMediaExt.Media
