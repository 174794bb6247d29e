import LiveMediaExt.PacketManager

/-!
# The packet manager's channel with a single queue

The configuration with a mutex keeps the samples of both media types in one queue, ordered by
presentation time. A sample is put behind the last one that is strictly earlier; where there is
none, and the queue is not empty, the sample is dropped.
-/
namespace LiveMediaExt.Media
open Execution

/-- Samples are of any type and have their presentation times in any linear order. -/
structure MergedQueueChannel (α τ : Type*) where
  mediaSamples : List (MediaType × α)
  queueDuration : τ
  deriving DecidableEq

namespace MergedQueueChannel
variable {α τ : Type*}

def create [Zero τ] : MergedQueueChannel α τ := ⟨[], 0⟩

section Deliver
variable [LinearOrder τ] (getPresentationTime : α → τ)

/-- The loop over the reverse iterators, on the queue from its back. -/
def insertBehind (mediaSample : MediaType × α) : List (MediaType × α) → List (MediaType × α)
  | [] => []
  | queued :: rest =>
    if getPresentationTime mediaSample.2 > getPresentationTime queued.2 then
      mediaSample :: queued :: rest
    else queued :: insertBehind mediaSample rest

/-- One turn of the loop over the delivered samples. -/
def enqueue (media : MediaType) (queue : List (MediaType × α)) (mediaSample : α) :
    List (MediaType × α) :=
  if queue.isEmpty then [(media, mediaSample)]
  else (insertBehind getPresentationTime (media, mediaSample) queue.reverse).reverse

/-- `back` and `front` are called on the queue also when it is empty. -/
def deliver [Sub τ] (media : MediaType) (mediaSamples : List α)
    (channel : MergedQueueChannel α τ) : Except Fault (MergedQueueChannel α τ) :=
  let queue := mediaSamples.foldl (enqueue getPresentationTime media) channel.mediaSamples
  match queue.getLast?, queue.head? with
  | some back, some front =>
    .ok {
      mediaSamples := queue
      queueDuration := getPresentationTime back.2 - getPresentationTime front.2 }
  | _, _ => .error .emptyQueue

def deliverVideo [Sub τ] (mediaSamples : List α) (channel : MergedQueueChannel α τ) :
    Except Fault (MergedQueueChannel α τ) :=
  deliver getPresentationTime .video mediaSamples channel

def deliverAudio [Sub τ] (mediaSamples : List α) (channel : MergedQueueChannel α τ) :
    Except Fault (MergedQueueChannel α τ) :=
  deliver getPresentationTime .audio mediaSamples channel

end Deliver

/-- The front of the queue, if it is of the media type and a sample of the other one to align
it to is queued. -/
def get (media other : MediaType) (channel : MergedQueueChannel α τ) :
    Option α × MergedQueueChannel α τ :=
  if !channel.mediaSamples.any fun mediaSample => mediaSample.1 == other then (none, channel)
  else
    match channel.mediaSamples with
    | [] => (none, channel)
    | mediaSample :: rest =>
      if mediaSample.1 == media then
        (some mediaSample.2, { channel with mediaSamples := rest })
      else (none, channel)

def getVideo : MergedQueueChannel α τ → Option α × MergedQueueChannel α τ := get .video .audio

def getAudio : MergedQueueChannel α τ → Option α × MergedQueueChannel α τ := get .audio .video

/-- What a get call returns was at the front, and is of its media type. -/
theorem get_conserves (media other : MediaType) (channel : MergedQueueChannel α τ) :
    (channel.get media other).1.toList.map (fun mediaSample => (media, mediaSample)) ++
        (channel.get media other).2.mediaSamples = channel.mediaSamples := by
  unfold get
  split_ifs with hother
  · simp
  · cases hqueue : channel.mediaSamples with
    | nil => simp [hqueue]
    | cons front rest =>
      obtain ⟨type, mediaSample⟩ := front
      dsimp only
      split_ifs with hmedia
      · obtain rfl : type = media := by simpa using hmedia
        rfl
      · simp [hqueue]

section Order
variable [LinearOrder τ] (getPresentationTime : α → τ)

/-- Some queued sample is strictly earlier. -/
def HasEarlier (queue : List (MediaType × α)) (mediaSample : α) : Prop :=
  ∃ queued ∈ queue, getPresentationTime queued.2 < getPresentationTime mediaSample

section Enqueue
variable {getPresentationTime : α → τ} {media : MediaType} {queue : List (MediaType × α)}

theorem insertBehind_perm {mediaSample : MediaType × α}
    (h : HasEarlier getPresentationTime queue mediaSample.2) :
    (insertBehind getPresentationTime mediaSample queue).Perm (mediaSample :: queue) := by
  induction queue with
  | nil =>
    obtain ⟨queued, hqueued, -⟩ := h
    simp at hqueued
  | cons queued rest ih =>
    rw [insertBehind]
    split_ifs with hlater
    · exact List.Perm.refl _
    · have hrest : HasEarlier getPresentationTime rest mediaSample.2 := by
        obtain ⟨earlier, hmem, hlt⟩ := h
        rcases List.mem_cons.mp hmem with rfl | hmem
        · exact absurd hlt hlater
        · exact ⟨earlier, hmem, hlt⟩
      exact ((ih hrest).cons queued).trans (List.Perm.swap mediaSample queued rest)

theorem insertBehind_dropped {mediaSample : MediaType × α}
    (h : ¬ HasEarlier getPresentationTime queue mediaSample.2) :
    insertBehind getPresentationTime mediaSample queue = queue := by
  induction queue with
  | nil => rfl
  | cons queued rest ih =>
    have hlater : ¬ getPresentationTime mediaSample.2 > getPresentationTime queued.2 :=
      fun hlt => h ⟨queued, by simp, hlt⟩
    have hrest : ¬ HasEarlier getPresentationTime rest mediaSample.2 := by
      rintro ⟨earlier, hmem, hlt⟩
      exact h ⟨earlier, List.mem_cons_of_mem _ hmem, hlt⟩
    rw [insertBehind, if_neg hlater, ih hrest]

theorem enqueue_nil (mediaSample : α) :
    enqueue getPresentationTime media [] mediaSample = [(media, mediaSample)] := rfl

theorem enqueue_of_ne_nil (hne : queue ≠ []) (mediaSample : α) :
    enqueue getPresentationTime media queue mediaSample =
      (insertBehind getPresentationTime (media, mediaSample) queue.reverse).reverse := by
  have hempty : ¬ queue.isEmpty = true := by simpa using hne
  rw [enqueue, if_neg hempty]

theorem hasEarlier_reverse {mediaSample : α} :
    HasEarlier getPresentationTime queue.reverse mediaSample ↔
      HasEarlier getPresentationTime queue mediaSample := by
  simp [HasEarlier]

theorem enqueue_perm (media : MediaType) {mediaSample : α}
    (h : HasEarlier getPresentationTime queue mediaSample) :
    (enqueue getPresentationTime media queue mediaSample).Perm ((media, mediaSample) :: queue) := by
  have hne : queue ≠ [] := by
    rintro rfl
    obtain ⟨queued, hqueued, -⟩ := h
    simp at hqueued
  rw [enqueue_of_ne_nil hne]
  have hinserted : (insertBehind getPresentationTime (media, mediaSample) queue.reverse).Perm
      ((media, mediaSample) :: queue.reverse) := insertBehind_perm (hasEarlier_reverse.mpr h)
  exact (List.reverse_perm _).trans (hinserted.trans ((List.reverse_perm queue).cons _))

theorem enqueue_dropped {mediaSample : α} (hne : queue ≠ [])
    (h : ¬ HasEarlier getPresentationTime queue mediaSample) :
    enqueue getPresentationTime media queue mediaSample = queue := by
  have hreverse := hasEarlier_reverse.not.mpr h
  rw [enqueue_of_ne_nil hne, insertBehind_dropped hreverse, List.reverse_reverse]

theorem enqueue_ne_nil (mediaSample : α) :
    enqueue getPresentationTime media queue mediaSample ≠ [] := by
  by_cases hne : queue = []
  · simp [hne, enqueue_nil]
  · by_cases h : HasEarlier getPresentationTime queue mediaSample
    · intro hnil
      have hperm := enqueue_perm media h
      rw [hnil] at hperm
      simp at hperm
    · rw [enqueue_dropped hne h]
      exact hne

theorem foldl_enqueue_ne_nil {mediaSamples : List α} (hne : queue ≠ []) :
    mediaSamples.foldl (enqueue getPresentationTime media) queue ≠ [] := by
  induction mediaSamples generalizing queue with
  | nil => exact hne
  | cons mediaSample rest ih => exact ih (enqueue_ne_nil mediaSample)

theorem length_enqueue_le (mediaSample : α) :
    (enqueue getPresentationTime media queue mediaSample).length ≤ queue.length + 1 := by
  by_cases hne : queue = []
  · simp [hne, enqueue_nil]
  · by_cases h : HasEarlier getPresentationTime queue mediaSample
    · exact (enqueue_perm media h).length_eq.le
    · rw [enqueue_dropped hne h]
      omega

theorem length_foldl_enqueue_le (mediaSamples : List α) :
    (mediaSamples.foldl (enqueue getPresentationTime media) queue).length ≤
      queue.length + mediaSamples.length := by
  induction mediaSamples generalizing queue with
  | nil => simp
  | cons mediaSample rest ih =>
    have hfirst : (enqueue getPresentationTime media queue mediaSample).length ≤
        queue.length + 1 := length_enqueue_le mediaSample
    have hrest : (rest.foldl (enqueue getPresentationTime media)
        (enqueue getPresentationTime media queue mediaSample)).length ≤ _ := ih
    simp only [List.foldl_cons, List.length_cons]
    omega

/-- A sample that was put behind an earlier one changes nothing for the samples after it. -/
theorem hasEarlier_cons {mediaSample other : α}
    (h : HasEarlier getPresentationTime queue mediaSample) :
    HasEarlier getPresentationTime ((media, mediaSample) :: queue) other ↔
      HasEarlier getPresentationTime queue other := by
  constructor
  · rintro ⟨queued, hqueued, hlt⟩
    rcases List.mem_cons.mp hqueued with rfl | hqueued
    · obtain ⟨earlier, hearlier, hlt'⟩ := h
      exact ⟨earlier, hearlier, hlt'.trans hlt⟩
    · exact ⟨queued, hqueued, hlt⟩
  · rintro ⟨queued, hqueued, hlt⟩
    exact ⟨queued, List.mem_cons_of_mem _ hqueued, hlt⟩

theorem HasEarlier.perm {queue' : List (MediaType × α)} {mediaSample : α}
    (h : queue.Perm queue') :
    HasEarlier getPresentationTime queue mediaSample ↔
      HasEarlier getPresentationTime queue' mediaSample := by
  simp only [HasEarlier, h.mem_iff]

/-- A queue that is not empty takes a vector as a whole when each of its samples is later than
some queued one. -/
theorem foldl_enqueue_perm_iff (hne : queue ≠ []) (mediaSamples : List α) :
    (mediaSamples.foldl (enqueue getPresentationTime media) queue).Perm
        (queue ++ mediaSamples.map fun mediaSample => (media, mediaSample)) ↔
      ∀ mediaSample ∈ mediaSamples, HasEarlier getPresentationTime queue mediaSample := by
  induction mediaSamples generalizing queue with
  | nil => simp
  | cons mediaSample rest ih =>
    rw [List.foldl_cons, List.forall_mem_cons]
    by_cases h : HasEarlier getPresentationTime queue mediaSample
    · have hperm := enqueue_perm media h
      have htarget : (enqueue getPresentationTime media queue mediaSample ++
          rest.map fun mediaSample => (media, mediaSample)).Perm
          (queue ++ (mediaSample :: rest).map fun mediaSample => (media, mediaSample)) := by
        rw [List.map_cons]
        exact (hperm.append_right _).trans List.perm_middle.symm
      have hne' : enqueue getPresentationTime media queue mediaSample ≠ [] :=
        enqueue_ne_nil mediaSample
      have hnext := ih hne'
      simp only [HasEarlier.perm hperm, hasEarlier_cons h] at hnext
      rw [← hnext]
      simp only [h, true_and]
      exact ⟨fun hall => hall.trans htarget.symm, fun hall => hall.trans htarget⟩
    · rw [enqueue_dropped hne h]
      have hshort : (rest.foldl (enqueue getPresentationTime media) queue).length ≤
          queue.length + rest.length := length_foldl_enqueue_le rest
      simp only [h, false_and, iff_false]
      intro hperm
      have hlength := hperm.length_eq
      simp only [List.length_append, List.length_map, List.length_cons] at hlength
      omega

end Enqueue

/-- When a vector is queued as a whole: an empty queue takes its first sample in any case, and
`back` needs that there is one. -/
def TakesAll (queue : List (MediaType × α)) (mediaSamples : List α) : Prop :=
  match queue, mediaSamples with
  | [], [] => False
  | [], first :: later =>
    ∀ mediaSample ∈ later, getPresentationTime first < getPresentationTime mediaSample
  | _ :: _, _ => ∀ mediaSample ∈ mediaSamples, HasEarlier getPresentationTime queue mediaSample

theorem foldl_enqueue_takesAll_iff (media : MediaType) (queue : List (MediaType × α))
    (mediaSamples : List α) :
    (mediaSamples.foldl (enqueue getPresentationTime media) queue ≠ [] ∧
        (mediaSamples.foldl (enqueue getPresentationTime media) queue).Perm
          (queue ++ mediaSamples.map fun mediaSample => (media, mediaSample))) ↔
      TakesAll getPresentationTime queue mediaSamples := by
  cases queue with
  | nil =>
    cases mediaSamples with
    | nil => simp [TakesAll]
    | cons first later =>
      have hsingle : [(media, first)] ≠ [] := by simp
      have hsome : later.foldl (enqueue getPresentationTime media) [(media, first)] ≠ [] :=
        foldl_enqueue_ne_nil hsingle
      have hall : (later.foldl (enqueue getPresentationTime media) [(media, first)]).Perm
          ([(media, first)] ++ later.map fun mediaSample => (media, mediaSample)) ↔ _ :=
        foldl_enqueue_perm_iff hsingle later
      simpa [TakesAll, HasEarlier, enqueue_nil, hsome] using hall
  | cons front rest =>
    have hcons : front :: rest ≠ [] := by simp
    have hsome : mediaSamples.foldl (enqueue getPresentationTime media) (front :: rest) ≠ [] :=
      foldl_enqueue_ne_nil hcons
    rw [foldl_enqueue_perm_iff hcons]
    simp [TakesAll, hsome]

section Returns
variable [Sub τ] {getPresentationTime : α → τ} {media : MediaType} {mediaSamples : List α}
  {channel channel' : MergedQueueChannel α τ}

theorem deliver_ok
    (h : channel.deliver getPresentationTime media mediaSamples = .ok channel') :
    channel'.mediaSamples =
      mediaSamples.foldl (enqueue getPresentationTime media) channel.mediaSamples := by
  unfold deliver at h
  dsimp only at h
  split at h
  · obtain rfl := Except.ok.inj h
    rfl
  · cases h

/-- Only an empty vector on an empty queue makes the call look at the ends of nothing. -/
theorem deliver_returns
    (h : mediaSamples.foldl (enqueue getPresentationTime media) channel.mediaSamples ≠ []) :
    ∃ channel', channel.deliver getPresentationTime media mediaSamples = .ok channel' := by
  obtain ⟨front, rest, hqueue⟩ := List.exists_cons_of_ne_nil h
  unfold deliver
  rw [hqueue]
  dsimp only
  rw [List.head?_cons, List.getLast?_cons]
  exact ⟨_, rfl⟩

example : deliver Prod.snd .audio [] (create : MergedQueueChannel (ℕ × ℚ) ℚ) =
    .error .emptyQueue := rfl

theorem deliver_queued_iff (queued : List (MediaType × α) → Prop) :
    (∃ channel', channel.deliver getPresentationTime media mediaSamples = .ok channel' ∧
        queued channel'.mediaSamples) ↔
      mediaSamples.foldl (enqueue getPresentationTime media) channel.mediaSamples ≠ [] ∧
        queued (mediaSamples.foldl (enqueue getPresentationTime media) channel.mediaSamples) := by
  constructor
  · rintro ⟨channel', hdeliver, hqueued⟩
    rw [deliver_ok hdeliver] at hqueued
    refine ⟨fun hnil => ?_, hqueued⟩
    unfold deliver at hdeliver
    rw [hnil] at hdeliver
    cases hdeliver
  · rintro ⟨hne, hqueued⟩
    obtain ⟨channel', hdeliver⟩ := deliver_returns hne
    rw [← deliver_ok hdeliver] at hqueued
    exact ⟨channel', hdeliver, hqueued⟩

/-- A call returns with the whole vector queued just under the condition. -/
theorem deliver_iff :
    (∃ channel', channel.deliver getPresentationTime media mediaSamples = .ok channel' ∧
        channel'.mediaSamples.Perm (channel.mediaSamples ++
          mediaSamples.map fun mediaSample => (media, mediaSample))) ↔
      TakesAll getPresentationTime channel.mediaSamples mediaSamples := by
  rw [← foldl_enqueue_takesAll_iff getPresentationTime media]
  exact deliver_queued_iff fun queue => queue.Perm (channel.mediaSamples ++
    mediaSamples.map fun mediaSample => (media, mediaSample))

end Returns

end Order

end MergedQueueChannel

/-- A channel with the samples it has returned. -/
structure MergedExchange (α τ : Type*) where
  channel : MergedQueueChannel α τ
  returned : List (MediaType × α)
  deriving DecidableEq

namespace MergedExchange
open MergedQueueChannel

inductive Event (α : Type*)
  | deliverVideo (mediaSamples : List α)
  | deliverAudio (mediaSamples : List α)
  | getVideo
  | getAudio

/-- The samples that a call delivers, with their media type. -/
def Event.delivered {α : Type*} : Event α → List (MediaType × α)
  | .deliverVideo mediaSamples => mediaSamples.map fun mediaSample => (.video, mediaSample)
  | .deliverAudio mediaSamples => mediaSamples.map fun mediaSample => (.audio, mediaSample)
  | .getVideo => []
  | .getAudio => []

/-- The samples delivered by the last of the calls. -/
def lastDelivered {α : Type*} (events : List (Event α)) : List (MediaType × α) :=
  events.getLast?.toList.flatMap Event.delivered

variable {α τ : Type*}

def start [Zero τ] : MergedExchange α τ := ⟨.create, []⟩

/-- The sample that a call returned, if any, is noted. -/
def note (s : MergedExchange α τ) (media : MediaType)
    (result : Option α × MergedQueueChannel α τ) : MergedExchange α τ :=
  { channel := result.2
    returned := s.returned ++ result.1.toList.map fun mediaSample => (media, mediaSample) }

def step [LinearOrder τ] [Sub τ] (getPresentationTime : α → τ) (s : MergedExchange α τ) :
    Event α → Except Fault (MergedExchange α τ)
  | .deliverVideo mediaSamples => do
    let channel ← s.channel.deliverVideo getPresentationTime mediaSamples
    return { s with channel }
  | .deliverAudio mediaSamples => do
    let channel ← s.channel.deliverAudio getPresentationTime mediaSamples
    return { s with channel }
  | .getVideo => .ok (s.note .video s.channel.getVideo)
  | .getAudio => .ok (s.note .audio s.channel.getAudio)

/-- A delivery is queued as a whole. -/
def Takes [LinearOrder τ] (getPresentationTime : α → τ) (s : MergedExchange α τ) :
    Event α → Prop
  | .deliverVideo mediaSamples =>
    TakesAll getPresentationTime s.channel.mediaSamples mediaSamples
  | .deliverAudio mediaSamples =>
    TakesAll getPresentationTime s.channel.mediaSamples mediaSamples
  | .getVideo => True
  | .getAudio => True

/-- What was returned and what is queued is what was delivered, and the samples delivered last
are queued. -/
structure Conserves (events : List (Event α)) (s : MergedExchange α τ) : Prop where
  perm : (s.returned ++ s.channel.mediaSamples).Perm (events.flatMap Event.delivered)
  queued : ∀ mediaSample ∈ lastDelivered events, mediaSample ∈ s.channel.mediaSamples

variable {s : MergedExchange α τ} {events : List (Event α)}

/-- With all samples accounted for before, they are after a delivery if it is queued. -/
theorem conserves_deliver_iff {e : Event α} {channel : MergedQueueChannel α τ}
    (hperm : (s.returned ++ s.channel.mediaSamples).Perm (events.flatMap Event.delivered)) :
    Conserves (events ++ [e]) ({ s with channel } : MergedExchange α τ) ↔
      channel.mediaSamples.Perm (s.channel.mediaSamples ++ e.delivered) := by
  have hsnoc : ((events ++ [e]).flatMap Event.delivered).Perm
      (s.returned ++ (s.channel.mediaSamples ++ e.delivered)) := by
    rw [List.flatMap_append, List.flatMap_singleton, ← List.append_assoc]
    exact (hperm.append_right _).symm
  constructor
  · intro h
    exact (List.perm_append_left_iff s.returned).mp (h.perm.trans hsnoc)
  · intro h
    refine ⟨(h.append_left s.returned).trans hsnoc.symm, fun mediaSample hmem => ?_⟩
    simp only [lastDelivered, List.getLast?_append_cons, List.getLast?_singleton,
      Option.toList_some, List.flatMap_singleton] at hmem
    exact h.mem_iff.mpr (List.mem_append_right _ hmem)

theorem conserves_note {e : Event α} (media : MediaType)
    {result : Option α × MergedQueueChannel α τ} (hnone : e.delivered = [])
    (hresult : result.1.toList.map (fun mediaSample => (media, mediaSample)) ++
      result.2.mediaSamples = s.channel.mediaSamples) (h : Conserves events s) :
    Conserves (events ++ [e]) (s.note media result) := by
  refine ⟨?_, ?_⟩
  · rw [List.flatMap_append, List.flatMap_singleton, hnone, List.append_nil]
    simp only [note, List.append_assoc, hresult]
    exact h.perm
  · simp [lastDelivered, hnone]

section Step
variable [LinearOrder τ] [Sub τ] {getPresentationTime : α → τ}

theorem deliver_conserves_iff {e : Event α} {media : MediaType} {mediaSamples : List α}
    (hperm : (s.returned ++ s.channel.mediaSamples).Perm (events.flatMap Event.delivered))
    (hdelivered : e.delivered = mediaSamples.map fun mediaSample => (media, mediaSample)) :
    (∃ t, (do
        let channel ← s.channel.deliver getPresentationTime media mediaSamples
        return { s with channel } : Except Fault (MergedExchange α τ)) = .ok t ∧
      Conserves (events ++ [e]) t) ↔
        TakesAll getPresentationTime s.channel.mediaSamples mediaSamples := by
  have htakes : (∃ channel, s.channel.deliver getPresentationTime media mediaSamples =
      .ok channel ∧ channel.mediaSamples.Perm (s.channel.mediaSamples ++ e.delivered)) ↔
        TakesAll getPresentationTime s.channel.mediaSamples mediaSamples := by
    rw [hdelivered]
    exact deliver_iff
  rw [← htakes]
  constructor
  · rintro ⟨t, ht, hconserves⟩
    obtain ⟨channel, hchannel, ht⟩ := bind_ok.mp ht
    obtain rfl := Except.ok.inj ht
    exact ⟨channel, hchannel, (conserves_deliver_iff hperm).mp hconserves⟩
  · rintro ⟨channel, hchannel, hqueued⟩
    exact ⟨_, bind_ok.mpr ⟨channel, hchannel, rfl⟩, (conserves_deliver_iff hperm).mpr hqueued⟩

/-- One step, over all events. -/
theorem step_conserves_iff (h : Conserves events s) (e : Event α) :
    (∃ t, step getPresentationTime s e = .ok t ∧ Conserves (events ++ [e]) t) ↔
      Takes getPresentationTime s e := by
  cases e with
  | deliverVideo mediaSamples => exact deliver_conserves_iff h.perm rfl
  | deliverAudio mediaSamples => exact deliver_conserves_iff h.perm rfl
  | getVideo =>
    have hget := get_conserves .video .audio s.channel
    exact iff_of_true ⟨_, rfl, conserves_note .video rfl hget h⟩ trivial
  | getAudio =>
    have hget := get_conserves .audio .video s.channel
    exact iff_of_true ⟨_, rfl, conserves_note .audio rfl hget h⟩ trivial

/-- In every interleaving no sample is ever lost exactly when every delivery is taken as a
whole. -/
theorem merged_conserved_iff [Zero τ] (getPresentationTime : α → τ) (events : List (Event α)) :
    (∀ before after, events = before ++ after → ∃ s,
        run (step getPresentationTime) start before = .ok s ∧ Conserves before s) ↔
      Along (step getPresentationTime) (fun _ s e => Takes getPresentationTime s e) start
        events := by
  have hstart : Conserves ([] : List (Event α)) (start : MergedExchange α τ) :=
    ⟨List.Perm.refl _, by simp [lastDelivered]⟩
  exact reaches_iff hstart (fun _ _ e h => step_conserves_iff h e) events

end Step

/-- Two NAL units of one access unit: the second is not later than the first, and is dropped. -/
theorem equal_time_dropped :
    (run (step Prod.snd) (start : MergedExchange (ℕ × ℚ) ℚ)
        [.deliverVideo [(1, 0), (2, 0)]]).toOption.map (fun s => s.channel.mediaSamples) =
      some [(.video, (1, 0))] := by
  decide +kernel

end MergedExchange

end LiveMediaExt.Media
