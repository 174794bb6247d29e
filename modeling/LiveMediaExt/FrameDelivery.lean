import LiveMediaExt.FrameRetrieval

/-!
# What deliveries preserve

A delivery moves samples from the front of the queue to the sink and loses none. However the
sink's callback nests, a source that is left waiting for data has an empty queue and is not
marked as playing.
-/
namespace LiveMediaExt.Sources
open Execution Media

/-- `t` is the same source after deliveries: each sample is still queued or was popped, in
the same order. -/
structure Serves (src t : LiveDeviceSource) : Prop where
  self : t.self = src.self
  clientId : t.clientId = src.clientId
  subclass : t.subclass = src.subclass
  stream : t.popped ++ t.mediaSamples = src.popped ++ src.mediaSamples

/-- An outstanding request excludes queued samples and the playing mark. -/
def Settled (src : LiveDeviceSource) : Prop :=
  src.isCurrentlyAwaitingData = true → src.mediaSamples = [] ∧ src.isPlaying = false

theorem Serves.refl (src : LiveDeviceSource) : Serves src src := ⟨rfl, rfl, rfl, rfl⟩

theorem Serves.trans {a b c : LiveDeviceSource} (h : Serves a b) (g : Serves b c) : Serves a c :=
  ⟨g.self.trans h.self, g.clientId.trans h.clientId, g.subclass.trans h.subclass,
    g.stream.trans h.stream⟩

theorem settled_of_not_awaiting {src : LiveDeviceSource}
    (h : src.isCurrentlyAwaitingData = false) : Settled src := by
  intro hawait
  simp [h] at hawait

theorem createNew_settled (self clientId : ℕ) (subclass : Subclass) (frameSize : ℕ) :
    Settled (.createNew self clientId subclass frameSize) :=
  settled_of_not_awaiting rfl

namespace LiveDeviceSource

theorem awaitFrame_serves (request : Request) (src : LiveDeviceSource) (playing : Bool) :
    Serves src { awaitFrame request src with isPlaying := playing } :=
  ⟨rfl, rfl, rfl, rfl⟩

/-- One turn of the delivery: the popped sample is recorded as handed over. -/
theorem afterGetting_serves {d : Delivery} {dStartTime : ℚ} {src t : LiveDeviceSource}
    {mediaSample : MediaSample} {rest : List MediaSample}
    (hqueue : src.mediaSamples = mediaSample :: rest)
    (h : copyFrame mediaSample (stampFrame d dStartTime { src with mediaSamples := rest }) = .ok t) :
    Serves src (afterGetting mediaSample t) ∧
      (afterGetting mediaSample t).isCurrentlyAwaitingData = false ∧
      (afterGetting mediaSample t).mediaSamples = rest := by
  have hs := stampFrame_fills d dStartTime { src with mediaSamples := rest }
  have hc := copyFrame_fills h
  have hrest : t.mediaSamples = rest := hc.mediaSamples.trans hs.mediaSamples
  have hhand : t.handovers = src.handovers := hc.handovers.trans hs.handovers
  refine ⟨⟨hc.self.trans hs.self, hc.clientId.trans hs.clientId, hc.subclass.trans hs.subclass, ?_⟩,
    rfl, hrest⟩
  simp [popped, afterGetting, hhand, hrest, hqueue]

/-- Induction on the queue: each turn pops its head, and the callback decides whether the
turn is the last. -/
theorem deliverQueued_spec {queue : List MediaSample} {world : ℕ → Delivery}
    {src t : LiveDeviceSource} (hqueue : src.mediaSamples = queue)
    (h : deliverQueued world src queue = .ok t) : Serves src t ∧ Settled t := by
  induction queue generalizing world src with
  | nil => cases h
  | cons mediaSample rest ih =>
    obtain ⟨u, hcopy, h⟩ := bind_ok.mp h
    obtain ⟨hserves, hidle, hrest⟩ := afterGetting_serves hqueue hcopy
    cases hnext : (world 0).next with
    | none =>
      simp only [hnext, Except.ok.injEq] at h
      subst h
      exact ⟨hserves, settled_of_not_awaiting hidle⟩
    | some request =>
      simp only [hnext] at h
      cases rest with
      | nil =>
        simp only [Except.ok.injEq] at h
        subst h
        exact ⟨hserves.trans (awaitFrame_serves _ _ _), fun _ => ⟨hrest, rfl⟩⟩
      | cons second rest =>
        have hnested := ih (by exact hrest) h
        exact ⟨(hserves.trans (awaitFrame_serves _ _ _)).trans hnested.1, hnested.2⟩

theorem deliverFrame_spec {world : ℕ → Delivery} {src t : LiveDeviceSource}
    (h : deliverFrame world src = .ok t) : Serves src t ∧ Settled t := by
  unfold deliverFrame at h
  cases hawait : src.isCurrentlyAwaitingData with
  | false =>
    simp only [hawait, Bool.not_false, if_true, Except.ok.injEq] at h
    subst h
    exact ⟨.refl _, settled_of_not_awaiting hawait⟩
  | true =>
    simp only [hawait, Bool.not_true, Bool.false_eq_true, if_false] at h
    exact deliverQueued_spec rfl h

theorem getNextFrame_spec {world : ℕ → Delivery} {request : Request} {src t : LiveDeviceSource}
    (h : getNextFrame world request src = .ok t) : Serves src t ∧ Settled t := by
  unfold getNextFrame doGetNextFrame at h
  split_ifs at h with hempty
  · cases h
    exact ⟨awaitFrame_serves _ _ _, fun _ => ⟨List.isEmpty_iff.mp hempty, rfl⟩⟩
  · have hd := deliverFrame_spec h
    exact ⟨(awaitFrame_serves _ _ _).trans hd.1, hd.2⟩

theorem stopGettingFrames_spec (src : LiveDeviceSource) :
    Serves src src.stopGettingFrames ∧ Settled src.stopGettingFrames :=
  ⟨⟨rfl, rfl, rfl, rfl⟩, settled_of_not_awaiting rfl⟩

/-- Only a sample of 2 GiB or more can overrun the sink's destination: its size is
negative as an `int`. -/
theorem copyFrame_error {mediaSample : MediaSample} {src : LiveDeviceSource} {f : Fault}
    (h : copyFrame mediaSample src = .error f) :
    f = .outOfBounds ∧ 2 ^ 31 ≤ mediaSample.getMediaSize := by
  unfold copyFrame at h
  dsimp only at h
  split_ifs at h with htrunc hfits
  cases h
  refine ⟨rfl, ?_⟩
  by_contra hsmall
  have hn := int32_of_lt (not_le.mp hsmall)
  have hm := int32_le src.maxSize
  unfold FramedSource.maxSize at htrunc hm
  omega

theorem deliverQueued_error {queue : List MediaSample} {world : ℕ → Delivery}
    {src : LiveDeviceSource} {f : Fault} (h : deliverQueued world src queue = .error f) :
    (f = .emptyQueue ∧ queue = []) ∨
      (f = .outOfBounds ∧ ∃ s ∈ queue, 2 ^ 31 ≤ s.getMediaSize) := by
  induction queue generalizing world src with
  | nil =>
    cases h
    exact .inl ⟨rfl, rfl⟩
  | cons mediaSample rest ih =>
    rcases bind_error.mp h with hcopy | ⟨u, hcopy, h⟩
    · obtain ⟨hf, hsize⟩ := copyFrame_error hcopy
      exact .inr ⟨hf, mediaSample, by simp, hsize⟩
    · cases hnext : (world 0).next with
      | none => simp [hnext] at h
      | some request =>
        simp only [hnext] at h
        cases rest with
        | nil => cases h
        | cons second rest =>
          rcases ih h with ⟨-, hnil⟩ | ⟨hf, s, hs, hsize⟩
          · cases hnil
          · exact .inr ⟨hf, s, by simp [hs], hsize⟩

/-- The assertion of `deliverFrame` fails on an awaiting source without a sample, and no
other fault is possible while the queued samples are smaller than 2 GiB. -/
theorem deliverFrame_error {world : ℕ → Delivery} {src : LiveDeviceSource} {f : Fault}
    (h : deliverFrame world src = .error f) :
    (f = .emptyQueue ∧ src.isCurrentlyAwaitingData = true ∧ src.mediaSamples = []) ∨
      (f = .outOfBounds ∧ ∃ s ∈ src.mediaSamples, 2 ^ 31 ≤ s.getMediaSize) := by
  unfold deliverFrame at h
  cases hawait : src.isCurrentlyAwaitingData with
  | false => simp [hawait] at h
  | true =>
    simp only [hawait, Bool.not_true, Bool.false_eq_true, if_false] at h
    rcases deliverQueued_error h with ⟨hf, hempty⟩ | hlarge
    · exact .inl ⟨hf, rfl, hempty⟩
    · exact .inr hlarge

/-- A request never reaches the assertion: `doGetNextFrame` looks at the queue first. -/
theorem getNextFrame_error {world : ℕ → Delivery} {request : Request} {src : LiveDeviceSource}
    {f : Fault} (h : getNextFrame world request src = .error f) :
    f = .outOfBounds ∧ ∃ s ∈ src.mediaSamples, 2 ^ 31 ≤ s.getMediaSize := by
  unfold getNextFrame doGetNextFrame at h
  split_ifs at h with hempty
  rcases deliverFrame_error h with ⟨-, -, hnil⟩ | hlarge
  · exact absurd (List.isEmpty_iff.mpr hnil) hempty
  · exact hlarge

end LiveDeviceSource

end LiveMediaExt.Sources
