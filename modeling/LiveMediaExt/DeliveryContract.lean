import LiveMediaExt.FrameRetrieval

/-!
# The contract of `deliverFrame`

The comment of the function says what a delivery sets for the sink. A frame that fits is
delivered so. For a larger frame the bytes are not copied, and the number of those left out is
reckoned from the frame size that an earlier delivery, or an AMR retrieval, left behind.
-/
namespace LiveMediaExt.Sources
open Execution Media

namespace LiveDeviceSource

/-- The delivery of one sample, up to what the sink's callback does. -/
def deliverSample (d : Delivery) (mediaSample : MediaSample) (rest : List MediaSample)
    (src : LiveDeviceSource) : Except Fault LiveDeviceSource := do
  let src := stampFrame d mediaSample.presentationTime { src with mediaSamples := rest }
  let src ← copyFrame mediaSample src
  return afterGetting mediaSample src

/-- The sink's callback. -/
def callback (world : ℕ → Delivery) (src : LiveDeviceSource) : Except Fault LiveDeviceSource :=
  match (world 0).next with
  | none => .ok src
  | some request => getNextFrame (fun n => world (n + 1)) request src

/-- What live555 has set when a frame is due, and the ranges of the two sizes. -/
structure Due (src : LiveDeviceSource) : Prop where
  awaiting : src.isCurrentlyAwaitingData = true
  numTruncatedBytes : src.numTruncatedBytes = 0
  maxSize_lt : src.maxSize < 2 ^ 32
  frameSize_lt : src.frameSize < 2 ^ 32

/-- The contract for a frame delivered to the destination of `src`. -/
structure MeetsContract (mediaSample : MediaSample) (src t : LiveDeviceSource) : Prop where
  frameSize : t.frameSize = min mediaSample.getMediaSize src.maxSize
  copied : t.fTo.take t.frameSize = mediaSample.data.data.take t.frameSize
  numTruncatedBytes : t.numTruncatedBytes = mediaSample.getMediaSize - t.frameSize

/-- The frame fits, also for the comparison of the two sizes as numbers of type `int`. -/
def FrameFits (mediaSample : MediaSample) (src : LiveDeviceSource) : Prop :=
  mediaSample.getMediaSize ≤ src.maxSize ∧
    int32 mediaSample.getMediaSize ≤ int32 src.maxSize

/-- The frame is larger, also for that comparison, the frame size left behind is the size of the
destination, and the destination holds the beginning of the frame already. -/
def AlreadyThere (mediaSample : MediaSample) (src : LiveDeviceSource) : Prop :=
  src.maxSize ≤ mediaSample.getMediaSize ∧
    int32 src.maxSize < int32 mediaSample.getMediaSize ∧
    src.frameSize = src.maxSize ∧ src.fTo = mediaSample.data.data.take src.maxSize

section Due
variable {src t : LiveDeviceSource}

/-- A request of the sink makes a frame due. -/
theorem awaitFrame_due (request : Request) (h : src.frameSize < 2 ^ 32) :
    Due (awaitFrame request src) :=
  ⟨rfl, rfl, request.length_lt, h⟩

theorem frameSizes_lt (isWideband : Bool) (ft : ℕ) :
    (if isWideband then frameSizeWideband else Sources.frameSize).getD ft ftInvalid < 2 ^ 32 := by
  have htables : ∀ size ∈ Sources.frameSize ++ frameSizeWideband, size < 2 ^ 32 := by decide
  rw [List.getD_eq_getElem?_getD]
  cases hsize : (if isWideband then frameSizeWideband else Sources.frameSize)[ft]? with
  | none => decide
  | some size =>
    have hmem := List.mem_of_getElem? hsize
    apply htables
    cases isWideband with
    | true => exact List.mem_append_right _ hmem
    | false => exact List.mem_append_left _ hmem

/-- An AMR retrieval changes the frame size, but the frame is still due. -/
theorem Due.noteFrameHeader (h : Due src) (isWideband : Bool) (header : UInt8) :
    Due (src.noteFrameHeader isWideband header) := by
  unfold LiveDeviceSource.noteFrameHeader
  dsimp only
  split_ifs
  · exact ⟨h.awaiting, h.numTruncatedBytes, h.maxSize_lt, h.frameSize_lt⟩
  · exact ⟨h.awaiting, h.numTruncatedBytes, h.maxSize_lt, frameSizes_lt true _⟩
  · exact ⟨h.awaiting, h.numTruncatedBytes, h.maxSize_lt, frameSizes_lt false _⟩

/-- Whatever is retrieved before the delivery, the frame stays due. -/
theorem Due.retrieve (h : Due src) {frame : Option Frame} {got : Bool}
    (hretrieve : src.retrieveMediaSampleFromBuffer frame = .ok (got, t)) : Due t := by
  unfold retrieveMediaSampleFromBuffer at hretrieve
  cases hclass : src.subclass with
  | device =>
    rw [hclass] at hretrieve
    rcases retrieveDevice_ok hretrieve with ⟨-, -, rfl⟩ | ⟨f, data, -, -, -, rfl⟩
    · exact h
    · exact ⟨h.awaiting, h.numTruncatedBytes, h.maxSize_lt, h.frameSize_lt⟩
  | amr isWideband header =>
    rw [hclass] at hretrieve
    obtain ⟨f, header', data, -, -, rfl⟩ := retrieveAmr_ok hretrieve
    have hnoted := h.noteFrameHeader isWideband header'
    exact ⟨hnoted.awaiting, hnoted.numTruncatedBytes, hnoted.maxSize_lt, hnoted.frameSize_lt⟩
  | h264 waitingForIdr =>
    rw [hclass] at hretrieve
    rcases retrieveH264_ok hretrieve with ⟨-, rfl⟩ | ⟨f, mediaSamples, -, -, -, rfl, -⟩
    · exact h
    · exact ⟨h.awaiting, h.numTruncatedBytes, h.maxSize_lt, h.frameSize_lt⟩

end Due

section Contract
variable {mediaSample : MediaSample} {src t : LiveDeviceSource}

theorem MeetsContract.total (h : MeetsContract mediaSample src t) :
    t.frameSize + t.numTruncatedBytes = mediaSample.getMediaSize := by
  have hsize := h.frameSize
  have htruncated := h.numTruncatedBytes
  omega

/-- The number of truncated bytes is right just when the old frame size is the new one. -/
theorem sub32_eq_iff {n old new : ℕ} (hn : n < 2 ^ 32) (hold : old < 2 ^ 32) (hle : new ≤ n) :
    sub32 n old = n - new ↔ old = new := by
  unfold sub32 uint32
  omega

/-- The first case of `copyFrame`: the frame is larger for the comparison. -/
theorem copyFrame_larger (h : int32 src.maxSize < int32 mediaSample.getMediaSize) :
    copyFrame mediaSample src = .ok { src with
      numTruncatedBytes := sub32 mediaSample.getMediaSize src.frameSize
      frameSize := src.maxSize } := by
  simp [copyFrame, h]

theorem copyFrame_fits (h : FrameFits mediaSample src) :
    copyFrame mediaSample src = .ok { src with
      frameSize := mediaSample.getMediaSize
      fTo := mediaSample.data.data ++ src.fTo.drop mediaSample.getMediaSize
      durationInMicroseconds := 0 } := by
  obtain ⟨hle, hint⟩ := h
  have hlength : mediaSample.getMediaSize ≤ src.fTo.length := hle
  simp [copyFrame, not_lt.mpr hint, hlength]

theorem copyFrame_overruns (hlarger : ¬ int32 src.maxSize < int32 mediaSample.getMediaSize)
    (hfits : ¬ FrameFits mediaSample src) : copyFrame mediaSample src = .error .outOfBounds := by
  have hlength : ¬ mediaSample.getMediaSize ≤ src.fTo.length :=
    fun hle => hfits ⟨hle, not_lt.mp hlarger⟩
  simp [copyFrame, hlarger, hlength]

theorem larger_contract_iff (h : Due src) (hsize : src.maxSize ≤ mediaSample.getMediaSize) :
    MeetsContract mediaSample src { src with
      numTruncatedBytes := sub32 mediaSample.getMediaSize src.frameSize
      frameSize := src.maxSize } ↔
      src.frameSize = src.maxSize ∧ src.fTo = mediaSample.data.data.take src.maxSize := by
  have hsub := sub32_eq_iff mediaSample.getMediaSize_lt h.frameSize_lt hsize
  have hwhole : src.fTo.take src.maxSize = src.fTo := List.take_length
  constructor
  · intro hmeets
    refine ⟨hsub.mp hmeets.numTruncatedBytes, ?_⟩
    rw [← hwhole]
    exact hmeets.copied
  · rintro ⟨hframeSize, hthere⟩
    exact ⟨(min_eq_right hsize).symm, hwhole.trans hthere, hsub.mpr hframeSize⟩

theorem fits_contract (h : Due src) (hfits : FrameFits mediaSample src) :
    MeetsContract mediaSample src { src with
      frameSize := mediaSample.getMediaSize
      fTo := mediaSample.data.data ++ src.fTo.drop mediaSample.getMediaSize
      durationInMicroseconds := 0 } where
  frameSize := (min_eq_left hfits.1).symm
  copied := List.take_append_of_le_length le_rfl
  numTruncatedBytes := by
    rw [h.numTruncatedBytes]
    exact (Nat.sub_self _).symm

theorem copyFrame_contract_iff (h : Due src) :
    (∃ t, copyFrame mediaSample src = .ok t ∧ MeetsContract mediaSample src t) ↔
      FrameFits mediaSample src ∨ AlreadyThere mediaSample src := by
  by_cases hlarger : int32 src.maxSize < int32 mediaSample.getMediaSize
  · have hnot : ¬ FrameFits mediaSample src := fun hfits => absurd hlarger (not_lt.mpr hfits.2)
    simp only [hnot, false_or, copyFrame_larger hlarger, Except.ok.injEq, exists_eq_left']
    constructor
    · intro hmeets
      have hsize : src.maxSize ≤ mediaSample.getMediaSize :=
        min_eq_right_iff.mp hmeets.frameSize.symm
      exact ⟨hsize, hlarger, (larger_contract_iff h hsize).mp hmeets⟩
    · rintro ⟨hsize, -, hthere⟩
      exact (larger_contract_iff h hsize).mpr hthere
  · have hnot : ¬ AlreadyThere mediaSample src := fun hthere => hlarger hthere.2.1
    by_cases hfits : FrameFits mediaSample src
    · exact iff_of_true ⟨_, copyFrame_fits hfits, fits_contract h hfits⟩ (.inl hfits)
    · simp [hnot, hfits, copyFrame_overruns hlarger hfits]

/-- Stamping touches no member that the contract or the sink's request is about. -/
theorem stampFrame_members (d : Delivery) (dStartTime : ℚ) (rest : List MediaSample)
    (src : LiveDeviceSource) :
    ∃ offsetSet tOffsetTime dOffsetTime presentationTime,
      stampFrame d dStartTime { src with mediaSamples := rest } = { src with
        mediaSamples := rest, offsetSet, tOffsetTime, dOffsetTime, presentationTime } := by
  unfold stampFrame
  split_ifs
  · exact ⟨true, _, _, _, rfl⟩
  · exact ⟨src.offsetSet, src.tOffsetTime, src.dOffsetTime, _, rfl⟩

/-- The stamp is set before, and the callback is made after, the members of the contract. -/
theorem deliverSample_contract_iff (h : Due src) (d : Delivery) (rest : List MediaSample) :
    (∃ t, deliverSample d mediaSample rest src = .ok t ∧ MeetsContract mediaSample src t) ↔
      FrameFits mediaSample src ∨ AlreadyThere mediaSample src := by
  obtain ⟨offsetSet, tOffsetTime, dOffsetTime, presentationTime, hstamped⟩ :=
    stampFrame_members d mediaSample.presentationTime rest src
  have hdue : Due { src with
      mediaSamples := rest, offsetSet, tOffsetTime, dOffsetTime, presentationTime } :=
    ⟨h.awaiting, h.numTruncatedBytes, h.maxSize_lt, h.frameSize_lt⟩
  have hcopy := @copyFrame_contract_iff mediaSample _ hdue
  unfold deliverSample
  rw [hstamped]
  constructor
  · rintro ⟨t, ht, hmeets⟩
    obtain ⟨u, hu, ht⟩ := bind_ok.mp ht
    obtain rfl := Except.ok.inj ht
    exact hcopy.mp ⟨u, hu, hmeets.frameSize, hmeets.copied, hmeets.numTruncatedBytes⟩
  · intro hcondition
    obtain ⟨u, hu, hmeets⟩ := hcopy.mpr hcondition
    exact ⟨afterGetting mediaSample u, bind_ok.mpr ⟨u, hu, rfl⟩, hmeets.frameSize, hmeets.copied,
      hmeets.numTruncatedBytes⟩

theorem deliverFrame_eq {rest : List MediaSample} (world : ℕ → Delivery) (h : Due src)
    (hqueue : src.mediaSamples = mediaSample :: rest) :
    deliverFrame world src =
      deliverSample (world 0) mediaSample rest src >>= callback world := by
  rw [deliverFrame_cons h.awaiting hqueue]
  unfold deliverSample
  dsimp only
  cases copyFrame mediaSample
      (stampFrame (world 0) mediaSample.presentationTime { src with mediaSamples := rest }) with
  | error f => rfl
  | ok t => rfl

end Contract

/-- A delivery meets the contract exactly when the frame fits, or the result is there before. -/
theorem delivery_contract_iff (world : ℕ → Delivery) (src : LiveDeviceSource)
    (mediaSample : MediaSample) (rest : List MediaSample) (h : Due src)
    (hqueue : src.mediaSamples = mediaSample :: rest) :
    deliverFrame world src = deliverSample (world 0) mediaSample rest src >>= callback world ∧
      ((∃ t, deliverSample (world 0) mediaSample rest src = .ok t ∧
          MeetsContract mediaSample src t) ↔
        FrameFits mediaSample src ∨ AlreadyThere mediaSample src) :=
  ⟨deliverFrame_eq world h hqueue, deliverSample_contract_iff h (world 0) rest⟩

def twoBytes : MediaSample := { data := ⟨[1, 2], by decide⟩ }

/-- The sink of a new source has asked for the frame, which is queued. -/
def dueFrame (request : Request) : LiveDeviceSource :=
  { awaitFrame request (createNew 0 0 .device 0) with mediaSamples := [twoBytes] }

def midnight (_ : ℕ) : Delivery := ⟨⟨0, 0⟩, ⟨0, 0⟩, none⟩

theorem delivery_contract_twoBytes :
    deliverFrame midnight (dueFrame ⟨[0, 0, 0], by decide⟩) =
        deliverSample (midnight 0) twoBytes [] (dueFrame ⟨[0, 0, 0], by decide⟩) >>=
          callback midnight ∧
      ((∃ t, deliverSample (midnight 0) twoBytes [] (dueFrame ⟨[0, 0, 0], by decide⟩) = .ok t ∧
          MeetsContract twoBytes (dueFrame ⟨[0, 0, 0], by decide⟩) t) ↔
        FrameFits twoBytes (dueFrame ⟨[0, 0, 0], by decide⟩) ∨
          AlreadyThere twoBytes (dueFrame ⟨[0, 0, 0], by decide⟩)) :=
  delivery_contract_iff midnight (dueFrame ⟨[0, 0, 0], by decide⟩) twoBytes []
    ⟨rfl, rfl, by decide, by decide⟩ rfl

/-- A frame of two bytes for a destination of one: no byte is copied, and as many bytes are
reported truncated as the frame has. -/
theorem larger_frame_notCopied :
    (deliverFrame midnight (dueFrame ⟨[0], by decide⟩)).map
        (fun t => (t.frameSize, t.fTo, t.numTruncatedBytes)) = .ok (1, [0], 2) ∧
      ¬ ∃ t, deliverFrame midnight (dueFrame ⟨[0], by decide⟩) = .ok t ∧
        MeetsContract twoBytes (dueFrame ⟨[0], by decide⟩) t := by
  have hmembers : (deliverFrame midnight (dueFrame ⟨[0], by decide⟩)).map
      (fun t => (t.frameSize, t.fTo, t.numTruncatedBytes)) = .ok (1, [0], 2) := by decide +kernel
  refine ⟨hmembers, ?_⟩
  rintro ⟨t, ht, hmeets⟩
  rw [ht] at hmembers
  have htruncated := hmeets.total
  have hvalues := Except.ok.inj hmembers
  have hsize : twoBytes.getMediaSize = 2 := rfl
  simp only [Prod.mk.injEq] at hvalues
  omega

end LiveDeviceSource

end LiveMediaExt.Sources
