import LiveMediaExt.AmrHeaders

/-!
# The validation of AMR frames

The retrieval looks at the padding bits and the frame type of the header, but only to note the
frame size: whatever it finds, the bytes behind the header are queued and the call returns true.
-/
namespace LiveMediaExt.Sources
open Execution Media LiveDeviceSource

/-- The size of the frames with the header, in the table that applies. -/
def tableSize (isWideband : Bool) (header : UInt8) : ℕ :=
  (if isWideband then frameSizeWideband else frameSize).getD ((header &&& 0x78) >>> 3).toNat
    ftInvalid

/-- A header with clear padding bits and a valid frame type, and as many bytes behind it as the
table says. -/
def IsAmrFrame (isWideband : Bool) (mediaSample : MediaSample) : Prop :=
  match mediaSample.data.data with
  | [] => False
  | header :: data =>
    header &&& 0x83 = 0 ∧ tableSize isWideband header ≠ ftInvalid ∧
      data.length = tableSize isWideband header

/-- A frame is queued without its header, and any other sample is rejected: the queue, the frame
size and the last header stay. -/
structure Validates (isWideband : Bool) (mediaSample : MediaSample) (src : LiveDeviceSource)
    (result : Except Fault (Bool × LiveDeviceSource)) : Prop where
  accepted : IsAmrFrame isWideband mediaSample →
    ∃ t, result = .ok (true, t) ∧ t.mediaSamples = src.mediaSamples ++ [payload mediaSample]
  rejected : ¬ IsAmrFrame isWideband mediaSample →
    ∃ t, result = .ok (false, t) ∧ t.mediaSamples = src.mediaSamples ∧
      t.frameSize = src.frameSize ∧ t.subclass = src.subclass

section Retrieval
variable {src : LiveDeviceSource} {isWideband : Bool} {header : UInt8}
  {mediaSample : MediaSample}

theorem retrieve_never_false (hclass : src.subclass = .amr isWideband header)
    (frame : Option Frame) (t : LiveDeviceSource) :
    src.retrieveMediaSampleFromBuffer frame ≠ .ok (false, t) := by
  intro h
  rw [retrieveMediaSampleFromBuffer, hclass] at h
  obtain ⟨f, header', data, -, hgot, -⟩ := retrieveAmr_ok h
  cases hgot

/-- A sample with a header byte is queued, valid or not. -/
theorem retrieve_queues (hclass : src.subclass = .amr isWideband header) {first : UInt8}
    {tail : List UInt8} (hdata : mediaSample.data.data = first :: tail) (rest : List UInt8) :
    ∃ t, src.retrieveMediaSampleFromBuffer (some (storedFrame mediaSample rest)) =
        .ok (true, t) ∧
      t.mediaSamples = src.mediaSamples ++ [payload mediaSample] := by
  refine ⟨_, retrieve_storedFrame hclass hdata rest, ?_⟩
  have hnoted := (noteFrameHeader_appends isWideband first src).mediaSamples
  simp [pushBack, hnoted]

/-- The length of an empty sample wraps: no allocation of 32-bit size holds so many bytes. -/
theorem retrieve_empty (hclass : src.subclass = .amr isWideband header)
    (hdata : mediaSample.data.data = []) {rest : List UInt8} (hrest : rest.length < 2 ^ 32) :
    src.retrieveMediaSampleFromBuffer (some (storedFrame mediaSample rest)) =
      .error .outOfBounds := by
  have hmemory : (storedFrame mediaSample rest).memory = rest := by
    simp [storedFrame, hdata]
  have hsize : uint32 (sub32 (storedFrame mediaSample rest).size 1) = 2 ^ 32 - 1 := by
    have hzero : (storedFrame mediaSample rest).size = 0 := by
      simp [storedFrame, MediaSample.getMediaSize, Buffer.getSize, hdata]
    rw [hzero]
    rfl
  rw [retrieveMediaSampleFromBuffer, hclass]
  dsimp only
  unfold retrieveAmr
  rw [bind_error, hmemory]
  cases rest with
  | nil => exact .inl rfl
  | cons first tail =>
    have hoverrun : ¬ 1 + (2 ^ 32 - 1) ≤ (first :: tail).length := by omega
    have hcopy : copyBytes (first :: tail) 1 (sub32 (storedFrame mediaSample (first :: tail)).size 1)
        = .error .outOfBounds := by
      rw [copyBytes, if_neg (by rwa [hsize])]
    exact .inr ⟨first, rfl, bind_error.mpr (.inl hcopy)⟩

end Retrieval

/-- The retrieval validates a sample exactly when there is nothing to reject in it. -/
theorem retrieve_validates_iff (src : LiveDeviceSource) (isWideband : Bool) (header : UInt8)
    (mediaSample : MediaSample) (rest : List UInt8)
    (hclass : src.subclass = .amr isWideband header) :
    Validates isWideband mediaSample src
        (src.retrieveMediaSampleFromBuffer (some (storedFrame mediaSample rest))) ↔
      IsAmrFrame isWideband mediaSample := by
  constructor
  · intro h
    by_contra hinvalid
    obtain ⟨t, ht, -⟩ := h.rejected hinvalid
    exact retrieve_never_false hclass _ t ht
  · intro hframe
    refine ⟨fun _ => ?_, fun hinvalid => absurd hframe hinvalid⟩
    cases hdata : mediaSample.data.data with
    | nil => simp [IsAmrFrame, hdata] at hframe
    | cons first tail => exact retrieve_queues hclass hdata rest

/-- A comfort noise frame: a header of frame type 8 and five bytes. -/
def comfortNoise : MediaSample := { data := ⟨[0x44, 1, 2, 3, 4, 5], by decide⟩ }

theorem retrieve_validates_comfortNoise :
    Validates false comfortNoise (createNew 0 0 (.amr false 0) 0)
        ((createNew 0 0 (.amr false 0) 0).retrieveMediaSampleFromBuffer
          (some (storedFrame comfortNoise []))) ↔
      IsAmrFrame false comfortNoise :=
  retrieve_validates_iff (createNew 0 0 (.amr false 0) 0) false 0 comfortNoise [] rfl

/-- A header of frame type 9, which is invalid, and one byte. -/
def invalidType : MediaSample := { data := ⟨[0x48, 7], by decide⟩ }

/-- The header is noted, the marker of invalid types taken for the frame size, and the byte
queued. -/
theorem invalidType_queued :
    ((createNew 0 0 (.amr false 0) 20).retrieveMediaSampleFromBuffer
        (some (storedFrame invalidType []))).map
      (fun result => (result.1, result.2.mediaSamples.map MediaSample.getMediaSize,
        result.2.frameSize, result.2.subclass)) =
      .ok (true, [1], ftInvalid, .amr false 0x48) ∧
    ¬ Validates false invalidType (createNew 0 0 (.amr false 0) 20)
      ((createNew 0 0 (.amr false 0) 20).retrieveMediaSampleFromBuffer
        (some (storedFrame invalidType []))) := by
  refine ⟨by decide +kernel, ?_⟩
  intro h
  have hinvalid : ¬ IsAmrFrame false invalidType := fun hframe => hframe.2.1 rfl
  obtain ⟨t, ht, -⟩ := h.rejected hinvalid
  exact retrieve_never_false rfl _ t ht

end LiveMediaExt.Sources
