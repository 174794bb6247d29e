import LiveMediaExt.MediaSample

/-!
# The sample buffer of a subsession and the grabber that reads it

Every client of a subsession reads the one buffer that the subsession overwrites with each
new sample. A single-channel buffer keeps the bytes of earlier samples behind the current one.
-/
namespace LiveMediaExt.Media

/-- The calls of the buffer interface that the subsession and its frame grabbers make.
A buffer without data hands out a null pointer, and it has no queue to find empty. -/
class IMediaSampleBuffer (β : Type) where
  addMediaSample : β → MediaSample → Except Fault β
  getCurrentBuffer : β → Option (List UInt8)
  getCurrentStartTime : β → ℚ
  getCurrentSize : β → ℕ
  addMediaSample_ne : ∀ b mediaSample, addMediaSample b mediaSample ≠ .error .emptyQueue

/-- What a frame grabber returns: the memory from the returned pointer on, the size in bytes
of the frame at its start, and the start time. -/
structure Frame where
  memory : List UInt8
  size : ℕ
  startTime : ℚ
  deriving DecidableEq

/-- `SimpleFrameGrabber::getNextFrame`. -/
def getNextFrame {β : Type} [IMediaSampleBuffer β] (sampleBuffer : β) : Option Frame :=
  (IMediaSampleBuffer.getCurrentBuffer sampleBuffer).map fun memory =>
    ⟨memory, IMediaSampleBuffer.getCurrentSize sampleBuffer,
      IMediaSampleBuffer.getCurrentStartTime sampleBuffer⟩

/-- One allocation of `currentBufferSize` bytes, of which the first `size` are the sample. -/
structure SingleMediaSampleBuffer where
  currentBufferSize : ℕ
  buffer : List UInt8
  size : ℕ
  startTime : ℚ
  length_buffer : buffer.length = currentBufferSize
  size_le : size ≤ currentBufferSize
  currentBufferSize_lt : currentBufferSize < 2 ^ 32
  deriving DecidableEq

namespace SingleMediaSampleBuffer

/-- The constructor; `memory` is what `new BYTE[uiMaxFrameSize]` happens to contain. -/
def create (memory : List UInt8) (h : memory.length < 2 ^ 32) : SingleMediaSampleBuffer where
  currentBufferSize := memory.length
  buffer := memory
  size := 0
  startTime := 0
  length_buffer := rfl
  size_le := Nat.zero_le _
  currentBufferSize_lt := h

/-- A larger sample gets a new allocation of exactly its size. -/
def addMediaSample (b : SingleMediaSampleBuffer) (mediaSample : MediaSample) :
    SingleMediaSampleBuffer :=
  if h : b.currentBufferSize < mediaSample.getMediaSize then
    { currentBufferSize := mediaSample.getMediaSize
      buffer := mediaSample.data.data
      size := mediaSample.getMediaSize
      startTime := mediaSample.presentationTime
      length_buffer := rfl
      size_le := le_rfl
      currentBufferSize_lt := mediaSample.getMediaSize_lt }
  else
    { b with
      buffer := mediaSample.data.data ++ b.buffer.drop mediaSample.getMediaSize
      size := mediaSample.getMediaSize
      startTime := mediaSample.presentationTime
      length_buffer := by
        have hb := b.length_buffer
        simp only [List.length_append, List.length_drop]
        unfold MediaSample.getMediaSize Buffer.getSize at h ⊢
        omega
      size_le := by omega }

instance : IMediaSampleBuffer SingleMediaSampleBuffer where
  addMediaSample b mediaSample := .ok (b.addMediaSample mediaSample)
  getCurrentBuffer b := some b.buffer
  getCurrentStartTime b := b.startTime
  getCurrentSize b := b.size
  addMediaSample_ne b mediaSample := by simp

/-- After a sample is stored the grabber hands out its bytes, followed by what the
allocation held there before, with its size and its presentation time. -/
theorem getNextFrame_addMediaSample (b : SingleMediaSampleBuffer) (mediaSample : MediaSample) :
    ∃ rest, getNextFrame (b.addMediaSample mediaSample) =
      some ⟨mediaSample.data.data ++ rest, mediaSample.data.getSize,
        mediaSample.presentationTime⟩ := by
  by_cases h : b.currentBufferSize < mediaSample.getMediaSize
  · refine ⟨[], ?_⟩
    rw [addMediaSample, dif_pos h, List.append_nil]
    rfl
  · refine ⟨b.buffer.drop mediaSample.getMediaSize, ?_⟩
    rw [addMediaSample, dif_neg h]
    rfl

end SingleMediaSampleBuffer

end LiveMediaExt.Media
