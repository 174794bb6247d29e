import LiveMediaExt.NalUnits
import LiveMediaExt.SampleBuffer

/-!
# Device sources

A client's source has a queue between two parties. The subsession has it retrieve the current
frame of the sample buffer; the sink asks it for the next frame through the live555 base class,
which calls the sink back when a frame is delivered. The callback may ask again at once.
-/
namespace LiveMediaExt.Sources
open Execution Media

structure Timeval where
  sec : ℤ
  usec : ℤ
  deriving DecidableEq, Repr

/-- The members of the live555 base class. `fTo` is the destination the sink passed; the
member `fMaxSize` is its length. -/
structure FramedSource where
  fTo : List UInt8
  frameSize : ℕ
  numTruncatedBytes : ℕ
  presentationTime : Timeval
  durationInMicroseconds : ℕ
  isCurrentlyAwaitingData : Bool
  deriving DecidableEq

def FramedSource.maxSize (f : FramedSource) : ℕ := f.fTo.length

/-- The class of a source with the members that it adds to `LiveDeviceSource`. -/
inductive Subclass
  | device
  | amr (isWideband : Bool) (lastFrameHeader : UInt8)
  | h264 (waitingForIdr : Bool)
  deriving DecidableEq, Repr

def Subclass.isH264 : Subclass → Bool
  | .h264 _ => true
  | .device | .amr .. => false

/-- One frame as the sink gets it: the sample it was cut from and the source's members at
the moment of the callback. -/
structure Handover where
  mediaSample : MediaSample
  framedSource : FramedSource
  subclass : Subclass
  deriving DecidableEq

/-- `self` is the address of the object. `handovers` records every frame delivered so far. -/
structure LiveDeviceSource extends FramedSource where
  self : ℕ
  clientId : ℕ
  subclass : Subclass
  mediaSamples : List MediaSample
  offsetSet : Bool
  tOffsetTime : Timeval
  dOffsetTime : ℚ
  isPlaying : Bool
  handovers : List Handover
  deriving DecidableEq

/-- The samples that `deliverFrame` has popped from the queue so far. -/
def LiveDeviceSource.popped (src : LiveDeviceSource) : List MediaSample :=
  src.handovers.map Handover.mediaSample

/-- What a sink passes to `getNextFrame`: a destination of 32-bit length. -/
structure Request where
  fTo : List UInt8
  length_lt : fTo.length < 2 ^ 32

/-- What the surroundings contribute to one delivery: the two readings of `gettimeofday`
that a first frame takes, and the request the sink makes from its callback, if any. -/
structure Delivery where
  offsetClock : Timeval
  presentationClock : Timeval
  next : Option Request

namespace LiveDeviceSource

/-- The constructor; `frameSize` is what the base class leaves in its unset member. -/
def createNew (self clientId : ℕ) (subclass : Subclass) (frameSize : ℕ) : LiveDeviceSource where
  fTo := []
  frameSize := frameSize
  numTruncatedBytes := 0
  presentationTime := ⟨0, 0⟩
  durationInMicroseconds := 0
  isCurrentlyAwaitingData := false
  self := self
  clientId := clientId
  subclass := subclass
  mediaSamples := []
  offsetSet := false
  tOffsetTime := ⟨0, 0⟩
  dOffsetTime := 0
  isPlaying := false
  handovers := []

/-- The cast `(long)` of a number of seconds. -/
def truncate (q : ℚ) : ℤ := q.num.tdiv q.den

/-- The part of `deliverFrame` that sets the presentation time. -/
def stampFrame (d : Delivery) (dStartTime : ℚ) (src : LiveDeviceSource) : LiveDeviceSource :=
  if !src.offsetSet then
    { src with
      tOffsetTime := d.offsetClock
      dOffsetTime := dStartTime
      offsetSet := true
      presentationTime := d.presentationClock }
  else
    let dDifference := dStartTime - src.dOffsetTime
    let lDiffSecs := truncate dDifference
    let lDiffUSecs := truncate ((dDifference - lDiffSecs) * 1000000)
    { src with
      presentationTime := ⟨src.tOffsetTime.sec + lDiffSecs, src.tOffsetTime.usec + lDiffUSecs⟩ }

/-- The part of `deliverFrame` that copies the frame to the sink's destination. -/
def copyFrame (mediaSample : MediaSample) (src : LiveDeviceSource) :
    Except Fault LiveDeviceSource :=
  let nSize := mediaSample.getMediaSize
  if int32 src.maxSize < int32 nSize then
    .ok { src with
      numTruncatedBytes := sub32 nSize src.frameSize
      frameSize := src.maxSize }
  else if nSize ≤ src.fTo.length then
    .ok { src with
      frameSize := nSize
      fTo := mediaSample.data.data ++ src.fTo.drop nSize
      durationInMicroseconds := 0 }
  else .error .outOfBounds

/-- `FramedSource::afterGetting` up to the sink's callback. -/
def afterGetting (mediaSample : MediaSample) (src : LiveDeviceSource) : LiveDeviceSource :=
  let src := { src with isCurrentlyAwaitingData := false }
  { src with
    handovers := src.handovers ++ [⟨mediaSample, src.toFramedSource, src.subclass⟩] }

/-- `FramedSource::getNextFrame` up to its call of `doGetNextFrame`. -/
def awaitFrame (request : Request) (src : LiveDeviceSource) : LiveDeviceSource :=
  { src with
    fTo := request.fTo
    numTruncatedBytes := 0
    durationInMicroseconds := 0
    isCurrentlyAwaitingData := true }

/-- The body of `deliverFrame` on an awaiting source whose queue is the last argument. The
sink's callback may call `getNextFrame`, which calls `doGetNextFrame` and, while samples
are queued, `deliverFrame` again: each turn pops one sample. -/
def deliverQueued (world : ℕ → Delivery) (src : LiveDeviceSource) :
    List MediaSample → Except Fault LiveDeviceSource
  | [] => .error .emptyQueue
  | mediaSample :: rest => do
    let src := stampFrame (world 0) mediaSample.presentationTime { src with mediaSamples := rest }
    let src ← copyFrame mediaSample src
    let src := afterGetting mediaSample src
    match (world 0).next with
    | none => .ok src
    | some request =>
      let src := awaitFrame request src
      match rest with
      | [] => .ok { src with isPlaying := false }
      | _ :: _ => deliverQueued (fun n => world (n + 1)) { src with isPlaying := true } rest

def deliverFrame (world : ℕ → Delivery) (src : LiveDeviceSource) :
    Except Fault LiveDeviceSource :=
  if !src.isCurrentlyAwaitingData then .ok src
  else deliverQueued world src src.mediaSamples

def doGetNextFrame (world : ℕ → Delivery) (src : LiveDeviceSource) :
    Except Fault LiveDeviceSource :=
  if src.mediaSamples.isEmpty then .ok { src with isPlaying := false }
  else deliverFrame world { src with isPlaying := true }

def getNextFrame (world : ℕ → Delivery) (request : Request) (src : LiveDeviceSource) :
    Except Fault LiveDeviceSource :=
  doGetNextFrame world (awaitFrame request src)

def stopGettingFrames (src : LiveDeviceSource) : LiveDeviceSource :=
  { src with isCurrentlyAwaitingData := false }

/-- `t` is `src` but for the members that a delivery fills in for the sink. -/
structure Fills (src t : LiveDeviceSource) : Prop where
  self : t.self = src.self
  clientId : t.clientId = src.clientId
  subclass : t.subclass = src.subclass
  mediaSamples : t.mediaSamples = src.mediaSamples
  isPlaying : t.isPlaying = src.isPlaying
  handovers : t.handovers = src.handovers

theorem stampFrame_fills (d : Delivery) (dStartTime : ℚ) (src : LiveDeviceSource) :
    Fills src (stampFrame d dStartTime src) := by
  unfold stampFrame
  split <;> exact ⟨rfl, rfl, rfl, rfl, rfl, rfl⟩

theorem copyFrame_fills {mediaSample : MediaSample} {src t : LiveDeviceSource}
    (h : copyFrame mediaSample src = .ok t) : Fills src t := by
  unfold copyFrame at h
  dsimp only at h
  split_ifs at h <;> cases h <;> exact ⟨rfl, rfl, rfl, rfl, rfl, rfl⟩

/-- The recursion of the source: a delivery ends in the callback, and a callback that asks
again runs `getNextFrame`. -/
theorem deliverFrame_cons {world : ℕ → Delivery} {src : LiveDeviceSource}
    {mediaSample : MediaSample} {rest : List MediaSample}
    (hawait : src.isCurrentlyAwaitingData = true) (hqueue : src.mediaSamples = mediaSample :: rest) :
    deliverFrame world src = (do
      let src := stampFrame (world 0) mediaSample.presentationTime { src with mediaSamples := rest }
      let src ← copyFrame mediaSample src
      match (world 0).next with
      | none => .ok (afterGetting mediaSample src)
      | some request =>
        getNextFrame (fun n => world (n + 1)) request (afterGetting mediaSample src)) := by
  rw [deliverFrame, hawait, hqueue]
  simp only [Bool.not_true, Bool.false_eq_true, if_false, deliverQueued]
  cases hcopy : copyFrame mediaSample
      (stampFrame (world 0) mediaSample.presentationTime { src with mediaSamples := rest }) with
  | error f => rfl
  | ok t =>
    have hrest : t.mediaSamples = rest :=
      (copyFrame_fills hcopy).mediaSamples.trans (stampFrame_fills _ _ _).mediaSamples
    simp only [bind, Except.bind]
    cases (world 0).next with
    | none => rfl
    | some request =>
      cases rest with
      | nil => simp [getNextFrame, doGetNextFrame, awaitFrame, afterGetting, hrest]
      | cons second rest =>
        simp [getNextFrame, doGetNextFrame, deliverFrame, awaitFrame, afterGetting, hrest]

end LiveDeviceSource

end LiveMediaExt.Sources
