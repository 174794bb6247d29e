import LiveMediaExt.DeviceSource

/-!
# Retrieving the current frame of the sample buffer

The three overrides of `retrieveMediaSampleFromBuffer` append to the queue of the source. The
H.264 override drops everything until a payload with an IDR unit has come by.
-/
namespace LiveMediaExt.Sources
open Execution Media

/-- The marker of an invalid frame type in the tables of AMR frame sizes. -/
def ftInvalid : ℕ := 65535

def frameSize : List ℕ :=
  [12, 13, 15, 17, 19, 20, 26, 31, 5, ftInvalid, ftInvalid, ftInvalid,
    ftInvalid, ftInvalid, ftInvalid, 0]

def frameSizeWideband : List ℕ :=
  [17, 23, 32, 36, 40, 46, 50, 58, 60, 5, ftInvalid, ftInvalid,
    ftInvalid, ftInvalid, 0, 0]

namespace LiveDeviceSource

def pushBack (src : LiveDeviceSource) (mediaSamples : List MediaSample) : LiveDeviceSource :=
  { src with mediaSamples := src.mediaSamples ++ mediaSamples }

/-- `LiveDeviceSource::retrieveMediaSampleFromBuffer`. -/
def retrieveDevice (frame : Option Frame) (src : LiveDeviceSource) :
    Except Fault (Bool × LiveDeviceSource) :=
  match frame with
  | none => .ok (false, src)
  | some frame => do
    let data ← copyBytes frame.memory 0 frame.size
    return (true, src.pushBack [{ presentationTime := frame.startTime, data := data }])

/-- The bookkeeping of a frame header: an invalid header is noted all the same. -/
def noteFrameHeader (isWideband : Bool) (header : UInt8) (src : LiveDeviceSource) :
    LiveDeviceSource :=
  let src := { src with subclass := .amr isWideband header }
  if header &&& 0x83 != 0 then src
  else
    let ft := ((header &&& 0x78) >>> 3).toNat
    { src with
      frameSize := (if isWideband then frameSizeWideband else Sources.frameSize).getD ft ftInvalid }

/-- `LiveAMRAudioDeviceSource::retrieveMediaSampleFromBuffer`, which reads the header byte
before it looks whether there is a frame. -/
def retrieveAmr (isWideband : Bool) (frame : Option Frame) (src : LiveDeviceSource) :
    Except Fault (Bool × LiveDeviceSource) :=
  match frame with
  | none => .error .nullPointer
  | some frame => do
    let header ← readByte frame.memory 0
    let data ← copyBytes frame.memory 1 (sub32 frame.size 1)
    return (true, (src.noteFrameHeader isWideband header).pushBack
      [{ presentationTime := frame.startTime, data := data }])

/-- The loop over the NAL units of a payload that looks for an IDR unit. -/
def scanForIdr (waitingForIdr : Bool) : List MediaSample → Except Fault Bool
  | [] => .ok waitingForIdr
  | mediaSample :: rest => do
    let header ← readByte mediaSample.data.data 0
    scanForIdr (if isIdrFrame header then false else waitingForIdr) rest

/-- `LiveH264VideoDeviceSource::retrieveMediaSampleFromBuffer`. -/
def retrieveH264 (waitingForIdr : Bool) (frame : Option Frame) (src : LiveDeviceSource) :
    Except Fault (Bool × LiveDeviceSource) :=
  match frame with
  | none => .ok (false, src)
  | some frame => do
    let mediaSamples ← splitPayloadIntoMediaSamples frame.memory frame.size frame.startTime
    if waitingForIdr then
      if !(← scanForIdr true mediaSamples) then
        return (true, { src.pushBack mediaSamples with subclass := .h264 false })
      else
        return (false, src)
    else
      return (true, src.pushBack mediaSamples)

/-- The virtual call. -/
def retrieveMediaSampleFromBuffer (frame : Option Frame) (src : LiveDeviceSource) :
    Except Fault (Bool × LiveDeviceSource) :=
  match src.subclass with
  | .device => src.retrieveDevice frame
  | .amr isWideband _ => src.retrieveAmr isWideband frame
  | .h264 waitingForIdr => src.retrieveH264 waitingForIdr frame

/-- `t` is `src` with samples appended to its queue; only the members of its class and
the frame size may differ besides. -/
structure Appends (src t : LiveDeviceSource) (mediaSamples : List MediaSample) : Prop where
  self : t.self = src.self
  clientId : t.clientId = src.clientId
  isCurrentlyAwaitingData : t.isCurrentlyAwaitingData = src.isCurrentlyAwaitingData
  isPlaying : t.isPlaying = src.isPlaying
  handovers : t.handovers = src.handovers
  mediaSamples : t.mediaSamples = src.mediaSamples ++ mediaSamples

theorem appends_nil (src : LiveDeviceSource) : Appends src src [] :=
  ⟨rfl, rfl, rfl, rfl, rfl, (List.append_nil _).symm⟩

theorem pushBack_appends (src : LiveDeviceSource) (mediaSamples : List MediaSample) :
    Appends src (src.pushBack mediaSamples) mediaSamples :=
  ⟨rfl, rfl, rfl, rfl, rfl, rfl⟩

theorem noteFrameHeader_appends (isWideband : Bool) (header : UInt8) (src : LiveDeviceSource) :
    Appends src (src.noteFrameHeader isWideband header) [] := by
  unfold noteFrameHeader
  dsimp only
  split_ifs <;> exact ⟨rfl, rfl, rfl, rfl, rfl, (List.append_nil _).symm⟩

theorem Appends.trans {a b c : LiveDeviceSource} {xs ys : List MediaSample}
    (h : Appends a b xs) (g : Appends b c ys) : Appends a c (xs ++ ys) where
  self := g.self.trans h.self
  clientId := g.clientId.trans h.clientId
  isCurrentlyAwaitingData := g.isCurrentlyAwaitingData.trans h.isCurrentlyAwaitingData
  isPlaying := g.isPlaying.trans h.isPlaying
  handovers := g.handovers.trans h.handovers
  mediaSamples := by rw [g.mediaSamples, h.mediaSamples, List.append_assoc]

theorem Appends.popped {src t : LiveDeviceSource} {mediaSamples : List MediaSample}
    (h : Appends src t mediaSamples) : t.popped = src.popped := by
  simp [LiveDeviceSource.popped, h.handovers]

section Inversion
variable {frame : Option Frame} {src t : LiveDeviceSource} {got : Bool}

/-- A plain source retrieves a frame as one sample with the frame's bytes. -/
theorem retrieveDevice_ok (h : src.retrieveDevice frame = .ok (got, t)) :
    (frame = none ∧ got = false ∧ t = src) ∨
    ∃ f data, frame = some f ∧ copyBytes f.memory 0 f.size = .ok data ∧ got = true ∧
      t = src.pushBack [{ presentationTime := f.startTime, data := data }] := by
  cases frame with
  | none =>
    cases h
    exact .inl ⟨rfl, rfl, rfl⟩
  | some f =>
    obtain ⟨data, hdata, h⟩ := bind_ok.mp h
    cases h
    exact .inr ⟨f, data, rfl, hdata, rfl, rfl⟩

/-- An AMR source splits a frame into its header byte and a sample of the bytes behind it. -/
theorem retrieveAmr_reads {isWideband : Bool}
    (h : src.retrieveAmr isWideband frame = .ok (got, t)) :
    ∃ f header data, frame = some f ∧ readByte f.memory 0 = .ok header ∧
      copyBytes f.memory 1 (sub32 f.size 1) = .ok data ∧ got = true ∧
      t = (src.noteFrameHeader isWideband header).pushBack
        [{ presentationTime := f.startTime, data := data }] := by
  cases frame with
  | none => cases h
  | some f =>
    obtain ⟨header, hheader, h⟩ := bind_ok.mp h
    obtain ⟨data, hdata, h⟩ := bind_ok.mp h
    cases h
    exact ⟨f, header, data, rfl, hheader, hdata, rfl, rfl⟩

theorem retrieveAmr_ok {isWideband : Bool} (h : src.retrieveAmr isWideband frame = .ok (got, t)) :
    ∃ f header data, frame = some f ∧ got = true ∧
      t = (src.noteFrameHeader isWideband header).pushBack
        [{ presentationTime := f.startTime, data := data }] := by
  obtain ⟨f, header, data, hframe, -, -, hgot, ht⟩ := retrieveAmr_reads h
  exact ⟨f, header, data, hframe, hgot, ht⟩

/-- An H.264 source appends all NAL units of a payload or none, and says which. -/
theorem retrieveH264_ok {waitingForIdr : Bool}
    (h : src.retrieveH264 waitingForIdr frame = .ok (got, t)) :
    (got = false ∧ t = src) ∨
    ∃ f mediaSamples, frame = some f ∧ got = true ∧
      splitPayloadIntoMediaSamples f.memory f.size f.startTime = .ok mediaSamples ∧
      t = { src.pushBack mediaSamples with
        subclass := if waitingForIdr then .h264 false else src.subclass } ∧
      (waitingForIdr = true → scanForIdr true mediaSamples = .ok false) := by
  cases frame with
  | none =>
    cases h
    exact .inl ⟨rfl, rfl⟩
  | some f =>
    obtain ⟨mediaSamples, hsplit, h⟩ := bind_ok.mp h
    cases waitingForIdr with
    | false =>
      cases h
      exact .inr ⟨f, mediaSamples, rfl, rfl, hsplit, rfl, by simp⟩
    | true =>
      obtain ⟨waiting, hscan, h⟩ := bind_ok.mp h
      cases waiting with
      | false =>
        cases h
        exact .inr ⟨f, mediaSamples, rfl, rfl, hsplit, rfl, fun _ => hscan⟩
      | true =>
        cases h
        exact .inl ⟨rfl, rfl⟩

/-- Whatever its class, a source only appends, and nothing unless it says so. -/
theorem retrieve_appends (h : src.retrieveMediaSampleFromBuffer frame = .ok (got, t)) :
    ∃ mediaSamples, Appends src t mediaSamples ∧ (got = false → mediaSamples = []) := by
  unfold retrieveMediaSampleFromBuffer at h
  cases hclass : src.subclass with
  | device =>
    rw [hclass] at h
    rcases retrieveDevice_ok h with ⟨-, -, rfl⟩ | ⟨f, data, -, -, rfl, rfl⟩
    · exact ⟨[], appends_nil _, fun _ => rfl⟩
    · exact ⟨_, pushBack_appends _ _, by simp⟩
  | amr isWideband header =>
    rw [hclass] at h
    obtain ⟨f, header', data, -, rfl, rfl⟩ := retrieveAmr_ok h
    exact ⟨_, (noteFrameHeader_appends _ _ _).trans (pushBack_appends _ _), by simp⟩
  | h264 waitingForIdr =>
    rw [hclass] at h
    rcases retrieveH264_ok h with ⟨-, rfl⟩ | ⟨f, mediaSamples, -, rfl, -, rfl, -⟩
    · exact ⟨[], appends_nil _, fun _ => rfl⟩
    · exact ⟨mediaSamples, ⟨rfl, rfl, rfl, rfl, rfl, rfl⟩, by simp⟩

theorem scanForIdr_error {waitingForIdr : Bool} {mediaSamples : List MediaSample} {f : Fault}
    (h : scanForIdr waitingForIdr mediaSamples = .error f) : f = .outOfBounds := by
  induction mediaSamples generalizing waitingForIdr with
  | nil => cases h
  | cons mediaSample rest ih =>
    rcases bind_error.mp h with hread | ⟨header, -, h⟩
    · exact readByte_error hread
    · exact ih h

/-- A retrieval only moves memory about: it asserts nothing of the queue. -/
theorem retrieve_error {f : Fault} (h : src.retrieveMediaSampleFromBuffer frame = .error f) :
    f ≠ .emptyQueue := by
  unfold retrieveMediaSampleFromBuffer at h
  cases hclass : src.subclass with
  | device =>
    rw [hclass] at h
    cases frame with
    | none => cases h
    | some frame =>
      rcases bind_error.mp h with hcopy | ⟨data, -, h⟩
      · simp [copyBytes_error hcopy]
      · cases h
  | amr isWideband header =>
    rw [hclass] at h
    cases frame with
    | none =>
      obtain rfl : Fault.nullPointer = f := Except.error.inj h
      simp
    | some frame =>
      rcases bind_error.mp h with hread | ⟨header, -, h⟩
      · simp [readByte_error hread]
      · rcases bind_error.mp h with hcopy | ⟨data, -, h⟩
        · simp [copyBytes_error hcopy]
        · cases h
  | h264 waitingForIdr =>
    rw [hclass] at h
    cases frame with
    | none => cases h
    | some frame =>
      rcases bind_error.mp h with hsplit | ⟨mediaSamples, -, h⟩
      · simp [splitPayload_error hsplit]
      · cases waitingForIdr with
        | false => cases h
        | true =>
          rcases bind_error.mp h with hscan | ⟨waiting, -, h⟩
          · simp [scanForIdr_error hscan]
          · cases waiting <;> cases h

/-- The one retrieval that returns true and appends nothing: an H.264 source past its gate
splits a payload into no NAL units. -/
theorem retrieve_nothing (h : src.retrieveMediaSampleFromBuffer frame = .ok (true, t))
    (hsame : t.mediaSamples = src.mediaSamples) : src.subclass = .h264 false ∧
      ∃ f, frame = some f ∧ splitPayloadIntoMediaSamples f.memory f.size f.startTime = .ok [] := by
  unfold retrieveMediaSampleFromBuffer at h
  cases hclass : src.subclass with
  | device =>
    rw [hclass] at h
    rcases retrieveDevice_ok h with ⟨-, hfalse, -⟩ | ⟨f, data, -, -, -, rfl⟩
    · cases hfalse
    · simp [pushBack] at hsame
  | amr isWideband header =>
    rw [hclass] at h
    obtain ⟨f, header', data, -, -, rfl⟩ := retrieveAmr_ok h
    have happ := (noteFrameHeader_appends isWideband header' src).mediaSamples
    simp [pushBack, happ] at hsame
  | h264 waitingForIdr =>
    rw [hclass] at h
    rcases retrieveH264_ok h with ⟨hfalse, -⟩ | ⟨f, mediaSamples, hframe, -, hsplit, rfl, hidr⟩
    · cases hfalse
    · obtain rfl : mediaSamples = [] := by simpa [pushBack] using hsame
      cases waitingForIdr with
      | false => exact ⟨rfl, f, hframe, hsplit⟩
      | true =>
        have hscan := hidr rfl
        cases hscan

/-- A source stays of its class. -/
theorem retrieve_isH264 (h : src.retrieveMediaSampleFromBuffer frame = .ok (got, t)) :
    t.subclass.isH264 = src.subclass.isH264 := by
  unfold retrieveMediaSampleFromBuffer at h
  cases hclass : src.subclass with
  | device =>
    rw [hclass] at h
    rcases retrieveDevice_ok h with ⟨-, -, rfl⟩ | ⟨f, data, -, -, -, rfl⟩
    · rw [hclass]
    · simp [pushBack, hclass]
  | amr isWideband header =>
    rw [hclass] at h
    obtain ⟨f, header', data, -, -, rfl⟩ := retrieveAmr_ok h
    unfold pushBack noteFrameHeader
    dsimp only
    split_ifs <;> rfl
  | h264 waitingForIdr =>
    rw [hclass] at h
    rcases retrieveH264_ok h with ⟨-, rfl⟩ | ⟨f, mediaSamples, -, -, -, rfl, -⟩
    · rw [hclass]
    · cases waitingForIdr <;> simp [hclass, Subclass.isH264]

end Inversion

end LiveDeviceSource

end LiveMediaExt.Sources
