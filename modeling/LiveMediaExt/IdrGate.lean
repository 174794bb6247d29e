import LiveMediaExt.FrameDelivery

/-!
# The IDR gate of an H.264 source

An H.264 source drops frames until one with an IDR unit is offered and from then on appends the
NAL units of every frame. Deliveries and requests in between do not matter to the gate.
-/
namespace LiveMediaExt.Sources
open Execution Media LiveDeviceSource

/-- The calls a source gets, one by one. -/
inductive SourceEvent
  | retrieve (frame : Option Frame)
  | deliverFrame (world : ℕ → Delivery)
  | getNextFrame (request : Request) (world : ℕ → Delivery)
  | stopGettingFrames

def sourceStep (src : LiveDeviceSource) : SourceEvent → Except Fault LiveDeviceSource
  | .retrieve frame => do
    let (_, src) ← src.retrieveMediaSampleFromBuffer frame
    return src
  | .deliverFrame world => src.deliverFrame world
  | .getNextFrame request world => src.getNextFrame world request
  | .stopGettingFrames => .ok src.stopGettingFrames

def SourceEvent.frame? : SourceEvent → Option Frame
  | .retrieve frame => frame
  | _ => none

def framesOffered (events : List SourceEvent) : List Frame := events.filterMap SourceEvent.frame?

def nalUnits (frame : Frame) : List MediaSample :=
  match splitPayloadIntoMediaSamples frame.memory frame.size frame.startTime with
  | .ok mediaSamples => mediaSamples
  | .error _ => []

def hasIdr (frame : Frame) : Bool :=
  (nalUnits frame).any fun unit => isIdrFrame (unit.data.data.headD 0)

/-- The frame splits, and into NAL units that have a header byte. -/
def WellSplit (frame : Frame) : Prop :=
  splitPayloadIntoMediaSamples frame.memory frame.size frame.startTime = .ok (nalUnits frame) ∧
    ∀ unit ∈ nalUnits frame, unit.data.data ≠ []

instance (frame : Frame) : Decidable (WellSplit frame) := by
  unfold WellSplit
  infer_instance

theorem framesOffered_snoc (events : List SourceEvent) (e : SourceEvent) :
    framesOffered (events ++ [e]) = framesOffered events ++ e.frame?.toList := by
  cases h : e.frame? <;> simp [framesOffered, h]

theorem scanForIdr_eq {mediaSamples : List MediaSample} (waitingForIdr : Bool)
    (h : ∀ unit ∈ mediaSamples, unit.data.data ≠ []) :
    scanForIdr waitingForIdr mediaSamples = .ok (waitingForIdr &&
      !mediaSamples.any fun unit => isIdrFrame (unit.data.data.headD 0)) := by
  induction mediaSamples generalizing waitingForIdr with
  | nil => simp [scanForIdr]
  | cons unit rest ih =>
    have hrest : ∀ u ∈ rest, u.data.data ≠ [] := fun u hu => h u (by simp [hu])
    obtain ⟨header, tail, hdata⟩ := List.exists_cons_of_ne_nil (h unit (by simp))
    have hread : readByte unit.data.data 0 = .ok header := by simp [readByte, hdata]
    rw [scanForIdr, hread]
    simp only [bind, Except.bind, ih _ hrest, hdata, List.headD_cons, List.any_cons]
    cases isIdrFrame header <;> simp

/-- A closed gate keeps out a frame without IDR unit. -/
theorem retrieve_closed {frame : Frame} {src : LiveDeviceSource}
    (hclass : src.subclass = .h264 true) (h : WellSplit frame) (hidr : hasIdr frame = false) :
    src.retrieveMediaSampleFromBuffer (some frame) = .ok (false, src) := by
  obtain ⟨hsplit, hunits⟩ := h
  have hscan : scanForIdr true (nalUnits frame) = .ok (!hasIdr frame) := scanForIdr_eq true hunits
  rw [retrieveMediaSampleFromBuffer, hclass]
  simp [retrieveH264, hsplit, hscan, hidr, bind, Except.bind, pure, Except.pure]

/-- An open gate, or one that the frame opens, lets all of the frame through. -/
theorem retrieve_open {frame : Frame} {src : LiveDeviceSource} {waitingForIdr : Bool}
    (hclass : src.subclass = .h264 waitingForIdr) (h : WellSplit frame)
    (hopen : waitingForIdr = false ∨ hasIdr frame = true) :
    ∃ t, src.retrieveMediaSampleFromBuffer (some frame) = .ok (true, t) ∧
      t.subclass = .h264 false ∧ Appends src t (nalUnits frame) := by
  obtain ⟨hsplit, hunits⟩ := h
  have hscan : scanForIdr true (nalUnits frame) = .ok (!hasIdr frame) := scanForIdr_eq true hunits
  rw [retrieveMediaSampleFromBuffer, hclass]
  cases waitingForIdr with
  | false =>
    refine ⟨src.pushBack (nalUnits frame), ?_, hclass, pushBack_appends _ _⟩
    simp [retrieveH264, hsplit, bind, Except.bind, pure, Except.pure]
  | true =>
    have hidr : hasIdr frame = true := by simpa using hopen
    refine ⟨{ src.pushBack (nalUnits frame) with subclass := .h264 false }, ?_, rfl,
      ⟨rfl, rfl, rfl, rfl, rfl, rfl⟩⟩
    simp [retrieveH264, hsplit, hscan, hidr, bind, Except.bind, pure, Except.pure]

theorem nalUnits_presentationTime {frame : Frame} {unit : MediaSample}
    (h : unit ∈ nalUnits frame) : unit.presentationTime = frame.startTime := by
  unfold nalUnits at h
  split at h
  next mediaSamples hsplit => exact splitPayload_presentationTime hsplit unit h
  next => simp at h

/-- The state of the gate, and the stream of NAL units that came through it. -/
structure Gated (frames : List Frame) (src : LiveDeviceSource) : Prop where
  subclass : src.subclass = .h264 (!frames.any hasIdr)
  stream : src.popped ++ src.mediaSamples =
    (frames.dropWhile fun frame => !hasIdr frame).flatMap nalUnits

theorem Gated.serves {frames : List Frame} {src t : LiveDeviceSource} (h : Gated frames src)
    (hserves : Serves src t) : Gated frames t where
  subclass := hserves.subclass.trans h.subclass
  stream := hserves.stream.trans h.stream

theorem dropWhile_closed {frames : List Frame} (h : frames.any hasIdr = false) :
    (frames.dropWhile fun frame => !hasIdr frame) = [] := by
  rw [List.dropWhile_eq_nil_iff]
  intro frame hframe
  have hnone := List.any_eq_false.mp h frame hframe
  simpa using hnone

theorem dropWhile_open {frames : List Frame} (h : frames.any hasIdr = true) :
    (frames.dropWhile fun frame => !hasIdr frame) ≠ [] := by
  intro hnil
  obtain ⟨frame, hframe, hidr⟩ := List.any_eq_true.mp h
  have hnone := List.dropWhile_eq_nil_iff.mp hnil frame hframe
  simp [hidr] at hnone

theorem stream_appends {src t : LiveDeviceSource} {mediaSamples : List MediaSample}
    (h : Appends src t mediaSamples) :
    t.popped ++ t.mediaSamples = (src.popped ++ src.mediaSamples) ++ mediaSamples := by
  rw [h.popped, h.mediaSamples, List.append_assoc]

/-- One more frame: the gate opens with the first IDR frame and stays open. -/
theorem Gated.retrieve {frames : List Frame} {frame : Frame} {src : LiveDeviceSource}
    (h : Gated frames src) (hframe : WellSplit frame) :
    ∃ t, src.retrieveMediaSampleFromBuffer (some frame) =
      .ok ((frames ++ [frame]).any hasIdr, t) ∧ Gated (frames ++ [frame]) t := by
  have hstream := h.stream
  cases hany : frames.any hasIdr with
  | true =>
    have hne := dropWhile_open hany
    obtain ⟨t, hret, hclass, happ⟩ := retrieve_open h.subclass hframe (.inl (by simp [hany]))
    refine ⟨t, by simp [hret, hany], ⟨by simp [hclass, hany], ?_⟩⟩
    rw [stream_appends happ, hstream, List.dropWhile_append, if_neg (by simpa using hne),
      List.flatMap_append]
    simp
  | false =>
    have hnil := dropWhile_closed hany
    rw [hnil] at hstream
    cases hidr : hasIdr frame with
    | true =>
      obtain ⟨t, hret, hclass, happ⟩ := retrieve_open h.subclass hframe (.inr hidr)
      refine ⟨t, by simp [hret, hidr], ⟨by simp [hclass, hidr], ?_⟩⟩
      rw [stream_appends happ, hstream, List.dropWhile_append, hnil]
      simp [hidr]
    | false =>
      have hclosed : src.subclass = .h264 true := by rw [h.subclass, hany, Bool.not_false]
      have hret := retrieve_closed hclosed hframe hidr
      refine ⟨src, by simp [hret, hany, hidr], ⟨by simp [hclosed, hany, hidr], ?_⟩⟩
      rw [hstream, List.dropWhile_append, hnil]
      simp [hidr]

/-- One call of the source, whatever it is. -/
theorem gated_step {events : List SourceEvent} {e : SourceEvent} {src t : LiveDeviceSource}
    (hframes : ∀ frame ∈ framesOffered (events ++ [e]), WellSplit frame)
    (hgated : Gated (framesOffered events) src) (h : sourceStep src e = .ok t) :
    Gated (framesOffered (events ++ [e])) t := by
  rw [framesOffered_snoc] at hframes ⊢
  cases e with
  | retrieve frame =>
    obtain ⟨⟨got, u⟩, hret, h⟩ := bind_ok.mp h
    obtain rfl : u = t := Except.ok.inj h
    cases frame with
    | none =>
      rw [retrieveMediaSampleFromBuffer, hgated.subclass] at hret
      cases hret
      simpa [SourceEvent.frame?] using hgated
    | some frame =>
      have hframe : WellSplit frame := hframes frame (by simp [SourceEvent.frame?])
      obtain ⟨u', hret', hgated'⟩ := hgated.retrieve hframe
      rw [hret] at hret'
      cases hret'
      exact hgated'
  | deliverFrame world => simpa [SourceEvent.frame?] using hgated.serves (deliverFrame_spec h).1
  | getNextFrame request world =>
    simpa [SourceEvent.frame?] using hgated.serves (getNextFrame_spec h).1
  | stopGettingFrames =>
    obtain rfl : src.stopGettingFrames = t := Except.ok.inj h
    simpa [SourceEvent.frame?] using hgated.serves (stopGettingFrames_spec src).1

theorem run_gated {self clientId frameSize : ℕ} {events : List SourceEvent}
    {src : LiveDeviceSource} (hframes : ∀ frame ∈ framesOffered events, WellSplit frame)
    (h : run sourceStep (.createNew self clientId (.h264 true) frameSize) events = .ok src) :
    Gated (framesOffered events) src := by
  have hstart : Gated (framesOffered []) (.createNew self clientId (.h264 true) frameSize) :=
    ⟨rfl, rfl⟩
  refine run_induction (R := fun events src =>
    (∀ frame ∈ framesOffered events, WellSplit frame) → Gated (framesOffered events) src)
    (fun _ => hstart) ?_ h hframes
  intro es m e t _ ih ht hes
  refine gated_step hes (ih fun frame hframe => hes frame ?_) ht
  rw [framesOffered_snoc]
  exact List.mem_append_left _ hframe

/-- The samples ever appended are the NAL units of all frames from the first IDR frame on, each
with the presentation time of its frame, and a call returns true from that frame on. -/
theorem idr_gate_exact (self clientId frameSize : ℕ) (events : List SourceEvent)
    (src : LiveDeviceSource) (hframes : ∀ frame ∈ framesOffered events, WellSplit frame)
    (h : run sourceStep (.createNew self clientId (.h264 true) frameSize) events = .ok src) :
    src.popped ++ src.mediaSamples =
      ((framesOffered events).dropWhile fun frame => !hasIdr frame).flatMap nalUnits ∧
    (∀ frame ∈ framesOffered events, ∀ unit ∈ nalUnits frame,
      unit.presentationTime = frame.startTime) ∧
    ∀ frame, WellSplit frame → ∃ t, src.retrieveMediaSampleFromBuffer (some frame) =
      .ok ((framesOffered events ++ [frame]).any hasIdr, t) := by
  have hgated := run_gated hframes h
  refine ⟨hgated.stream, fun frame _ unit hunit => nalUnits_presentationTime hunit, ?_⟩
  intro frame hframe
  obtain ⟨t, hret, -⟩ := hgated.retrieve hframe
  exact ⟨t, hret⟩

/-- A frame without IDR unit, one with, and one more without. -/
def joinedFrames : List Frame :=
  [⟨[0, 0, 0, 1, 0x67, 1], 6, 0⟩, ⟨[0, 0, 0, 1, 0x67, 2, 0, 0, 0, 1, 0x65, 7], 12, 1⟩,
    ⟨[0, 0, 0, 1, 0x41, 9], 6, 2⟩]

theorem idr_gate_exact_joined : ∃ src,
    run sourceStep (.createNew 0 0 (.h264 true) 0)
      (joinedFrames.map fun frame => .retrieve (some frame)) = .ok src ∧
    (src.popped ++ src.mediaSamples).map MediaSample.content =
      [([0x67, 2], 1), ([0x65, 7], 1), ([0x41, 9], 2)] := by
  have hframes : ∀ frame ∈ framesOffered (joinedFrames.map fun frame => .retrieve (some frame)),
      WellSplit frame := by decide +kernel
  have hrun : (run sourceStep (.createNew 0 0 (.h264 true) 0)
      (joinedFrames.map fun frame => .retrieve (some frame))).isOk = true := by decide +kernel
  cases h : run sourceStep (.createNew 0 0 (.h264 true) 0)
      (joinedFrames.map fun frame => .retrieve (some frame)) with
  | error f => simp [h, Except.isOk, Except.toBool] at hrun
  | ok src =>
    have hstream := (idr_gate_exact 0 0 0 _ src hframes h).1
    refine ⟨src, rfl, ?_⟩
    rw [hstream]
    decide +kernel

end LiveMediaExt.Sources
