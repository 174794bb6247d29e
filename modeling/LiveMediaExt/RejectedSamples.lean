import LiveMediaExt.IdrGate
import LiveMediaExt.MultiSampleBuffer
import LiveMediaExt.PayloadBytes
import LiveMediaExt.SubsessionStreams

/-!
# Samples that a multiplexed buffer rejects

The buffer does not report a rejection, and the subsession has every client read it all the
same. What a client then finds is the frame of the last accepted sample under the presentation
time of the rejected one.
-/
namespace LiveMediaExt.Sources.LiveDeviceSource
open Execution Media

variable {frame : Option Frame} {src t : LiveDeviceSource} {got : Bool}

/-- What is retrieved is cut out of the frame and carries its time. -/
theorem retrieve_cut {f : Frame} (hmem : f.memory.length < 2 ^ 32) (hsize : f.size < 2 ^ 32)
    (h : src.retrieveMediaSampleFromBuffer (some f) = .ok (got, t)) :
    ∃ mediaSamples, Appends src t mediaSamples ∧ ∀ unit ∈ mediaSamples,
      unit.presentationTime = f.startTime ∧ unit.data.data <:+: f.memory.take f.size := by
  unfold retrieveMediaSampleFromBuffer at h
  cases hclass : src.subclass with
  | device =>
    rw [hclass] at h
    rcases retrieveDevice_ok h with ⟨hnone, -, -⟩ | ⟨f', data, hf, hdata, -, rfl⟩
    · cases hnone
    · cases hf
      obtain ⟨-, hbytes⟩ := copyBytes_data hdata
      refine ⟨_, pushBack_appends _ _, fun unit hunit => ?_⟩
      rw [List.mem_singleton.mp hunit, hbytes, uint32_of_lt hsize]
      exact ⟨rfl, take_drop_infix (by omega)⟩
  | amr isWideband header =>
    rw [hclass] at h
    obtain ⟨f', header', data, hf, -, hdata, -, rfl⟩ := retrieveAmr_reads h
    cases hf
    obtain ⟨hcopied, hbytes⟩ := copyBytes_data hdata
    refine ⟨_, (noteFrameHeader_appends _ _ _).trans (pushBack_appends _ _), fun unit hunit => ?_⟩
    rw [List.nil_append] at hunit
    rw [List.mem_singleton.mp hunit, hbytes]
    refine ⟨rfl, take_drop_infix ?_⟩
    unfold sub32 uint32 at hcopied ⊢
    omega
  | h264 waitingForIdr =>
    rw [hclass] at h
    rcases retrieveH264_ok h with ⟨-, rfl⟩ | ⟨f', mediaSamples, hf, -, hsplit, rfl, -⟩
    · exact ⟨[], appends_nil _, by simp⟩
    · cases hf
      refine ⟨mediaSamples, ⟨rfl, rfl, rfl, rfl, rfl, rfl⟩, fun unit hunit => ?_⟩
      exact ⟨splitPayload_presentationTime hsplit unit hunit,
        splitPayload_infix hmem hsplit unit hunit⟩

theorem retrieve_none (h : src.retrieveMediaSampleFromBuffer none = .ok (got, t)) : t = src := by
  unfold retrieveMediaSampleFromBuffer at h
  cases hclass : src.subclass with
  | device =>
    rw [hclass] at h
    cases h
    rfl
  | amr isWideband header =>
    rw [hclass] at h
    cases h
  | h264 waitingForIdr =>
    rw [hclass] at h
    cases h
    rfl

theorem scanForIdr_units {waitingForIdr waiting : Bool} {mediaSamples : List MediaSample}
    (h : scanForIdr waitingForIdr mediaSamples = .ok waiting) :
    ∀ unit ∈ mediaSamples, unit.data.data ≠ [] := by
  induction mediaSamples generalizing waitingForIdr with
  | nil => simp
  | cons first rest ih =>
    obtain ⟨header, hheader, h⟩ := bind_ok.mp h
    intro unit hunit
    rcases List.mem_cons.mp hunit with rfl | hunit
    · intro hnil
      rw [hnil] at hheader
      cases hheader
    · exact ih h unit hunit

end LiveMediaExt.Sources.LiveDeviceSource

namespace LiveMediaExt.Subsession
open Execution Media Sources LiveMediaSubsession

/-- A source of the class gets nothing out of the frame: it does without a frame, or splits it
into no NAL unit, or waits for an IDR unit that is not there. -/
def Withholds (frame : Option Frame) : Subclass → Prop
  | .device => frame = none
  | .amr .. => False
  | .h264 waitingForIdr => ∀ f, frame = some f →
    f.size = 0 ∨ memcmp startCode f.memory 0 = .ok false ∨
      (waitingForIdr = true ∧ WellSplit f ∧ hasIdr f = false)

section Retrieval
open LiveDeviceSource
variable {src : LiveDeviceSource}

theorem pushBack_same_iff {units : List MediaSample} :
    (src.pushBack units).mediaSamples = src.mediaSamples ↔ units = [] := by
  simp [pushBack]

/-- A retrieval that appends nothing found no NAL unit, or none behind an IDR unit. -/
theorem withholds_of_retrieveH264 {waitingForIdr got : Bool} {f : Frame} {t : LiveDeviceSource}
    (hret : src.retrieveH264 waitingForIdr (some f) = .ok (got, t))
    (hsame : t.mediaSamples = src.mediaSamples) :
    f.size = 0 ∨ memcmp startCode f.memory 0 = .ok false ∨
      (waitingForIdr = true ∧ WellSplit f ∧ hasIdr f = false) := by
  obtain ⟨units, hsplit, hret⟩ := bind_ok.mp hret
  have hnal : nalUnits f = units := by simp [nalUnits, hsplit]
  have hnothing (hnil : units = []) : f.size = 0 ∨ memcmp startCode f.memory 0 = .ok false := by
    rw [hnil] at hsplit
    exact splitPayload_nil_iff.mp hsplit
  cases waitingForIdr with
  | false =>
    cases hret
    exact (hnothing (pushBack_same_iff.mp hsame)).imp_right .inl
  | true =>
    obtain ⟨waiting, hscan, hret⟩ := bind_ok.mp hret
    have hunits := scanForIdr_units hscan
    have hscan' := scanForIdr_eq true hunits
    cases waiting with
    | false =>
      cases hret
      exact (hnothing (pushBack_same_iff.mp hsame)).imp_right .inl
    | true =>
      rw [hscan] at hscan'
      have hidr := Except.ok.inj hscan'
      refine .inr (.inr ⟨rfl, ⟨by rw [hnal, hsplit], by rw [hnal]; exact hunits⟩, ?_⟩)
      rw [hasIdr, hnal]
      simpa using hidr

/-- A payload without NAL units appends nothing. -/
theorem retrieveH264_nothing {waitingForIdr : Bool} {f : Frame}
    (hsplit : splitPayloadIntoMediaSamples f.memory f.size f.startTime = .ok []) :
    ∃ got t, src.retrieveH264 waitingForIdr (some f) = .ok (got, t) ∧
      t.mediaSamples = src.mediaSamples := by
  cases waitingForIdr with
  | false =>
    refine ⟨true, src.pushBack [], ?_, pushBack_same_iff.mpr rfl⟩
    rw [retrieveH264, hsplit]
    rfl
  | true =>
    refine ⟨false, src, ?_, rfl⟩
    rw [retrieveH264, hsplit]
    rfl

theorem retrieveH264_withholds {waitingForIdr : Bool} (f : Frame)
    (hclass : src.subclass = .h264 waitingForIdr) :
    (∃ got t, src.retrieveMediaSampleFromBuffer (some f) = .ok (got, t) ∧
        t.mediaSamples = src.mediaSamples) ↔
      f.size = 0 ∨ memcmp startCode f.memory 0 = .ok false ∨
        (waitingForIdr = true ∧ WellSplit f ∧ hasIdr f = false) := by
  have hvirtual : src.retrieveMediaSampleFromBuffer (some f) =
      src.retrieveH264 waitingForIdr (some f) := by
    rw [retrieveMediaSampleFromBuffer, hclass]
  constructor
  · rintro ⟨got, t, hret, hsame⟩
    rw [hvirtual] at hret
    exact withholds_of_retrieveH264 hret hsame
  · intro h
    rcases h with hsize | hcmp | ⟨rfl, hwell, hidr⟩
    · rw [hvirtual]
      exact retrieveH264_nothing (splitPayload_nil_iff.mpr (.inl hsize))
    · rw [hvirtual]
      exact retrieveH264_nothing (splitPayload_nil_iff.mpr (.inr hcmp))
    · exact ⟨false, src, retrieve_closed hclass hwell hidr, rfl⟩

/-- When a retrieval returns and appends nothing. -/
theorem retrieve_withholds (frame : Option Frame) :
    (∃ got t, src.retrieveMediaSampleFromBuffer frame = .ok (got, t) ∧
        t.mediaSamples = src.mediaSamples) ↔ Withholds frame src.subclass := by
  cases hclass : src.subclass with
  | device =>
    constructor
    · intro ⟨got, t, hret, hsame⟩
      rw [retrieveMediaSampleFromBuffer, hclass] at hret
      rcases retrieveDevice_ok hret with ⟨hnone, -, -⟩ | ⟨f, data, -, -, -, rfl⟩
      · exact hnone
      · simp [pushBack] at hsame
    · intro hnone
      obtain rfl : frame = none := hnone
      exact ⟨false, src, by rw [retrieveMediaSampleFromBuffer, hclass]; rfl, rfl⟩
  | amr isWideband header =>
    constructor
    · intro ⟨got, t, hret, hsame⟩
      rw [retrieveMediaSampleFromBuffer, hclass] at hret
      obtain ⟨f, header', data, -, -, rfl⟩ := retrieveAmr_ok hret
      have happ := (noteFrameHeader_appends isWideband header' src).mediaSamples
      simp [pushBack, happ] at hsame
    · intro h
      exact h.elim
  | h264 waitingForIdr =>
    cases frame with
    | none =>
      constructor
      · intro _ f hf
        cases hf
      · intro _
        exact ⟨false, src, by rw [retrieveMediaSampleFromBuffer, hclass]; rfl, rfl⟩
    | some f =>
      rw [retrieveH264_withholds f hclass]
      constructor
      · intro h f' hf
        cases hf
        exact h
      · intro h
        exact h f rfl

end Retrieval

section Rejection
variable {machine : Machine} {sub sub' : LiveMediaSubsession (MultiMediaSampleBuffer machine)}
  {e : Event}

/-- The buffer of the subsession rejects the sample. -/
def Rejects (sub : LiveMediaSubsession (MultiMediaSampleBuffer machine))
    (mediaSample : MediaSample) : Prop :=
  MultiMediaSampleBuffer.accepts machine sub.sampleBuffer.getNumberOfChannels mediaSample = false

/-- The frame that the buffer hands out once it has rejected the sample. -/
def staleFrame (sub : LiveMediaSubsession (MultiMediaSampleBuffer machine))
    (mediaSample : MediaSample) : Option Frame :=
  Media.getNextFrame
    ({ sub.sampleBuffer with startTime := mediaSample.presentationTime } :
      MultiMediaSampleBuffer machine)

/-- The retrievals that a rejected sample sets off all return and append nothing. -/
def AppendsNothing (sub : LiveMediaSubsession (MultiMediaSampleBuffer machine)) (e : Event) :
    Prop :=
  ∀ mediaSample worlds buffer, e = .addMediaSample mediaSample worlds →
    Rejects sub mediaSample → sub.sampleBuffer.addMediaSample mediaSample = .ok buffer →
    ∀ src ∈ sub.deviceSources, ∃ got t,
      src.retrieveMediaSampleFromBuffer (Media.getNextFrame buffer) = .ok (got, t) ∧
        t.mediaSamples = src.mediaSamples

/-- No client gets anything out of the frame that a rejected sample leaves. -/
def Withheld (sub : LiveMediaSubsession (MultiMediaSampleBuffer machine)) (e : Event) : Prop :=
  ∀ mediaSample worlds, e = .addMediaSample mediaSample worlds → Rejects sub mediaSample →
    ∀ src ∈ sub.deviceSources, Withholds (staleFrame sub mediaSample) src.subclass

theorem appendsNothing_iff : AppendsNothing sub e ↔ Withheld sub e := by
  constructor
  · intro h mediaSample worlds he hrejects src hsrc
    have hadd := MultiMediaSampleBuffer.addMediaSample_rejected hrejects
    exact (retrieve_withholds _).mp (h mediaSample worlds _ he hrejects hadd src hsrc)
  · intro h mediaSample worlds buffer he hrejects hadd src hsrc
    rw [MultiMediaSampleBuffer.addMediaSample_rejected hrejects] at hadd
    cases hadd
    exact (retrieve_withholds _).mpr (h mediaSample worlds he hrejects src hsrc)

/-- The unit is a part of the sample and carries its presentation time. -/
def CutFrom (mediaSample unit : MediaSample) : Prop :=
  unit.presentationTime = mediaSample.presentationTime ∧
    unit.data.data <:+: mediaSample.data.data

/-- One batch of units for each sample, in the order of the samples. -/
def Batched (units mediaSamples : List MediaSample) : Prop :=
  ∃ batches : List (List MediaSample), units = batches.flatten ∧
    List.Forall₂ (fun batch mediaSample => ∀ unit ∈ batch, CutFrom mediaSample unit) batches
      mediaSamples

theorem Batched.append {units units' mediaSamples mediaSamples' : List MediaSample}
    (h : Batched units mediaSamples) (h' : Batched units' mediaSamples') :
    Batched (units ++ units') (mediaSamples ++ mediaSamples') := by
  obtain ⟨batches, rfl, hbatches⟩ := h
  obtain ⟨batches', rfl, hbatches'⟩ := h'
  exact ⟨batches ++ batches', by rw [List.flatten_append], List.rel_append hbatches hbatches'⟩

theorem batched_nil : Batched [] [] := ⟨[], rfl, .nil⟩

/-- The accepted ones among the samples. -/
def accepted (machine : Machine) (uiChannels : ℕ) (mediaSamples : List MediaSample) :
    List MediaSample :=
  mediaSamples.filter fun mediaSample =>
    MultiMediaSampleBuffer.accepts machine uiChannels mediaSample

/-- What a client retrieves while an accepted sample is in the buffer is cut from it. -/
theorem retrieve_accepted {buffer : MultiMediaSampleBuffer machine} {mediaSample : MediaSample}
    {src t : LiveDeviceSource} {got : Bool} (haccepts : ¬ Rejects sub mediaSample)
    (hadd : sub.sampleBuffer.addMediaSample mediaSample = .ok buffer)
    (h : src.retrieveMediaSampleFromBuffer (Media.getNextFrame buffer) = .ok (got, t)) :
    ∃ units, LiveDeviceSource.Appends src t units ∧
      ∀ unit ∈ units, CutFrom mediaSample unit := by
  cases hframe : Media.getNextFrame buffer with
  | none =>
    rw [hframe] at h
    obtain rfl := LiveDeviceSource.retrieve_none h
    exact ⟨[], LiveDeviceSource.appends_nil _, by simp⟩
  | some f =>
    have haccepts' : MultiMediaSampleBuffer.accepts machine
        sub.sampleBuffer.getNumberOfChannels mediaSample = true := by
      simpa [Rejects] using haccepts
    obtain ⟨hmem, hsize⟩ := MultiMediaSampleBuffer.getNextFrame_lt hframe
    obtain ⟨htime, hbytes⟩ :=
      MultiMediaSampleBuffer.getNextFrame_accepted haccepts' hadd hframe
    rw [hframe] at h
    obtain ⟨units, happ, hunits⟩ := LiveDeviceSource.retrieve_cut hmem hsize h
    refine ⟨units, happ, fun unit hunit => ?_⟩
    obtain ⟨hunitTime, hunitBytes⟩ := hunits unit hunit
    exact ⟨hunitTime.trans htime, hunitBytes.trans hbytes⟩

/-- One live client over a sample: a rejected one leaves it nothing, an accepted one a batch. -/
theorem offer_batched {src u : LiveDeviceSource} {got : Bool} {mediaSample : MediaSample}
    {worlds : ℕ → ℕ → Delivery} {buffer : MultiMediaSampleBuffer machine}
    (hsrc : src ∈ sub.deviceSources) (hwithheld : Withheld sub (.addMediaSample mediaSample worlds))
    (hbuffer : sub.sampleBuffer.addMediaSample mediaSample = .ok buffer)
    (hret : src.retrieveMediaSampleFromBuffer (Media.getNextFrame buffer) = .ok (got, u)) :
    ∃ units, LiveDeviceSource.Appends src u units ∧
      Batched units (accepted machine sub.sampleBuffer.getNumberOfChannels
        (samplesAdded [.addMediaSample mediaSample worlds])) := by
  by_cases hrejects : Rejects sub mediaSample
  · have hnothing := appendsNothing_iff.mpr hwithheld mediaSample worlds buffer rfl hrejects
      hbuffer src hsrc
    obtain ⟨got', u', hret', hsame⟩ := hnothing
    rw [hret] at hret'
    cases hret'
    obtain ⟨units, happ, -⟩ := LiveDeviceSource.retrieve_appends hret
    have hnil : units = [] := by
      have happend := happ.mediaSamples
      rw [hsame] at happend
      simpa using happend
    have hnone : accepted machine sub.sampleBuffer.getNumberOfChannels
        (samplesAdded [.addMediaSample mediaSample worlds]) = [] := by
      unfold Rejects at hrejects
      simp [accepted, samplesAdded, Event.sample?, hrejects]
    refine ⟨units, happ, ?_⟩
    rw [hnone, hnil]
    exact batched_nil
  · obtain ⟨units, happ, hunits⟩ := retrieve_accepted hrejects hbuffer hret
    have hone : accepted machine sub.sampleBuffer.getNumberOfChannels
        (samplesAdded [.addMediaSample mediaSample worlds]) = [mediaSample] := by
      unfold Rejects at hrejects
      simp [accepted, samplesAdded, Event.sample?, hrejects]
    refine ⟨units, happ, ?_⟩
    rw [hone]
    exact ⟨[units], by simp, .cons hunits .nil⟩

/-- One live client over one event. -/
theorem clientStep_batched {src t : LiveDeviceSource} (hsrc : src ∈ sub.deviceSources)
    (hwithheld : Withheld sub e) (h : ClientStep sub.sampleBuffer e src t) :
    t.self = src.self ∧ ∃ units,
      t.popped ++ t.mediaSamples = src.popped ++ src.mediaSamples ++ units ∧
      Batched units
        (accepted machine sub.sampleBuffer.getNumberOfChannels (samplesAdded [e])) := by
  have same (hserves : Serves src t) (hnone : samplesAdded [e] = []) :
      t.self = src.self ∧ ∃ units,
        t.popped ++ t.mediaSamples = src.popped ++ src.mediaSamples ++ units ∧
        Batched units
          (accepted machine sub.sampleBuffer.getNumberOfChannels (samplesAdded [e])) := by
    refine ⟨hserves.self, [], by rw [hserves.stream, List.append_nil], ?_⟩
    rw [hnone]
    exact batched_nil
  cases e with
  | addMediaSample mediaSample worlds =>
    obtain ⟨buffer, hbuffer, hoffer⟩ := h
    obtain ⟨got, u, hret, hcase⟩ := offerFrame_ok hoffer
    obtain ⟨units, happ, hunits⟩ := offer_batched hsrc hwithheld hbuffer hret
    have hserves : Serves u t := by
      rcases hcase with ⟨rfl, -⟩ | ⟨-, -, hdeliver⟩
      · exact .refl _
      · exact (LiveDeviceSource.deliverFrame_spec hdeliver).1
    refine ⟨hserves.self.trans happ.self, units, ?_, hunits⟩
    rw [hserves.stream, happ.popped, happ.mediaSamples, List.append_assoc]
  | createSource clientId frameSize =>
    cases h
    exact same (.refl _) rfl
  | destroySource source =>
    cases h
    exact same (.refl _) rfl
  | getNextFrame source request world =>
    rcases h with ⟨-, hcall⟩ | rfl
    · exact same (LiveDeviceSource.getNextFrame_spec hcall).1 rfl
    · exact same (.refl _) rfl
  | stopGettingFrames source =>
    rcases h with ⟨-, rfl⟩ | rfl
    · exact same (LiveDeviceSource.stopGettingFrames_spec src).1 rfl
    · exact same (.refl _) rfl

/-- The invariant of a run in which rejected samples are withheld. -/
structure FromAccepted (uiChannels : ℕ) (events : List Event)
    (sub : LiveMediaSubsession (MultiMediaSampleBuffer machine)) : Prop where
  channels : sub.sampleBuffer.getNumberOfChannels = uiChannels
  addresses : sub.nextSource = creations events
  live : ∀ src ∈ sub.deviceSources, src.self < creations events
  batched : ∀ src ∈ sub.deviceSources, Batched (src.popped ++ src.mediaSamples)
    (accepted machine uiChannels (samplesSinceCreation src.self events))

theorem step_channels (h : sub.step e = .ok sub') :
    sub'.sampleBuffer.getNumberOfChannels = sub.sampleBuffer.getNumberOfChannels := by
  cases e with
  | addMediaSample mediaSample worlds =>
    obtain ⟨buffer, hbuffer, h⟩ := bind_ok.mp h
    obtain ⟨sources, -, h⟩ := bind_ok.mp h
    cases h
    exact (MultiMediaSampleBuffer.addMediaSample_frame hbuffer).1
  | createSource clientId frameSize =>
    cases h
    rfl
  | destroySource source =>
    cases h
    rfl
  | getNextFrame source request world =>
    obtain ⟨sources, rfl, -⟩ := callSource_ok h
    rfl
  | stopGettingFrames source =>
    obtain ⟨sources, rfl, -⟩ := callSource_ok h
    rfl

theorem fromAccepted_step {uiChannels : ℕ} {events : List Event}
    (hinv : FromAccepted uiChannels events sub) (hwithheld : Withheld sub e)
    (h : sub.step e = .ok sub') : FromAccepted uiChannels (events ++ [e]) sub' := by
  have hnext := (step_frame h).2
  have hclient : ∀ t ∈ sub'.deviceSources, t.self < creations (events ++ [e]) ∧
      Batched (t.popped ++ t.mediaSamples)
        (accepted machine uiChannels (samplesSinceCreation t.self (events ++ [e]))) := by
    intro t ht
    rcases step_source h ht with ⟨src, hsrc, hstep⟩ | ⟨clientId, frameSize, rfl, rfl⟩
    · obtain ⟨hself, units, hstream, hunits⟩ := clientStep_batched hsrc hwithheld hstep
      have hlive := hinv.live src hsrc
      rw [hinv.channels] at hunits
      refine ⟨by rw [hself, creations_snoc]; omega, ?_⟩
      rw [hstream, hself, samplesSinceCreation_append hlive, accepted, List.filter_append]
      exact (hinv.batched src hsrc).append hunits
    · refine ⟨?_, ?_⟩
      · simp [LiveDeviceSource.createNew, hinv.addresses, creations_snoc, Event.creations]
      · have hnew := samplesSinceCreation_created events clientId frameSize
        rw [← hinv.addresses] at hnew
        have hself : (LiveDeviceSource.createNew sub.nextSource clientId sub.kind.sourceClass
          frameSize).self = sub.nextSource := rfl
        rw [hself, hnew]
        exact batched_nil
  exact
    { channels := by rw [step_channels h, hinv.channels]
      addresses := by rw [hnext, hinv.addresses, creations_snoc]
      live := fun t ht => (hclient t ht).1
      batched := fun t ht => (hclient t ht).2 }

/-- Rejected samples add nothing to any queue exactly when no client gets anything out of the
frames they leave; then what a client was given since its creation comes batch by batch from
the accepted samples. -/
theorem rejected_withheld (self channelId sourceId : ℕ) (sessionName : String)
    (kind : SubsessionKind) (buffer : MultiMediaSampleBuffer machine) (events : List Event) :
    (Along step (fun _ sub e => AppendsNothing sub e)
        (create self channelId sourceId sessionName kind buffer) events ↔
      Along step (fun _ sub e => Withheld sub e)
        (create self channelId sourceId sessionName kind buffer) events) ∧
    (Along step (fun _ sub e => Withheld sub e)
        (create self channelId sourceId sessionName kind buffer) events →
      ∀ sub, run step (create self channelId sourceId sessionName kind buffer) events = .ok sub →
        ∀ src ∈ sub.deviceSources, Batched (src.popped ++ src.mediaSamples)
          (accepted machine buffer.getNumberOfChannels
            (samplesSinceCreation src.self events))) := by
  refine ⟨along_congr fun before m e _ => appendsNothing_iff, fun hwithheld sub h => ?_⟩
  have hstart : FromAccepted buffer.getNumberOfChannels []
      (create self channelId sourceId sessionName kind buffer) :=
    { channels := rfl
      addresses := rfl
      live := by simp [create]
      batched := by simp [create] }
  exact (run_induction_along hstart (fun es m e t _ hm hG ht => fromAccepted_step hm hG ht)
    hwithheld h).batched

/-- A plain client of a two-channel subsession before any sample. -/
def aacStart : LiveMediaSubsession (MultiMediaSampleBuffer MultiMediaSampleBuffer.sevens) :=
  create 0 0 0 "" (.aac 0 0 0 "") (.create MultiMediaSampleBuffer.sevens 2)

def nobodyAsks (_ _ : ℕ) : Delivery := ⟨⟨0, 0⟩, ⟨0, 0⟩, none⟩

/-- An empty sample is rejected, and the client queues the first frame once more. -/
theorem stale_frame_queued :
    MultiMediaSampleBuffer.accepts MultiMediaSampleBuffer.sevens 2 { presentationTime := 1 } =
        false ∧
      (run step aacStart [.createSource 0 0,
          .addMediaSample MultiMediaSampleBuffer.twoStreams nobodyAsks,
          .addMediaSample { presentationTime := 1 } nobodyAsks]).map (fun sub =>
            sub.deviceSources.map fun src => src.mediaSamples.map MediaSample.content) =
        .ok [[([10, 11, 12], 0), ([10, 11, 12], 1)]] := by
  decide +kernel

end Rejection

end LiveMediaExt.Subsession
