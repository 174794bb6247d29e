import LiveMediaExt.SubsessionStreams

/-!
# Requests and arrivals

A request finds queued samples or waits for an arrival, and an arrival serves the requests that
wait. The one way to break this is an arrival that a source reports as retrieved although it
appended nothing to its queue: the delivery that follows asserts that there is a sample.
-/
namespace LiveMediaExt.Subsession
open Execution Media Sources LiveMediaSubsession

section Generic
variable {β : Type} [IMediaSampleBuffer β] {sub sub' : LiveMediaSubsession β} {e : Event}

/-- The clients between two events: all of the class that the subsession constructs, and none
waiting beside queued samples. -/
structure Attended (sub : LiveMediaSubsession β) : Prop where
  settled : ∀ src ∈ sub.deviceSources, Settled src
  isH264 : ∀ src ∈ sub.deviceSources, src.subclass.isH264 = sub.kind.sourceClass.isH264

omit [IMediaSampleBuffer β] in
theorem create_attended (self channelId sourceId : ℕ) (sessionName : String)
    (kind : SubsessionKind) (buffer : β) :
    Attended (create self channelId sourceId sessionName kind buffer) where
  settled := by simp [create]
  isH264 := by simp [create]

theorem clientStep_attended {b : β} {src t : LiveDeviceSource} (hsrc : Settled src)
    (h : ClientStep b e src t) : Settled t ∧ t.subclass.isH264 = src.subclass.isH264 := by
  cases e with
  | addMediaSample mediaSample worlds =>
    obtain ⟨buffer, -, hoffer⟩ := h
    refine ⟨offerFrame_settled hsrc hoffer, ?_⟩
    obtain ⟨got, u, hret, hcase⟩ := offerFrame_ok hoffer
    have hclass := LiveDeviceSource.retrieve_isH264 hret
    rcases hcase with ⟨rfl, -⟩ | ⟨-, -, hdeliver⟩
    · exact hclass
    · rw [(LiveDeviceSource.deliverFrame_spec hdeliver).1.subclass, hclass]
  | createSource clientId frameSize =>
    cases h
    exact ⟨hsrc, rfl⟩
  | destroySource source =>
    cases h
    exact ⟨hsrc, rfl⟩
  | getNextFrame source request world =>
    rcases h with ⟨-, hcall⟩ | rfl
    · obtain ⟨hserves, ht⟩ := LiveDeviceSource.getNextFrame_spec hcall
      exact ⟨ht, by rw [hserves.subclass]⟩
    · exact ⟨hsrc, rfl⟩
  | stopGettingFrames source =>
    rcases h with ⟨-, rfl⟩ | rfl
    · exact ⟨(LiveDeviceSource.stopGettingFrames_spec src).2, rfl⟩
    · exact ⟨hsrc, rfl⟩

theorem attended_step (hinv : Attended sub) (h : sub.step e = .ok sub') : Attended sub' := by
  have hkind := (step_frame h).1
  have hclient : ∀ t ∈ sub'.deviceSources,
      Settled t ∧ t.subclass.isH264 = sub.kind.sourceClass.isH264 := by
    intro t ht
    rcases step_source h ht with ⟨src, hsrc, hstep⟩ | ⟨clientId, frameSize, -, rfl⟩
    · obtain ⟨hsettled, hclass⟩ := clientStep_attended (hinv.settled src hsrc) hstep
      exact ⟨hsettled, hclass.trans (hinv.isH264 src hsrc)⟩
    · exact ⟨createNew_settled _ _ _ _, rfl⟩
  exact
    { settled := fun t ht => (hclient t ht).1
      isH264 := fun t ht => by rw [hkind, (hclient t ht).2] }

theorem run_attended {self channelId sourceId : ℕ} {sessionName : String} {kind : SubsessionKind}
    {buffer : β} {events : List Event}
    (h : run step (create self channelId sourceId sessionName kind buffer) events = .ok sub) :
    Attended sub :=
  run_invariant (create_attended self channelId sourceId sessionName kind buffer)
    (fun _ _ _ hm ht => attended_step hm ht) h

/-- The assertion fails only on a waiting source that retrieved nothing and said true. -/
theorem step_emptyQueue (h : sub.step e = .error .emptyQueue) :
    ∃ mediaSample worlds buffer, e = .addMediaSample mediaSample worlds ∧
      IMediaSampleBuffer.addMediaSample sub.sampleBuffer mediaSample = .ok buffer ∧
      ∃ src ∈ sub.deviceSources, src.isCurrentlyAwaitingData = true ∧ ∃ t,
        src.retrieveMediaSampleFromBuffer (Media.getNextFrame buffer) = .ok (true, t) ∧
        src.mediaSamples = [] ∧ t.mediaSamples = [] := by
  rcases step_error h with ⟨mediaSample, worlds, rfl, hbuffer⟩ |
    ⟨mediaSample, worlds, buffer, rfl, hbuffer, src, hsrc, hoffer⟩ |
    ⟨source, request, world, rfl, src, hsrc, hcall⟩
  · exact absurd hbuffer (IMediaSampleBuffer.addMediaSample_ne _ _)
  · refine ⟨mediaSample, worlds, buffer, rfl, hbuffer, src, hsrc, ?_⟩
    rcases offerFrame_error hoffer with hret | ⟨t, hret, -, hdeliver⟩
    · exact absurd rfl (LiveDeviceSource.retrieve_error hret)
    · obtain ⟨mediaSamples, happ, -⟩ := LiveDeviceSource.retrieve_appends hret
      rcases LiveDeviceSource.deliverFrame_error hdeliver with ⟨-, hawait, hempty⟩ | ⟨hf, -⟩
      · have hsplit : src.mediaSamples ++ mediaSamples = [] := by
          rw [← happ.mediaSamples, hempty]
        rw [happ.isCurrentlyAwaitingData] at hawait
        exact ⟨hawait, t, hret, (List.append_eq_nil_iff.mp hsplit).1, hempty⟩
      · cases hf
  · have hf := (LiveDeviceSource.getNextFrame_error hcall).1
    cases hf

/-- An arrival that finds a waiting source always goes on to `deliverFrame`. -/
theorem offerFrame_awaiting {src t : LiveDeviceSource} (hsrc : Settled src)
    (hawait : src.isCurrentlyAwaitingData = true) {frame : Option Frame}
    (h : src.retrieveMediaSampleFromBuffer frame = .ok (true, t)) (world : ℕ → Delivery) :
    offerFrame world frame src = t.deliverFrame world := by
  obtain ⟨mediaSamples, happ, -⟩ := LiveDeviceSource.retrieve_appends h
  have hplay : t.isPlaying = false := by rw [happ.isPlaying, (hsrc hawait).2]
  simp [offerFrame, h, hplay, bind, Except.bind]

end Generic

section SingleChannel
variable {sub : LiveMediaSubsession SingleMediaSampleBuffer} {e : Event}

/-- The code's test for a payload without NAL units, on the bytes as the buffer stores them. -/
def Dropped (b : SingleMediaSampleBuffer) (mediaSample : MediaSample) : Prop :=
  mediaSample.getMediaSize = 0 ∨
    memcmp startCode (b.addMediaSample mediaSample).buffer 0 = .ok false

/-- No payload without NAL units arrives while an H.264 client past its gate waits. -/
def PayloadsKept (sub : LiveMediaSubsession SingleMediaSampleBuffer) (e : Event) : Prop :=
  ∀ mediaSample worlds, e = .addMediaSample mediaSample worlds →
    (∃ src ∈ sub.deviceSources,
      src.subclass = .h264 false ∧ src.isCurrentlyAwaitingData = true) →
    ¬ Dropped sub.sampleBuffer mediaSample

theorem getNextFrame_stored (b : SingleMediaSampleBuffer) (mediaSample : MediaSample) :
    Media.getNextFrame (b.addMediaSample mediaSample) =
      some ⟨(b.addMediaSample mediaSample).buffer, mediaSample.getMediaSize,
        mediaSample.presentationTime⟩ := by
  unfold SingleMediaSampleBuffer.addMediaSample
  split_ifs <;> rfl

/-- A retrieval that returns true appends but for payloads dropped past the H.264 gate. -/
theorem retrieve_grows {b : SingleMediaSampleBuffer} {mediaSample : MediaSample}
    {src t : LiveDeviceSource} (hkept : src.subclass = .h264 false → ¬ Dropped b mediaSample)
    (h : src.retrieveMediaSampleFromBuffer (Media.getNextFrame (b.addMediaSample mediaSample)) =
      .ok (true, t)) : src.mediaSamples.length < t.mediaSamples.length := by
  obtain ⟨mediaSamples, happ, -⟩ := LiveDeviceSource.retrieve_appends h
  have hlen := congrArg List.length happ.mediaSamples
  rw [List.length_append] at hlen
  by_cases hnil : mediaSamples = []
  · have hsame : t.mediaSamples = src.mediaSamples := by rw [happ.mediaSamples, hnil, List.append_nil]
    obtain ⟨hclass, f, hf, hsplit⟩ := LiveDeviceSource.retrieve_nothing h hsame
    rw [getNextFrame_stored] at hf
    cases hf
    exact absurd (splitPayload_nil_iff.mp hsplit) (hkept hclass)
  · have hpos := List.length_pos_iff.mpr hnil
    omega

/-- A dropped payload leaves a waiting client past the gate to the failing assertion and every
other H.264 client as it was. -/
theorem offerFrame_dropped {src : LiveDeviceSource} {waitingForIdr : Bool} {frame : Frame}
    (hsrc : Settled src) (hclass : src.subclass = .h264 waitingForIdr)
    (hsplit : splitPayloadIntoMediaSamples frame.memory frame.size frame.startTime = .ok [])
    (world : ℕ → Delivery) : offerFrame world (some frame) src =
      if waitingForIdr = false ∧ src.isCurrentlyAwaitingData = true then .error .emptyQueue
      else .ok src := by
  have hpush : src.pushBack [] = src := by simp [LiveDeviceSource.pushBack]
  cases waitingForIdr with
  | true =>
    have hret : src.retrieveMediaSampleFromBuffer (some frame) = .ok (false, src) := by
      simp [LiveDeviceSource.retrieveMediaSampleFromBuffer, hclass, LiveDeviceSource.retrieveH264,
        hsplit, LiveDeviceSource.scanForIdr, bind, Except.bind, pure, Except.pure]
    simp [offerFrame, hret, bind, Except.bind]
  | false =>
    have hret : src.retrieveMediaSampleFromBuffer (some frame) = .ok (true, src) := by
      simp [LiveDeviceSource.retrieveMediaSampleFromBuffer, hclass, LiveDeviceSource.retrieveH264,
        hsplit, hpush, bind, Except.bind, pure, Except.pure]
    cases hawait : src.isCurrentlyAwaitingData with
    | true =>
      obtain ⟨hempty, hplay⟩ := hsrc hawait
      rw [offerFrame_awaiting hsrc hawait hret]
      simp [LiveDeviceSource.deliverFrame, hawait, hempty, LiveDeviceSource.deliverQueued]
    | false =>
      cases hplay : src.isPlaying <;>
        simp [offerFrame, hret, hplay, hawait, LiveDeviceSource.deliverFrame, bind, Except.bind]

/-- The step at which the condition is missed fails the assertion. -/
theorem step_dropped (hinv : Attended sub) (hdropped : ¬ PayloadsKept sub e) :
    sub.step e = .error .emptyQueue := by
  unfold PayloadsKept at hdropped
  push Not at hdropped
  obtain ⟨mediaSample, worlds, rfl, ⟨src, hsrc, hclass, hawait⟩, hdrop⟩ := hdropped
  have hsplit : splitPayloadIntoMediaSamples (sub.sampleBuffer.addMediaSample mediaSample).buffer
      mediaSample.getMediaSize mediaSample.presentationTime = .ok [] :=
    splitPayload_nil_iff.mpr hdrop
  have hoffer : ∀ t ∈ sub.deviceSources, ∃ waitingForIdr, offerFrame (worlds t.self)
      (Media.getNextFrame (sub.sampleBuffer.addMediaSample mediaSample)) t =
        if waitingForIdr = false ∧ t.isCurrentlyAwaitingData = true then .error .emptyQueue
        else .ok t := by
    intro t ht
    have hH264 : t.subclass.isH264 = true := by
      rw [hinv.isH264 t ht, ← hinv.isH264 src hsrc, hclass]
      rfl
    cases htclass : t.subclass with
    | device => simp [htclass, Subclass.isH264] at hH264
    | amr isWideband header => simp [htclass, Subclass.isH264] at hH264
    | h264 waitingForIdr =>
      rw [getNextFrame_stored]
      exact ⟨waitingForIdr, offerFrame_dropped (hinv.settled t ht) htclass hsplit _⟩
  have hsources : sub.deviceSources.mapM (fun t => offerFrame (worlds t.self)
      (Media.getNextFrame (sub.sampleBuffer.addMediaSample mediaSample)) t) =
        .error .emptyQueue := by
    cases hres : sub.deviceSources.mapM (fun t => offerFrame (worlds t.self)
        (Media.getNextFrame (sub.sampleBuffer.addMediaSample mediaSample)) t) with
    | ok sources =>
      obtain ⟨t, ht⟩ := mapM_ok_all hres hsrc
      rw [getNextFrame_stored, offerFrame_dropped (hinv.settled src hsrc) hclass hsplit] at ht
      simp [hawait] at ht
    | error f =>
      obtain ⟨t, ht, hf⟩ := mapM_error hres
      obtain ⟨waitingForIdr, ht⟩ := hoffer t ht
      rw [ht] at hf
      split_ifs at hf
      obtain rfl : Fault.emptyQueue = f := Except.error.inj hf
      rfl
  simp [LiveMediaSubsession.step, LiveMediaSubsession.addMediaSample,
    IMediaSampleBuffer.addMediaSample, hsources, bind, Except.bind]

/-- The assertion of `deliverFrame` never fails exactly when no payload without NAL units
arrives while an H.264 client past its gate waits. -/
theorem no_empty_delivery_iff (self channelId sourceId : ℕ) (sessionName : String)
    (kind : SubsessionKind) (buffer : SingleMediaSampleBuffer) (events : List Event) :
    run step (create self channelId sourceId sessionName kind buffer) events ≠
        .error .emptyQueue ↔
      Along step (fun _ sub e => PayloadsKept sub e)
        (create self channelId sourceId sessionName kind buffer) events := by
  constructor
  · rintro h before e after rfl m hm
    by_contra hdropped
    refine h ?_
    rw [run_append_ok hm, run_cons_error (step_dropped (run_attended hm) hdropped)]
  · intro hkept h
    obtain ⟨before, e, after, m, rfl, hm, hf⟩ := run_error h
    obtain ⟨mediaSample, worlds, b, rfl, hb, src, hsrc, hawait, t, hret, hsempty, htempty⟩ :=
      step_emptyQueue hf
    obtain rfl : m.sampleBuffer.addMediaSample mediaSample = b := Except.ok.inj hb
    have hgrow := retrieve_grows
      (fun hclass => hkept before _ after rfl m hm mediaSample worlds rfl ⟨src, hsrc, hclass, hawait⟩)
      hret
    simp [hsempty, htempty] at hgrow

/-- An H.264 subsession before any client has come. -/
def h264Start : LiveMediaSubsession SingleMediaSampleBuffer :=
  create 0 0 0 "" (.h264 "" "") (.create Buffer.empty.data Buffer.empty.length_lt)

def emptyRequest : Request := ⟨Buffer.empty.data, Buffer.empty.length_lt⟩

/-- A client gets an IDR frame and asks again from its callback. -/
def idrDelivered : List Event :=
  [.createSource 0 0,
    .addMediaSample { data := ⟨[0, 0, 0, 1, 0x65], by norm_num⟩ }
      fun _ _ => ⟨⟨0, 0⟩, ⟨0, 0⟩, none⟩,
    .getNextFrame 0 emptyRequest fun _ => ⟨⟨0, 0⟩, ⟨0, 0⟩, some emptyRequest⟩]

/-- A payload without a start code arrives for the waiting client. -/
theorem unframed_payload_fault :
    run step h264Start (idrDelivered ++ [.addMediaSample { data := ⟨[9, 9, 9, 9, 9], by norm_num⟩ }
      fun _ _ => ⟨⟨0, 0⟩, ⟨0, 0⟩, none⟩]) = .error .emptyQueue := by
  decide +kernel

end SingleChannel

end LiveMediaExt.Subsession
