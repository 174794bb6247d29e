import LiveMediaExt.MediaSubsession

/-!
# Every client gets the whole stream

The samples a plain client popped followed by the samples it still queues are the samples
added to the subsession since the client's source was created, whatever the other clients do.
-/
namespace LiveMediaExt.Subsession
open Execution Media Sources LiveMediaSubsession

def Event.sample? : Event → Option MediaSample
  | .addMediaSample mediaSample _ => some mediaSample
  | _ => none

def samplesAdded (events : List Event) : List MediaSample := events.filterMap Event.sample?

def creations (events : List Event) : ℕ := (events.map Event.creations).sum

/-- The samples added after the creation of the source with the given address: sources are
created at addresses 0, 1, 2 and so on. -/
def samplesSinceCreation (source : ℕ) : List Event → List MediaSample
  | [] => []
  | .createSource .. :: events =>
    match source with
    | 0 => samplesAdded events
    | source + 1 => samplesSinceCreation source events
  | _ :: events => samplesSinceCreation source events

theorem creations_snoc (events : List Event) (e : Event) :
    creations (events ++ [e]) = creations events + e.creations := by
  simp [creations]

theorem creations_cons (e : Event) (events : List Event) :
    creations (e :: events) = creations events + e.creations := by
  simp [creations, Nat.add_comm]

theorem samplesAdded_append (es fs : List Event) :
    samplesAdded (es ++ fs) = samplesAdded es ++ samplesAdded fs :=
  List.filterMap_append

/-- Once a source exists, later events add to its samples just what they add. -/
theorem samplesSinceCreation_append {source : ℕ} {es : List Event} (h : source < creations es)
    (fs : List Event) :
    samplesSinceCreation source (es ++ fs) = samplesSinceCreation source es ++ samplesAdded fs := by
  induction es generalizing source with
  | nil => simp [creations] at h
  | cons e es ih =>
    rw [creations_cons] at h
    cases e with
    | createSource clientId frameSize =>
      cases source with
      | zero => exact samplesAdded_append es fs
      | succ source =>
        have hlt : source < creations es := by
          simp only [Event.creations] at h
          omega
        exact ih hlt
    | addMediaSample mediaSample worlds => exact ih h
    | destroySource source => exact ih h
    | getNextFrame source request world => exact ih h
    | stopGettingFrames source => exact ih h

theorem samplesSinceCreation_created (es : List Event) (clientId frameSize : ℕ) :
    samplesSinceCreation (creations es) (es ++ [.createSource clientId frameSize]) = [] := by
  induction es with
  | nil => rfl
  | cons e es ih =>
    rw [creations_cons]
    cases e <;> exact ih

theorem samplesSinceCreation_subset {source : ℕ} {events : List Event} {s : MediaSample}
    (hs : s ∈ samplesSinceCreation source events) : s ∈ samplesAdded events := by
  induction events generalizing source with
  | nil => simp [samplesSinceCreation] at hs
  | cons e events ih =>
    cases e with
    | createSource clientId frameSize =>
      cases source with
      | zero => exact hs
      | succ source => exact ih hs
    | addMediaSample mediaSample worlds =>
      have hadded : samplesAdded (.addMediaSample mediaSample worlds :: events) =
          mediaSample :: samplesAdded events := rfl
      rw [hadded]
      exact List.mem_cons_of_mem _ (ih hs)
    | destroySource source => exact ih hs
    | getNextFrame source request world => exact ih hs
    | stopGettingFrames source => exact ih hs

/-- A source that takes an arriving frame is left with no request beside queued samples. -/
theorem offerFrame_settled {world : ℕ → Delivery} {frame : Option Frame}
    {src t : LiveDeviceSource} (hsrc : Settled src) (h : offerFrame world frame src = .ok t) :
    Settled t := by
  obtain ⟨got, u, hret, hcase⟩ := offerFrame_ok h
  obtain ⟨mediaSamples, happ, hnone⟩ := LiveDeviceSource.retrieve_appends hret
  rcases hcase with ⟨rfl, hidle⟩ | ⟨-, -, hdeliver⟩
  · intro hawait
    rw [happ.isCurrentlyAwaitingData] at hawait
    obtain ⟨hempty, hplay⟩ := hsrc hawait
    have hplay' : t.isPlaying = false := by rw [happ.isPlaying, hplay]
    rcases hidle with hgot | hgot
    · exact ⟨by rw [happ.mediaSamples, hempty, hnone hgot, List.append_nil], hplay'⟩
    · rw [hplay'] at hgot
      cases hgot
  · exact (LiveDeviceSource.deliverFrame_spec hdeliver).2

/-- The copy of a stored sample that a plain source queues. -/
def retrieved (mediaSample : MediaSample) : MediaSample :=
  { presentationTime := mediaSample.presentationTime, data := mediaSample.data }

theorem retrieve_stored (b : SingleMediaSampleBuffer) (mediaSample : MediaSample)
    {src : LiveDeviceSource} (hclass : src.subclass = .device) :
    src.retrieveMediaSampleFromBuffer (Media.getNextFrame (b.addMediaSample mediaSample)) =
      .ok (true, src.pushBack [retrieved mediaSample]) := by
  obtain ⟨rest, hframe⟩ := b.getNextFrame_addMediaSample mediaSample
  have hcopy := copyBytes_append mediaSample.data rest
  rw [hframe, LiveDeviceSource.retrieveMediaSampleFromBuffer, hclass]
  simp only [LiveDeviceSource.retrieveDevice, hcopy, bind, Except.bind, pure, Except.pure]
  rfl

/-- The invariant of a run of a subsession with plain clients. -/
structure Streams (events : List Event) (sub : LiveMediaSubsession SingleMediaSampleBuffer) :
    Prop where
  sourceClass : sub.kind.sourceClass = .device
  addresses : sub.nextSource = creations events
  live : ∀ src ∈ sub.deviceSources, src.subclass = .device ∧ src.self < creations events ∧
    Settled src
  stream : ∀ src ∈ sub.deviceSources, (src.popped ++ src.mediaSamples).map MediaSample.content =
    (samplesSinceCreation src.self events).map MediaSample.content

/-- One live client over one event: its stream grows by what the event adds. -/
theorem clientStep_stream {b : SingleMediaSampleBuffer} {e : Event} {src t : LiveDeviceSource}
    (hclass : src.subclass = .device) (hsettled : Settled src) (h : ClientStep b e src t) :
    t.self = src.self ∧ t.subclass = .device ∧ Settled t ∧
      (t.popped ++ t.mediaSamples).map MediaSample.content =
        (src.popped ++ src.mediaSamples).map MediaSample.content ++
          (samplesAdded [e]).map MediaSample.content := by
  have same (hserves : Serves src t) (hnone : samplesAdded [e] = []) (ht : Settled t) :
      t.self = src.self ∧ t.subclass = .device ∧ Settled t ∧
        (t.popped ++ t.mediaSamples).map MediaSample.content =
          (src.popped ++ src.mediaSamples).map MediaSample.content ++
            (samplesAdded [e]).map MediaSample.content :=
    ⟨hserves.self, hserves.subclass.trans hclass, ht, by simp [hserves.stream, hnone]⟩
  cases e with
  | addMediaSample mediaSample worlds =>
    obtain ⟨buffer, hbuffer, hoffer⟩ := h
    obtain rfl : b.addMediaSample mediaSample = buffer := Except.ok.inj hbuffer
    have ht := offerFrame_settled hsettled hoffer
    obtain ⟨got, u, hret, hcase⟩ := offerFrame_ok hoffer
    rw [retrieve_stored b mediaSample hclass] at hret
    cases hret
    have hserves : Serves (src.pushBack [retrieved mediaSample]) t := by
      rcases hcase with ⟨rfl, -⟩ | ⟨-, -, hdeliver⟩
      · exact .refl _
      · exact (LiveDeviceSource.deliverFrame_spec hdeliver).1
    have hadded : samplesAdded [.addMediaSample mediaSample worlds] = [mediaSample] := rfl
    have hpush : (src.pushBack [retrieved mediaSample]).popped = src.popped := rfl
    refine ⟨hserves.self, hserves.subclass.trans hclass, ht, ?_⟩
    rw [hserves.stream, hadded, hpush]
    simp [LiveDeviceSource.pushBack, retrieved, MediaSample.content]
  | createSource clientId frameSize =>
    cases h
    exact same (.refl _) rfl hsettled
  | destroySource source =>
    cases h
    exact same (.refl _) rfl hsettled
  | getNextFrame source request world =>
    rcases h with ⟨-, hcall⟩ | rfl
    · obtain ⟨hserves, ht⟩ := LiveDeviceSource.getNextFrame_spec hcall
      exact same hserves rfl ht
    · exact same (.refl _) rfl hsettled
  | stopGettingFrames source =>
    rcases h with ⟨-, rfl⟩ | rfl
    · obtain ⟨hserves, ht⟩ := LiveDeviceSource.stopGettingFrames_spec src
      exact same hserves rfl ht
    · exact same (.refl _) rfl hsettled

theorem streams_step {events : List Event} {e : Event}
    {sub sub' : LiveMediaSubsession SingleMediaSampleBuffer} (hinv : Streams events sub)
    (h : sub.step e = .ok sub') : Streams (events ++ [e]) sub' := by
  obtain ⟨hkind, hnext⟩ := step_frame h
  have hclient : ∀ t ∈ sub'.deviceSources, (t.subclass = .device ∧
      t.self < creations (events ++ [e]) ∧ Settled t) ∧
      (t.popped ++ t.mediaSamples).map MediaSample.content =
        (samplesSinceCreation t.self (events ++ [e])).map MediaSample.content := by
    intro t ht
    rcases step_source h ht with ⟨src, hsrc, hstep⟩ | ⟨clientId, frameSize, rfl, rfl⟩
    · obtain ⟨hclass, hself, hsettled⟩ := hinv.live src hsrc
      obtain ⟨hself', hclass', hsettled', hstream⟩ := clientStep_stream hclass hsettled hstep
      refine ⟨⟨hclass', ?_, hsettled'⟩, ?_⟩
      · rw [hself', creations_snoc]
        omega
      · rw [hstream, hinv.stream src hsrc, hself', samplesSinceCreation_append hself,
          List.map_append]
    · refine ⟨⟨hinv.sourceClass, ?_, createNew_settled _ _ _ _⟩, ?_⟩
      · simp [LiveDeviceSource.createNew, hinv.addresses, creations_snoc, Event.creations]
      · have hnew := samplesSinceCreation_created events clientId frameSize
        rw [← hinv.addresses] at hnew
        simp [LiveDeviceSource.createNew, LiveDeviceSource.popped, hnew]
  exact
    { sourceClass := by rw [hkind, hinv.sourceClass]
      addresses := by rw [hnext, hinv.addresses, creations_snoc]
      live := fun t ht => (hclient t ht).1
      stream := fun t ht => (hclient t ht).2 }

/-- While all samples are smaller than 2 GiB, so are the queued ones. -/
theorem Streams.queued_small {events : List Event}
    {sub : LiveMediaSubsession SingleMediaSampleBuffer} (hinv : Streams events sub)
    (hsmall : ∀ s ∈ samplesAdded events, s.getMediaSize < 2 ^ 31) {src : LiveDeviceSource}
    (hsrc : src ∈ sub.deviceSources) : ∀ s ∈ src.mediaSamples, s.getMediaSize < 2 ^ 31 := by
  intro s hs
  have hmem : s.content ∈ (samplesSinceCreation src.self events).map MediaSample.content := by
    rw [← hinv.stream src hsrc]
    exact List.mem_map_of_mem (List.mem_append_right _ hs)
  obtain ⟨s', hs', hcontent⟩ := List.mem_map.mp hmem
  have hbytes : s'.data.data = s.data.data := congrArg Prod.fst hcontent
  have hsize := hsmall s' (samplesSinceCreation_subset hs')
  unfold MediaSample.getMediaSize Buffer.getSize at hsize ⊢
  rwa [hbytes] at hsize

/-- Samples below 2 GiB set off no fault. -/
theorem Streams.step_no_fault {events : List Event} {e : Event} {f : Fault}
    {sub : LiveMediaSubsession SingleMediaSampleBuffer} (hinv : Streams events sub)
    (hsmall : ∀ s ∈ samplesAdded (events ++ [e]), s.getMediaSize < 2 ^ 31) :
    sub.step e ≠ .error f := by
  intro h
  rw [samplesAdded_append] at hsmall
  have hqueued : ∀ src ∈ sub.deviceSources, ∀ s ∈ src.mediaSamples, s.getMediaSize < 2 ^ 31 :=
    fun src hsrc => hinv.queued_small (fun s hs => hsmall s (List.mem_append_left _ hs)) hsrc
  rcases step_error h with ⟨mediaSample, worlds, rfl, hbuffer⟩ |
    ⟨mediaSample, worlds, buffer, rfl, hbuffer, src, hsrc, hoffer⟩ |
    ⟨source, request, world, rfl, src, hsrc, hcall⟩
  · cases hbuffer
  · obtain rfl : sub.sampleBuffer.addMediaSample mediaSample = buffer := Except.ok.inj hbuffer
    have hret := retrieve_stored sub.sampleBuffer mediaSample (hinv.live src hsrc).1
    rcases offerFrame_error hoffer with herr | ⟨u, hu, -, hdeliver⟩
    · rw [hret] at herr
      cases herr
    · rw [hret] at hu
      cases hu
      rcases LiveDeviceSource.deliverFrame_error hdeliver with ⟨-, -, hempty⟩ | ⟨-, s, hs, hsize⟩
      · simp [LiveDeviceSource.pushBack] at hempty
      · have hlt : s.getMediaSize < 2 ^ 31 := by
          rcases List.mem_append.mp hs with hs | hs
          · exact hqueued src hsrc s hs
          · rw [List.mem_singleton.mp hs]
            exact hsmall mediaSample (by simp [samplesAdded, Event.sample?])
        omega
  · obtain ⟨-, s, hs, hsize⟩ := LiveDeviceSource.getNextFrame_error hcall
    have hlt := hqueued src hsrc s hs
    omega

/-- No client of a subsession with plain sources loses, repeats or reorders a sample, and
while every sample is smaller than 2 GiB no call faults. -/
theorem client_stream_exact (self channelId sourceId : ℕ) (sessionName configStr : String)
    (numChannels bitsPerSample samplingFrequency : ℕ) (buffer : SingleMediaSampleBuffer)
    (events : List Event) :
    (∀ sub, run step (create self channelId sourceId sessionName
        (.aac numChannels bitsPerSample samplingFrequency configStr) buffer) events = .ok sub →
      ∀ src ∈ sub.deviceSources, (src.popped ++ src.mediaSamples).map MediaSample.content =
        (samplesSinceCreation src.self events).map MediaSample.content) ∧
    ((∀ s ∈ samplesAdded events, s.getMediaSize < 2 ^ 31) →
      ∃ sub, run step (create self channelId sourceId sessionName
        (.aac numChannels bitsPerSample samplingFrequency configStr) buffer) events = .ok sub) := by
  have hstart : Streams [] (create self channelId sourceId sessionName
      (.aac numChannels bitsPerSample samplingFrequency configStr) buffer) :=
    { sourceClass := rfl
      addresses := rfl
      live := by simp [create]
      stream := by simp [create] }
  have hreach {es : List Event} {sub : LiveMediaSubsession SingleMediaSampleBuffer}
      (h : run step (create self channelId sourceId sessionName
        (.aac numChannels bitsPerSample samplingFrequency configStr) buffer) es = .ok sub) :
      Streams es sub :=
    run_induction hstart (fun es m e t _ hm ht => streams_step hm ht) h
  refine ⟨fun sub h => (hreach h).stream, fun hsmall => ?_⟩
  cases h : run step (create self channelId sourceId sessionName
      (.aac numChannels bitsPerSample samplingFrequency configStr) buffer) events with
  | ok sub => exact ⟨sub, rfl⟩
  | error f =>
    obtain ⟨before, e, after, m, rfl, hm, hf⟩ := run_error h
    refine absurd hf ((hreach hm).step_no_fault fun s hs => hsmall s ?_)
    rw [← List.singleton_append, ← List.append_assoc, samplesAdded_append]
    exact List.mem_append_left _ hs

end LiveMediaExt.Subsession
