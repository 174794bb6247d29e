import LiveMediaExt.AmrHeaders
import LiveMediaExt.IdrGate

/-!
# The streams of all kinds of clients

Each kind of subsession has sources that take an arriving sample apart in their own way. While the
samples are such that they can, a client's stream is a function of the samples added since its
source was created: the other clients, their sinks and the reuse of the sample buffer do not show
in it.
-/
namespace LiveMediaExt.Subsession
open Execution Media Sources LiveMediaSubsession

/-- The frame of the sample with nothing behind it. -/
def ownFrame (mediaSample : MediaSample) : Frame := storedFrame mediaSample []

def bringsIdr (mediaSample : MediaSample) : Bool := hasIdr (ownFrame mediaSample)

/-- What a client queues of the samples that are added while its source lives. -/
def appended : SubsessionKind → List MediaSample → List MediaSample
  | .aac .., mediaSamples => mediaSamples.map retrieved
  | .amr .., mediaSamples => mediaSamples.map payload
  | .h264 .., mediaSamples =>
    (mediaSamples.dropWhile fun s => !bringsIdr s).flatMap fun s => nalUnits (ownFrame s)

/-- The samples that the sources of the kind can take apart: an AMR sample has a header byte, and
an H.264 sample is a start code and NAL units that are not empty. -/
def Proper : SubsessionKind → MediaSample → Prop
  | .aac .., _ => True
  | .amr .., mediaSample => mediaSample.data.data ≠ []
  | .h264 .., mediaSample => startCode <+: mediaSample.data.data ∧ 5 ≤ mediaSample.getMediaSize ∧
    ∀ unit ∈ nalUnits (ownFrame mediaSample), unit.data.data ≠ []

/-- The class of a source after the samples. -/
def HasClass : SubsessionKind → List MediaSample → Subclass → Prop
  | .aac .., _, subclass => subclass = .device
  | .amr .., _, subclass => ∃ header, subclass = .amr false header
  | .h264 .., mediaSamples, subclass => subclass = .h264 (!mediaSamples.any bringsIdr)

section Splitting
variable {sps pps : String} {mediaSample : MediaSample}

/-- The bytes behind a proper sample do not matter to the splitter. -/
theorem split_stored (h : 5 ≤ mediaSample.getMediaSize) (rest : List UInt8) :
    splitPayloadIntoMediaSamples (mediaSample.data.data ++ rest) mediaSample.getMediaSize
      mediaSample.presentationTime = .ok (nalUnits (ownFrame mediaSample)) := by
  obtain ⟨units, hunits⟩ : ∃ units, splitPayloadIntoMediaSamples mediaSample.data.data
      mediaSample.data.data.length mediaSample.presentationTime = .ok units :=
    splitPayload_inside h mediaSample.data.length_lt
  have hown : nalUnits (ownFrame mediaSample) = units := by
    have hextend := splitPayload_extend hunits []
    unfold nalUnits ownFrame storedFrame MediaSample.getMediaSize Buffer.getSize
    dsimp only
    rw [hextend]
  rw [hown]
  exact splitPayload_extend hunits rest

theorem wellSplit_ownFrame (h : Proper (.h264 sps pps) mediaSample) :
    WellSplit (ownFrame mediaSample) :=
  ⟨split_stored h.2.1 [], h.2.2⟩

/-- A proper sample has a NAL unit. -/
theorem nalUnits_ne_nil (h : Proper (.h264 sps pps) mediaSample) :
    nalUnits (ownFrame mediaSample) ≠ [] := by
  obtain ⟨⟨rest, hrest⟩, hsize, -⟩ := h
  intro hnil
  have hsplit := split_stored hsize []
  rw [hnil] at hsplit
  rcases splitPayload_nil_iff.mp hsplit with hzero | hcode
  · omega
  · rw [← hrest, List.append_assoc, memcmp_append] at hcode
    cases hcode

/-- A NAL unit is not larger than the sample it was cut from. -/
theorem nalUnits_size (h : 5 ≤ mediaSample.getMediaSize) {unit : MediaSample}
    (hunit : unit ∈ nalUnits (ownFrame mediaSample)) :
    unit.getMediaSize ≤ mediaSample.getMediaSize := by
  have hsplit := split_stored h []
  rw [List.append_nil] at hsplit
  have hinfix := splitPayload_infix mediaSample.data.length_lt hsplit unit hunit
  exact hinfix.length_le.trans (List.length_take_le _ _)

end Splitting

section Appended
variable {kind : SubsessionKind} {mediaSamples : List MediaSample}

/-- A queued sample is no larger than one of the samples that were added. -/
theorem appended_size (hproper : ∀ s ∈ mediaSamples, Proper kind s) {limit : ℕ}
    (hsmall : ∀ s ∈ mediaSamples, s.getMediaSize < limit) :
    ∀ s ∈ appended kind mediaSamples, s.getMediaSize < limit := by
  intro s hs
  cases kind with
  | aac numChannels bitsPerSample samplingFrequency configStr =>
    obtain ⟨s', hs', rfl⟩ := List.mem_map.mp hs
    exact hsmall s' hs'
  | amr numChannels bitsPerSample samplingFrequency =>
    obtain ⟨s', hs', rfl⟩ := List.mem_map.mp hs
    have hlt := hsmall s' hs'
    have hle : (payload s').getMediaSize ≤ s'.getMediaSize := (List.tail_sublist _).length_le
    omega
  | h264 sps pps =>
    obtain ⟨s', hs', hunit⟩ := List.mem_flatMap.mp hs
    have hmem : s' ∈ mediaSamples := (List.dropWhile_sublist _).subset hs'
    exact (nalUnits_size (hproper s' hmem).2.1 hunit).trans_lt (hsmall s' hmem)

/-- A client that came later has the end of an earlier client's stream. -/
theorem appended_suffix {others : List MediaSample} (h : mediaSamples <:+ others) :
    appended kind mediaSamples <:+ appended kind others := by
  cases kind with
  | aac numChannels bitsPerSample samplingFrequency configStr => exact h.map _
  | amr numChannels bitsPerSample samplingFrequency => exact h.map _
  | h264 sps pps =>
    obtain ⟨before, rfl⟩ := h
    rw [appended, appended, List.dropWhile_append]
    split_ifs
    · exact List.suffix_rfl
    · rw [List.flatMap_append]
      refine List.IsSuffix.trans ?_ (List.suffix_append _ _)
      obtain ⟨dropped, hdropped⟩ := List.dropWhile_suffix (l := mediaSamples) fun s => !bringsIdr s
      refine ⟨dropped.flatMap fun s => nalUnits (ownFrame s), ?_⟩
      rw [← List.flatMap_append, hdropped]

end Appended

/-- What a source has become by the samples. -/
structure Follows (kind : SubsessionKind) (mediaSamples : List MediaSample)
    (src : LiveDeviceSource) : Prop where
  subclass : HasClass kind mediaSamples src.subclass
  stream : src.popped ++ src.mediaSamples = appended kind mediaSamples

section Client
variable {kind : SubsessionKind} {mediaSamples : List MediaSample} {mediaSample : MediaSample}
  {src t : LiveDeviceSource}

theorem follows_createNew (kind : SubsessionKind) (self clientId frameSize : ℕ) :
    Follows kind [] (.createNew self clientId kind.sourceClass frameSize) := by
  cases kind with
  | aac numChannels bitsPerSample samplingFrequency configStr => exact ⟨rfl, rfl⟩
  | amr numChannels bitsPerSample samplingFrequency => exact ⟨⟨0, rfl⟩, rfl⟩
  | h264 sps pps => exact ⟨rfl, rfl⟩

theorem Follows.serves (h : Follows kind mediaSamples src) (hserves : Serves src t) :
    Follows kind mediaSamples t where
  subclass := by
    rw [hserves.subclass]
    exact h.subclass
  stream := hserves.stream.trans h.stream

/-- The gate of an H.264 source. -/
theorem follows_gated {sps pps : String} :
    Follows (.h264 sps pps) mediaSamples src ↔ Gated (mediaSamples.map ownFrame) src := by
  have hstream : appended (.h264 sps pps) mediaSamples =
      ((mediaSamples.map ownFrame).dropWhile fun frame => !hasIdr frame).flatMap nalUnits := by
    rw [List.dropWhile_map, List.flatMap_map]
    rfl
  have hany : (mediaSamples.map ownFrame).any hasIdr = mediaSamples.any bringsIdr := by
    rw [List.any_map]
    rfl
  constructor
  · intro h
    refine ⟨?_, ?_⟩
    · rw [hany]
      exact h.subclass
    · rw [← hstream]
      exact h.stream
  · intro h
    refine ⟨?_, ?_⟩
    · have hclass := h.subclass
      rw [hany] at hclass
      exact hclass
    · rw [hstream]
      exact h.stream

/-- A proper sample is retrieved, whatever the buffer held; a retrieval that returns true has
queued something. -/
theorem Follows.retrieve (h : Follows kind mediaSamples src) (hproper : Proper kind mediaSample)
    (b : SingleMediaSampleBuffer) :
    ∃ got t, src.retrieveMediaSampleFromBuffer (Media.getNextFrame (b.addMediaSample mediaSample)) =
        .ok (got, t) ∧
      Follows kind (mediaSamples ++ [mediaSample]) t ∧
      (got = true → t.mediaSamples ≠ src.mediaSamples) := by
  obtain ⟨rest, hframe⟩ := b.getNextFrame_addMediaSample mediaSample
  cases kind with
  | aac numChannels bitsPerSample samplingFrequency configStr =>
    refine ⟨true, _, retrieve_stored b mediaSample h.subclass, ⟨h.subclass, ?_⟩, ?_⟩
    · rw [stream_appends (LiveDeviceSource.pushBack_appends _ _), h.stream]
      simp [appended]
    · simp [LiveDeviceSource.pushBack]
  | amr numChannels bitsPerSample samplingFrequency =>
    obtain ⟨header, hclass⟩ := h.subclass
    obtain ⟨first, tail, hdata⟩ := List.exists_cons_of_ne_nil hproper
    have happ := (LiveDeviceSource.noteFrameHeader_appends false first src).trans
      (LiveDeviceSource.pushBack_appends _ [payload mediaSample])
    rw [hframe]
    refine ⟨true, _, retrieve_storedFrame hclass hdata rest, ⟨⟨first, ?_⟩, ?_⟩, fun _ => ?_⟩
    · exact (noteFrameHeader_subclass false first src).1
    · rw [stream_appends happ, h.stream]
      simp [appended]
    · rw [happ.mediaSamples]
      simp
  | h264 sps pps =>
    have hgated := follows_gated.mp h
    have hsame : src.retrieveMediaSampleFromBuffer (Media.getNextFrame
        (b.addMediaSample mediaSample)) =
          src.retrieveMediaSampleFromBuffer (some (ownFrame mediaSample)) := by
      have hsplit := split_stored hproper.2.1 rest
      have hown := split_stored hproper.2.1 []
      rw [hframe, LiveDeviceSource.retrieveMediaSampleFromBuffer,
        LiveDeviceSource.retrieveMediaSampleFromBuffer, hgated.subclass]
      simp only [LiveDeviceSource.retrieveH264, ownFrame, storedFrame]
      rw [hown]
      unfold MediaSample.getMediaSize at hsplit
      rw [hsplit]
    obtain ⟨t, hret, hgated'⟩ := hgated.retrieve (wellSplit_ownFrame hproper)
    refine ⟨_, t, hsame.trans hret, ?_, ?_⟩
    · rw [follows_gated, List.map_append]
      exact hgated'
    · intro hgot hqueue
      rw [hgot] at hret
      obtain ⟨-, frame, hsome, hnil⟩ := LiveDeviceSource.retrieve_nothing hret hqueue
      obtain rfl := Option.some.inj hsome
      have hunits := (wellSplit_ownFrame hproper).1
      rw [hnil] at hunits
      exact nalUnits_ne_nil hproper (Except.ok.inj hunits).symm

/-- A source that is offered a proper sample follows. -/
theorem Follows.offerFrame (h : Follows kind mediaSamples src) (hproper : Proper kind mediaSample)
    {b : SingleMediaSampleBuffer} {world : ℕ → Delivery}
    (hoffer : offerFrame world (Media.getNextFrame (b.addMediaSample mediaSample)) src = .ok t) :
    t.self = src.self ∧ Follows kind (mediaSamples ++ [mediaSample]) t := by
  obtain ⟨got, u, hret, hfollows, -⟩ := h.retrieve hproper b
  obtain ⟨got', u', hret', hcase⟩ := offerFrame_ok hoffer
  rw [hret] at hret'
  obtain ⟨rfl, rfl⟩ := Prod.mk.inj (Except.ok.inj hret')
  obtain ⟨_, happ, -⟩ := LiveDeviceSource.retrieve_appends hret
  have hserves : Serves u t := by
    rcases hcase with ⟨rfl, -⟩ | ⟨-, -, hdeliver⟩
    · exact .refl _
    · exact (LiveDeviceSource.deliverFrame_spec hdeliver).1
  exact ⟨hserves.self.trans happ.self, hfollows.serves hserves⟩

/-- Offered a proper sample, a source faults only over a sample of 2 GiB. -/
theorem Follows.offerFrame_error (h : Follows kind mediaSamples src)
    (hproper : ∀ s ∈ mediaSamples ++ [mediaSample], Proper kind s)
    (hsmall : ∀ s ∈ mediaSamples ++ [mediaSample], s.getMediaSize < 2 ^ 31)
    {b : SingleMediaSampleBuffer} {world : ℕ → Delivery} {f : Fault} :
    Subsession.offerFrame world (Media.getNextFrame (b.addMediaSample mediaSample)) src ≠
      .error f := by
  intro hoffer
  have hlast : Proper kind mediaSample := hproper mediaSample (by simp)
  obtain ⟨got, u, hret, hfollows, hgrows⟩ := h.retrieve hlast b
  rcases Subsession.offerFrame_error hoffer with herr | ⟨u', hret', -, hdeliver⟩
  · rw [hret] at herr
    cases herr
  · rw [hret] at hret'
    obtain ⟨rfl, rfl⟩ := Prod.mk.inj (Except.ok.inj hret')
    obtain ⟨_, happ, -⟩ := LiveDeviceSource.retrieve_appends hret
    rcases LiveDeviceSource.deliverFrame_error hdeliver with ⟨-, -, hempty⟩ | ⟨-, s, hs, hsize⟩
    · refine hgrows rfl ?_
      rw [happ.mediaSamples] at hempty ⊢
      rw [(List.append_eq_nil_iff.mp hempty).1, (List.append_eq_nil_iff.mp hempty).2]
      rfl
    · have hmem : s ∈ appended kind (mediaSamples ++ [mediaSample]) := by
        rw [← hfollows.stream]
        exact List.mem_append_right _ hs
      have hlt := appended_size hproper hsmall s hmem
      omega

end Client

/-- The invariant of a run of a subsession of any kind. -/
structure ClientsFollow (events : List Event)
    (sub : LiveMediaSubsession SingleMediaSampleBuffer) : Prop where
  addresses : sub.nextSource = creations events
  live : ∀ src ∈ sub.deviceSources, src.self < creations events ∧ Settled src ∧
    Follows sub.kind (samplesSinceCreation src.self events) src

/-- A later source has missed more. -/
theorem samplesSinceCreation_suffix {source later : ℕ} (hle : source ≤ later)
    (events : List Event) :
    samplesSinceCreation later events <:+ samplesSinceCreation source events := by
  have hall (source : ℕ) (events : List Event) :
      samplesSinceCreation source events <:+ samplesAdded events := by
    induction events generalizing source with
    | nil => exact List.suffix_rfl
    | cons e events ih =>
      cases e with
      | createSource clientId frameSize =>
        cases source with
        | zero => exact List.suffix_rfl
        | succ source => exact ih source
      | addMediaSample mediaSample worlds => exact (ih source).trans (List.suffix_cons _ _)
      | destroySource source' => exact ih source
      | getNextFrame source' request world => exact ih source
      | stopGettingFrames source' => exact ih source
  induction events generalizing source later with
  | nil => exact List.suffix_rfl
  | cons e events ih =>
    cases e with
    | createSource clientId frameSize =>
      cases later with
      | zero =>
        obtain rfl : source = 0 := by omega
        exact List.suffix_rfl
      | succ later =>
        cases source with
        | zero => exact hall later events
        | succ source => exact ih (by omega)
    | addMediaSample mediaSample worlds => exact ih hle
    | destroySource source' => exact ih hle
    | getNextFrame source' request world => exact ih hle
    | stopGettingFrames source' => exact ih hle

theorem run_kind {β : Type} [IMediaSampleBuffer β] {sub sub' : LiveMediaSubsession β}
    {events : List Event} (h : run LiveMediaSubsession.step sub events = .ok sub') :
    sub'.kind = sub.kind :=
  run_induction (R := fun _ t => t.kind = sub.kind) rfl
    (fun _ _ _ _ _ hm ht => (step_frame ht).1.trans hm) h

section Run
variable {events : List Event} {e : Event} {sub sub' : LiveMediaSubsession SingleMediaSampleBuffer}

/-- One live client over one event. -/
theorem clientStep_follows {b : SingleMediaSampleBuffer} {kind : SubsessionKind}
    {mediaSamples : List MediaSample} {src t : LiveDeviceSource}
    (hproper : ∀ s ∈ samplesAdded [e], Proper kind s) (hsettled : Settled src)
    (hfollows : Follows kind mediaSamples src) (h : ClientStep b e src t) :
    t.self = src.self ∧ Settled t ∧ Follows kind (mediaSamples ++ samplesAdded [e]) t := by
  have same (hserves : Serves src t) (hnone : samplesAdded [e] = []) (ht : Settled t) :
      t.self = src.self ∧ Settled t ∧ Follows kind (mediaSamples ++ samplesAdded [e]) t := by
    rw [hnone, List.append_nil]
    exact ⟨hserves.self, ht, hfollows.serves hserves⟩
  cases e with
  | addMediaSample mediaSample worlds =>
    obtain ⟨buffer, hbuffer, hoffer⟩ := h
    obtain rfl : b.addMediaSample mediaSample = buffer := Except.ok.inj hbuffer
    have hlast : Proper kind mediaSample :=
      hproper mediaSample (by simp [samplesAdded, Event.sample?])
    obtain ⟨hself, hfollows'⟩ := hfollows.offerFrame hlast hoffer
    exact ⟨hself, offerFrame_settled hsettled hoffer, hfollows'⟩
  | createSource clientId frameSize =>
    cases h
    exact same (.refl _) rfl hsettled
  | destroySource source =>
    cases h
    exact same (.refl _) rfl hsettled
  | getNextFrame source request world =>
    rcases h with ⟨-, hcall⟩ | rfl
    · obtain ⟨hserves, ht⟩ := LiveDeviceSource.getNextFrame_spec hcall
      exact same hserves rfl ht
    · exact same (.refl _) rfl hsettled
  | stopGettingFrames source =>
    rcases h with ⟨-, rfl⟩ | rfl
    · obtain ⟨hserves, ht⟩ := LiveDeviceSource.stopGettingFrames_spec src
      exact same hserves rfl ht
    · exact same (.refl _) rfl hsettled

theorem clientsFollow_create (self channelId sourceId : ℕ) (sessionName : String)
    (kind : SubsessionKind) (buffer : SingleMediaSampleBuffer) :
    ClientsFollow [] (create self channelId sourceId sessionName kind buffer) where
  addresses := rfl
  live := by simp [create]

theorem ClientsFollow.step (hinv : ClientsFollow events sub)
    (hproper : ∀ s ∈ samplesAdded [e], Proper sub.kind s) (h : sub.step e = .ok sub') :
    ClientsFollow (events ++ [e]) sub' := by
  obtain ⟨hkind, hnext⟩ := step_frame h
  refine ⟨by rw [hnext, hinv.addresses, creations_snoc], fun t ht => ?_⟩
  rw [hkind]
  rcases step_source h ht with ⟨src, hsrc, hstep⟩ | ⟨clientId, frameSize, rfl, rfl⟩
  · obtain ⟨hself, hsettled, hfollows⟩ := hinv.live src hsrc
    obtain ⟨hself', hsettled', hfollows'⟩ := clientStep_follows hproper hsettled hfollows hstep
    refine ⟨?_, hsettled', ?_⟩
    · rw [hself', creations_snoc]
      omega
    · rw [hself', samplesSinceCreation_append hself]
      exact hfollows'
  · refine ⟨?_, createNew_settled _ _ _ _, ?_⟩
    · simp [LiveDeviceSource.createNew, hinv.addresses, creations_snoc, Event.creations]
    · have hnew := samplesSinceCreation_created events clientId frameSize
      rw [← hinv.addresses] at hnew
      have hsince : samplesSinceCreation
          (LiveDeviceSource.createNew sub.nextSource clientId sub.kind.sourceClass frameSize).self
          (events ++ [.createSource clientId frameSize]) = [] := hnew
      rw [hsince]
      exact follows_createNew _ _ _ _

/-- Proper samples below 2 GiB set off no fault. -/
theorem ClientsFollow.step_ne_error (hinv : ClientsFollow events sub)
    (hproper : ∀ s ∈ samplesAdded (events ++ [e]), Proper sub.kind s)
    (hsmall : ∀ s ∈ samplesAdded (events ++ [e]), s.getMediaSize < 2 ^ 31) {f : Fault} :
    sub.step e ≠ .error f := by
  intro h
  have hsince {mediaSample : MediaSample} {src : LiveDeviceSource}
      (hmem : mediaSample ∈ samplesSinceCreation src.self events) :
      mediaSample ∈ samplesAdded (events ++ [e]) := by
    rw [samplesAdded_append]
    exact List.mem_append_left _ (samplesSinceCreation_subset hmem)
  rcases step_error h with ⟨mediaSample, worlds, rfl, hbuffer⟩ |
    ⟨mediaSample, worlds, buffer, rfl, hbuffer, src, hsrc, hoffer⟩ |
    ⟨source, request, world, rfl, src, hsrc, hcall⟩
  · cases hbuffer
  · obtain rfl : sub.sampleBuffer.addMediaSample mediaSample = buffer := Except.ok.inj hbuffer
    obtain ⟨-, -, hfollows⟩ := hinv.live src hsrc
    have hmem : ∀ s ∈ samplesSinceCreation src.self events ++ [mediaSample],
        s ∈ samplesAdded (events ++ [.addMediaSample mediaSample worlds]) := by
      intro s hs
      rcases List.mem_append.mp hs with hs | hs
      · exact hsince hs
      · rw [List.mem_singleton.mp hs]
        simp [samplesAdded, Event.sample?]
    exact hfollows.offerFrame_error (fun s hs => hproper s (hmem s hs))
      (fun s hs => hsmall s (hmem s hs)) hoffer
  · obtain ⟨-, s, hs, hsize⟩ := LiveDeviceSource.getNextFrame_error hcall
    obtain ⟨-, -, hfollows⟩ := hinv.live src hsrc
    have hqueued : s ∈ appended sub.kind (samplesSinceCreation src.self events) := by
      rw [← hfollows.stream]
      exact List.mem_append_right _ hs
    have hlt := appended_size (fun s' hs' => hproper s' (hsince hs'))
      (fun s' hs' => hsmall s' (hsince hs')) s hqueued
    omega

/-- A run with proper samples keeps every client in step with them. -/
theorem run_follows {es : List Event} (hinv : ClientsFollow es sub)
    (hproper : ∀ s ∈ samplesAdded events, Proper sub.kind s)
    (h : run LiveMediaSubsession.step sub events = .ok sub') :
    ClientsFollow (es ++ events) sub' := by
  refine (run_induction (R := fun fs t => (∀ s ∈ samplesAdded fs, Proper sub.kind s) →
    t.kind = sub.kind ∧ ClientsFollow (es ++ fs) t) ?_ ?_ h hproper).2
  · rw [List.append_nil]
    exact fun _ => ⟨rfl, hinv⟩
  · intro fs m e t _ ih ht hfs
    rw [samplesAdded_append] at hfs
    obtain ⟨hkind, hm⟩ := ih fun s hs => hfs s (List.mem_append_left _ hs)
    refine ⟨(step_frame ht).1.trans hkind, ?_⟩
    rw [← List.append_assoc]
    refine hm.step (fun s hs => ?_) ht
    rw [hkind]
    exact hfs s (List.mem_append_right _ hs)

/-- A run whose samples are proper and below 2 GiB does not fault. -/
theorem run_follows_ok {es : List Event} (hinv : ClientsFollow es sub)
    (hproper : ∀ s ∈ samplesAdded (es ++ events), Proper sub.kind s)
    (hsmall : ∀ s ∈ samplesAdded (es ++ events), s.getMediaSize < 2 ^ 31) :
    ∃ t, run LiveMediaSubsession.step sub events = .ok t := by
  cases h : run LiveMediaSubsession.step sub events with
  | ok t => exact ⟨t, rfl⟩
  | error f =>
    obtain ⟨before, e, after, m, rfl, hm, hf⟩ := run_error h
    have hbefore : ∀ s ∈ samplesAdded before, Proper sub.kind s := by
      intro s hs
      refine hproper s ?_
      rw [samplesAdded_append, samplesAdded_append]
      exact List.mem_append_right _ (List.mem_append_left _ hs)
    have hinv' := run_follows hinv hbefore hm
    have hmem {s : MediaSample} (hs : s ∈ samplesAdded (es ++ before ++ [e])) :
        s ∈ samplesAdded (es ++ (before ++ e :: after)) := by
      have hsplit : es ++ (before ++ e :: after) = es ++ before ++ [e] ++ after := by simp
      rw [hsplit, samplesAdded_append]
      exact List.mem_append_left _ hs
    refine absurd hf (hinv'.step_ne_error (fun s hs => ?_) fun s hs => hsmall s (hmem hs))
    rw [run_kind hm]
    exact hproper s (hmem hs)

/-- Whatever its kind, a client has queued what the samples added since the creation of its source
come to, neither the other clients nor their sinks nor earlier contents of the buffer show in it,
and of two clients the later one has the end of the other's stream. While every sample is smaller
than 2 GiB no call faults. -/
theorem client_stream_of_kind (self channelId sourceId : ℕ) (sessionName : String)
    (kind : SubsessionKind) (buffer : SingleMediaSampleBuffer) (events : List Event)
    (hproper : ∀ s ∈ samplesAdded events, Proper kind s) :
    (∀ sub, run LiveMediaSubsession.step
        (create self channelId sourceId sessionName kind buffer) events = .ok sub →
      (∀ src ∈ sub.deviceSources, src.popped ++ src.mediaSamples =
        appended kind (samplesSinceCreation src.self events)) ∧
      ∀ src ∈ sub.deviceSources, ∀ later ∈ sub.deviceSources, src.self ≤ later.self →
        later.popped ++ later.mediaSamples <:+ src.popped ++ src.mediaSamples) ∧
    ((∀ s ∈ samplesAdded events, s.getMediaSize < 2 ^ 31) →
      ∃ sub, run LiveMediaSubsession.step
        (create self channelId sourceId sessionName kind buffer) events = .ok sub) := by
  have hstart := clientsFollow_create self channelId sourceId sessionName kind buffer
  refine ⟨fun sub h => ?_, fun hsmall => run_follows_ok hstart hproper hsmall⟩
  have hinv := run_follows hstart hproper h
  have hstream : ∀ src ∈ sub.deviceSources, src.popped ++ src.mediaSamples =
      appended kind (samplesSinceCreation src.self events) := by
    intro src hsrc
    have hfollows := (hinv.live src hsrc).2.2.stream
    rw [run_kind h] at hfollows
    exact hfollows
  refine ⟨hstream, fun src hsrc later hlater hle => ?_⟩
  rw [hstream src hsrc, hstream later hlater]
  exact appended_suffix (samplesSinceCreation_suffix hle events)

/-- The surroundings of sinks that do not ask again. -/
def unasked (_ _ : ℕ) : Delivery := ⟨⟨0, 0⟩, ⟨0, 0⟩, none⟩

/-- A client that waits for an IDR unit, and one that comes after it. -/
def twoViewers : List Event :=
  [.createSource 7 0,
    .addMediaSample { data := ⟨[0, 0, 0, 1, 0x41, 1], by decide⟩ } unasked,
    .addMediaSample { data := ⟨[0, 0, 0, 1, 0x67, 2, 0, 0, 0, 1, 0x65, 7], by decide⟩ } unasked,
    .createSource 8 0,
    .addMediaSample { data := ⟨[0, 0, 0, 1, 0x65, 9], by decide⟩ } unasked]

theorem client_stream_of_kind_twoViewers :
    ∃ sub, run LiveMediaSubsession.step
      (create 0 1 1 "" (.h264 "" "") (SingleMediaSampleBuffer.create [] (by decide))) twoViewers = .ok sub ∧
    ∀ src ∈ sub.deviceSources, src.popped ++ src.mediaSamples =
      appended (.h264 "" "") (samplesSinceCreation src.self twoViewers) := by
  have hproper : ∀ s ∈ samplesAdded twoViewers, Proper (.h264 "" "") s := by
    unfold Proper
    decide +kernel
  obtain ⟨hstream, htotal⟩ := client_stream_of_kind 0 1 1 "" (.h264 "" "")
    (.create [] (by decide)) twoViewers hproper
  obtain ⟨sub, h⟩ := htotal (by decide +kernel)
  exact ⟨sub, h, (hstream sub h).1⟩

end Run

end LiveMediaExt.Subsession
