import LiveMediaExt.EventLoopTurn

/-!
# What a turn can fault on

While the registry and the manager know the same sources, and the registered subsessions are
alive, a turn asks the manager for nothing that it asserts against and calls no subsession that is
gone. A fault is then one that a subsession raised over a sample that had waited for it.
-/
namespace LiveMediaExt.System
open Execution Media Sources Subsession Scheduler

/-- Only registered sources are polled. -/
theorem polled_registered {σ : Type*} {callees : Callees σ} {scheduler : LiveSourceTaskScheduler0}
    {world : σ} {progress : Progress σ}
    (h : processLiveSources callees scheduler world = .ok progress) {ids : ℕ × ℕ}
    (hids : ids ∈ polledIds progress.calls) : scheduler.registered ids ≠ none := by
  obtain ⟨n, begun, hstopped, -⟩ :=
    revolve_stopped callees (show 0 < maxSamples by decide) (Nat.zero_le _) rfl
      (show maxRevolutions < 0 + (maxRevolutions + 1) by omega) h
  exact LiveSourceTaskScheduler0.mem_sources.mp (hstopped.mem_entries hids)

section Faults
variable {β : Type} [IMediaSampleBuffer β] {worlds : ℕ → ℕ → ℕ → Delivery} {calls : List Call}
  {p m : Pipeline β} {f : SystemFault}

/-- The call is refused by the manager, or the subsession faults on it. -/
def Refuses (worlds : ℕ → ℕ → ℕ → Delivery) (m : Pipeline β) (f : SystemFault) : Call → Prop
  | .getMedia channelId sourceId _ => ∃ g, m.manager.getMedia channelId sourceId = .error g
  | .addMediaSample mediaSubsession mediaSample =>
    addMediaSample worlds mediaSubsession mediaSample m = .error f

/-- After a fault nothing more is obtained. -/
theorem replay_error_obtained (f : SystemFault) (calls : List Call) {world}
    (h : replay (callees (β := β) worlds) calls (.error f) = some world) :
    calls.filterMap Call.obtained = [] := by
  induction calls with
  | nil => rfl
  | cons call rest ih =>
    cases call with
    | getMedia channelId sourceId answer =>
      rw [replay] at h
      dsimp only [callees, getMedia] at h
      split_ifs at h with hanswer
      subst hanswer
      exact ih h
    | addMediaSample mediaSubsession mediaSample => exact ih h

omit [IMediaSampleBuffer β] in
/-- A call that the manager refuses gets nothing. -/
theorem getMedia_error {channelId sourceId : ℕ} {answer : Option MediaSample} {g : SystemFault}
    (h : getMedia channelId sourceId (.ok p) = (answer, .error g)) :
    answer = none ∧ ∃ f, p.manager.getMedia channelId sourceId = .error f := by
  unfold getMedia at h
  dsimp only at h
  cases hmanager : p.manager.getMedia channelId sourceId with
  | error f =>
    rw [hmanager] at h
    exact ⟨(Prod.mk.inj h).1.symm, f, rfl⟩
  | ok result =>
    rw [hmanager] at h
    cases h

/-- Where recorded calls faulted. -/
theorem replay_refused (h : replay (callees worlds) calls (.ok p) = some (.error f)) :
    ∃ before call after m, calls = before ++ call :: after ∧
      replay (callees worlds) before (.ok p) = some (.ok m) ∧ Refuses worlds m f call ∧
      (call :: after).filterMap Call.obtained = [] := by
  induction calls generalizing p with
  | nil => cases Option.some.inj h
  | cons call rest ih =>
    have later {m : Pipeline β} (hcall : replay (callees worlds) [call] (.ok p) = some (.ok m))
        (hrest : replay (callees worlds) rest (.ok m) = some (.error f)) :
        ∃ before call' after m, call :: rest = before ++ call' :: after ∧
          replay (callees worlds) before (.ok p) = some (.ok m) ∧ Refuses worlds m f call' ∧
          (call' :: after).filterMap Call.obtained = [] := by
      obtain ⟨before, call', after, m', rfl, hbefore, hrefuses, hnone⟩ := ih hrest
      refine ⟨call :: before, call', after, m', rfl, ?_, hrefuses, hnone⟩
      rw [← List.singleton_append, replay_append, hcall]
      exact hbefore
    cases call with
    | getMedia channelId sourceId answer =>
      rw [replay] at h
      cases hcall : getMedia channelId sourceId (.ok p) with
      | mk answer' world =>
        dsimp only [callees] at h
        rw [hcall] at h
        dsimp only at h
        split_ifs at h with hanswer
        cases world with
        | error g =>
          obtain ⟨rfl, hrefused⟩ := getMedia_error hcall
          subst hanswer
          refine ⟨[], _, rest, p, rfl, rfl, hrefused, ?_⟩
          rw [List.filterMap_cons_none rfl]
          exact replay_error_obtained g rest h
        | ok m =>
          refine later ?_ h
          rw [replay]
          dsimp only [callees]
          rw [hcall]
          dsimp only
          rw [if_pos hanswer]
          rfl
    | addMediaSample mediaSubsession mediaSample =>
      rw [replay] at h
      dsimp only [callees] at h
      rw [Except.bind] at h
      cases hcall : addMediaSample worlds mediaSubsession mediaSample p with
      | error g =>
        rw [hcall] at h
        have hg := replay_error g rest _ h
        obtain rfl : f = g := Except.error.inj hg
        refine ⟨[], _, rest, p, rfl, rfl, hcall, ?_⟩
        rw [List.filterMap_cons_none rfl]
        exact replay_error_obtained f rest h
      | ok m =>
        rw [hcall] at h
        refine later ?_ h
        rw [replay]
        dsimp only [callees]
        rw [Except.bind, hcall]
        rfl

end Faults

section Turn
variable {β : Type} [IMediaSampleBuffer β] {scheduler : LiveSourceTaskScheduler0}
  {worlds : ℕ → ℕ → ℕ → Delivery} {p t : Pipeline β} {f : SystemFault}

/-- A subsession that took samples of its own source and then faulted on another one. -/
structure Raised (p : Pipeline β) (media : MediaType) (mediaSubsession : ℕ) (f : SystemFault) :
    Prop where
  raised : ∃ sub sub' events mediaSample world g,
    p.subsessions mediaSubsession = some sub ∧
    run LiveMediaSubsession.step sub events = .ok sub' ∧ OnlyArrivals events ∧
    (∀ s ∈ samplesAdded events ++ [mediaSample], ∃ s₀ ∈ p.manager.queue media,
      s = sent (p.manager.ids media) s₀) ∧
    sub'.step (.addMediaSample mediaSample world) = .error g ∧ f = .raised g

theorem sourcesDiffer_of_ids {manager manager' : SingleChannelManager}
    (h : manager.SourcesDiffer) (hids : manager'.ids = manager.ids) : manager'.SourcesDiffer := by
  have hvideo : manager'.videoSourceId = manager.videoSourceId :=
    congrArg Prod.snd (congrFun hids .video)
  have haudio : manager'.audioSourceId = manager.audioSourceId :=
    congrArg Prod.snd (congrFun hids .audio)
  unfold SingleChannelManager.SourcesDiffer at h ⊢
  rw [hvideo, haudio]
  exact h

/-- A fault of a turn was raised by the subsession of a source over a sample of that source. -/
theorem turn_raised (hwired : Wired scheduler p) (h : turn scheduler worlds p = .error f) :
    ∃ media mediaSubsession, scheduler.registered (p.manager.ids media) = some mediaSubsession ∧
      Raised p media mediaSubsession f := by
  obtain ⟨progress, hprogress, hreplay, -, hhanded⟩ :=
    processLiveSources_hands (callees worlds) scheduler (.ok p)
  unfold turn at h
  rw [hprogress] at h
  dsimp only at h
  rw [h] at hreplay
  obtain ⟨before, call, after, m, hcalls, hbefore, hrefuses, hnone⟩ := replay_refused hreplay
  have heffect := replay_effect hwired.sourcesDiffer hbefore
  have hobtained : progress.calls.filterMap Call.obtained = before.filterMap Call.obtained := by
    rw [hcalls, List.filterMap_append, hnone, List.append_nil]
  cases call with
  | getMedia channelId sourceId answer =>
    obtain ⟨g, hg⟩ := hrefuses
    have hpolled : (channelId, sourceId) ∈ polledIds progress.calls := by
      rw [hcalls]
      exact List.mem_filterMap.mpr ⟨.getMedia channelId sourceId answer, by simp, rfl⟩
    obtain ⟨media, hmedia⟩ := hwired.placed _ (polled_registered hprogress hpolled)
    have hknown :=
      SingleChannelManager.getMedia_ids (sourcesDiffer_of_ids hwired.sourcesDiffer heffect.ids) media
    rw [heffect.ids, hmedia, hg] at hknown
    cases hknown
  | addMediaSample mediaSubsession mediaSample =>
    have hadded : (mediaSubsession, mediaSample) ∈ progress.calls.filterMap Call.added := by
      rw [hcalls]
      exact List.mem_filterMap.mpr ⟨.addMediaSample mediaSubsession mediaSample, by simp, rfl⟩
    have hplaced := List.mem_map_of_mem (f := Prod.map some id) hadded
    rw [hhanded, hobtained] at hplaced
    obtain ⟨⟨ids, s₀⟩, ho, hsame⟩ := List.mem_map.mp hplaced
    obtain ⟨media, rfl⟩ := heffect.known _ ho
    have hplace : scheduler.registered (p.manager.ids media) = some mediaSubsession :=
      congrArg Prod.fst hsame
    obtain ⟨sub, hsub, -⟩ := hwired.alive _ _ hplace
    obtain ⟨sub', events, hsub', hrun, hfed, honly⟩ := heffect.fed _ sub hsub
    have hqueue := heffect.taken media
    have hfrom : obtainedFrom (p.manager.ids media) progress.calls =
        obtainedFrom (p.manager.ids media) before := by
      unfold obtainedFrom
      rw [hobtained]
    have htotal := addedTo_eq hhanded (hwired.place_iff hplace)
    have hstep : ∃ g, sub'.step (.addMediaSample mediaSample (worlds m.handed)) = .error g ∧
        f = .raised g := by
      unfold Refuses at hrefuses
      dsimp only at hrefuses
      unfold addMediaSample at hrefuses
      rw [hsub'] at hrefuses
      dsimp only at hrefuses
      cases hadd : sub'.addMediaSample (worlds m.handed) mediaSample with
      | error g =>
        rw [hadd] at hrefuses
        exact ⟨g, hadd, (Except.error.inj hrefuses).symm⟩
      | ok sub'' =>
        rw [hadd] at hrefuses
        cases hrefuses
    obtain ⟨g, hstep, hf⟩ := hstep
    refine ⟨media, mediaSubsession, hplace, ⟨⟨sub, sub', events, mediaSample, _, g, hsub, hrun,
      honly, ?_, hstep, hf⟩⟩⟩
    intro s hs
    have hmem : s ∈ addedTo mediaSubsession progress.calls := by
      have hsplit : addedTo mediaSubsession progress.calls = addedTo mediaSubsession before ++
          (mediaSample :: addedTo mediaSubsession after) := by
        rw [hcalls]
        unfold addedTo
        rw [List.filterMap_append, List.filterMap_append]
        simp [Call.added]
      rw [hsplit]
      rw [hfed] at hs
      rcases List.mem_append.mp hs with hs | hs
      · exact List.mem_append_left _ hs
      · exact List.mem_append_right _ (List.mem_cons.mpr (.inl (List.mem_singleton.mp hs)))
    rw [htotal, hfrom] at hmem
    obtain ⟨s₁, hs₁, rfl⟩ := List.mem_map.mp hmem
    refine ⟨s₁, ?_, rfl⟩
    rw [hqueue]
    exact List.mem_append_left _ hs₁

/-- In a turn each of the two sources gives its subsession its fifteen oldest samples, or all that
it has, in order, whatever waits for the other one, and a source without a subsession keeps its
samples. A turn that faults does so over a sample that had waited for its subsession. -/
theorem turn_takes (scheduler : LiveSourceTaskScheduler0) (worlds : ℕ → ℕ → ℕ → Delivery)
    (p : Pipeline β) (hwired : Wired scheduler p) :
    (∀ t, turn scheduler worlds p = .ok t → t.manager.ids = p.manager.ids ∧
      (∀ media mediaSubsession,
        scheduler.registered (p.manager.ids media) = some mediaSubsession →
        Taken p t media mediaSubsession) ∧
      ∀ media, scheduler.registered (p.manager.ids media) = none →
        t.manager.queue media = p.manager.queue media) ∧
    ∀ f, turn scheduler worlds p = .error f →
      ∃ media mediaSubsession, scheduler.registered (p.manager.ids media) = some mediaSubsession ∧
        Raised p media mediaSubsession f := by
  refine ⟨fun t h => ?_, fun f h => turn_raised hwired h⟩
  obtain ⟨calls, heffect, -, hhanded, -⟩ := turn_ok hwired.sourcesDiffer h
  refine ⟨heffect.ids, fun media mediaSubsession hplace => turn_taken hwired h hplace, ?_⟩
  intro media hnone
  rw [heffect.taken media, obtainedFrom_unregistered hhanded hnone, List.nil_append]

/-- A scheduler with one source, seventeen samples that wait for it and one for the other. -/
def oneSource : LiveSourceTaskScheduler0 :=
  ⟨(∅ : Std.ExtTreeMap ℕ (Std.ExtTreeMap ℕ ℕ)).insert 7 ((∅ : Std.ExtTreeMap ℕ ℕ).insert 0 5)⟩

def backlog : Pipeline SingleMediaSampleBuffer where
  manager := { SingleChannelManager.createWithSources 7 0 1 with
    packetManager :=
      ⟨(Queues.BoundedQueue.empty.push ((List.range 17).map fun n => { presentationTime := n })).1,
        (Queues.BoundedQueue.empty.push [{ presentationTime := 40 }]).1⟩ }
  subsessions := fun mediaSubsession =>
    if mediaSubsession = 5 then
      some (.create 5 7 0 "" (.aac 1 16 44100 "") (SingleMediaSampleBuffer.create [] (by decide)))
    else none
  handed := 0

theorem backlog_wired : Wired oneSource backlog := by
  have hregistered : oneSource.registered = Function.update (fun _ => none) (7, 0) (some 5) := by
    unfold oneSource LiveSourceTaskScheduler0.registered
    rw [NestedMap.lookup_insert (by simp [NestedMap.lookup]), NestedMap.lookup_empty]
  refine ⟨Nat.zero_ne_one, ?_, ?_⟩
  · intro ids hids
    rw [hregistered] at hids
    by_cases hsame : ids = (7, 0)
    · exact ⟨.video, hsame.symm⟩
    · rw [Function.update_of_ne hsame] at hids
      exact absurd rfl hids
  · intro ids mediaSubsession hids
    rw [hregistered] at hids
    by_cases hsame : ids = (7, 0)
    · subst hsame
      rw [Function.update_self] at hids
      obtain rfl := Option.some.inj hids
      exact ⟨_, rfl, rfl⟩
    · rw [Function.update_of_ne hsame] at hids
      cases hids

theorem turn_takes_backlog : ∃ t, turn oneSource (fun _ _ _ => ⟨⟨0, 0⟩, ⟨0, 0⟩, none⟩) backlog =
    .ok t ∧ t.manager.queue .video = (backlog.manager.queue .video).drop 15 ∧
    t.manager.queue .audio = backlog.manager.queue .audio := by
  have hturn : (turn oneSource (fun _ _ _ => ⟨⟨0, 0⟩, ⟨0, 0⟩, none⟩) backlog).isOk = true := by
    decide +kernel
  cases h : turn oneSource (fun _ _ _ => ⟨⟨0, 0⟩, ⟨0, 0⟩, none⟩) backlog with
  | error f => simp [h, Except.isOk, Except.toBool] at hturn
  | ok t =>
    obtain ⟨-, htaken, hkept⟩ := (turn_takes _ _ _ backlog_wired).1 t h
    have hvideo : oneSource.registered (backlog.manager.ids .video) = some 5 := by decide +kernel
    have haudio : oneSource.registered (backlog.manager.ids .audio) = none := by decide +kernel
    exact ⟨t, rfl, (htaken _ _ hvideo).queue, hkept _ haudio⟩

end Turn

end LiveMediaExt.System
