import LiveMediaExt.PollingFairness
import LiveMediaExt.SingleChannelManager
import LiveMediaExt.SubsessionStreams

/-!
# A turn of the event loop over a single channel

In a turn the scheduler takes samples from the manager of the channel and hands them to the
subsessions of its two sources. Fifteen rounds over two sources are just the thirty samples that
a turn is limited to, so each source gives up its fifteen oldest samples, or all that it has.
-/
namespace LiveMediaExt.System
open Execution Media Sources Subsession Scheduler

inductive SystemFault
  | manager (f : ManagerFault)
  | danglingPointer
  | raised (f : Fault)
  deriving DecidableEq

/-- The manager of the channel and the subsessions by their addresses. The samples handed over
are counted to tell the surroundings of their deliveries apart. -/
structure Pipeline (β : Type) where
  manager : SingleChannelManager
  subsessions : ℕ → Option (LiveMediaSubsession β)
  handed : ℕ

section Model
variable {β : Type} [IMediaSampleBuffer β]

/-- The call of the subsession at the address. -/
def addMediaSample (worlds : ℕ → ℕ → ℕ → Delivery) (mediaSubsession : ℕ)
    (mediaSample : MediaSample) (p : Pipeline β) : Except SystemFault (Pipeline β) :=
  match p.subsessions mediaSubsession with
  | none => .error .danglingPointer
  | some sub =>
    match sub.addMediaSample (worlds p.handed) mediaSample with
    | .error f => .error (.raised f)
    | .ok sub =>
      .ok { p with
        subsessions := Function.update p.subsessions mediaSubsession (some sub)
        handed := p.handed + 1 }

omit [IMediaSampleBuffer β] in
/-- The call of the channel manager. A program that has faulted makes no more calls. -/
def getMedia (channelId sourceId : ℕ) :
    Except SystemFault (Pipeline β) → Option MediaSample × Except SystemFault (Pipeline β)
  | .error f => (none, .error f)
  | .ok p =>
    match p.manager.getMedia channelId sourceId with
    | .error f => (none, .error (.manager f))
    | .ok (answer, manager) => (answer, .ok { p with manager })

def callees (worlds : ℕ → ℕ → ℕ → Delivery) : Callees (Except SystemFault (Pipeline β)) where
  getMedia := getMedia
  addMediaSample mediaSubsession mediaSample world :=
    world.bind (addMediaSample worlds mediaSubsession mediaSample)

/-- `processLiveSources` on these callees. -/
def turn (scheduler : LiveSourceTaskScheduler0) (worlds : ℕ → ℕ → ℕ → Delivery)
    (p : Pipeline β) : Except SystemFault (Pipeline β) :=
  match processLiveSources (callees worlds) scheduler (.ok p) with
  | .error f => .error (.raised f)
  | .ok progress => progress.world

end Model

/-- The samples that the polls of one source obtained. -/
def obtainedFrom (ids : ℕ × ℕ) (calls : List Call) : List MediaSample :=
  (calls.filterMap Call.obtained).filterMap fun o => if o.1 = ids then some o.2 else none

/-- The samples that one subsession was handed. -/
def addedTo (mediaSubsession : ℕ) (calls : List Call) : List MediaSample :=
  (calls.filterMap Call.added).filterMap fun o =>
    if o.1 = mediaSubsession then some o.2 else none

/-- The sample with the ids that the scheduler stores in it. -/
def sent (ids : ℕ × ℕ) (mediaSample : MediaSample) : MediaSample :=
  { mediaSample with channelId := some ids.1, sourceId := some ids.2 }

section Lists
variable {ids : ℕ × ℕ} {mediaSubsession : ℕ} {calls : List Call}

theorem obtainedFrom_cons (call : Call) : obtainedFrom ids (call :: calls) =
    obtainedFrom ids [call] ++ obtainedFrom ids calls := by
  unfold obtainedFrom
  rw [← List.singleton_append, List.filterMap_append, List.filterMap_append]

theorem addedTo_cons (call : Call) : addedTo mediaSubsession (call :: calls) =
    addedTo mediaSubsession [call] ++ addedTo mediaSubsession calls := by
  unfold addedTo
  rw [← List.singleton_append, List.filterMap_append, List.filterMap_append]

theorem polls_cons (call : Call) : polls (call :: calls) ids = polls [call] ids + polls calls ids := by
  unfold polls polledIds
  rw [← List.singleton_append, List.filterMap_append, List.count_append]

/-- What was obtained from a source is what its subsession was handed, with the ids stored. -/
theorem addedTo_eq {scheduler : LiveSourceTaskScheduler0}
    (hhanded : (calls.filterMap Call.added).map (Prod.map some id) =
      (calls.filterMap Call.obtained).map (handOver scheduler))
    (hplace : ∀ other, scheduler.registered other = some mediaSubsession ↔ other = ids) :
    addedTo mediaSubsession calls = (obtainedFrom ids calls).map (sent ids) := by
  let mine : Option ℕ × MediaSample → Option MediaSample := fun o =>
    if o.1 = some mediaSubsession then some o.2 else none
  have hadded : addedTo mediaSubsession calls =
      ((calls.filterMap Call.added).map (Prod.map some id)).filterMap mine := by
    rw [List.filterMap_map]
    refine List.filterMap_congr fun o _ => ?_
    simp [mine]
  have hobtained : (obtainedFrom ids calls).map (sent ids) =
      ((calls.filterMap Call.obtained).map (handOver scheduler)).filterMap mine := by
    rw [obtainedFrom, List.map_filterMap, List.filterMap_map]
    refine List.filterMap_congr fun o _ => ?_
    obtain ⟨other, mediaSample⟩ := o
    by_cases hother : other = ids
    · subst hother
      have hregistered := (hplace other).mpr rfl
      simp [mine, handOver, hregistered, sent]
    · have hregistered := (hplace other).not.mpr hother
      simp [mine, handOver, hregistered, hother]
  rw [hadded, hobtained, hhanded]

end Lists

section Replay
variable {β : Type} [IMediaSampleBuffer β] {worlds : ℕ → ℕ → ℕ → Delivery} {calls : List Call}
  {p t : Pipeline β}

omit [IMediaSampleBuffer β] in
theorem getMedia_cases {channelId sourceId : ℕ} {answer : Option MediaSample}
    {world : Except SystemFault (Pipeline β)}
    (h : getMedia channelId sourceId (.ok p) = (answer, world)) :
    (∃ f, world = .error f) ∨ ∃ media, p.manager.ids media = (channelId, sourceId) ∧
      answer = (p.manager.queue media).head? ∧
      world = .ok { p with manager := p.manager.pop media } := by
  unfold getMedia at h
  dsimp only at h
  cases hmanager : p.manager.getMedia channelId sourceId with
  | error f =>
    rw [hmanager] at h
    exact .inl ⟨.manager f, (Prod.mk.inj h).2.symm⟩
  | ok result =>
    obtain ⟨answer', manager⟩ := result
    rw [hmanager] at h
    obtain ⟨rfl, rfl⟩ := Prod.mk.inj h
    obtain ⟨media, hids, hanswer, rfl⟩ := SingleChannelManager.getMedia_ok hmanager
    exact .inr ⟨media, hids, hanswer, rfl⟩

/-- A subsession that is handed a sample takes it as one event. -/
theorem addMediaSample_ok {mediaSubsession : ℕ} {mediaSample : MediaSample}
    (h : addMediaSample worlds mediaSubsession mediaSample p = .ok t) :
    ∃ sub sub', p.subsessions mediaSubsession = some sub ∧
      sub.step (.addMediaSample mediaSample (worlds p.handed)) = .ok sub' ∧
      t = { p with
        subsessions := Function.update p.subsessions mediaSubsession (some sub')
        handed := p.handed + 1 } := by
  unfold addMediaSample at h
  cases hsub : p.subsessions mediaSubsession with
  | none =>
    rw [hsub] at h
    cases h
  | some sub =>
    rw [hsub] at h
    dsimp only at h
    cases hadd : sub.addMediaSample (worlds p.handed) mediaSample with
    | error f =>
      rw [hadd] at h
      cases h
    | ok sub' =>
      rw [hadd] at h
      exact ⟨sub, sub', rfl, hadd, (Except.ok.inj h).symm⟩

theorem replay_error (f : SystemFault) (calls : List Call) :
    ∀ world, replay (callees (β := β) worlds) calls (.error f) = some world → world = .error f := by
  induction calls with
  | nil =>
    intro world h
    exact (Option.some.inj h).symm
  | cons call rest ih =>
    intro world h
    cases call with
    | getMedia channelId sourceId answer =>
      rw [replay] at h
      dsimp only [callees, getMedia] at h
      split_ifs at h
      exact ih world h
    | addMediaSample mediaSubsession mediaSample => exact ih world h

/-- Nothing but samples came in. -/
def OnlyArrivals (events : List Event) : Prop := ∀ e ∈ events, e.sample? ≠ none

theorem OnlyArrivals.append {events events' : List Event} (h : OnlyArrivals events)
    (h' : OnlyArrivals events') : OnlyArrivals (events ++ events') := by
  intro e he
  rcases List.mem_append.mp he with he | he
  · exact h e he
  · exact h' e he

theorem onlyArrivals_nil : OnlyArrivals [] := by simp [OnlyArrivals]

/-- What recorded calls do to the pipeline: every poll of a source takes its oldest sample, if
there is one, and every subsession is fed the samples it is handed. -/
structure Effect (calls : List Call) (p t : Pipeline β) : Prop where
  ids : t.manager.ids = p.manager.ids
  known : ∀ o ∈ calls.filterMap Call.obtained, ∃ media, p.manager.ids media = o.1
  taken : ∀ media, p.manager.queue media =
    obtainedFrom (p.manager.ids media) calls ++ t.manager.queue media
  counted : ∀ media, (obtainedFrom (p.manager.ids media) calls).length =
    min (polls calls (p.manager.ids media)) (p.manager.queue media).length
  fed : ∀ mediaSubsession sub, p.subsessions mediaSubsession = some sub →
    ∃ sub' events, t.subsessions mediaSubsession = some sub' ∧
      run LiveMediaSubsession.step sub events = .ok sub' ∧
      samplesAdded events = addedTo mediaSubsession calls ∧ OnlyArrivals events

theorem effect_nil (p : Pipeline β) : Effect [] p p where
  ids := rfl
  known := by simp
  taken := fun _ => rfl
  counted := fun _ => (Nat.zero_min _).symm
  fed := fun _ sub hsub => ⟨sub, [], hsub, rfl, rfl, onlyArrivals_nil⟩

/-- A first call before others. -/
theorem Effect.cons {call : Call} {m : Pipeline β} (hfirst : Effect [call] p m)
    (hrest : Effect calls m t) : Effect (call :: calls) p t where
  ids := hrest.ids.trans hfirst.ids
  known := by
    intro o ho
    rw [← List.singleton_append, List.filterMap_append, List.mem_append] at ho
    rcases ho with ho | ho
    · exact hfirst.known o ho
    · rw [← hfirst.ids]
      exact hrest.known o ho
  taken := by
    intro media
    have hrest' := hrest.taken media
    rw [hfirst.ids] at hrest'
    rw [obtainedFrom_cons, hfirst.taken media, hrest', List.append_assoc]
  counted := by
    intro media
    have hrest' := hrest.counted media
    have hfirst' := hfirst.counted media
    have hlength := congrArg List.length (hfirst.taken media)
    rw [hfirst.ids] at hrest'
    rw [List.length_append] at hlength
    rw [obtainedFrom_cons, List.length_append, polls_cons, hrest', hfirst']
    omega
  fed := by
    intro mediaSubsession sub hsub
    obtain ⟨m', events, hm', hrun, hadded, honly⟩ := hfirst.fed mediaSubsession sub hsub
    obtain ⟨t', events', ht', hrun', hadded', honly'⟩ := hrest.fed mediaSubsession m' hm'
    refine ⟨t', events ++ events', ht', ?_, ?_, honly.append honly'⟩
    · rw [run_append_ok hrun, hrun']
    · rw [samplesAdded_append, hadded, hadded', ← addedTo_cons]

theorem effect_getMedia (hdiffer : p.manager.SourcesDiffer) {media : MediaType}
    {channelId sourceId : ℕ} (hids : p.manager.ids media = (channelId, sourceId)) :
    Effect [.getMedia channelId sourceId (p.manager.queue media).head?] p
      { p with manager := p.manager.pop media } where
  ids := SingleChannelManager.ids_pop _ _
  known := by
    intro o ho
    cases hqueue : p.manager.queue media with
    | nil => simp [Call.obtained, hqueue] at ho
    | cons first rest =>
      refine ⟨media, ?_⟩
      rw [hids]
      simp only [Call.obtained, hqueue, List.head?_cons, Option.map_some, List.filterMap_cons,
        List.filterMap_nil, List.mem_singleton] at ho
      rw [ho]
  taken := by
    intro other
    by_cases hsame : media = other
    · subst hsame
      rw [SingleChannelManager.queue_pop_self, hids]
      cases p.manager.queue media with
      | nil => rfl
      | cons first rest => simp [obtainedFrom, Call.obtained]
    · have hne : (channelId, sourceId) ≠ p.manager.ids other := by
        rw [← hids]
        exact fun heq => hsame (SingleChannelManager.ids_injective hdiffer heq)
      rw [SingleChannelManager.queue_pop_of_ne hsame]
      cases p.manager.queue media with
      | nil => rfl
      | cons first rest => simp [obtainedFrom, Call.obtained, hne]
  counted := by
    intro other
    by_cases hsame : media = other
    · subst hsame
      rw [hids]
      cases p.manager.queue media with
      | nil => simp [obtainedFrom, Call.obtained]
      | cons first rest => simp [obtainedFrom, Call.obtained, polls, polledIds, Call.polled]
    · have hne : (channelId, sourceId) ≠ p.manager.ids other := by
        rw [← hids]
        exact fun heq => hsame (SingleChannelManager.ids_injective hdiffer heq)
      cases p.manager.queue media with
      | nil => simp [obtainedFrom, Call.obtained, polls, polledIds, Call.polled, hne]
      | cons first rest => simp [obtainedFrom, Call.obtained, polls, polledIds, Call.polled, hne]
  fed := fun _ sub hsub => ⟨sub, [], hsub, rfl, by cases p.manager.queue media <;> rfl,
    onlyArrivals_nil⟩

theorem effect_addMediaSample {mediaSubsession : ℕ} {mediaSample : MediaSample}
    (h : addMediaSample worlds mediaSubsession mediaSample p = .ok t) :
    Effect [.addMediaSample mediaSubsession mediaSample] p t := by
  obtain ⟨sub, sub', hsub, hstep, rfl⟩ := addMediaSample_ok h
  refine ⟨rfl, by simp [Call.obtained], fun _ => rfl, fun _ => (Nat.zero_min _).symm, ?_⟩
  intro other old hold
  by_cases hsame : mediaSubsession = other
  · subst hsame
    obtain rfl : sub = old := Option.some.inj (hsub.symm.trans hold)
    refine ⟨sub', [.addMediaSample mediaSample (worlds p.handed)], ?_, ?_, ?_, ?_⟩
    · exact Function.update_self ..
    · rw [run_singleton, hstep]
    · simp [samplesAdded, Event.sample?, addedTo, Call.added]
    · simp [OnlyArrivals, Event.sample?]
  · refine ⟨old, [], ?_, rfl, ?_, onlyArrivals_nil⟩
    · dsimp only
      rw [Function.update_of_ne (Ne.symm hsame), hold]
    · simp [samplesAdded, addedTo, Call.added, hsame]

/-- Calls that were made without a fault have their effects, one after the other. -/
theorem replay_effect (hdiffer : p.manager.SourcesDiffer)
    (h : replay (callees worlds) calls (.ok p) = some (.ok t)) : Effect calls p t := by
  induction calls generalizing p with
  | nil =>
    obtain rfl := Except.ok.inj (Option.some.inj h)
    exact effect_nil p
  | cons call rest ih =>
    cases call with
    | getMedia channelId sourceId answer =>
      rw [replay] at h
      cases hcall : getMedia channelId sourceId (.ok p) with
      | mk answer' world =>
        dsimp only [callees] at h
        rw [hcall] at h
        dsimp only at h
        split_ifs at h with hanswer
        subst hanswer
        rcases getMedia_cases hcall with ⟨f, rfl⟩ | ⟨media, hids, rfl, rfl⟩
        · cases replay_error f rest _ h
        · have hdiffer' : (p.manager.pop media).SourcesDiffer := hdiffer
          exact (effect_getMedia hdiffer hids).cons (ih hdiffer' h)
    | addMediaSample mediaSubsession mediaSample =>
      rw [replay] at h
      cases hcall : addMediaSample worlds mediaSubsession mediaSample p with
      | error f =>
        dsimp only [callees] at h
        rw [Except.bind, hcall] at h
        cases replay_error f rest _ h
      | ok m =>
        dsimp only [callees] at h
        rw [Except.bind, hcall] at h
        have hfirst := effect_addMediaSample hcall
        refine hfirst.cons (ih ?_ h)
        obtain ⟨sub, sub', -, -, rfl⟩ := addMediaSample_ok hcall
        exact hdiffer

end Replay

section Turn
variable {β : Type} {scheduler : LiveSourceTaskScheduler0} {p t : Pipeline β}

/-- The registered sources are those of the channel, and their subsessions are alive. -/
structure Wired (scheduler : LiveSourceTaskScheduler0) (p : Pipeline β) : Prop where
  sourcesDiffer : p.manager.SourcesDiffer
  placed : ∀ ids, scheduler.registered ids ≠ none → ∃ media, p.manager.ids media = ids
  alive : ∀ ids mediaSubsession, scheduler.registered ids = some mediaSubsession →
    ∃ sub, p.subsessions mediaSubsession = some sub ∧ (sub.channelId, sub.sourceId) = ids

theorem Wired.place_iff (h : Wired scheduler p) {ids : ℕ × ℕ} {mediaSubsession : ℕ}
    (hregistered : scheduler.registered ids = some mediaSubsession) (other : ℕ × ℕ) :
    scheduler.registered other = some mediaSubsession ↔ other = ids := by
  constructor
  · intro hother
    obtain ⟨sub, hsub, rfl⟩ := h.alive ids mediaSubsession hregistered
    obtain ⟨sub', hsub', rfl⟩ := h.alive other mediaSubsession hother
    rw [hsub] at hsub'
    rw [Option.some.inj hsub']
  · rintro rfl
    exact hregistered

/-- What was obtained from two sources in all. -/
theorem length_obtained {ids ids' : ℕ × ℕ} {obtained : List ((ℕ × ℕ) × MediaSample)}
    (hne : ids ≠ ids') (h : ∀ o ∈ obtained, o.1 = ids ∨ o.1 = ids') :
    obtained.length =
      (obtained.filterMap fun o => if o.1 = ids then some o.2 else none).length +
        (obtained.filterMap fun o => if o.1 = ids' then some o.2 else none).length := by
  induction obtained with
  | nil => rfl
  | cons o rest ih =>
    have hrest := ih fun o' ho' => h o' (List.mem_cons_of_mem _ ho')
    have hsome {ids : ℕ × ℕ} (hsame : o.1 = ids) :
        (if o.1 = ids then some o.2 else none) = some o.2 := if_pos hsame
    have hnone {ids : ℕ × ℕ} (hother : o.1 ≠ ids) :
        (if o.1 = ids then some o.2 else none) = none := if_neg hother
    rcases h o List.mem_cons_self with hsame | hsame
    · have hother : o.1 ≠ ids' := fun h' => hne (hsame.symm.trans h')
      simp only [List.filterMap_cons, hsome hsame, hnone hother, List.length_cons]
      omega
    · have hother : o.1 ≠ ids := fun h' => hne (h'.symm.trans hsame)
      simp only [List.filterMap_cons, hsome hsame, hnone hother, List.length_cons]
      omega

variable [IMediaSampleBuffer β]

/-- A turn makes fair calls and has their effects. -/
theorem turn_ok {worlds : ℕ → ℕ → ℕ → Delivery}
    (hdiffer : p.manager.SourcesDiffer) (h : turn scheduler worlds p = .ok t) :
    ∃ calls, Effect calls p t ∧
      (calls.filterMap Call.obtained).length ≤ 30 ∧
      (calls.filterMap Call.added).map (Prod.map some id) =
        (calls.filterMap Call.obtained).map (handOver scheduler) ∧
      (∀ a, scheduler.registered a ≠ none → polls calls a ≤ 15) ∧
      ((calls.filterMap Call.obtained).length < 30 →
        ∀ a, scheduler.registered a ≠ none → polls calls a = 15) := by
  obtain ⟨progress, hprogress, hreplay, hmax, hhanded⟩ :=
    processLiveSources_hands (callees worlds) scheduler (.ok p)
  obtain ⟨progress', hprogress', hpolls, -, -, hfew⟩ :=
    processLiveSources_fair (callees worlds) scheduler (.ok p)
  obtain rfl : progress = progress' := Except.ok.inj (hprogress.symm.trans hprogress')
  unfold turn at h
  rw [hprogress] at h
  dsimp only at h
  rw [h] at hreplay
  exact ⟨progress.calls, replay_effect hdiffer hreplay, hmax, hhanded, hpolls, hfew⟩

/-- A sample that was handed over came from a registered source. -/
theorem registered_of_handed {calls : List Call}
    (hhanded : (calls.filterMap Call.added).map (Prod.map some id) =
      (calls.filterMap Call.obtained).map (handOver scheduler))
    {o : (ℕ × ℕ) × MediaSample} (ho : o ∈ calls.filterMap Call.obtained) :
    scheduler.registered o.1 ≠ none := by
  have hmem := List.mem_map_of_mem (f := handOver scheduler) ho
  rw [← hhanded] at hmem
  obtain ⟨⟨mediaSubsession, mediaSample⟩, -, hsame⟩ := List.mem_map.mp hmem
  have hplace : some mediaSubsession = scheduler.registered o.1 := congrArg Prod.fst hsame
  rw [← hplace]
  exact Option.some_ne_none _

/-- A source that nobody registered gives nothing up. -/
theorem obtainedFrom_unregistered {calls : List Call} {ids : ℕ × ℕ}
    (hhanded : (calls.filterMap Call.added).map (Prod.map some id) =
      (calls.filterMap Call.obtained).map (handOver scheduler))
    (hnone : scheduler.registered ids = none) : obtainedFrom ids calls = [] := by
  unfold obtainedFrom
  rw [List.filterMap_eq_nil_iff]
  intro o ho
  have hne : o.1 ≠ ids := by
    rintro rfl
    exact registered_of_handed hhanded ho hnone
  exact if_neg hne

/-- What the two sources gave up in a turn: nothing without a subsession, otherwise the fifteen
oldest samples. -/
theorem obtained_eq {calls : List Call} (hdiffer : p.manager.SourcesDiffer)
    (heffect : Effect calls p t) (hmax : (calls.filterMap Call.obtained).length ≤ 30)
    (hhanded : (calls.filterMap Call.added).map (Prod.map some id) =
      (calls.filterMap Call.obtained).map (handOver scheduler))
    (hpolls : ∀ a, scheduler.registered a ≠ none → polls calls a ≤ 15)
    (hfew : (calls.filterMap Call.obtained).length < 30 →
      ∀ a, scheduler.registered a ≠ none → polls calls a = 15)
    (media : MediaType) (hregistered : scheduler.registered (p.manager.ids media) ≠ none) :
    obtainedFrom (p.manager.ids media) calls = (p.manager.queue media).take 15 := by
  have hfifteen : ∀ media, (obtainedFrom (p.manager.ids media) calls).length ≤ 15 := by
    intro media
    by_cases hnone : scheduler.registered (p.manager.ids media) = none
    · rw [obtainedFrom_unregistered hhanded hnone]
      exact Nat.zero_le _
    · rw [heffect.counted media]
      exact (min_le_left _ _).trans (hpolls _ hnone)
  have hboth : (calls.filterMap Call.obtained).length =
      (obtainedFrom (p.manager.ids .video) calls).length +
        (obtainedFrom (p.manager.ids .audio) calls).length := by
    refine length_obtained ?_ fun o ho => ?_
    · intro hsame
      cases SingleChannelManager.ids_injective hdiffer hsame
    · obtain ⟨media, hmedia⟩ := heffect.known o ho
      cases media with
      | video => exact .inl hmedia.symm
      | audio => exact .inr hmedia.symm
  have hlength : (obtainedFrom (p.manager.ids media) calls).length =
      min 15 (p.manager.queue media).length := by
    have hcounted := heffect.counted media
    rcases lt_or_eq_of_le hmax with hlt | hfull
    · rw [hcounted, hfew hlt _ hregistered]
    · have hvideo := hfifteen .video
      have haudio := hfifteen .audio
      have hall : (obtainedFrom (p.manager.ids media) calls).length = 15 := by
        cases media <;> omega
      omega
  have htaken := heffect.taken media
  rw [htaken] at hlength ⊢
  rw [List.length_append] at hlength
  by_cases hless : (obtainedFrom (p.manager.ids media) calls).length = 15
  · rw [← hless, List.take_left]
  · have hrest : t.manager.queue media = [] := by
      rw [← List.length_eq_zero_iff]
      omega
    rw [hrest, List.append_nil, List.take_of_length_le (hfifteen media)]

/-- What one turn does with one of the two sources. -/
structure Taken (p t : Pipeline β) (media : MediaType)
    (mediaSubsession : ℕ) : Prop where
  queue : t.manager.queue media = (p.manager.queue media).drop 15
  fed : ∃ sub sub' events, p.subsessions mediaSubsession = some sub ∧
    t.subsessions mediaSubsession = some sub' ∧
    run LiveMediaSubsession.step sub events = .ok sub' ∧ OnlyArrivals events ∧
    samplesAdded events = ((p.manager.queue media).take 15).map (sent (p.manager.ids media))

theorem turn_taken {worlds : ℕ → ℕ → ℕ → Delivery} (hwired : Wired scheduler p)
    (h : turn scheduler worlds p = .ok t) {media : MediaType} {mediaSubsession : ℕ}
    (hplace : scheduler.registered (p.manager.ids media) = some mediaSubsession) :
    Taken p t media mediaSubsession := by
  obtain ⟨calls, heffect, hmax, hhanded, hpolls, hfew⟩ := turn_ok hwired.sourcesDiffer h
  have hregistered : scheduler.registered (p.manager.ids media) ≠ none := by
    rw [hplace]
    exact Option.some_ne_none _
  have hobtained := obtained_eq hwired.sourcesDiffer heffect hmax hhanded hpolls hfew media
    hregistered
  have htaken := heffect.taken media
  obtain ⟨sub, hsub, -⟩ := hwired.alive _ _ hplace
  obtain ⟨sub', events, hsub', hrun, hadded, honly⟩ := heffect.fed mediaSubsession sub hsub
  constructor
  · rw [hobtained] at htaken
    exact (List.append_cancel_left ((List.take_append_drop 15 _).trans htaken)).symm
  · refine ⟨sub, sub', events, hsub, hsub', hrun, honly, ?_⟩
    rw [hadded, addedTo_eq hhanded (hwired.place_iff hplace), hobtained]

end Turn

end LiveMediaExt.System
