import LiveMediaExt.SourceScheduler

/-!
# Polling the live sources

Once per turn of the event loop the scheduler goes round the registered sources, at most
fifteen times, and hands the samples it gets to their subsessions until it has thirty. The
channel manager and the subsessions are arbitrary; the calls made to them are recorded.
-/
namespace LiveMediaExt.Scheduler
open Execution Media NestedMap

/-- `MAX_REVOLUTIONS`. -/
def maxRevolutions : ℕ := 15

/-- `MAX_SAMPLES_TO_BE_PROCESSED_IN_EVENT_LOOP`. -/
def maxSamples : ℕ := 30

/-- The channel manager and the subsessions, acting on a state of their own. -/
structure Callees (σ : Type*) where
  getMedia : ℕ → ℕ → σ → Option MediaSample × σ
  addMediaSample : ℕ → MediaSample → σ → σ

inductive Call
  | getMedia (channelId sourceId : ℕ) (answer : Option MediaSample)
  | addMediaSample (mediaSubsession : ℕ) (mediaSample : MediaSample)
  deriving DecidableEq

/-- The two counters of a turn, the state of the callees and the calls so far. -/
structure Progress (σ : Type*) where
  sessionCount : ℕ
  sampleCount : ℕ
  world : σ
  calls : List Call

section Model
variable {σ : Type*} (callees : Callees σ)

/-- The body of the innermost loop, and whether it breaks. -/
def poll (channelId sourceId mediaSubsession : ℕ) (p : Progress σ) : Bool × Progress σ :=
  match callees.getMedia channelId sourceId p.world with
  | (none, world) =>
    (false, { p with world, calls := p.calls ++ [.getMedia channelId sourceId none] })
  | (some mediaSample, world) =>
    let sent := { mediaSample with channelId := some channelId, sourceId := some sourceId }
    let p := { p with
      sampleCount := p.sampleCount + 1
      world := callees.addMediaSample mediaSubsession sent world
      calls := p.calls ++ [.getMedia channelId sourceId (some mediaSample),
        .addMediaSample mediaSubsession sent] }
    if maxSamples ≤ p.sampleCount then (true, { p with sessionCount := maxRevolutions })
    else (false, p)

/-- The sources of one channel. -/
def processSources (channelId : ℕ) : List (ℕ × ℕ) → Progress σ → Progress σ
  | [], p => p
  | (sourceId, mediaSubsession) :: rest, p =>
    let (stop, p) := poll callees channelId sourceId mediaSubsession p
    if stop then p else processSources channelId rest p

def processChannels : List (ℕ × Std.ExtTreeMap ℕ ℕ) → Progress σ → Progress σ
  | [], p => p
  | (channelId, session) :: rest, p =>
    if p.sampleCount < maxSamples then
      let p := processSources callees channelId session.toList p
      if maxSamples ≤ p.sampleCount then p else processChannels rest p
    else p

/-- The outer loop, with fuel. -/
def revolve (s : LiveSourceTaskScheduler0) : ℕ → Progress σ → Except Fault (Progress σ)
  | 0, _ => .error .endlessLoop
  | fuel + 1, p =>
    if p.sessionCount < maxRevolutions then
      let p := processChannels callees s.mediaSessions.toList p
      revolve s fuel { p with sessionCount := p.sessionCount + 1 }
    else .ok p

def processLiveSources (s : LiveSourceTaskScheduler0) (world : σ) : Except Fault (Progress σ) :=
  revolve callees s (maxRevolutions + 1) ⟨0, 0, world, []⟩

end Model

/-- A sample that `getMedia` returned, with the ids that were polled. -/
def Call.obtained : Call → Option ((ℕ × ℕ) × MediaSample)
  | .getMedia channelId sourceId answer =>
    answer.map fun mediaSample => ((channelId, sourceId), mediaSample)
  | .addMediaSample _ _ => none

def Call.added : Call → Option (ℕ × MediaSample)
  | .getMedia _ _ _ => none
  | .addMediaSample mediaSubsession mediaSample => some (mediaSubsession, mediaSample)

/-- Whom an obtained sample is for, and the sample with its ids. -/
def handOver (s : LiveSourceTaskScheduler0) :
    (ℕ × ℕ) × MediaSample → Option ℕ × MediaSample
  | (ids, mediaSample) =>
    (s.registered ids,
      { mediaSample with channelId := some ids.1, sourceId := some ids.2 })

section Handing
variable {σ : Type*} {callees : Callees σ} {s : LiveSourceTaskScheduler0} {start : σ}
  {p : Progress σ} {channelId sourceId mediaSubsession : ℕ}

/-- Make the recorded calls; `none` where an answer is not the recorded one. -/
def replay (callees : Callees σ) : List Call → σ → Option σ
  | [], world => some world
  | .getMedia channelId sourceId answer :: rest, world =>
    let (answer', world) := callees.getMedia channelId sourceId world
    if answer' = answer then replay callees rest world else none
  | .addMediaSample mediaSubsession mediaSample :: rest, world =>
    replay callees rest (callees.addMediaSample mediaSubsession mediaSample world)

theorem replay_append (calls calls' : List Call) (world : σ) :
    replay callees (calls ++ calls') world =
      (replay callees calls world).bind (replay callees calls') := by
  induction calls generalizing world with
  | nil => rfl
  | cons call rest ih =>
    cases call with
    | getMedia channelId sourceId answer =>
      rw [List.cons_append, replay, replay]
      dsimp only
      split_ifs
      · exact ih _
      · rfl
    | addMediaSample mediaSubsession mediaSample => exact ih _

/-- The record is true, and every sample obtained was handed over, in order, and counted. -/
structure Handed (callees : Callees σ) (s : LiveSourceTaskScheduler0) (start : σ)
    (p : Progress σ) : Prop where
  replayed : replay callees p.calls start = some p.world
  handed : (p.calls.filterMap Call.added).map (Prod.map some id) =
    (p.calls.filterMap Call.obtained).map (handOver s)
  counted : (p.calls.filterMap Call.obtained).length = p.sampleCount
  bounded : p.sampleCount ≤ maxSamples

/-- The counter of revolutions does not go back. -/
def Advances (p p' : Progress σ) : Prop :=
  p.sessionCount ≤ maxRevolutions →
    p.sessionCount ≤ p'.sessionCount ∧ p'.sessionCount ≤ maxRevolutions

theorem advances_refl (p : Progress σ) : Advances p p := fun h => ⟨le_rfl, h⟩

theorem Advances.trans {p p' p'' : Progress σ} (h : Advances p p') (h' : Advances p' p'') :
    Advances p p'' := by
  intro hp
  obtain ⟨hle, hmax⟩ := h hp
  obtain ⟨hle', hmax'⟩ := h' hmax
  exact ⟨hle.trans hle', hmax'⟩

theorem Handed.poll_none {world : σ} (hp : Handed callees s start p)
    (hanswer : callees.getMedia channelId sourceId p.world = (none, world)) :
    Handed callees s start
      { p with world, calls := p.calls ++ [.getMedia channelId sourceId none] } where
  replayed := by
    rw [replay_append, hp.replayed]
    simp [replay, hanswer]
  handed := by simpa [List.filterMap_cons, Call.added, Call.obtained] using hp.handed
  counted := by simpa [List.filterMap_cons, Call.obtained] using hp.counted
  bounded := hp.bounded

theorem Handed.poll_some {world : σ} {mediaSample : MediaSample}
    (hp : Handed callees s start p) (hlt : p.sampleCount < maxSamples)
    (hregistered : s.registered (channelId, sourceId) = some mediaSubsession)
    (hanswer : callees.getMedia channelId sourceId p.world = (some mediaSample, world))
    {sent : MediaSample}
    (hsent : sent =
      { mediaSample with channelId := some channelId, sourceId := some sourceId })
    (sessionCount : ℕ) :
    Handed callees s start {
      sessionCount
      sampleCount := p.sampleCount + 1
      world := callees.addMediaSample mediaSubsession sent world
      calls := p.calls ++ [.getMedia channelId sourceId (some mediaSample),
        .addMediaSample mediaSubsession sent] } where
  replayed := by
    rw [replay_append, hp.replayed]
    simp [replay, hanswer]
  handed := by
    rw [List.filterMap_append, List.filterMap_append, List.map_append, List.map_append, hp.handed]
    simp [List.filterMap_cons, Call.added, Call.obtained, handOver, hregistered, hsent]
  counted := by
    rw [List.filterMap_append, List.length_append, hp.counted]
    rfl
  bounded := hlt

/-- A poll gets nothing, or a sample that it sends on; the last sample ends both loops. -/
theorem poll_cases {stop : Bool} {p' : Progress σ}
    (h : poll callees channelId sourceId mediaSubsession p = (stop, p')) :
    (∃ world, callees.getMedia channelId sourceId p.world = (none, world) ∧ stop = false ∧
      p' = { p with world, calls := p.calls ++ [.getMedia channelId sourceId none] }) ∨
    ∃ mediaSample sent world,
      callees.getMedia channelId sourceId p.world = (some mediaSample, world) ∧
      sent = { mediaSample with channelId := some channelId, sourceId := some sourceId } ∧
      stop = decide (maxSamples ≤ p.sampleCount + 1) ∧
      p' = {
        sessionCount :=
          if maxSamples ≤ p.sampleCount + 1 then maxRevolutions else p.sessionCount
        sampleCount := p.sampleCount + 1
        world := callees.addMediaSample mediaSubsession sent world
        calls := p.calls ++ [.getMedia channelId sourceId (some mediaSample),
          .addMediaSample mediaSubsession sent] } := by
  unfold poll at h
  cases hanswer : callees.getMedia channelId sourceId p.world with
  | mk answer world =>
    rw [hanswer] at h
    cases answer with
    | none =>
      obtain ⟨rfl, rfl⟩ := Prod.mk.inj h
      exact .inl ⟨world, rfl, rfl, rfl⟩
    | some mediaSample =>
      refine .inr ⟨mediaSample, _, world, rfl, rfl, ?_⟩
      by_cases hfull : maxSamples ≤ p.sampleCount + 1
      · rw [if_pos hfull, decide_eq_true hfull]
        obtain ⟨rfl, rfl⟩ := Prod.mk.inj ((if_pos hfull).symm.trans h)
        exact ⟨rfl, rfl⟩
      · rw [if_neg hfull, decide_eq_false hfull]
        obtain ⟨rfl, rfl⟩ := Prod.mk.inj ((if_neg hfull).symm.trans h)
        exact ⟨rfl, rfl⟩

/-- One poll: a sample is handed over at once, and the loop goes on only below the limit. -/
theorem poll_handed (hregistered : s.registered (channelId, sourceId) = some mediaSubsession)
    (hp : Handed callees s start p) (hlt : p.sampleCount < maxSamples) {stop : Bool}
    {p' : Progress σ}
    (h : poll callees channelId sourceId mediaSubsession p = (stop, p')) :
    Handed callees s start p' ∧ (stop = false → p'.sampleCount < maxSamples) ∧ Advances p p' := by
  rcases poll_cases h with
    ⟨world, hanswer, rfl, rfl⟩ | ⟨mediaSample, sent, world, hanswer, hsent, rfl, rfl⟩
  · exact ⟨hp.poll_none hanswer, fun _ => hlt, advances_refl p⟩
  · refine ⟨hp.poll_some hlt hregistered hanswer hsent _, ?_, ?_⟩
    · intro hstop
      exact not_le.mp (of_decide_eq_false hstop)
    · intro hmax
      dsimp only
      split_ifs
      · exact ⟨hmax, le_rfl⟩
      · exact ⟨le_rfl, hmax⟩

theorem processSources_handed (callees : Callees σ) {sources : List (ℕ × ℕ)}
    (hregistered : ∀ source ∈ sources, s.registered (channelId, source.1) = some source.2)
    (hp : Handed callees s start p) (hlt : p.sampleCount < maxSamples) :
    Handed callees s start (processSources callees channelId sources p) ∧
      Advances p (processSources callees channelId sources p) := by
  induction sources generalizing p with
  | nil => exact ⟨hp, advances_refl p⟩
  | cons source rest ih =>
    obtain ⟨sourceId, mediaSubsession⟩ := source
    have hfirst := hregistered (sourceId, mediaSubsession) List.mem_cons_self
    have hrest : ∀ source ∈ rest, s.registered (channelId, source.1) = some source.2 :=
      fun source hsource => hregistered source (List.mem_cons_of_mem _ hsource)
    unfold processSources
    cases hpoll : poll callees channelId sourceId mediaSubsession p with
    | mk stop p' =>
      obtain ⟨hp', hlt', hadvances⟩ := poll_handed hfirst hp hlt hpoll
      cases stop with
      | true => exact ⟨hp', hadvances⟩
      | false =>
        obtain ⟨hend, hadvances'⟩ := ih hrest hp' (hlt' rfl)
        exact ⟨hend, hadvances.trans hadvances'⟩

theorem processChannels_handed (callees : Callees σ) {channels : List (ℕ × Std.ExtTreeMap ℕ ℕ)}
    (hregistered : ∀ channel ∈ channels, s.mediaSessions[channel.1]? = some channel.2)
    (hp : Handed callees s start p) :
    Handed callees s start (processChannels callees channels p) ∧
      Advances p (processChannels callees channels p) := by
  induction channels generalizing p with
  | nil => exact ⟨hp, advances_refl p⟩
  | cons channel rest ih =>
    obtain ⟨channelId, session⟩ := channel
    have hsession : s.mediaSessions[channelId]? = some session :=
      hregistered (channelId, session) List.mem_cons_self
    have hrest : ∀ channel ∈ rest, s.mediaSessions[channel.1]? = some channel.2 :=
      fun channel hchannel => hregistered channel (List.mem_cons_of_mem _ hchannel)
    have hsources : ∀ source ∈ session.toList,
        s.registered (channelId, source.1) = some source.2 := by
      intro source hsource
      rw [LiveSourceTaskScheduler0.registered_of_session hsession]
      exact Std.ExtTreeMap.mem_toList_iff_getElem?_eq_some.mp hsource
    unfold processChannels
    split_ifs with hlt
    · obtain ⟨hp', hadvances⟩ := processSources_handed callees hsources hp hlt
      dsimp only
      split_ifs
      · exact ⟨hp', hadvances⟩
      · obtain ⟨hend, hadvances'⟩ := ih hrest hp'
        exact ⟨hend, hadvances.trans hadvances'⟩
    · exact ⟨hp, advances_refl p⟩

/-- The fuel is enough, as every revolution is counted. -/
theorem revolve_handed (callees : Callees σ) (hp : Handed callees s start p) {fuel : ℕ}
    (hpos : 0 < fuel) (hfuel : maxRevolutions < p.sessionCount + fuel) :
    ∃ p', revolve callees s fuel p = .ok p' ∧ Handed callees s start p' := by
  induction fuel generalizing p with
  | zero => omega
  | succ fuel ih =>
    unfold revolve
    split_ifs with hlt
    · have hchannels : ∀ channel ∈ s.mediaSessions.toList,
          s.mediaSessions[channel.1]? = some channel.2 :=
        fun channel hchannel => Std.ExtTreeMap.mem_toList_iff_getElem?_eq_some.mp hchannel
      obtain ⟨hp', hadvances⟩ := processChannels_handed callees hchannels hp
      obtain ⟨hle, -⟩ := hadvances hlt.le
      apply ih
      · exact ⟨hp'.replayed, hp'.handed, hp'.counted, hp'.bounded⟩
      · omega
      · dsimp only
        omega
    · exact ⟨p, rfl, hp⟩

/-- A turn ends with at most thirty samples obtained, and the calls of `addMediaSample` hand
over exactly these, in order, to the subsessions registered under the ids polled. The calls
are those that take the callees from the state before to the state after. -/
theorem processLiveSources_hands (callees : Callees σ) (s : LiveSourceTaskScheduler0)
    (world : σ) :
    ∃ p, processLiveSources callees s world = .ok p ∧
      replay callees p.calls world = some p.world ∧
      (p.calls.filterMap Call.obtained).length ≤ 30 ∧
      (p.calls.filterMap Call.added).map (Prod.map some id) =
        (p.calls.filterMap Call.obtained).map (handOver s) := by
  have hstart : Handed callees s world ⟨0, 0, world, []⟩ := ⟨rfl, rfl, rfl, Nat.zero_le _⟩
  have hfuel : maxRevolutions < 0 + (maxRevolutions + 1) := by omega
  obtain ⟨p, hp, hend⟩ := revolve_handed callees hstart (Nat.succ_pos _) hfuel
  refine ⟨p, hp, hend.replayed, ?_, hend.handed⟩
  rw [hend.counted]
  exact hend.bounded

end Handing

end LiveMediaExt.Scheduler
