import LiveMediaExt.LiveSourcePolling
import LiveMediaExt.RoundRobin

/-!
# How often each source is polled

One call of `processLiveSources` goes round the registered sources in the order of the map. It
stops after fifteen rounds, or in the middle of one when the thirtieth sample has come.
-/
namespace LiveMediaExt.Scheduler
open Execution Media NestedMap RoundRobin

/-- The ids that a call polls. -/
def Call.polled : Call → Option (ℕ × ℕ)
  | .getMedia channelId sourceId _ => some (channelId, sourceId)
  | .addMediaSample _ _ => none

def polledIds (calls : List Call) : List (ℕ × ℕ) := calls.filterMap Call.polled

def polls (calls : List Call) (ids : ℕ × ℕ) : ℕ := (polledIds calls).count ids

/-- The sources of one channel by their ids. -/
def channelSources (channel : ℕ × Std.ExtTreeMap ℕ ℕ) : List (ℕ × ℕ) :=
  channel.2.toList.map fun source => (channel.1, source.1)

namespace LiveSourceTaskScheduler0

/-- The registered sources in the order of the map. -/
def sources (s : LiveSourceTaskScheduler0) : List (ℕ × ℕ) :=
  s.mediaSessions.toList.flatMap channelSources

/-- The order of the map: by channel, then by source. -/
def Before (a b : ℕ × ℕ) : Prop := a.1 < b.1 ∨ a.1 = b.1 ∧ a.2 < b.2

theorem before_asymm (a b : ℕ × ℕ) (h : Before a b) : ¬ Before b a := by
  unfold Before at *
  omega

theorem mem_channelSources {channel : ℕ × Std.ExtTreeMap ℕ ℕ} {ids : ℕ × ℕ}
    (h : ids ∈ channelSources channel) : ids.1 = channel.1 ∧ channel.2[ids.2]? ≠ none := by
  obtain ⟨source, hsource, rfl⟩ := List.mem_map.mp h
  have hvalue := Std.ExtTreeMap.mem_toList_iff_getElem?_eq_some.mp hsource
  simp [hvalue]

theorem mem_sources {s : LiveSourceTaskScheduler0} {ids : ℕ × ℕ} :
    ids ∈ s.sources ↔ s.registered ids ≠ none := by
  obtain ⟨channelId, sourceId⟩ := ids
  constructor
  · intro h
    obtain ⟨⟨channelId', session⟩, hchannel, hids⟩ := List.mem_flatMap.mp h
    obtain ⟨hid, hsource⟩ := mem_channelSources hids
    obtain rfl : channelId = channelId' := hid
    rw [registered_of_session (Std.ExtTreeMap.mem_toList_iff_getElem?_eq_some.mp hchannel)]
    exact hsource
  · intro h
    obtain ⟨session, mediaSubsession, hsession, hsource⟩ := session_of_registered h
    have hchannel := Std.ExtTreeMap.mem_toList_iff_getElem?_eq_some.mpr hsession
    have hmem := Std.ExtTreeMap.mem_toList_iff_getElem?_eq_some.mpr hsource
    exact List.mem_flatMap.mpr ⟨_, hchannel, List.mem_map.mpr ⟨_, hmem, rfl⟩⟩

theorem sources_sorted (s : LiveSourceTaskScheduler0) : s.sources.Pairwise Before := by
  rw [sources, List.pairwise_flatMap]
  constructor
  · intro channel _
    rw [channelSources, List.pairwise_map]
    refine Std.ExtTreeMap.ordered_keys_toList.imp fun {a b} hlt => ?_
    exact .inr ⟨rfl, Nat.compare_eq_lt.mp hlt⟩
  · refine Std.ExtTreeMap.ordered_keys_toList.imp fun {a b} hlt => ?_
    intro x hx y hy
    have hxy : a.1 < b.1 := Nat.compare_eq_lt.mp hlt
    rw [← (mem_channelSources hx).1, ← (mem_channelSources hy).1] at hxy
    exact .inl hxy

theorem sources_nodup (s : LiveSourceTaskScheduler0) : s.sources.Nodup :=
  s.sources_sorted.imp fun {a b} hab heq => by
    subst heq
    exact before_asymm a a hab hab

end LiveSourceTaskScheduler0

section Sweeps
variable {σ : Type*} {callees : Callees σ} {p p' : Progress σ} {entries : List (ℕ × ℕ)}
  {channelId sourceId mediaSubsession : ℕ}

/-- The entries are polled in order, either all of them or, with the thirtieth sample, up to the
one that delivered it; the counter of revolutions then ends the outer loop. -/
structure Swept (entries : List (ℕ × ℕ)) (p p' : Progress σ) : Prop where
  polled : ∃ begun, begun <+: entries ∧ polledIds p'.calls = polledIds p.calls ++ begun ∧
    (p'.sampleCount < maxSamples → begun = entries)
  goesOn : p'.sampleCount < maxSamples → p'.sessionCount = p.sessionCount
  stops : maxSamples ≤ p'.sampleCount → p'.sessionCount = maxRevolutions

theorem swept_nil (hlt : p.sampleCount < maxSamples) : Swept [] p p where
  polled := ⟨[], List.prefix_rfl, (List.append_nil _).symm, fun _ => rfl⟩
  goesOn := fun _ => rfl
  stops := fun hfull => absurd hlt (not_lt.mpr hfull)

/-- A sweep that was stopped ends the longer one, too. -/
theorem Swept.stopped (h : Swept entries p p') (hfull : maxSamples ≤ p'.sampleCount)
    (rest : List (ℕ × ℕ)) : Swept (entries ++ rest) p p' where
  polled := by
    obtain ⟨begun, hbegun, hpolled, -⟩ := h.polled
    refine ⟨begun, hbegun.trans (List.prefix_append _ _), hpolled, ?_⟩
    intro hlt
    exact absurd hlt (not_lt.mpr hfull)
  goesOn := h.goesOn
  stops := h.stops

theorem Swept.append {p'' : Progress σ} {rest : List (ℕ × ℕ)} (h : Swept entries p p')
    (hlt : p'.sampleCount < maxSamples) (hrest : Swept rest p' p'') :
    Swept (entries ++ rest) p p'' where
  polled := by
    obtain ⟨begun, -, hpolled, hall⟩ := h.polled
    obtain ⟨begun', hbegun', hpolled', hall'⟩ := hrest.polled
    obtain rfl := hall hlt
    refine ⟨begun ++ begun', (List.prefix_append_right_inj _).mpr hbegun', ?_, ?_⟩
    · rw [hpolled', hpolled, List.append_assoc]
    · intro hlt'
      rw [hall' hlt']
  goesOn := fun hlt' => (hrest.goesOn hlt').trans (h.goesOn hlt)
  stops := hrest.stops

/-- One poll, and whether the loop is left. -/
theorem poll_swept {stop : Bool} (hlt : p.sampleCount < maxSamples)
    (h : poll callees channelId sourceId mediaSubsession p = (stop, p')) :
    Swept [(channelId, sourceId)] p p' ∧ (stop = true ↔ maxSamples ≤ p'.sampleCount) := by
  rcases poll_cases h with ⟨world, -, rfl, rfl⟩ | ⟨mediaSample, sent, world, -, -, rfl, rfl⟩
  · refine ⟨⟨⟨_, List.prefix_rfl, ?_, fun _ => rfl⟩, fun _ => rfl, ?_⟩, ?_⟩
    · simp [polledIds, Call.polled]
    · intro hfull
      exact absurd hlt (not_lt.mpr hfull)
    · simpa using hlt
  · refine ⟨⟨⟨_, List.prefix_rfl, ?_, fun _ => rfl⟩, ?_, ?_⟩, decide_eq_true_iff⟩
    · simp [polledIds, List.filterMap_cons, Call.polled]
    · intro hlt'
      exact if_neg (not_le.mpr hlt')
    · intro hfull
      exact if_pos hfull

theorem processSources_swept (callees : Callees σ) (channelId : ℕ) {sources : List (ℕ × ℕ)}
    (hlt : p.sampleCount < maxSamples) :
    Swept (sources.map fun source => (channelId, source.1)) p
      (processSources callees channelId sources p) := by
  induction sources generalizing p with
  | nil => exact swept_nil hlt
  | cons source rest ih =>
    obtain ⟨sourceId, mediaSubsession⟩ := source
    unfold processSources
    cases hpoll : poll callees channelId sourceId mediaSubsession p with
    | mk stop p' =>
      obtain ⟨hswept, hstop⟩ := poll_swept hlt hpoll
      cases stop with
      | true => exact hswept.stopped (hstop.mp rfl) _
      | false =>
        have hlt' : p'.sampleCount < maxSamples := by
          rw [← not_le, ← hstop]
          simp
        exact hswept.append hlt' (ih hlt')

theorem processChannels_swept (callees : Callees σ)
    {channels : List (ℕ × Std.ExtTreeMap ℕ ℕ)} (hlt : p.sampleCount < maxSamples) :
    Swept (channels.flatMap channelSources) p (processChannels callees channels p) := by
  induction channels generalizing p with
  | nil => exact swept_nil hlt
  | cons channel rest ih =>
    obtain ⟨channelId, session⟩ := channel
    have hswept : Swept (channelSources (channelId, session)) p
        (processSources callees channelId session.toList p) :=
      processSources_swept callees channelId hlt
    unfold processChannels
    rw [if_pos hlt, List.flatMap_cons]
    dsimp only
    split_ifs with hfull
    · exact hswept.stopped hfull _
    · exact hswept.append (not_le.mp hfull) (ih (not_le.mp hfull))

end Sweeps

section Rounds
variable {σ : Type*} {s : LiveSourceTaskScheduler0} {p : Progress σ}

/-- The outer loop ends after fifteen rounds, or in an earlier one with thirty samples. -/
theorem revolve_stopped (callees : Callees σ) (hlt : p.sampleCount < maxSamples)
    (hcount : p.sessionCount ≤ maxRevolutions)
    (hpolled : polledIds p.calls = rounds s.sources p.sessionCount) {fuel : ℕ}
    (hfuel : maxRevolutions < p.sessionCount + fuel) {p' : Progress σ}
    (h : revolve callees s fuel p = .ok p') :
    ∃ n begun, Stopped s.sources n begun (polledIds p'.calls) ∧
      ((n = maxRevolutions ∧ begun = []) ∨
        (n < maxRevolutions ∧ maxSamples ≤ p'.sampleCount)) := by
  induction fuel generalizing p with
  | zero => omega
  | succ fuel ih =>
    unfold revolve at h
    by_cases hmore : p.sessionCount < maxRevolutions
    · rw [if_pos hmore] at h
      have hswept : Swept s.sources p (processChannels callees s.mediaSessions.toList p) :=
        processChannels_swept callees hlt
      obtain ⟨begun, hbegun, hnext, hall⟩ := hswept.polled
      by_cases hlt' : (processChannels callees s.mediaSessions.toList p).sampleCount < maxSamples
      · have hsame := hswept.goesOn hlt'
        refine ih ?_ ?_ ?_ ?_ h
        · exact hlt'
        · dsimp only
          omega
        · dsimp only
          rw [hnext, hall hlt', hpolled, hsame]
          rfl
        · dsimp only
          omega
      · have hfull := not_lt.mp hlt'
        have hend := hswept.stops hfull
        obtain ⟨fuel, rfl⟩ := Nat.exists_eq_add_of_lt (show 0 < fuel by omega)
        rw [Nat.zero_add, revolve, if_neg (by dsimp only; omega)] at h
        obtain rfl := Except.ok.inj h
        refine ⟨p.sessionCount, begun, ⟨hbegun, ?_⟩, .inr ⟨hmore, hfull⟩⟩
        dsimp only
        rw [hnext, hpolled]
    · rw [if_neg hmore] at h
      obtain rfl := Except.ok.inj h
      have hend : p.sessionCount = maxRevolutions := by omega
      rw [hend] at hpolled
      refine ⟨maxRevolutions, [], ⟨List.nil_prefix, ?_⟩, .inl ⟨rfl, rfl⟩⟩
      rw [hpolled, List.append_nil]

/-- In one call no registered source is polled more than fifteen times, any two of them almost
equally often, an earlier one at least as often as a later one, and each fifteen times unless
thirty samples were obtained. -/
theorem processLiveSources_fair (callees : Callees σ) (s : LiveSourceTaskScheduler0)
    (world : σ) :
    ∃ p, processLiveSources callees s world = .ok p ∧
      (∀ a, s.registered a ≠ none → polls p.calls a ≤ 15) ∧
      (∀ a b, s.registered a ≠ none → s.registered b ≠ none →
        polls p.calls a ≤ polls p.calls b + 1) ∧
      (∀ a b, s.registered a ≠ none → s.registered b ≠ none →
        LiveSourceTaskScheduler0.Before a b → polls p.calls b ≤ polls p.calls a) ∧
      ((p.calls.filterMap Call.obtained).length < 30 →
        ∀ a, s.registered a ≠ none → polls p.calls a = 15) := by
  have hstart : Handed callees s world ⟨0, 0, world, []⟩ := ⟨rfl, rfl, rfl, Nat.zero_le _⟩
  have hfuel : maxRevolutions < 0 + (maxRevolutions + 1) := by omega
  obtain ⟨p, hp, hhanded⟩ := revolve_handed callees hstart (Nat.succ_pos _) hfuel
  obtain ⟨n, begun, hstopped, hend⟩ :=
    revolve_stopped callees (show 0 < maxSamples by decide) (Nat.zero_le _) rfl hfuel hp
  have hnodup := s.sources_nodup
  refine ⟨p, hp, fun a ha => ?_, fun a b ha hb => ?_, fun a b ha hb hab => ?_, fun hfew a ha => ?_⟩
  · rw [← LiveSourceTaskScheduler0.mem_sources] at ha
    rcases hend with ⟨rfl, rfl⟩ | ⟨hn, -⟩
    · exact (hstopped.count_eq hnodup ha).le
    · exact (hstopped.count_le hnodup ha).trans hn
  · rw [← LiveSourceTaskScheduler0.mem_sources] at ha hb
    exact hstopped.count_le_succ hnodup ha hb
  · rw [← LiveSourceTaskScheduler0.mem_sources] at ha hb
    exact hstopped.count_mono hnodup s.sources_sorted
      LiveSourceTaskScheduler0.before_asymm ha hb hab
  · rw [← LiveSourceTaskScheduler0.mem_sources] at ha
    rw [hhanded.counted] at hfew
    rcases hend with ⟨rfl, rfl⟩ | ⟨-, hfull⟩
    · exact hstopped.count_eq hnodup ha
    · exact absurd hfew (not_lt.mpr hfull)

end Rounds

end LiveMediaExt.Scheduler
