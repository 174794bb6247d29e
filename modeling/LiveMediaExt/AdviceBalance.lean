import LiveMediaExt.BouncingCounter
import LiveMediaExt.ReportIsolation

/-!
# What the shared rate control is told

The advice of every simple rate adaptation goes up seven channels and down again, over and over.
All of it goes to one rate control, so each client that ever came accounts for seven channels.
-/
namespace LiveMediaExt.System
open Execution Stuttering Bouncing Subsession Scheduler Rates

def counter (s : SimpleRateAdaptation) : Counter := ⟨s.nCurrentChannel, s.bUp⟩

def direction (up : Bool) : SwitchDirection := if up then .switchUp else .switchDown

/-- The first switches that a simple rate adaptation advises. -/
def wave (n : ℕ) : List SwitchDirection := (List.range n).map fun k => direction (rising 7 k)

/-- The switches up less the switches down. -/
def net (advice : List SwitchDirection) : ℤ :=
  advice.count .switchUp - advice.count .switchDown

section Wave
variable {s : SimpleRateAdaptation} {reports : List RtpTransmissionStats}

theorem simpleAdvice_zero (hlast : s.lastPacketNumReceived = 0) {stats : RtpTransmissionStats}
    (hzero : stats.lastPacketNumReceived = 0) : simpleAdvice s stats = (.stay, s) := by
  unfold simpleAdvice SimpleRateAdaptation.getRateAdaptAdvice
  rw [hzero, hlast, if_pos rfl]

/-- A report of some packet makes the counter bounce. -/
theorem simpleAdvice_bounce (hlast : s.lastPacketNumReceived = 0) {stats : RtpTransmissionStats}
    (hnonzero : stats.lastPacketNumReceived ≠ 0) :
    (simpleAdvice s stats).1 = direction s.bUp ∧
      (simpleAdvice s stats).2.lastPacketNumReceived = 0 ∧
      counter (simpleAdvice s stats).2 = bounce 7 (counter s) := by
  unfold simpleAdvice SimpleRateAdaptation.getRateAdaptAdvice
  rw [hlast, if_neg hnonzero]
  cases hup : s.bUp with
  | true => simp [direction, counter, bounce, hup]
  | false => simp [direction, counter, bounce, hup]

/-- The switches that are advised from the `k`-th one on. -/
theorem switches_of_reports (hlast : s.lastPacketNumReceived = 0) {k : ℕ}
    (hcounter : counter s = (bounce 7)^[k] ⟨0, true⟩) :
    (outputs simpleAdvice s reports).filter (· ≠ .stay) =
      (List.range' k (reports.countP (·.lastPacketNumReceived ≠ 0))).map
        fun k => direction (rising 7 k) := by
  induction reports generalizing s k with
  | nil => rfl
  | cons stats rest ih =>
    rw [outputs]
    by_cases hzero : stats.lastPacketNumReceived = 0
    · rw [simpleAdvice_zero hlast hzero, List.countP_cons_of_neg (by simpa using hzero)]
      exact ih hlast hcounter
    · obtain ⟨hadvice, hlast', hcounter'⟩ := simpleAdvice_bounce hlast hzero
      have hup : s.bUp = rising 7 k := by
        rw [bounce_iterate (by decide)] at hcounter
        exact congrArg Counter.up hcounter
      have hnext : counter (simpleAdvice s stats).2 = (bounce 7)^[k + 1] ⟨0, true⟩ := by
        rw [hcounter', hcounter, Function.iterate_succ_apply']
      have hswitch : direction (rising 7 k) ≠ .stay := by
        cases rising 7 k <;> decide
      rw [List.countP_cons_of_pos (by simpa using hzero), List.range'_succ, List.map_cons,
        ← ih hlast' hnext, hadvice, hup, List.filter_cons_of_pos (by simpa using hswitch)]

/-- What a source passes on comes to a wave. -/
theorem adviceOn_wave {settings : RateSettings SimpleRateAdaptation}
    (hfactory : ∀ s ∈ settings.factory, s = .create) (kind : SubsessionKind) (self : ℕ)
    (reports : List RtpTransmissionStats) :
    ∃ n, (adviceOn simpleAdvice (.createNew settings kind self) reports).filter (· ≠ .stay) =
      wave n := by
  have hempty : ∃ n, ([] : List SwitchDirection).filter (· ≠ .stay) = wave n := ⟨0, rfl⟩
  cases kind with
  | aac numChannels bitsPerSample samplingFrequency configStr => exact hempty
  | amr numChannels bitsPerSample samplingFrequency => exact hempty
  | h264 sps pps =>
    cases hinstance : settings.factory with
    | none =>
      simpa [adviceOn, ReportingSource.createNew, hinstance] using hempty
    | some s =>
      obtain rfl := hfactory s hinstance
      cases hcontrol : settings.globalRateControl with
      | false => simpa [adviceOn, ReportingSource.createNew, hinstance, hcontrol] using hempty
      | true =>
        have hwave : (outputs simpleAdvice .create (freshReports 0 reports)).filter (· ≠ .stay) =
            _ := switches_of_reports (s := .create) (k := 0) rfl rfl
        rw [← List.range_eq_range'] at hwave
        have hadvice : adviceOn simpleAdvice (.createNew settings (.h264 sps pps) self) reports =
            outputs simpleAdvice .create (freshReports 0 reports) := by
          simp [adviceOn, ReportingSource.createNew, hinstance, hcontrol]
        rw [hadvice]
        exact ⟨_, hwave⟩

theorem net_wave (n : ℕ) : net (wave n) = height 7 n := by
  have hseven : 0 < 7 := by decide
  have hbalance := height_balance hseven n
  have hwave : wave n = ((List.range n).map (rising 7)).map direction := by
    rw [List.map_map]
    rfl
  have hinjective : Function.Injective direction := by
    intro up up' hsame
    cases up <;> cases up' <;> first | rfl | cases hsame
  have hup : (wave n).count .switchUp = ((List.range n).map (rising 7)).count true := by
    rw [hwave]
    exact List.count_map_of_injective _ direction hinjective true
  have hdown : (wave n).count .switchDown = ((List.range n).map (rising 7)).count false := by
    rw [hwave]
    exact List.count_map_of_injective _ direction hinjective false
  unfold net
  rw [hup, hdown, hbalance]
  ring

/-- Staying does not count. -/
theorem net_filter (advice : List SwitchDirection) : net (advice.filter (· ≠ .stay)) = net advice := by
  unfold net
  rw [List.count_filter (by decide), List.count_filter (by decide)]

theorem net_append (advice advice' : List SwitchDirection) :
    net (advice ++ advice') = net advice + net advice' := by
  unfold net
  rw [List.count_append, List.count_append]
  push_cast
  ring

/-- The balance of all advice is made up of that of each source. -/
theorem net_eq_sum {advised : List ((ℕ × ℕ) × SwitchDirection)} {keys : Finset (ℕ × ℕ)}
    (h : ∀ advice ∈ advised, advice.1 ∈ keys) :
    net (advised.map Prod.snd) = ∑ key ∈ keys,
      net (advised.filterMap fun advice => if advice.1 = key then some advice.2 else none) := by
  induction advised with
  | nil => simp [net]
  | cons advice rest ih =>
    obtain ⟨hfirst, hrest⟩ := List.forall_mem_cons.mp h
    have hcons (key : ℕ × ℕ) :
        net ((advice :: rest).filterMap
          fun advice => if advice.1 = key then some advice.2 else none) =
        (if advice.1 = key then net [advice.2] else 0) +
          net (rest.filterMap fun advice => if advice.1 = key then some advice.2 else none) := by
      by_cases hkey : advice.1 = key
      · rw [List.filterMap_cons, if_pos hkey, if_pos hkey, ← net_append]
        rfl
      · rw [List.filterMap_cons, if_neg hkey, if_neg hkey, zero_add]
    rw [List.map_cons, ← List.singleton_append, net_append, ih hrest, Finset.sum_congr rfl
      (fun key _ => hcons key), Finset.sum_add_distrib, Finset.sum_ite_eq, if_pos hfirst]

end Wave

section Keys
variable {σ δ : Type} {getRateAdaptAdvice : σ → RtpTransmissionStats → δ × σ}
  {settings : RateSettings σ} {scheduler : LiveSourceTaskScheduler0}
  {p t : ReportingServer σ δ} {key : ℕ × ℕ}

/-- No source of the key is live. -/
def Absent (key : ℕ × ℕ) (p : ReportingServer σ δ) : Prop :=
  ∀ sub, p.subsessions key.1 = some sub → ∀ src ∈ sub.deviceSources, src.self ≠ key.2

/-- A source that is not live gives no advice and only comes to be by being the next one. -/
theorem Absent.callSubsession (h : Absent key p) {mediaSubsession : ℕ}
    {f : ReportingSubsession σ → List ((ℕ × ℕ) × δ) × ReportingSubsession σ}
    (hf : ∀ sub, Regular mediaSubsession sub (f sub))
    (hcall : p.callSubsession mediaSubsession f = .ok t) :
    adviceOf key t = adviceOf key p ∧
      (Absent key t ∨ ∃ sub, p.subsessions mediaSubsession = some sub ∧
        key = (mediaSubsession, sub.nextSource) ∧ sub.nextSource < (f sub).2.nextSource) := by
  obtain ⟨sub, hsub, hsubsessions, hadvised⟩ := callSubsession_ok hcall
  constructor
  · refine adviceOf_eq hadvised fun advice hadvice hsame => ?_
    obtain ⟨hplace, src, hsrc, hself⟩ := (hf sub).advised advice hadvice
    rw [hsame] at hplace hself
    exact h sub (hplace ▸ hsub) src hsrc hself
  · by_cases hown : key.1 = mediaSubsession
    · by_cases hnew : key.2 = sub.nextSource ∧ sub.nextSource < (f sub).2.nextSource
      · exact .inr ⟨sub, hsub, Prod.ext hown hnew.1, hnew.2⟩
      · refine .inl fun sub' hsub' src hsrc hself => ?_
        rw [hsubsessions, hown, Function.update_self] at hsub'
        obtain rfl := Option.some.inj hsub'
        rcases (hf sub).kept src hsrc with ⟨src', hsrc', hsame⟩ | ⟨hnext, hlt⟩
        · exact h sub (hown ▸ hsub) src' hsrc' (hsame.trans hself)
        · exact hnew ⟨hself.symm.trans hnext, hlt⟩
    · refine .inl fun sub' hsub' => h sub' ?_
      rw [hsubsessions, Function.update_of_ne hown] at hsub'
      exact hsub'

/-- What is known of each source that ever was. -/
def History (getRateAdaptAdvice : σ → RtpTransmissionStats → δ × σ) (settings : RateSettings σ)
    (key : ℕ × ℕ) (p : ReportingServer σ δ) : Prop :=
  ∃ kind calls,
    adviceOf key p = (outputs (ReportingSource.call getRateAdaptAdvice)
      (.createNew settings kind key.2) calls).reduceOption ∧
    (Absent key p ∨ Tracked key (stateAfter (ReportingSource.call getRateAdaptAdvice)
      (.createNew settings kind key.2) calls) (adviceOf key p) p)

/-- The source that is destroyed is the only one of its address. -/
theorem absent_of_destroyed (hdistinct : Distinct p)
    (hcall : p.callSubsession key.1 (fun sub => ([], sub.removeDeviceSource key.2)) = .ok t) :
    Absent key t := by
  obtain ⟨sub, hsub, hsubsessions, -⟩ := callSubsession_ok hcall
  intro sub' hsub' src hsrc hself
  rw [hsubsessions, Function.update_self] at hsub'
  obtain rfl := Option.some.inj hsub'
  have hnodup := (hdistinct.sources _ _ hsub).1
  have herase : (sub.deviceSources.eraseP fun src => src.self == key.2).map ReportingSource.self =
      (sub.deviceSources.map ReportingSource.self).erase key.2 := by
    rw [List.erase_eq_eraseP', List.eraseP_map]
    rfl
  have hmem : src.self ∈ (sub.deviceSources.map ReportingSource.self).erase key.2 := by
    rw [← herase]
    exact List.mem_map_of_mem hsrc
  rw [hself] at hmem
  exact hnodup.not_mem_erase hmem

theorem Absent.stays (h : Absent key p) {mediaSubsession : ℕ}
    {f : ReportingSubsession σ → List ((ℕ × ℕ) × δ) × ReportingSubsession σ}
    (hf : ∀ sub, Regular mediaSubsession sub (f sub))
    (hnext : ∀ sub, (f sub).2.nextSource = sub.nextSource)
    (hcall : p.callSubsession mediaSubsession f = .ok t) :
    Absent key t ∧ adviceOf key t = adviceOf key p := by
  obtain ⟨hsame, habsent | ⟨sub, -, -, hlt⟩⟩ := h.callSubsession hf hcall
  · exact ⟨habsent, hsame⟩
  · exact absurd (hnext sub) hlt.ne'

theorem Absent.history (h : Absent key p) (hdistinct : Distinct p) {e : ReportEvent}
    {kind : SubsessionKind} {calls : List SourceCall}
    (hadvice : adviceOf key p = (outputs (ReportingSource.call getRateAdaptAdvice)
      (.createNew settings kind key.2) calls).reduceOption)
    (hstep : p.step getRateAdaptAdvice settings scheduler e = .ok t) :
    History getRateAdaptAdvice settings key t := by
  have hstill (habsent : Absent key t ∧ adviceOf key t = adviceOf key p) :
      History getRateAdaptAdvice settings key t :=
    ⟨kind, calls, habsent.2.trans hadvice, .inl habsent.1⟩
  cases e with
  | createSource mediaSubsession =>
    obtain ⟨hsame, habsent | ⟨sub, hsub, rfl, -⟩⟩ :=
      h.callSubsession (regular_createNewStreamSource mediaSubsession) hstep
    · exact hstill ⟨habsent, hsame⟩
    · obtain ⟨sub', hsub', hnew⟩ := hdistinct.created hstep
      obtain rfl : sub' = sub := Option.some.inj (hsub'.symm.trans hsub)
      refine ⟨sub'.kind, [], hnew.advice, .inr ?_⟩
      rw [hnew.advice]
      exact hnew
  | setRTPSink mediaSubsession source =>
    exact hstill (h.stays (regular_setRTPSink mediaSubsession source) (fun _ => rfl) hstep)
  | destroySource mediaSubsession source =>
    exact hstill (h.stays (regular_removeDeviceSource mediaSubsession source) (fun _ => rfl) hstep)
  | processLiveMediaSessions world =>
    refine hstill (run_invariant (I := fun m => Absent key m ∧ adviceOf key m = adviceOf key p)
      ⟨h, rfl⟩ (fun m mediaSubsession m' hm hm' => ?_) hstep)
    obtain ⟨habsent, hsame⟩ := hm.1.stays
      (fun sub => regular_processClientStatistics mediaSubsession sub (world mediaSubsession))
      (fun _ => rfl) hm'
    exact ⟨habsent, hsame.trans hm.2⟩

/-- One step, over all events. -/
theorem History.step (h : History getRateAdaptAdvice settings key p) (hdistinct : Distinct p)
    {e : ReportEvent} (hstep : p.step getRateAdaptAdvice settings scheduler e = .ok t) :
    History getRateAdaptAdvice settings key t := by
  obtain ⟨kind, calls, hadvice, habsent | htracked⟩ := h
  · exact habsent.history hdistinct hadvice hstep
  · by_cases hdestroyed : e = .destroySource key.1 key.2
    · subst hdestroyed
      obtain ⟨sub, -, -, hadvised⟩ := callSubsession_ok hstep
      have hsame : adviceOf key t = adviceOf key p := by
        rw [adviceOf_append hadvised, List.filterMap_nil, List.append_nil]
      exact ⟨kind, calls, hsame.trans hadvice, .inl (absent_of_destroyed hdistinct hstep)⟩
    · have hafter := htracked.step hdistinct hdestroyed hstep
      unfold After at hafter
      rw [← stateAfter_append] at hafter
      refine ⟨kind, calls ++ ownCalls scheduler key e, ?_, .inr ?_⟩
      · rw [hafter.advice, outputs_append, List.reduceOption_append, hadvice]
      · rw [hafter.advice]
        exact hafter

/-- All sources that are live or have given advice are among these. -/
structure Accounts (keys : Finset (ℕ × ℕ)) (p : ReportingServer σ δ) : Prop where
  live : ∀ mediaSubsession sub, p.subsessions mediaSubsession = some sub →
    ∀ src ∈ sub.deviceSources, (mediaSubsession, src.self) ∈ keys
  advised : ∀ advice ∈ p.advised, advice.1 ∈ keys

theorem Accounts.callSubsession {keys keys' : Finset (ℕ × ℕ)} (h : Accounts keys p)
    (hkeys : keys ⊆ keys') {mediaSubsession : ℕ}
    {f : ReportingSubsession σ → List ((ℕ × ℕ) × δ) × ReportingSubsession σ}
    (hf : ∀ sub, Regular mediaSubsession sub (f sub))
    (hnew : ∀ sub, p.subsessions mediaSubsession = some sub →
      sub.nextSource < (f sub).2.nextSource → (mediaSubsession, sub.nextSource) ∈ keys')
    (hcall : p.callSubsession mediaSubsession f = .ok t) : Accounts keys' t := by
  obtain ⟨sub, hsub, hsubsessions, hadvised⟩ := callSubsession_ok hcall
  constructor
  · intro other sub' hsub' src hsrc
    rw [hsubsessions] at hsub'
    by_cases hsame : other = mediaSubsession
    · subst hsame
      rw [Function.update_self] at hsub'
      obtain rfl := Option.some.inj hsub'
      rcases (hf sub).kept src hsrc with ⟨src', hsrc', hself⟩ | ⟨hself, hlt⟩
      · rw [← hself]
        exact hkeys (h.live _ _ hsub src' hsrc')
      · rw [hself]
        exact hnew sub hsub hlt
    · rw [Function.update_of_ne hsame] at hsub'
      exact hkeys (h.live _ _ hsub' src hsrc)
  · intro advice hadvice
    rw [hadvised, List.mem_append] at hadvice
    rcases hadvice with hold | hadvice
    · exact hkeys (h.advised advice hold)
    · obtain ⟨hplace, src, hsrc, hself⟩ := (hf sub).advised advice hadvice
      have hlive := hkeys (h.live _ _ hsub src hsrc)
      rw [hself, ← hplace] at hlive
      exact hlive

/-- The number of clients that came. -/
def clientsCreated (events : List ReportEvent) : ℕ :=
  events.countP fun
    | .createSource _ => true
    | _ => false

theorem Accounts.step {keys : Finset (ℕ × ℕ)} (h : Accounts keys p) {e : ReportEvent}
    (hstep : p.step getRateAdaptAdvice settings scheduler e = .ok t) :
    ∃ keys' : Finset (ℕ × ℕ), keys'.card ≤ keys.card + clientsCreated [e] ∧ Accounts keys' t := by
  have hsame {sub : ReportingSubsession σ} {mediaSubsession : ℕ}
      (hlt : sub.nextSource < sub.nextSource) : (mediaSubsession, sub.nextSource) ∈ keys :=
    absurd hlt (lt_irrefl _)
  cases e with
  | createSource mediaSubsession =>
    obtain ⟨sub, hsub, -⟩ := callSubsession_ok hstep
    refine ⟨insert (mediaSubsession, sub.nextSource) keys, Finset.card_insert_le _ _, ?_⟩
    refine h.callSubsession (Finset.subset_insert _ _)
      (regular_createNewStreamSource mediaSubsession) (fun sub' hsub' _ => ?_) hstep
    obtain rfl : sub' = sub := Option.some.inj (hsub'.symm.trans hsub)
    exact Finset.mem_insert_self _ _
  | setRTPSink mediaSubsession source =>
    exact ⟨keys, le_rfl, h.callSubsession subset_rfl (regular_setRTPSink mediaSubsession source)
      (fun _ _ => hsame) hstep⟩
  | destroySource mediaSubsession source =>
    exact ⟨keys, le_rfl, h.callSubsession subset_rfl
      (regular_removeDeviceSource mediaSubsession source) (fun _ _ => hsame) hstep⟩
  | processLiveMediaSessions world =>
    refine ⟨keys, le_rfl, run_invariant h (fun m mediaSubsession m' hm hm' => ?_) hstep⟩
    exact hm.callSubsession subset_rfl
      (fun sub => regular_processClientStatistics mediaSubsession sub (world mediaSubsession))
      (fun _ _ => hsame) hm'

end Keys

/-- However clients come and go and report, the switches that each one's adaptation has advised go
up seven channels and down again, so the shared rate control is never told to go below where it
began, nor further up than seven channels for each client that came. -/
theorem rate_control_balance (settings : RateSettings SimpleRateAdaptation)
    (scheduler : LiveSourceTaskScheduler0) (kinds : ℕ → Option SubsessionKind)
    (events : List ReportEvent) (t : ReportingServer SimpleRateAdaptation SwitchDirection)
    (hfactory : ∀ s ∈ settings.factory, s = .create)
    (hrun : Execution.run (ReportingServer.step simpleAdvice settings scheduler) (.opened kinds)
      events = .ok t) :
    (∀ key, ∃ n, (adviceOf key t).filter (· ≠ .stay) = wave n) ∧
    0 ≤ net (t.advised.map Prod.snd) ∧
    net (t.advised.map Prod.snd) ≤ 7 * clientsCreated events := by
  have hinv : Distinct t ∧ ∀ key, History simpleAdvice settings key t := by
    refine run_invariant (I := fun m => Distinct m ∧ ∀ key, History simpleAdvice settings key m)
      ⟨opened_distinct kinds, fun key => ?_⟩ (fun m e m' hm hm' => ?_) hrun
    · refine ⟨.aac 0 0 0 "", [], rfl, .inl fun sub hsub src hsrc => ?_⟩
      obtain ⟨kind, -, rfl⟩ := Option.map_eq_some_iff.mp hsub
      cases hsrc
    · exact ⟨hm.1.step hm', fun key => (hm.2 key).step hm.1 hm'⟩
  have haccounts : ∃ keys : Finset (ℕ × ℕ), keys.card ≤ clientsCreated events ∧
      Accounts keys t := by
    refine run_induction (R := fun events m => ∃ keys : Finset (ℕ × ℕ),
      keys.card ≤ clientsCreated events ∧ Accounts keys m) ?_ ?_ hrun
    · refine ⟨∅, le_rfl, fun mediaSubsession sub hsub src hsrc => ?_, fun _ hadvice => ?_⟩
      · obtain ⟨kind, -, rfl⟩ := Option.map_eq_some_iff.mp hsub
        cases hsrc
      · cases hadvice
    · rintro events m e m' - ⟨keys, hcard, hm⟩ hm'
      obtain ⟨keys', hcard', ht⟩ := hm.step hm'
      refine ⟨keys', ?_, ht⟩
      have hcount : clientsCreated (events ++ [e]) = clientsCreated events + clientsCreated [e] :=
        List.countP_append
      omega
  have hwave (key : ℕ × ℕ) : ∃ n, (adviceOf key t).filter (· ≠ .stay) = wave n := by
    obtain ⟨kind, calls, hadvice, -⟩ := hinv.2 key
    rw [hadvice, advice_of_calls]
    exact adviceOn_wave hfactory _ _ _
  have hnet (key : ℕ × ℕ) : 0 ≤ net (adviceOf key t) ∧ net (adviceOf key t) ≤ 7 := by
    obtain ⟨n, hn⟩ := hwave key
    rw [← net_filter, hn, net_wave]
    exact ⟨Nat.cast_nonneg _, by exact_mod_cast height_le 7 n⟩
  obtain ⟨keys, hcard, ht⟩ := haccounts
  have hsum : net (t.advised.map Prod.snd) = ∑ key ∈ keys, net (adviceOf key t) :=
    net_eq_sum ht.advised
  refine ⟨hwave, ?_, ?_⟩
  · rw [hsum]
    exact Finset.sum_nonneg fun key _ => (hnet key).1
  · have hle : ∑ key ∈ keys, net (adviceOf key t) ≤ keys.card • (7 : ℤ) :=
      Finset.sum_le_card_nsmul _ _ _ fun key _ => (hnet key).2
    rw [hsum]
    rw [nsmul_eq_mul] at hle
    have hcard' : (keys.card : ℤ) ≤ clientsCreated events := by exact_mod_cast hcard
    omega

theorem rate_control_balance_second : ∃ t,
    Execution.run (ReportingServer.step simpleAdvice simpleSettings testRegistry)
      (.opened testKinds) (firstViewer ++ .createSource 0 :: secondViewer) = .ok t ∧
    0 ≤ net (t.advised.map Prod.snd) ∧ net (t.advised.map Prod.snd) ≤ 7 * 3 := by
  obtain ⟨t, h⟩ := viewers_run
  have hfactory : ∀ s ∈ simpleSettings.factory, s = .create :=
    fun s hs => (Option.mem_some_iff.mp hs).symm
  exact ⟨t, h, (rate_control_balance simpleSettings testRegistry testKinds _ t hfactory h).2⟩

end LiveMediaExt.System
