import LiveMediaExt.RateAdaptation
import LiveMediaExt.ReceiverReports

/-!
# A client's reports and its advice

A source is followed through a run of the server. What happens to it is made up of the calls that
concern it, and its advice of what its own adaptation is told by the reports that say anything
new.
-/
namespace LiveMediaExt.System
open Execution Stuttering Subsession Scheduler

/-- A list with one element for the key of `a`. -/
theorem filterMap_key {α β κ : Type*} [DecidableEq κ] {key : α → κ} {l : List α} {a : α}
    (hnodup : (l.map key).Nodup) (ha : a ∈ l) (f : α → Option β) :
    l.filterMap (fun b => if key b = key a then f b else none) = (f a).toList := by
  induction l with
  | nil => cases ha
  | cons b rest ih =>
    rw [List.map_cons, List.nodup_cons] at hnodup
    obtain ⟨hb, hrest⟩ := hnodup
    rcases List.mem_cons.mp ha with rfl | ha
    · have hnone : rest.filterMap (fun c => if key c = key a then f c else none) = [] := by
        rw [List.filterMap_eq_nil_iff]
        intro c hc
        have hne : key c ≠ key a := fun h => hb (h ▸ List.mem_map_of_mem hc)
        exact if_neg hne
      rw [List.filterMap_cons, if_pos rfl, hnone]
      cases f a <;> rfl
    · have hne : key b ≠ key a := fun h => hb (h ▸ List.mem_map_of_mem ha)
      rw [List.filterMap_cons, if_neg hne]
      exact ih hrest ha

section Tracking
variable {σ δ : Type} {getRateAdaptAdvice : σ → RtpTransmissionStats → δ × σ}
  {settings : RateSettings σ} {scheduler : LiveSourceTaskScheduler0}
  {p m t : ReportingServer σ δ} {key : ℕ × ℕ} {src : ReportingSource σ} {advice : List δ}

/-- The source is live in the server, and this is the advice that it has passed on. -/
structure Tracked (key : ℕ × ℕ) (src : ReportingSource σ) (advice : List δ)
    (p : ReportingServer σ δ) : Prop where
  live : ∃ sub, p.subsessions key.1 = some sub ∧ src ∈ sub.deviceSources
  self : src.self = key.2
  advice : adviceOf key p = advice

/-- A call of another subsession. -/
theorem Tracked.callOther (h : Tracked key src advice p) {mediaSubsession : ℕ}
    (hother : mediaSubsession ≠ key.1)
    {f : ReportingSubsession σ → List ((ℕ × ℕ) × δ) × ReportingSubsession σ}
    (hf : ∀ sub, Regular mediaSubsession sub (f sub))
    (hcall : p.callSubsession mediaSubsession f = .ok t) : Tracked key src advice t := by
  obtain ⟨sub, hsub, hsubsessions, hadvised⟩ := callSubsession_ok hcall
  refine ⟨?_, h.self, ?_⟩
  · rw [hsubsessions, Function.update_of_ne (Ne.symm hother)]
    exact h.live
  · rw [adviceOf_eq hadvised]
    · exact h.advice
    · rintro advice hadvice rfl
      exact hother ((hf sub).advised advice hadvice).1.symm

/-- A call of its own subsession that passes on no advice. -/
theorem Tracked.callOwn (h : Tracked key src advice p)
    {f : ReportingSubsession σ → ReportingSubsession σ} {src' : ReportingSource σ}
    (hself : src'.self = key.2)
    (hf : ∀ sub, src ∈ sub.deviceSources → src' ∈ (f sub).deviceSources)
    (hcall : p.callSubsession key.1 (fun sub => ([], f sub)) = .ok t) :
    Tracked key src' advice t := by
  obtain ⟨sub, hsub, hsubsessions, hadvised⟩ := callSubsession_ok hcall
  obtain ⟨sub', hsub', hsrc⟩ := h.live
  obtain rfl : sub' = sub := Option.some.inj (hsub'.symm.trans hsub)
  refine ⟨⟨f sub', ?_, hf sub' hsrc⟩, hself, ?_⟩
  · rw [hsubsessions, Function.update_self]
  · rw [adviceOf_append hadvised, List.filterMap_nil, List.append_nil]
    exact h.advice

/-- The statistics of its own subsession. -/
theorem Tracked.visitOwn (h : Tracked key src advice p) (hdistinct : Distinct p)
    {world : ℕ → List RtpTransmissionStats}
    (hcall : p.callSubsession key.1
      (ReportingSubsession.processClientStatistics getRateAdaptAdvice key.1 world) = .ok t) :
    Tracked key (src.processReceiverReports getRateAdaptAdvice (world key.2)).2
      (advice ++ (src.processReceiverReports getRateAdaptAdvice (world key.2)).1.toList) t := by
  obtain ⟨sub, hsub, hsubsessions, hadvised⟩ := callSubsession_ok hcall
  obtain ⟨sub', hsub', hsrc⟩ := h.live
  obtain rfl : sub' = sub := Option.some.inj (hsub'.symm.trans hsub)
  have hnodup := (hdistinct.sources _ _ hsub).1
  refine ⟨⟨_, by rw [hsubsessions, Function.update_self], ?_⟩, ?_, ?_⟩
  · rw [← h.self]
    exact List.mem_map_of_mem
      (f := fun src => (src.processReceiverReports getRateAdaptAdvice (world src.self)).2) hsrc
  · rw [processReceiverReports_self, h.self]
  · have hown := filterMap_key hnodup hsrc fun src =>
      (src.processReceiverReports getRateAdaptAdvice (world src.self)).1
    rw [adviceOf_append hadvised, h.advice, ← h.self, ← hown]
    unfold ReportingSubsession.processClientStatistics
    dsimp only
    rw [List.filterMap_filterMap]
    congr 1
    refine List.filterMap_congr fun src' _ => ?_
    cases (src'.processReceiverReports getRateAdaptAdvice (world src'.self)).1 with
    | none => simp
    | some given =>
      have hkey : ((key.1, src'.self) = key) ↔ src'.self = src.self := by
        rw [h.self]
        exact ⟨fun hsame => (Prod.ext_iff.mp hsame).2, fun hsame => Prod.ext rfl hsame⟩
      simp [hkey]

/-- A whole pass over the subsessions: its own one is visited, once or again without effect, if it
is registered. -/
theorem Tracked.visits (h : Tracked key src advice p) (hdistinct : Distinct p)
    {world : ℕ → ℕ → List RtpTransmissionStats} {entries : List ℕ}
    (hrun : run (fun p mediaSubsession => p.callSubsession mediaSubsession
        (ReportingSubsession.processClientStatistics getRateAdaptAdvice mediaSubsession
          (world mediaSubsession))) p entries = .ok t) :
    (key.1 ∈ entries → Tracked key
      (src.processReceiverReports getRateAdaptAdvice (world key.1 key.2)).2
      (advice ++ (src.processReceiverReports getRateAdaptAdvice (world key.1 key.2)).1.toList) t) ∧
    (key.1 ∉ entries → Tracked key src advice t) := by
  induction entries generalizing p src advice with
  | nil =>
    cases hrun
    exact ⟨fun hmem => absurd hmem List.not_mem_nil, fun _ => h⟩
  | cons mediaSubsession rest ih =>
    rw [← List.singleton_append] at hrun
    obtain ⟨m, hm, hrest⟩ := run_prefix_ok hrun
    rw [run_singleton] at hm
    have hregular (sub : ReportingSubsession σ) : Regular mediaSubsession sub
        (sub.processClientStatistics getRateAdaptAdvice mediaSubsession (world mediaSubsession)) :=
      regular_processClientStatistics mediaSubsession sub (world mediaSubsession)
    have hdistinct' := hdistinct.callSubsession hregular hm
    by_cases hown : mediaSubsession = key.1
    · subst hown
      obtain ⟨hagain, hdone⟩ := ih (h.visitOwn hdistinct hm) hdistinct' hrest
      rw [processReceiverReports_again, Option.toList_none, List.append_nil] at hagain
      refine ⟨fun _ => ?_, fun hnot => absurd List.mem_cons_self hnot⟩
      by_cases hmem : key.1 ∈ rest
      · exact hagain hmem
      · exact hdone hmem
    · obtain ⟨hlater, hnever⟩ := ih (h.callOther hown hregular hm) hdistinct' hrest
      refine ⟨fun hmem => hlater ?_, fun hnot => hnever fun hmem => ?_⟩
      · exact (List.mem_cons.mp hmem).resolve_left (Ne.symm hown)
      · exact hnot (List.mem_cons_of_mem _ hmem)

/-- The calls of one source that an event makes. -/
def ownCalls (scheduler : LiveSourceTaskScheduler0) (key : ℕ × ℕ) : ReportEvent → List SourceCall
  | .createSource _ => []
  | .setRTPSink mediaSubsession source =>
    if (mediaSubsession, source) = key then [.setRTPSink] else []
  | .destroySource .. => []
  | .processLiveMediaSessions world =>
    if key.1 ∈ registeredSubsessions scheduler then
      [.processReceiverReports (world key.1 key.2)]
    else []

/-- The source as it is after its share of an event, with the advice that it has given then. -/
def After (getRateAdaptAdvice : σ → RtpTransmissionStats → δ × σ) (key : ℕ × ℕ)
    (src : ReportingSource σ) (advice : List δ) (calls : List SourceCall)
    (t : ReportingServer σ δ) : Prop :=
  Tracked key (stateAfter (ReportingSource.call getRateAdaptAdvice) src calls)
    (advice ++ (outputs (ReportingSource.call getRateAdaptAdvice) src calls).reduceOption) t

theorem after_nil : After getRateAdaptAdvice key src advice [] t ↔ Tracked key src advice t := by
  have hnone : advice ++ ([] : List (Option δ)).reduceOption = advice := List.append_nil _
  unfold After
  rw [outputs, hnone]
  rfl

theorem after_single (call : SourceCall) :
    After getRateAdaptAdvice key src advice [call] t ↔
      Tracked key (src.call getRateAdaptAdvice call).2
        (advice ++ (src.call getRateAdaptAdvice call).1.toList) t := by
  have hone : (outputs (ReportingSource.call getRateAdaptAdvice) src [call]).reduceOption =
      (src.call getRateAdaptAdvice call).1.toList := by
    rw [outputs, outputs]
    cases (src.call getRateAdaptAdvice call).1 <;> rfl
  unfold After
  rw [hone]
  rfl

/-- The sink of a source of the same subsession. -/
theorem Tracked.setRTPSink (h : Tracked key src advice p) {source : ℕ}
    (hstep : p.callSubsession key.1 (fun sub => ([], sub.setRTPSink source)) = .ok t) :
    After getRateAdaptAdvice key src advice (ownCalls scheduler key (.setRTPSink key.1 source)) t := by
  have hcalls : ownCalls scheduler key (.setRTPSink key.1 source) =
      if (key.1, source) = key then [.setRTPSink] else [] := rfl
  rw [hcalls]
  by_cases hsource : source = key.2
  · subst hsource
    rw [if_pos rfl, after_single, ReportingSource.call, Option.toList_none, List.append_nil]
    have hself : ({ src with sink := true } : ReportingSource σ).self = key.2 := h.self
    refine h.callOwn hself (fun sub hsrc => ?_) hstep
    refine List.mem_map.mpr ⟨src, hsrc, if_pos h.self⟩
  · rw [if_neg fun hsame => hsource (Prod.ext_iff.mp hsame).2, after_nil]
    refine h.callOwn h.self (fun sub hsrc => ?_) hstep
    refine List.mem_map.mpr ⟨src, hsrc, if_neg ?_⟩
    rw [h.self]
    exact Ne.symm hsource

/-- One step, over all events but the destruction of the source. -/
theorem Tracked.step (h : Tracked key src advice p) (hdistinct : Distinct p) {e : ReportEvent}
    (hstays : e ≠ .destroySource key.1 key.2)
    (hstep : p.step getRateAdaptAdvice settings scheduler e = .ok t) :
    After getRateAdaptAdvice key src advice (ownCalls scheduler key e) t := by
  cases e with
  | createSource mediaSubsession =>
    refine after_nil.mpr ?_
    by_cases hown : mediaSubsession = key.1
    · subst hown
      exact h.callOwn h.self (fun sub hsrc => List.mem_append_left _ hsrc) hstep
    · exact h.callOther hown (regular_createNewStreamSource mediaSubsession) hstep
  | setRTPSink mediaSubsession source =>
    by_cases hown : mediaSubsession = key.1
    · subst hown
      exact h.setRTPSink hstep
    · have hcalls : ownCalls scheduler key (.setRTPSink mediaSubsession source) = [] :=
        if_neg fun hsame => hown (Prod.ext_iff.mp hsame).1
      rw [hcalls, after_nil]
      exact h.callOther hown (regular_setRTPSink mediaSubsession source) hstep
  | destroySource mediaSubsession source =>
    refine after_nil.mpr ?_
    by_cases hown : mediaSubsession = key.1
    · subst hown
      refine h.callOwn h.self (fun sub hsrc => ?_) hstep
      refine (List.mem_eraseP_of_neg ?_).mpr hsrc
      rw [h.self]
      intro hsame
      exact hstays (congrArg _ (beq_iff_eq.mp hsame).symm)
    · exact h.callOther hown (regular_removeDeviceSource mediaSubsession source) hstep
  | processLiveMediaSessions world =>
    obtain ⟨hvisited, hskipped⟩ := h.visits hdistinct hstep
    have hcalls : ownCalls scheduler key (.processLiveMediaSessions world) =
        if key.1 ∈ registeredSubsessions scheduler then
          [.processReceiverReports (world key.1 key.2)] else [] := rfl
    rw [hcalls]
    by_cases hmem : key.1 ∈ registeredSubsessions scheduler
    · rw [if_pos hmem, after_single]
      exact hvisited hmem
    · rw [if_neg hmem, after_nil]
      exact hskipped hmem

/-- A source goes its own way through a run, whatever happens to the others. -/
theorem Tracked.run {events : List ReportEvent} (h : Tracked key src advice p)
    (hdistinct : Distinct p) (hstays : .destroySource key.1 key.2 ∉ events)
    (hrun : Execution.run (ReportingServer.step getRateAdaptAdvice settings scheduler) p events =
      .ok t) :
    After getRateAdaptAdvice key src advice (events.flatMap (ownCalls scheduler key)) t := by
  induction events generalizing p src advice with
  | nil =>
    cases hrun
    exact after_nil.mpr h
  | cons e events ih =>
    obtain ⟨hfirst, hrest⟩ := not_or.mp (mt List.mem_cons.mpr hstays)
    rw [← List.singleton_append] at hrun
    obtain ⟨m, hm, hlater⟩ := run_prefix_ok hrun
    rw [run_singleton] at hm
    have hnext := ih (h.step hdistinct (Ne.symm hfirst) hm) (hdistinct.step hm) hrest hlater
    unfold After at hnext ⊢
    rw [List.flatMap_cons, stateAfter_append, outputs_append, List.reduceOption_append,
      ← List.append_assoc]
    exact hnext

end Tracking

/-- The reports that a source looks at, once it has a sink: the first record each time. -/
def reportsOf (sink : Bool) : List SourceCall → List RtpTransmissionStats
  | [] => []
  | .setRTPSink :: calls => reportsOf true calls
  | .processReceiverReports transmissionStats :: calls =>
    (if sink then transmissionStats.take 1 else []) ++ reportsOf sink calls

/-- The reports with another packet number than the one before. -/
def freshReports (last : UInt32) : List RtpTransmissionStats → List RtpTransmissionStats
  | [] => []
  | stats :: rest =>
    if last = stats.lastPacketNumReceived then freshReports last rest
    else stats :: freshReports stats.lastPacketNumReceived rest

/-- What the rate control is told when the adaptation goes through the fresh reports. -/
def adviceOn {σ δ : Type} (getRateAdaptAdvice : σ → RtpTransmissionStats → δ × σ)
    (src : ReportingSource σ) (reports : List RtpTransmissionStats) : List δ :=
  match src.rateAdaptation with
  | none => []
  | some adaptation =>
    if src.rateControl then
      outputs getRateAdaptAdvice adaptation (freshReports src.lastPacketNumReceived reports)
    else []

section Advice
variable {σ δ : Type} {getRateAdaptAdvice : σ → RtpTransmissionStats → δ × σ}
  {settings : RateSettings σ} {scheduler : LiveSourceTaskScheduler0}

theorem advice_of_calls (src : ReportingSource σ) (calls : List SourceCall) :
    (outputs (ReportingSource.call getRateAdaptAdvice) src calls).reduceOption =
      adviceOn getRateAdaptAdvice src (reportsOf src.sink calls) := by
  induction calls generalizing src with
  | nil =>
    unfold adviceOn
    cases src.rateAdaptation with
    | none => rfl
    | some adaptation => cases src.rateControl <;> rfl
  | cons call calls ih =>
    have hcons : (outputs (ReportingSource.call getRateAdaptAdvice) src
        (call :: calls)).reduceOption = (src.call getRateAdaptAdvice call).1.toList ++
          adviceOn getRateAdaptAdvice (src.call getRateAdaptAdvice call).2
            (reportsOf (src.call getRateAdaptAdvice call).2.sink calls) := by
      rw [← ih, outputs]
      cases (src.call getRateAdaptAdvice call).1 <;> rfl
    rw [hcons]
    obtain ⟨self, rateAdaptation, rateControl, sink, last⟩ := src
    cases call with
    | setRTPSink => rfl
    | processReceiverReports transmissionStats =>
      cases rateAdaptation with
      | none => rfl
      | some adaptation =>
        cases sink with
        | false => rfl
        | true =>
          cases transmissionStats with
          | nil => rfl
          | cons stats rest =>
            by_cases hsame : last = stats.lastPacketNumReceived
            · simp [ReportingSource.call, ReportingSource.processReceiverReports, reportsOf,
                adviceOn, freshReports, hsame]
            · cases rateControl with
              | false =>
                simp [ReportingSource.call, ReportingSource.processReceiverReports, adviceOn, hsame]
              | true =>
                simp [ReportingSource.call, ReportingSource.processReceiverReports, reportsOf,
                  adviceOn, freshReports, outputs, hsame]

/-- A source without advice is the next one that the subsession constructs. -/
theorem Distinct.created {p t : ReportingServer σ δ} (h : Distinct p) {mediaSubsession : ℕ}
    (hstep : p.step getRateAdaptAdvice settings scheduler (.createSource mediaSubsession) = .ok t) :
    ∃ sub, p.subsessions mediaSubsession = some sub ∧
      Tracked (mediaSubsession, sub.nextSource) (.createNew settings sub.kind sub.nextSource) [] t := by
  obtain ⟨sub, hsub, hsubsessions, hadvised⟩ := callSubsession_ok hstep
  refine ⟨sub, hsub, ⟨_, by rw [hsubsessions, Function.update_self], ?_⟩, createNew_self _ _, ?_⟩
  · exact List.mem_append_right _ (List.mem_singleton_self _)
  · rw [adviceOf_append hadvised, List.filterMap_nil, List.append_nil]
    unfold adviceOf
    rw [List.filterMap_eq_nil_iff]
    intro advice hadvice
    refine if_neg fun hsame => ?_
    obtain ⟨sub', hsub', hlt⟩ := h.advised advice hadvice
    rw [hsame] at hsub' hlt
    obtain rfl : sub' = sub := Option.some.inj (hsub'.symm.trans hsub)
    exact absurd hlt (lt_irrefl _)

/-- While its client stays, the advice that a source passes on is what a fresh adaptation of its own
says to those of its own client's reports that are news, however the other clients come and go and
whatever they report. Sources of audio never pass on any. -/
theorem own_reports_only (getRateAdaptAdvice : σ → RtpTransmissionStats → δ × σ)
    (settings : RateSettings σ) (scheduler : LiveSourceTaskScheduler0)
    (kinds : ℕ → Option SubsessionKind) (mediaSubsession : ℕ) (before after : List ReportEvent)
    (m t : ReportingServer σ δ)
    (hbefore : Execution.run (ReportingServer.step getRateAdaptAdvice settings scheduler)
      (.opened kinds) before = .ok m)
    (hafter : Execution.run (ReportingServer.step getRateAdaptAdvice settings scheduler) m
      (.createSource mediaSubsession :: after) = .ok t) :
    ∃ sub, m.subsessions mediaSubsession = some sub ∧
      (.destroySource mediaSubsession sub.nextSource ∉ after →
        adviceOf (mediaSubsession, sub.nextSource) t =
          adviceOn getRateAdaptAdvice (.createNew settings sub.kind sub.nextSource) (reportsOf false
            (after.flatMap (ownCalls scheduler (mediaSubsession, sub.nextSource))))) := by
  have hm : Distinct m :=
    run_invariant (opened_distinct kinds) (fun _ _ _ hp hstep => hp.step hstep) hbefore
  rw [← List.singleton_append] at hafter
  obtain ⟨m', hm', hrest⟩ := run_prefix_ok hafter
  rw [run_singleton] at hm'
  obtain ⟨sub, hsub, hnew⟩ := hm.created hm'
  refine ⟨sub, hsub, fun hstays => ?_⟩
  have hadvice := (hnew.run (hm.step hm') hstays hrest).advice
  have hsink : (ReportingSource.createNew settings sub.kind sub.nextSource).sink = false := by
    cases sub.kind <;> rfl
  rw [advice_of_calls, hsink, List.nil_append] at hadvice
  exact hadvice

end Advice

/-- The simple rate adaptation looks at one field of the report. -/
def simpleAdvice (s : Rates.SimpleRateAdaptation) (stats : RtpTransmissionStats) :
    Rates.SwitchDirection × Rates.SimpleRateAdaptation :=
  s.getRateAdaptAdvice stats.lastPacketNumReceived

/-- The server of the application, with a rate control. -/
def simpleSettings : RateSettings Rates.SimpleRateAdaptation := ⟨some .create, true⟩

def testKinds : ℕ → Option SubsessionKind
  | 0 => some (.h264 "" "")
  | 1 => some (.amr 1 8 8000)
  | _ => none

def testRegistry : LiveSourceTaskScheduler0 :=
  ⟨(∅ : Std.ExtTreeMap ℕ (Std.ExtTreeMap ℕ ℕ)).insert 7
    (((∅ : Std.ExtTreeMap ℕ ℕ).insert 0 0).insert 1 1)⟩

def report (packetNum : UInt32) : List RtpTransmissionStats := [⟨packetNum, 0, 0, 0, 0, 0, 0⟩]

def firstViewer : List ReportEvent :=
  [.createSource 0, .setRTPSink 0 0, .processLiveMediaSessions fun _ _ => report 5]

/-- The second viewer reports the same twice, and a listener comes. -/
def secondViewer : List ReportEvent :=
  [.setRTPSink 0 1, .processLiveMediaSessions fun _ _ => report 9, .createSource 1,
    .setRTPSink 1 0, .processLiveMediaSessions fun _ _ => report 9]

theorem viewers_run : ∃ t,
    Execution.run (ReportingServer.step simpleAdvice simpleSettings testRegistry)
      (.opened testKinds) (firstViewer ++ .createSource 0 :: secondViewer) = .ok t := by
  have hok : (Execution.run (ReportingServer.step simpleAdvice simpleSettings testRegistry)
      (.opened testKinds) (firstViewer ++ .createSource 0 :: secondViewer)).isOk = true := by
    decide +kernel
  cases h : Execution.run (ReportingServer.step simpleAdvice simpleSettings testRegistry)
      (.opened testKinds) (firstViewer ++ .createSource 0 :: secondViewer) with
  | error f => simp [h, Except.isOk, Except.toBool] at hok
  | ok t => exact ⟨t, rfl⟩

theorem own_reports_only_second : ∃ m t sub,
    Execution.run (ReportingServer.step simpleAdvice simpleSettings testRegistry)
      (.opened testKinds) firstViewer = .ok m ∧
    Execution.run (ReportingServer.step simpleAdvice simpleSettings testRegistry) m
      (.createSource 0 :: secondViewer) = .ok t ∧
    m.subsessions 0 = some sub ∧
    adviceOf (0, sub.nextSource) t =
      adviceOn simpleAdvice (.createNew simpleSettings sub.kind sub.nextSource) (reportsOf false
        (secondViewer.flatMap (ownCalls testRegistry (0, sub.nextSource)))) := by
  obtain ⟨t, h⟩ := viewers_run
  obtain ⟨m, hbefore, hafter⟩ := run_prefix_ok h
  obtain ⟨sub, hsub, hadvice⟩ := own_reports_only simpleAdvice simpleSettings testRegistry
    testKinds 0 firstViewer secondViewer m t hbefore hafter
  exact ⟨m, t, sub, hbefore, hafter, hsub, hadvice (by simp [secondViewer])⟩

end LiveMediaExt.System
