import LiveMediaExt.EventLoopTurn
import LiveMediaExt.Stuttering

/-!
# Receiver reports

Once a second the scheduler has every subsession process the receiver reports of its clients. A
source that has a rate adaptation of its own passes the advice on to the rate control, which all
sources share. What one client's adaptation is told does not depend on the other clients.
-/
namespace LiveMediaExt.System
open Execution Stuttering Subsession Scheduler

structure RtpTransmissionStats where
  lastPacketNumReceived : UInt32
  firstPacketNumReported : UInt32
  totalPacketsLost : UInt32
  jitter : UInt32
  lastSrTime : UInt32
  diffSrRr : UInt32
  rtt : UInt32
  deriving DecidableEq

/-- What the sources of the server are constructed with: the instances that the factory returns, if
there is one, and whether there is a rate control. -/
structure RateSettings (σ : Type) where
  factory : Option σ
  globalRateControl : Bool

/-- The members of a source that deal with receiver reports. -/
structure ReportingSource (σ : Type) where
  self : ℕ
  rateAdaptation : Option σ
  rateControl : Bool
  sink : Bool
  lastPacketNumReceived : UInt32
  deriving DecidableEq

inductive SourceCall
  | setRTPSink
  | processReceiverReports (transmissionStats : List RtpTransmissionStats)

namespace ReportingSource
variable {σ δ : Type}

/-- Only the H.264 subsession passes on what it is given. -/
def createNew (settings : RateSettings σ) (kind : SubsessionKind) (self : ℕ) : ReportingSource σ :=
  match kind with
  | .h264 .. => ⟨self, settings.factory, settings.globalRateControl, false, 0⟩
  | .amr .. => ⟨self, none, false, false, 0⟩
  | .aac .. => ⟨self, none, false, false, 0⟩

/-- The first record of the sink's database, and the advice for the rate control. -/
def processReceiverReports (getRateAdaptAdvice : σ → RtpTransmissionStats → δ × σ)
    (transmissionStats : List RtpTransmissionStats) (src : ReportingSource σ) :
    Option δ × ReportingSource σ :=
  match src.rateAdaptation, src.sink, transmissionStats with
  | some adaptation, true, stats :: _ =>
    if src.lastPacketNumReceived = stats.lastPacketNumReceived then (none, src)
    else
      let answer := getRateAdaptAdvice adaptation stats
      (if src.rateControl then some answer.1 else none,
        { src with
          rateAdaptation := some answer.2
          lastPacketNumReceived := stats.lastPacketNumReceived })
  | _, _, _ => (none, src)

def call (getRateAdaptAdvice : σ → RtpTransmissionStats → δ × σ) (src : ReportingSource σ) :
    SourceCall → Option δ × ReportingSource σ
  | .setRTPSink => (none, { src with sink := true })
  | .processReceiverReports transmissionStats =>
    src.processReceiverReports getRateAdaptAdvice transmissionStats

end ReportingSource

structure ReportingSubsession (σ : Type) where
  kind : SubsessionKind
  deviceSources : List (ReportingSource σ)
  nextSource : ℕ

/-- The subsessions by their addresses, and the calls of `controlBitrate` with the source that each
came from. -/
structure ReportingServer (σ δ : Type) where
  subsessions : ℕ → Option (ReportingSubsession σ)
  advised : List ((ℕ × ℕ) × δ)

inductive ReportEvent
  | createSource (mediaSubsession : ℕ)
  | setRTPSink (mediaSubsession source : ℕ)
  | destroySource (mediaSubsession source : ℕ)
  | processLiveMediaSessions (world : ℕ → ℕ → List RtpTransmissionStats)

/-- The registered subsessions in the order of the maps. -/
def registeredSubsessions (scheduler : LiveSourceTaskScheduler0) : List ℕ :=
  scheduler.mediaSessions.toList.flatMap fun entry => entry.2.toList.map Prod.snd

section Model
variable {σ δ : Type} (getRateAdaptAdvice : σ → RtpTransmissionStats → δ × σ)
  (settings : RateSettings σ) (scheduler : LiveSourceTaskScheduler0)

namespace ReportingSubsession

def createNewStreamSource (sub : ReportingSubsession σ) : ReportingSubsession σ :=
  { sub with
    deviceSources := sub.deviceSources ++ [.createNew settings sub.kind sub.nextSource]
    nextSource := sub.nextSource + 1 }

def removeDeviceSource (source : ℕ) (sub : ReportingSubsession σ) : ReportingSubsession σ :=
  { sub with deviceSources := sub.deviceSources.eraseP fun src => src.self == source }

def setRTPSink (source : ℕ) (sub : ReportingSubsession σ) : ReportingSubsession σ :=
  { sub with
    deviceSources := sub.deviceSources.map fun src =>
      if src.self = source then { src with sink := true } else src }

/-- The sources one after another; none of them touches another one. -/
def processClientStatistics (mediaSubsession : ℕ) (world : ℕ → List RtpTransmissionStats)
    (sub : ReportingSubsession σ) : List ((ℕ × ℕ) × δ) × ReportingSubsession σ :=
  (sub.deviceSources.filterMap fun src =>
      (src.processReceiverReports getRateAdaptAdvice (world src.self)).1.map fun advice =>
        ((mediaSubsession, src.self), advice),
    { sub with
      deviceSources := sub.deviceSources.map fun src =>
        (src.processReceiverReports getRateAdaptAdvice (world src.self)).2 })

end ReportingSubsession

namespace ReportingServer

/-- The server with subsessions of these kinds and without clients. -/
def opened (kinds : ℕ → Option SubsessionKind) : ReportingServer σ δ where
  subsessions mediaSubsession := (kinds mediaSubsession).map fun kind => ⟨kind, [], 0⟩
  advised := []

/-- A call of a subsession, which may have more calls of the rate control made. -/
def callSubsession (mediaSubsession : ℕ)
    (f : ReportingSubsession σ → List ((ℕ × ℕ) × δ) × ReportingSubsession σ)
    (p : ReportingServer σ δ) : Except SystemFault (ReportingServer σ δ) :=
  match p.subsessions mediaSubsession with
  | none => .error .danglingPointer
  | some sub =>
    .ok {
      subsessions := Function.update p.subsessions mediaSubsession (some (f sub).2)
      advised := p.advised ++ (f sub).1 }

def processLiveMediaSessions (world : ℕ → ℕ → List RtpTransmissionStats)
    (p : ReportingServer σ δ) : Except SystemFault (ReportingServer σ δ) :=
  run (fun p mediaSubsession => p.callSubsession mediaSubsession
      (ReportingSubsession.processClientStatistics getRateAdaptAdvice mediaSubsession
        (world mediaSubsession)))
    p (registeredSubsessions scheduler)

def step (p : ReportingServer σ δ) : ReportEvent → Except SystemFault (ReportingServer σ δ)
  | .createSource mediaSubsession =>
    p.callSubsession mediaSubsession fun sub => ([], sub.createNewStreamSource settings)
  | .setRTPSink mediaSubsession source =>
    p.callSubsession mediaSubsession fun sub => ([], sub.setRTPSink source)
  | .destroySource mediaSubsession source =>
    p.callSubsession mediaSubsession fun sub => ([], sub.removeDeviceSource source)
  | .processLiveMediaSessions world =>
    p.processLiveMediaSessions getRateAdaptAdvice scheduler world

end ReportingServer

end Model

/-- The advice that one source has passed on. -/
def adviceOf {σ δ : Type} (key : ℕ × ℕ) (p : ReportingServer σ δ) : List δ :=
  p.advised.filterMap fun advice => if advice.1 = key then some advice.2 else none

section Sources
variable {σ δ : Type} {getRateAdaptAdvice : σ → RtpTransmissionStats → δ × σ}
  {settings : RateSettings σ} {scheduler : LiveSourceTaskScheduler0}
  {p t : ReportingServer σ δ} {key : ℕ × ℕ} {src : ReportingSource σ} {advice : List δ}

theorem adviceOf_append {advised : List ((ℕ × ℕ) × δ)}
    (h : t.advised = p.advised ++ advised) :
    adviceOf key t = adviceOf key p ++
      advised.filterMap fun advice => if advice.1 = key then some advice.2 else none := by
  unfold adviceOf
  rw [h, List.filterMap_append]

/-- What other sources pass on does not count. -/
theorem adviceOf_eq {advised : List ((ℕ × ℕ) × δ)} (h : t.advised = p.advised ++ advised)
    (hother : ∀ advice ∈ advised, advice.1 ≠ key) : adviceOf key t = adviceOf key p := by
  have hnone : advised.filterMap
      (fun advice => if advice.1 = key then some advice.2 else none) = [] :=
    List.filterMap_eq_nil_iff.mpr fun advice hadvice => if_neg (hother advice hadvice)
  rw [adviceOf_append h, hnone, List.append_nil]

/-- No two sources of a subsession are the same, and only sources that were created have passed on
advice. -/
structure Distinct (p : ReportingServer σ δ) : Prop where
  sources : ∀ mediaSubsession sub, p.subsessions mediaSubsession = some sub →
    (sub.deviceSources.map ReportingSource.self).Nodup ∧
      ∀ src ∈ sub.deviceSources, src.self < sub.nextSource
  advised : ∀ advice ∈ p.advised, ∃ sub, p.subsessions advice.1.1 = some sub ∧
    advice.1.2 < sub.nextSource

theorem opened_distinct (kinds : ℕ → Option SubsessionKind) :
    Distinct (ReportingServer.opened kinds : ReportingServer σ δ) where
  sources := by
    intro mediaSubsession sub hsub
    obtain ⟨kind, -, rfl⟩ := Option.map_eq_some_iff.mp hsub
    exact ⟨List.nodup_nil, by simp⟩
  advised := by simp [ReportingServer.opened]

/-- What a call may do to the subsession it is made of. -/
structure Regular (mediaSubsession : ℕ) (sub : ReportingSubsession σ)
    (result : List ((ℕ × ℕ) × δ) × ReportingSubsession σ) : Prop where
  nodup : (sub.deviceSources.map ReportingSource.self).Nodup →
    (∀ src ∈ sub.deviceSources, src.self < sub.nextSource) →
    (result.2.deviceSources.map ReportingSource.self).Nodup ∧
      ∀ src ∈ result.2.deviceSources, src.self < result.2.nextSource
  nextSource : sub.nextSource ≤ result.2.nextSource
  kept : ∀ src ∈ result.2.deviceSources, (∃ src' ∈ sub.deviceSources, src'.self = src.self) ∨
    (src.self = sub.nextSource ∧ sub.nextSource < result.2.nextSource)
  advised : ∀ advice ∈ result.1, advice.1.1 = mediaSubsession ∧
    ∃ src ∈ sub.deviceSources, src.self = advice.1.2

theorem callSubsession_ok {mediaSubsession : ℕ}
    {f : ReportingSubsession σ → List ((ℕ × ℕ) × δ) × ReportingSubsession σ}
    (h : p.callSubsession mediaSubsession f = .ok t) :
    ∃ sub, p.subsessions mediaSubsession = some sub ∧
      t.subsessions = Function.update p.subsessions mediaSubsession (some (f sub).2) ∧
      t.advised = p.advised ++ (f sub).1 := by
  unfold ReportingServer.callSubsession at h
  split at h
  · cases h
  · next sub hsub =>
    obtain rfl := Except.ok.inj h
    exact ⟨sub, hsub, rfl, rfl⟩

theorem Distinct.callSubsession (hp : Distinct p) {mediaSubsession : ℕ}
    {f : ReportingSubsession σ → List ((ℕ × ℕ) × δ) × ReportingSubsession σ}
    (hf : ∀ sub, Regular mediaSubsession sub (f sub))
    (h : p.callSubsession mediaSubsession f = .ok t) : Distinct t := by
  obtain ⟨sub, hsub, hsubsessions, hadvised⟩ := callSubsession_ok h
  obtain ⟨hnodup, hbelow⟩ := hp.sources _ _ hsub
  constructor
  · intro other sub' hsub'
    rw [hsubsessions] at hsub'
    by_cases hsame : other = mediaSubsession
    · subst hsame
      rw [Function.update_self] at hsub'
      obtain rfl := Option.some.inj hsub'
      exact (hf sub).nodup hnodup hbelow
    · rw [Function.update_of_ne hsame] at hsub'
      exact hp.sources _ _ hsub'
  · intro advice hadvice
    rw [hadvised, List.mem_append] at hadvice
    rw [hsubsessions]
    rcases hadvice with hold | hnew
    · obtain ⟨sub', hsub', hlt⟩ := hp.advised advice hold
      by_cases hsame : advice.1.1 = mediaSubsession
      · rw [hsame] at hsub' ⊢
        obtain rfl : sub' = sub := Option.some.inj (hsub'.symm.trans hsub)
        exact ⟨_, Function.update_self .., hlt.trans_le (hf sub').nextSource⟩
      · exact ⟨sub', by rw [Function.update_of_ne hsame, hsub'], hlt⟩
    · obtain ⟨hsame, src, hsrc, hself⟩ := (hf sub).advised advice hnew
      rw [hsame, ← hself]
      exact ⟨_, Function.update_self .., (hbelow src hsrc).trans_le (hf sub).nextSource⟩

theorem processReceiverReports_self (transmissionStats : List RtpTransmissionStats)
    (src : ReportingSource σ) :
    (src.processReceiverReports getRateAdaptAdvice transmissionStats).2.self = src.self := by
  unfold ReportingSource.processReceiverReports
  split
  · dsimp only
    split_ifs
    all_goals rfl
  · rfl

/-- The same record twice is no new information. -/
theorem processReceiverReports_again (transmissionStats : List RtpTransmissionStats)
    (src : ReportingSource σ) :
    (src.processReceiverReports getRateAdaptAdvice transmissionStats).2.processReceiverReports
        getRateAdaptAdvice transmissionStats =
      (none, (src.processReceiverReports getRateAdaptAdvice transmissionStats).2) := by
  obtain ⟨self, rateAdaptation, rateControl, sink, last⟩ := src
  cases rateAdaptation with
  | none => rfl
  | some adaptation =>
    cases sink with
    | false => rfl
    | true =>
      cases transmissionStats with
      | nil => rfl
      | cons stats rest =>
        by_cases hsame : last = stats.lastPacketNumReceived
        · simp [ReportingSource.processReceiverReports, hsame]
        · simp [ReportingSource.processReceiverReports, hsame]

section Regular
variable (mediaSubsession source : ℕ) (sub : ReportingSubsession σ)

/-- The sources are the same ones in the same order. -/
theorem map_self {f : ReportingSource σ → ReportingSource σ} (hf : ∀ src, (f src).self = src.self)
    (sources : List (ReportingSource σ)) :
    (sources.map f).map ReportingSource.self = sources.map ReportingSource.self := by
  rw [List.map_map]
  exact List.map_congr_left fun src _ => hf src

theorem regular_of_map {f : ReportingSource σ → ReportingSource σ}
    (hf : ∀ src, (f src).self = src.self) {advised : List ((ℕ × ℕ) × δ)}
    (hadvised : ∀ advice ∈ advised, advice.1.1 = mediaSubsession ∧
      ∃ src ∈ sub.deviceSources, src.self = advice.1.2) :
    Regular mediaSubsession sub (advised, { sub with deviceSources := sub.deviceSources.map f }) where
  nodup := by
    intro hnodup hbelow
    refine ⟨?_, fun src hsrc => ?_⟩
    · rw [map_self hf]
      exact hnodup
    · obtain ⟨src', hsrc', rfl⟩ := List.mem_map.mp hsrc
      rw [hf]
      exact hbelow src' hsrc'
  nextSource := le_rfl
  kept := by
    intro src hsrc
    obtain ⟨src', hsrc', rfl⟩ := List.mem_map.mp hsrc
    exact .inl ⟨src', hsrc', (hf src').symm⟩
  advised := hadvised

theorem createNew_self (kind : SubsessionKind) (self : ℕ) :
    (ReportingSource.createNew settings kind self).self = self := by
  cases kind <;> rfl

theorem regular_createNewStreamSource :
    Regular (δ := δ) mediaSubsession sub ([], sub.createNewStreamSource settings) where
  nodup := by
    intro hnodup hbelow
    unfold ReportingSubsession.createNewStreamSource
    dsimp only
    refine ⟨?_, fun src hsrc => ?_⟩
    · rw [List.map_append, List.map_singleton, createNew_self, List.nodup_append]
      refine ⟨hnodup, List.nodup_singleton _, ?_⟩
      intro self hself new hnew
      obtain rfl := List.mem_singleton.mp hnew
      obtain ⟨src, hsrc, rfl⟩ := List.mem_map.mp hself
      exact (hbelow src hsrc).ne
    · rcases List.mem_append.mp hsrc with hsrc | hsrc
      · exact (hbelow src hsrc).trans (Nat.lt_succ_self _)
      · rw [List.mem_singleton.mp hsrc, createNew_self]
        exact Nat.lt_succ_self _
  nextSource := Nat.le_succ _
  kept := by
    intro src hsrc
    rcases List.mem_append.mp hsrc with hsrc | hsrc
    · exact .inl ⟨src, hsrc, rfl⟩
    · rw [List.mem_singleton.mp hsrc]
      exact .inr ⟨createNew_self _ _, Nat.lt_succ_self _⟩
  advised := by simp

theorem regular_setRTPSink : Regular (δ := δ) mediaSubsession sub ([], sub.setRTPSink source) := by
  refine regular_of_map mediaSubsession sub (fun src => ?_) (by simp)
  split_ifs
  all_goals rfl

theorem regular_removeDeviceSource :
    Regular (δ := δ) mediaSubsession sub ([], sub.removeDeviceSource source) where
  nodup := by
    intro hnodup hbelow
    have hsublist : (sub.removeDeviceSource source).deviceSources.Sublist sub.deviceSources :=
      List.eraseP_sublist
    exact ⟨hnodup.sublist (hsublist.map _), fun src hsrc => hbelow src (hsublist.subset hsrc)⟩
  nextSource := le_rfl
  kept := fun src hsrc => .inl ⟨src, List.mem_of_mem_eraseP hsrc, rfl⟩
  advised := by simp

theorem regular_processClientStatistics (world : ℕ → List RtpTransmissionStats) :
    Regular mediaSubsession sub
      (sub.processClientStatistics getRateAdaptAdvice mediaSubsession world) := by
  refine regular_of_map mediaSubsession sub
    (fun src => processReceiverReports_self (world src.self) src) ?_
  intro advice hadvice
  obtain ⟨src, hsrc, hadvice⟩ := List.mem_filterMap.mp hadvice
  obtain ⟨given, -, rfl⟩ := Option.map_eq_some_iff.mp hadvice
  exact ⟨rfl, src, hsrc, rfl⟩

end Regular

/-- One step, over all events. -/
theorem Distinct.step (hp : Distinct p) {e : ReportEvent}
    (h : p.step getRateAdaptAdvice settings scheduler e = .ok t) : Distinct t := by
  cases e with
  | createSource mediaSubsession =>
    exact hp.callSubsession (regular_createNewStreamSource mediaSubsession) h
  | setRTPSink mediaSubsession source =>
    exact hp.callSubsession (regular_setRTPSink mediaSubsession source) h
  | destroySource mediaSubsession source =>
    exact hp.callSubsession (regular_removeDeviceSource mediaSubsession source) h
  | processLiveMediaSessions world =>
    refine run_invariant hp (fun m mediaSubsession m' hm hm' => ?_) h
    exact hm.callSubsession
      (fun sub => regular_processClientStatistics mediaSubsession sub (world mediaSubsession)) hm'

end Sources

end LiveMediaExt.System
