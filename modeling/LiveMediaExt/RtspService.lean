import LiveMediaExt.SessionCreation
import LiveMediaExt.SessionRemoval

/-!
# The RTSP service and its channels

Requests to create or remove a channel come from any thread and only fill two queues; a task of
the event loop applies them. The lock makes each request and each run of the task one step.
-/
namespace LiveMediaExt.Rtsp
open Execution Media Subsession Scheduler

/-- Channels by their id. -/
structure ChannelMap where
  toMap : Std.ExtTreeMap ℕ Channel
  keyed : ∀ (channelId : ℕ) (channel : Channel),
    toMap[channelId]? = some channel → channel.channelId = channelId
  deriving DecidableEq

namespace ChannelMap
variable {m : ChannelMap} {channel : Channel} {channelId : ℕ}

def empty : ChannelMap := ⟨∅, by simp⟩

def find (m : ChannelMap) (channelId : ℕ) : Option Channel := m.toMap[channelId]?

def insert (m : ChannelMap) (channel : Channel) : ChannelMap where
  toMap := m.toMap.insert channel.channelId channel
  keyed := by
    intro channelId other h
    rw [Std.ExtTreeMap.getElem?_insert] at h
    split_ifs at h with hid
    · cases h
      simpa using hid
    · exact m.keyed channelId other h

def erase (m : ChannelMap) (channelId : ℕ) : ChannelMap where
  toMap := m.toMap.erase channelId
  keyed := by
    intro channelId' channel h
    rw [Std.ExtTreeMap.getElem?_erase] at h
    split_ifs at h with hid
    exact m.keyed channelId' channel h

theorem channelId_of_find (h : m.find channelId = some channel) : channel.channelId = channelId :=
  m.keyed channelId channel h

@[simp] theorem find_empty : empty.find channelId = none := by
  simp [empty, find]

theorem find_insert : (m.insert channel).find channelId =
    if channel.channelId = channelId then some channel else m.find channelId := by
  simp [insert, find, Std.ExtTreeMap.getElem?_insert]

theorem find_erase {other : ℕ} :
    (m.erase other).find channelId = if other = channelId then none else m.find channelId := by
  simp [erase, find, Std.ExtTreeMap.getElem?_erase]

end ChannelMap

inductive ErrorCode
  | success
  | fileExists
  | noSuchFileOrDirectory
  deriving DecidableEq, Repr

/-- `environment` stands for the live555 components, which exist between `init` and the end of
the event loop. -/
structure RtspService (β : Type) where
  channels : ChannelMap
  channelsToBeAdded : List Channel
  channelsToBeRemoved : List Channel
  environment : Option (LiveEnvironment β)
  eventloop : Bool
  eventLoopRunning : Bool
  deriving DecidableEq

namespace RtspService
variable {β : Type}

def new : RtspService β where
  channels := .empty
  channelsToBeAdded := []
  channelsToBeRemoved := []
  environment := none
  eventloop := false
  eventLoopRunning := false

/-- The overloads differ in the descriptors that they give the channel. -/
def createChannel (channel : Channel) (s : RtspService β) : ErrorCode × RtspService β :=
  match s.channels.find channel.channelId with
  | some _ => (.fileExists, s)
  | none => (.success, { s with channelsToBeAdded := s.channelsToBeAdded ++ [channel] })

def removeChannel (channelId : ℕ) (s : RtspService β) : ErrorCode × RtspService β :=
  match s.channels.find channelId with
  | some channel =>
    (.success, { s with channelsToBeRemoved := s.channelsToBeRemoved ++ [channel] })
  | none => (.noSuchFileOrDirectory, s)

/-- The body of the first loop of `doCheckChannelsTask`. -/
def removeQueued (channel : Channel) (m : ChannelMap) (env : LiveEnvironment β) :
    Except Fault (ChannelMap × LiveEnvironment β) :=
  if m.find channel.channelId = none then .error .channelMissing
  else .ok (m.erase channel.channelId, env.removeRtspMediaSession channel)

/-- The body of the second loop. -/
def addQueued (channel : Channel) (m : ChannelMap) (env : LiveEnvironment β) :
    Except Fault (ChannelMap × LiveEnvironment β) := do
  let m := m.insert channel
  let env ← env.addRtspMediaSession channel
  return (m, env)

def removeChannels :
    List Channel → ChannelMap → LiveEnvironment β → Except Fault (ChannelMap × LiveEnvironment β)
  | [], m, env => .ok (m, env)
  | channel :: queue, m, env => do
    let (m, env) ← removeQueued channel m env
    removeChannels queue m env

def addChannels :
    List Channel → ChannelMap → LiveEnvironment β → Except Fault (ChannelMap × LiveEnvironment β)
  | [], m, env => .ok (m, env)
  | channel :: queue, m, env => do
    let (m, env) ← addQueued channel m env
    addChannels queue m env

/-- One turn of the second loop as a step, so that the loop is a run. -/
def addStep (s : ChannelMap × LiveEnvironment β) (channel : Channel) :
    Except Fault (ChannelMap × LiveEnvironment β) :=
  addQueued channel s.1 s.2

theorem addChannels_eq_run (queue : List Channel) (m : ChannelMap) (env : LiveEnvironment β) :
    addChannels queue m env = run addStep (m, env) queue := by
  induction queue generalizing m env with
  | nil => rfl
  | cons channel queue ih =>
    cases hadd : addQueued channel m env with
    | error f =>
      have hstep : addStep (m, env) channel = .error f := hadd
      rw [run_cons_error hstep]
      simp [addChannels, hadd, bind, Except.bind]
    | ok p =>
      have hstep : addStep (m, env) channel = .ok p := hadd
      rw [run_cons_ok hstep, ← ih]
      simp [addChannels, hadd, bind, Except.bind]

def doCheckChannelsTask (s : RtspService β) : Except Fault (RtspService β) :=
  match s.environment with
  | none => .error .nullPointer
  | some env => do
    let (m, env) ← removeChannels s.channelsToBeRemoved s.channels env
    let (m, env) ← addChannels s.channelsToBeAdded m env
    return { s with
      channels := m
      channelsToBeAdded := []
      channelsToBeRemoved := []
      environment := some env }

def init (newBuffer : β) (s : RtspService β) : Except Fault (RtspService β) :=
  { s with environment := some (.createNew newBuffer) }.doCheckChannelsTask

/-- The first lines of `live555EventLoop`, which then blocks. -/
def start (s : RtspService β) : Except Fault (RtspService β) :=
  match s.environment with
  | none => .error .nullPointer
  | some _ => .ok { s with eventLoopRunning := true, eventloop := false }

def stop (s : RtspService β) : RtspService β := { s with eventloop := true }

/-- The rest of `live555EventLoop`, once the event loop has seen the stop. -/
def leaveEventLoop (s : RtspService β) : RtspService β :=
  if s.eventLoopRunning && s.eventloop then
    { s with eventLoopRunning := false, environment := none, channels := .empty }
  else s

section Loops
variable {m m' : ChannelMap} {env env' : LiveEnvironment β} {queue : List Channel}

theorem removeQueued_ok {channel : Channel} (h : removeQueued channel m env = .ok (m', env')) :
    m.find channel.channelId ≠ none ∧ m' = m.erase channel.channelId ∧
      env' = env.removeRtspMediaSession channel := by
  unfold removeQueued at h
  split_ifs at h with hfind
  cases h
  exact ⟨hfind, rfl, rfl⟩

theorem addQueued_ok {channel : Channel} (h : addQueued channel m env = .ok (m', env')) :
    m' = m.insert channel ∧ env.addRtspMediaSession channel = .ok env' := by
  obtain ⟨env₁, henv, h⟩ := bind_ok.mp h
  cases h
  exact ⟨rfl, henv⟩

/-- The removals take just the queued ids out of the map. -/
theorem removeChannels_find (h : removeChannels queue m env = .ok (m', env')) (channelId : ℕ) :
    m'.find channelId =
      if channelId ∈ queue.map Channel.channelId then none else m.find channelId := by
  induction queue generalizing m env with
  | nil =>
    cases h
    simp
  | cons channel queue ih =>
    obtain ⟨⟨m₁, env₁⟩, hremove, h⟩ := bind_ok.mp h
    obtain ⟨-, rfl, -⟩ := removeQueued_ok hremove
    rw [ih h, ChannelMap.find_erase, List.map_cons]
    by_cases hid : channelId = channel.channelId
    · simp [hid]
    · simp [hid, Ne.symm hid]

/-- After the additions the map knows what it knew and the queued ids. -/
theorem addChannels_find (h : addChannels queue m env = .ok (m', env')) (channelId : ℕ) :
    m'.find channelId = none ↔
      m.find channelId = none ∧ channelId ∉ queue.map Channel.channelId := by
  induction queue generalizing m env with
  | nil =>
    cases h
    simp
  | cons channel queue ih =>
    obtain ⟨⟨m₁, env₁⟩, hadd, h⟩ := bind_ok.mp h
    obtain ⟨rfl, -⟩ := addQueued_ok hadd
    rw [ih h, ChannelMap.find_insert, List.map_cons, List.mem_cons, not_or]
    by_cases hid : channelId = channel.channelId
    · simp [hid]
    · simp [hid, Ne.symm hid]

end Loops

end RtspService

inductive Request
  | createChannel (channel : Channel)
  | removeChannel (channelId : ℕ)
  | doCheckChannelsTask
  deriving DecidableEq

/-- A service with the requests it has accepted so far and the runs of its task, in order. -/
structure ServiceRun (β : Type) where
  service : RtspService β
  accepted : List Request
  deriving DecidableEq

namespace ServiceRun
variable {β : Type}

def record (request : Request) (result : ErrorCode × RtspService β) (r : ServiceRun β) :
    ServiceRun β where
  service := result.2
  accepted := if result.1 = .success then r.accepted ++ [request] else r.accepted

def requestStep (r : ServiceRun β) : Request → Except Fault (ServiceRun β)
  | .createChannel channel =>
    .ok (r.record (.createChannel channel) (r.service.createChannel channel))
  | .removeChannel channelId =>
    .ok (r.record (.removeChannel channelId) (r.service.removeChannel channelId))
  | .doCheckChannelsTask => do
    let service ← r.service.doCheckChannelsTask
    return ⟨service, r.accepted ++ [.doCheckChannelsTask]⟩

/-- A new service after `init`. -/
def initialised (newBuffer : β) : ServiceRun β where
  service := { RtspService.new (β := β) with environment := some (.createNew newBuffer) }
  accepted := []

theorem init_new (newBuffer : β) :
    (RtspService.new (β := β)).init newBuffer = .ok (initialised newBuffer).service :=
  rfl

section Inversion
variable {r r' : ServiceRun β}

/-- A call of `createChannel` is refused for a known id, else queued. -/
theorem createChannel_step {channel : Channel}
    (h : requestStep r (.createChannel channel) = .ok r') :
    (r.service.channels.find channel.channelId ≠ none ∧ r' = r) ∨
    (r.service.channels.find channel.channelId = none ∧
      r' = ⟨{ r.service with channelsToBeAdded := r.service.channelsToBeAdded ++ [channel] },
        r.accepted ++ [.createChannel channel]⟩) := by
  obtain rfl : r.record (.createChannel channel) (r.service.createChannel channel) = r' :=
    Except.ok.inj h
  cases hfind : r.service.channels.find channel.channelId with
  | some old =>
    refine .inl ⟨by simp, ?_⟩
    simp [record, RtspService.createChannel, hfind]
  | none =>
    refine .inr ⟨rfl, ?_⟩
    simp [record, RtspService.createChannel, hfind]

/-- A call of `removeChannel` queues the channel as it is known. -/
theorem removeChannel_step {channelId : ℕ}
    (h : requestStep r (.removeChannel channelId) = .ok r') :
    (r.service.channels.find channelId = none ∧ r' = r) ∨
    ∃ channel, r.service.channels.find channelId = some channel ∧
      r' = ⟨{ r.service with channelsToBeRemoved := r.service.channelsToBeRemoved ++ [channel] },
        r.accepted ++ [.removeChannel channelId]⟩ := by
  obtain rfl : r.record (.removeChannel channelId) (r.service.removeChannel channelId) = r' :=
    Except.ok.inj h
  cases hfind : r.service.channels.find channelId with
  | none =>
    refine .inl ⟨rfl, ?_⟩
    simp [record, RtspService.removeChannel, hfind]
  | some channel =>
    refine .inr ⟨channel, rfl, ?_⟩
    simp [record, RtspService.removeChannel, hfind]

/-- The task empties the removal queue first, then the queue of additions. -/
theorem doCheckChannelsTask_step (h : requestStep r .doCheckChannelsTask = .ok r') :
    ∃ env m₁ env₁ m₂ env₂, r.service.environment = some env ∧
      RtspService.removeChannels r.service.channelsToBeRemoved r.service.channels env =
        .ok (m₁, env₁) ∧
      RtspService.addChannels r.service.channelsToBeAdded m₁ env₁ = .ok (m₂, env₂) ∧
      r' = ⟨{ r.service with
          channels := m₂
          channelsToBeAdded := []
          channelsToBeRemoved := []
          environment := some env₂ }, r.accepted ++ [.doCheckChannelsTask]⟩ := by
  obtain ⟨service, hservice, h⟩ := bind_ok.mp h
  cases h
  unfold RtspService.doCheckChannelsTask at hservice
  cases henv : r.service.environment with
  | none => simp [henv] at hservice
  | some env =>
    rw [henv] at hservice
    obtain ⟨⟨m₁, env₁⟩, hremove, hservice⟩ := bind_ok.mp hservice
    obtain ⟨⟨m₂, env₂⟩, hadd, hservice⟩ := bind_ok.mp hservice
    cases hservice
    exact ⟨env, m₁, env₁, m₂, env₂, rfl, hremove, hadd, rfl⟩

end Inversion

end ServiceRun

end LiveMediaExt.Rtsp
