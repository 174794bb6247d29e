import LiveMediaExt.ChannelRequests

/-!
# Restarting the service

`init` and `start` open a session of the event loop; the loop ends after a `stop`. Requests come
at any time, the task runs in `init` and then while the loop is running. The end of the loop
clears the map of channels and neither of the queues.
-/
namespace LiveMediaExt.Rtsp
open Execution Media ServiceRun

/-- `request` stands for a call of the application or for a run of the task by the loop. -/
inductive LifecycleEvent (β : Type)
  | init (newBuffer : β)
  | start
  | stop
  | leaveEventLoop
  | request (request : Request)
  deriving DecidableEq

namespace ServiceRun
variable {β : Type}

def fresh : ServiceRun β := ⟨.new, []⟩

def lifecycleStep (r : ServiceRun β) : LifecycleEvent β → Except Fault (ServiceRun β)
  | .init newBuffer => do
    let service ← r.service.init newBuffer
    return ⟨service, r.accepted ++ [.doCheckChannelsTask]⟩
  | .start => do
    let service ← r.service.start
    return { r with service := service }
  | .stop => .ok { r with service := r.service.stop }
  | .leaveEventLoop => .ok { r with service := r.service.leaveEventLoop }
  | .request .doCheckChannelsTask =>
    if r.service.eventLoopRunning then requestStep r .doCheckChannelsTask else .ok r
  | .request request => requestStep r request

end ServiceRun

section Waiting
variable {β : Type} {r r' : ServiceRun β}

def waitingStep (waiting : List Request) : Request → List Request
  | .doCheckChannelsTask => []
  | request => waiting ++ [request]

/-- The requests that the task has not seen yet. -/
def sinceLastTask (accepted : List Request) : List Request := accepted.foldl waitingStep []

theorem sinceLastTask_snoc (accepted : List Request) (request : Request) :
    sinceLastTask (accepted ++ [request]) = waitingStep (sinceLastTask accepted) request := by
  simp [sinceLastTask]

theorem task_notMem_sinceLastTask (accepted : List Request) :
    .doCheckChannelsTask ∉ sinceLastTask accepted := by
  induction accepted using List.reverseRecOn with
  | nil => simp [sinceLastTask]
  | append_singleton accepted request ih =>
    rw [sinceLastTask_snoc]
    cases request with
    | createChannel channel => simp [waitingStep, ih]
    | removeChannel channelId => simp [waitingStep, ih]
    | doCheckChannelsTask => simp [waitingStep]

def Request.created : Request → Option Channel
  | .createChannel channel => some channel
  | _ => none

def Request.removed : Request → Option ℕ
  | .removeChannel channelId => some channelId
  | _ => none

/-- The queues hold the requests accepted since the task last ran, in their order. -/
structure QueuesMatch (r : ServiceRun β) : Prop where
  additions : r.service.channelsToBeAdded =
    (sinceLastTask r.accepted).filterMap Request.created
  removals : r.service.channelsToBeRemoved.map Channel.channelId =
    (sinceLastTask r.accepted).filterMap Request.removed

theorem fresh_queuesMatch : QueuesMatch (fresh (β := β)) where
  additions := rfl
  removals := rfl

theorem requestStep_queuesMatch {request : Request} (h : QueuesMatch r)
    (hstep : requestStep r request = .ok r') : QueuesMatch r' := by
  cases request with
  | createChannel channel =>
    rcases createChannel_step hstep with ⟨-, rfl⟩ | ⟨-, rfl⟩
    · exact h
    · constructor
      · simp [sinceLastTask_snoc, waitingStep, h.additions, Request.created]
      · simp [sinceLastTask_snoc, waitingStep, h.removals, Request.removed]
  | removeChannel channelId =>
    rcases removeChannel_step hstep with ⟨-, rfl⟩ | ⟨channel, hfind, rfl⟩
    · exact h
    · have hid : channel.channelId = channelId := ChannelMap.channelId_of_find hfind
      constructor
      · simp [sinceLastTask_snoc, waitingStep, h.additions, Request.created]
      · simp [sinceLastTask_snoc, waitingStep, h.removals, Request.removed, hid]
  | doCheckChannelsTask =>
    obtain ⟨env, m₁, env₁, m₂, env₂, -, -, -, rfl⟩ := doCheckChannelsTask_step hstep
    constructor
    · simp [sinceLastTask_snoc, waitingStep]
    · simp [sinceLastTask_snoc, waitingStep]

/-- Starting, stopping and leaving the loop touch neither the queues nor the record. -/
theorem QueuesMatch.of_eq (h : QueuesMatch r)
    (hadded : r'.service.channelsToBeAdded = r.service.channelsToBeAdded)
    (hremoved : r'.service.channelsToBeRemoved = r.service.channelsToBeRemoved)
    (haccepted : r'.accepted = r.accepted) : QueuesMatch r' where
  additions := by rw [hadded, haccepted, h.additions]
  removals := by rw [hremoved, haccepted, h.removals]

theorem leaveEventLoop_queues (s : RtspService β) :
    s.leaveEventLoop.channelsToBeAdded = s.channelsToBeAdded ∧
      s.leaveEventLoop.channelsToBeRemoved = s.channelsToBeRemoved := by
  unfold RtspService.leaveEventLoop
  split_ifs
  · exact ⟨rfl, rfl⟩
  · exact ⟨rfl, rfl⟩

theorem start_ok {s s' : RtspService β} (h : s.start = .ok s') :
    s.environment ≠ none ∧ s' = { s with eventLoopRunning := true, eventloop := false } := by
  unfold RtspService.start at h
  cases henv : s.environment with
  | none => simp [henv] at h
  | some env =>
    rw [henv] at h
    cases h
    simp

theorem lifecycleStep_queuesMatch {event : LifecycleEvent β} (h : QueuesMatch r)
    (hstep : lifecycleStep r event = .ok r') : QueuesMatch r' := by
  cases event with
  | init newBuffer =>
    let r₁ : ServiceRun β :=
      { r with service := { r.service with environment := some (.createNew newBuffer) } }
    have hinit : QueuesMatch r₁ := h.of_eq rfl rfl rfl
    have htask : requestStep r₁ .doCheckChannelsTask = .ok r' := hstep
    exact requestStep_queuesMatch hinit htask
  | start =>
    obtain ⟨service, hservice, hstep⟩ := bind_ok.mp hstep
    obtain ⟨-, rfl⟩ := start_ok hservice
    cases hstep
    exact h.of_eq rfl rfl rfl
  | stop =>
    cases hstep
    exact h.of_eq rfl rfl rfl
  | leaveEventLoop =>
    cases hstep
    obtain ⟨hadded, hremoved⟩ := leaveEventLoop_queues r.service
    exact h.of_eq hadded hremoved rfl
  | request request =>
    cases request with
    | createChannel channel =>
      have hrequest : requestStep r (.createChannel channel) = .ok r' := hstep
      exact requestStep_queuesMatch h hrequest
    | removeChannel channelId =>
      have hrequest : requestStep r (.removeChannel channelId) = .ok r' := hstep
      exact requestStep_queuesMatch h hrequest
    | doCheckChannelsTask =>
      unfold lifecycleStep at hstep
      split_ifs at hstep with hrunning
      · exact requestStep_queuesMatch h hstep
      · cases hstep
        exact h

theorem run_queuesMatch {events : List (LifecycleEvent β)}
    (h : run lifecycleStep fresh events = .ok r) : QueuesMatch r :=
  run_invariant fresh_queuesMatch (fun _ _ _ hm ht => lifecycleStep_queuesMatch hm ht) h

theorem QueuesMatch.nothing_waits_iff (h : QueuesMatch r) :
    sinceLastTask r.accepted = [] ↔
      r.service.channelsToBeAdded = [] ∧ r.service.channelsToBeRemoved = [] := by
  have hadditions := h.additions
  have hremovals := h.removals
  constructor
  · intro hnone
    rw [hnone] at hadditions hremovals
    exact ⟨hadditions, List.map_eq_nil_iff.mp hremovals⟩
  · rintro ⟨hadded, hremoved⟩
    rw [hadded, eq_comm, List.filterMap_eq_nil_iff] at hadditions
    rw [hremoved, List.map_nil, eq_comm, List.filterMap_eq_nil_iff] at hremovals
    rw [List.eq_nil_iff_forall_not_mem]
    intro request hmem
    cases request with
    | createChannel channel => simpa [Request.created] using hadditions _ hmem
    | removeChannel channelId => simpa [Request.removed] using hremovals _ hmem
    | doCheckChannelsTask => exact task_notMem_sinceLastTask r.accepted hmem

end Waiting

section Restart
variable {β : Type} {r : ServiceRun β} {event : LifecycleEvent β}

/-- The service is as a new one, and the next `init` adds and removes no channel. -/
def LeftFresh (s : RtspService β) : Prop :=
  s.channels = .empty ∧ s.channelsToBeAdded = [] ∧ s.channelsToBeRemoved = [] ∧
    ∀ newBuffer, s.init newBuffer = .ok { s with environment := some (.createNew newBuffer) }

/-- The event ends a running loop that has been told to stop. -/
def EndsLoop (r : ServiceRun β) (event : LifecycleEvent β) : Prop :=
  event = .leaveEventLoop ∧ r.service.eventLoopRunning = true ∧ r.service.eventloop = true

def LeavesFresh (r : ServiceRun β) (event : LifecycleEvent β) : Prop :=
  EndsLoop r event → LeftFresh r.service.leaveEventLoop

/-- The loop ends with no accepted request that the task has not seen. -/
def NothingWaits (r : ServiceRun β) (event : LifecycleEvent β) : Prop :=
  EndsLoop r event → sinceLastTask r.accepted = []

theorem leaveEventLoop_channels (h : EndsLoop r event) :
    r.service.leaveEventLoop.channels = .empty := by
  obtain ⟨-, hrunning, hstopped⟩ := h
  simp [RtspService.leaveEventLoop, hrunning, hstopped]

/-- With empty queues the task of `init` changes nothing. -/
theorem init_of_queues_nil {s : RtspService β} (hadded : s.channelsToBeAdded = [])
    (hremoved : s.channelsToBeRemoved = []) (newBuffer : β) :
    s.init newBuffer = .ok { s with environment := some (.createNew newBuffer) } := by
  simp [RtspService.init, RtspService.doCheckChannelsTask, RtspService.removeChannels,
    RtspService.addChannels, hadded, hremoved, bind, Except.bind, pure, Except.pure]

theorem leavesFresh_iff (h : QueuesMatch r) (event : LifecycleEvent β) :
    LeavesFresh r event ↔ NothingWaits r event := by
  obtain ⟨hadded, hremoved⟩ := leaveEventLoop_queues r.service
  refine forall_congr' fun hends => ?_
  rw [h.nothing_waits_iff, ← hadded, ← hremoved]
  constructor
  · rintro ⟨-, haddedNil, hremovedNil, -⟩
    exact ⟨haddedNil, hremovedNil⟩
  · rintro ⟨haddedNil, hremovedNil⟩
    exact ⟨leaveEventLoop_channels hends, haddedNil, hremovedNil,
      init_of_queues_nil haddedNil hremovedNil⟩

/-- Every end of the loop leaves the service as a new one exactly when at every end the task has
seen all accepted requests. -/
theorem left_fresh_iff (events : List (LifecycleEvent β)) :
    Along lifecycleStep (fun _ r event => LeavesFresh r event) fresh events ↔
      Along lifecycleStep (fun _ r event => NothingWaits r event) fresh events := by
  refine along_congr fun before r event hrun => ?_
  have hmatch : QueuesMatch r := run_queuesMatch hrun
  exact leavesFresh_iff hmatch event

/-- A channel requested just before the stop outlives the session, and the next `init` creates
it. -/
theorem channel_outlives_session :
    (∃ r : ServiceRun Unit,
      run lifecycleStep fresh [.init (), .start,
        .request (.createChannel (videoChannel 7 "a" "H264")), .stop] = .ok r ∧
      EndsLoop r .leaveEventLoop ∧ ¬ LeftFresh r.service.leaveEventLoop) ∧
    ∃ r : ServiceRun Unit,
      run lifecycleStep fresh [.init (), .start,
        .request (.createChannel (videoChannel 7 "a" "H264")), .stop, .leaveEventLoop,
        .init ()] = .ok r ∧
      r.service.channels.find 7 = some (videoChannel 7 "a" "H264") := by
  refine ⟨⟨_, rfl, ⟨rfl, rfl, rfl⟩, ?_⟩, _, rfl, ?_⟩
  · intro h
    cases h.2.1
  · decide

end Restart

end LiveMediaExt.Rtsp
