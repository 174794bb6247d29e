import LiveMediaExt.DeadlineTimer
import LiveMediaExt.Execution
import LiveMediaExt.MediaSample

/-!
# The virtual media source

A source that takes the place of a capture device: the handler of its timer generates a sample and
arms the timer again. Starting it calls the handler, stopping it cancels the timer.
-/
namespace LiveMediaExt.Media
open Execution Timers Stuttering

/-- What the handler of a timer is called with. -/
inductive ErrorCode
  | success
  | operationCanceled
  | other
  deriving DecidableEq

/-- The samples that the callback was called with are kept, in order. -/
structure VirtualMediaSource where
  timer : DeadlineTimer
  uiIntervalMs : ℕ
  uiMediaSampleSize : ℕ
  size_pos : 0 < uiMediaSampleSize
  size_lt : uiMediaSampleSize < 2 ^ 32
  dLastTimestamp : ℚ
  generated : List MediaSample

/-- A start code, the header of a NAL unit that is no IDR unit, and random bytes. -/
def virtualBytes (uiMediaSampleSize : ℕ) (random : ℕ → UInt8) : List UInt8 :=
  [0, 0, 0, 1, 65] ++ (List.range' 5 (uiMediaSampleSize - 5)).map random

theorem length_virtualBytes {uiMediaSampleSize : ℕ} (h : 5 ≤ uiMediaSampleSize)
    (random : ℕ → UInt8) : (virtualBytes uiMediaSampleSize random).length = uiMediaSampleSize := by
  simp [virtualBytes]
  omega

namespace VirtualMediaSource

/-- The constructor, which asserts that samples are not empty. -/
def create (uiIntervalMs uiSampleSize : ℕ) (size_pos : 0 < uiSampleSize)
    (size_lt : uiSampleSize < 2 ^ 32) : VirtualMediaSource where
  timer := {}
  uiIntervalMs := uiIntervalMs
  uiMediaSampleSize := uiSampleSize
  size_pos := size_pos
  size_lt := size_lt
  dLastTimestamp := 0
  generated := []

/-- Five bytes are written whatever the size is. -/
def newBuffer (s : VirtualMediaSource) (random : ℕ → UInt8) : Except Fault Buffer :=
  if h : 5 ≤ s.uiMediaSampleSize then
    .ok ⟨virtualBytes s.uiMediaSampleSize random, (length_virtualBytes h random).trans_lt s.size_lt⟩
  else .error .outOfBounds

def generateMediaSampleTimeout (s : VirtualMediaSource) (random : ℕ → UInt8) :
    ErrorCode → Except Fault VirtualMediaSource
  | .success => do
    let data ← s.newBuffer random
    return { s with
      generated := s.generated ++ [{ presentationTime := s.dLastTimestamp, data := data }]
      dLastTimestamp := s.dLastTimestamp + s.uiIntervalMs / 1000
      timer := s.timer.expiresFromNow.asyncWait }
  -- any other error than a cancellation is logged
  | .operationCanceled => .ok s
  | .other => .ok s

def start (s : VirtualMediaSource) (random : ℕ → UInt8) : Except Fault VirtualMediaSource :=
  s.generateMediaSampleTimeout random .success

def stop (s : VirtualMediaSource) : VirtualMediaSource := { s with timer := s.timer.cancel }

/-- The calls of the application and of the loop, with what `rand` returns in them. -/
inductive Event
  | start (random : ℕ → UInt8)
  | stop
  | expire
  | expiredHandler (random : ℕ → UInt8)
  | cancelledHandler (random : ℕ → UInt8)

def Event.task : Event → TaskEvent
  | .start _ => .start
  | .stop => .stop
  | .expire => .expire
  | .expiredHandler _ => .expiredHandler
  | .cancelledHandler _ => .cancelledHandler

def step (s : VirtualMediaSource) : Event → Except Fault VirtualMediaSource
  | .start random => s.start random
  | .stop => .ok s.stop
  | .expire => .ok { s with timer := s.timer.expire }
  | .expiredHandler random =>
    match s.timer.takeExpired with
    | some timer => { s with timer }.generateMediaSampleTimeout random .success
    | none => .ok s
  | .cancelledHandler random =>
    match s.timer.takeCancelled with
    | some timer => { s with timer }.generateMediaSampleTimeout random .operationCanceled
    | none => .ok s

section Step
variable {s t : VirtualMediaSource} {e : Event} {random : ℕ → UInt8}

/-- What a call leaves, by whether it generated a sample. -/
structure Effect (works : Bool) (s t : VirtualMediaSource) : Prop where
  uiIntervalMs : t.uiIntervalMs = s.uiIntervalMs
  uiMediaSampleSize : t.uiMediaSampleSize = s.uiMediaSampleSize
  idle : works = false → t.generated = s.generated ∧ t.dLastTimestamp = s.dLastTimestamp
  generates : works = true → 5 ≤ s.uiMediaSampleSize ∧
    t.dLastTimestamp = s.dLastTimestamp + s.uiIntervalMs / 1000 ∧
    ∃ mediaSample : MediaSample, t.generated = s.generated ++ [mediaSample] ∧
      mediaSample.presentationTime = s.dLastTimestamp ∧
      ∃ random, mediaSample.data.data = virtualBytes s.uiMediaSampleSize random

theorem Effect.refl (timer : DeadlineTimer) : Effect false s { s with timer } where
  uiIntervalMs := rfl
  uiMediaSampleSize := rfl
  idle := fun _ => ⟨rfl, rfl⟩
  generates := Bool.noConfusion

end Step

section Run
variable {s t : VirtualMediaSource} {events : List Event}

theorem Effect.generated {works : Bool} (h : Effect works s t) :
    s.generated <+: t.generated ∧
      t.generated.length = (if works then 1 else 0) + s.generated.length := by
  cases works with
  | false =>
    rw [(h.idle rfl).1]
    exact ⟨List.prefix_rfl, (Nat.zero_add _).symm⟩
  | true =>
    obtain ⟨-, -, mediaSample, hgenerated, -⟩ := h.generates rfl
    rw [hgenerated, List.length_append, Nat.add_comm]
    exact ⟨List.prefix_append _ _, rfl⟩

/-- The samples so far, and the time of the next one. -/
structure Regular (interval size : ℕ) (s : VirtualMediaSource) : Prop where
  uiIntervalMs : s.uiIntervalMs = interval
  uiMediaSampleSize : s.uiMediaSampleSize = size
  dLastTimestamp : s.dLastTimestamp = s.generated.length * (interval / 1000 : ℚ)
  times : s.generated.map MediaSample.presentationTime =
    (List.range s.generated.length).map fun k : ℕ => k * (interval / 1000 : ℚ)
  bytes : ∀ mediaSample ∈ s.generated,
    ∃ random, mediaSample.data.data = virtualBytes size random

end Run

end VirtualMediaSource

end LiveMediaExt.Media
