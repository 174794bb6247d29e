import LiveMediaExt.Execution
import LiveMediaExt.MediaSample
import LiveMediaExt.NestedMap

/-!
# The scheduler's registry of media subsessions

Every subsession registers on construction and deregisters on destruction. The registry is a map
of channels to maps of sources; what it is for is one map from pairs of ids to subsessions.
-/
namespace LiveMediaExt.Scheduler
open Execution Media NestedMap

/-- A subsession is named by its address. -/
structure LiveSourceTaskScheduler0 where
  mediaSessions : Std.ExtTreeMap ℕ (Std.ExtTreeMap ℕ ℕ)
  deriving DecidableEq

namespace LiveSourceTaskScheduler0

def createNew : LiveSourceTaskScheduler0 := ⟨∅⟩

/-- A pair that is registered already fails the assertion. -/
def addMediaSubsession (channelId sourceId mediaSubsession : ℕ) (s : LiveSourceTaskScheduler0) :
    Except Fault LiveSourceTaskScheduler0 :=
  match s.mediaSessions[channelId]? with
  | some session =>
    match session[sourceId]? with
    | some _ => .error .alreadyRegistered
    | none =>
      .ok { s with
        mediaSessions :=
          s.mediaSessions.insert channelId (session.insert sourceId mediaSubsession) }
  | none =>
    .ok { s with
      mediaSessions :=
        s.mediaSessions.insert channelId ((∅ : Std.ExtTreeMap ℕ ℕ).insert sourceId mediaSubsession) }

/-- The iterator that is erased is the one of the channel. -/
def removeMediaSubsession (channelId sourceId : ℕ) (s : LiveSourceTaskScheduler0) :
    LiveSourceTaskScheduler0 :=
  match s.mediaSessions[channelId]? with
  | some session =>
    match session[sourceId]? with
    | some _ => { s with mediaSessions := s.mediaSessions.erase channelId }
    | none => s
  | none => s

/-- The registry as the finite map that it stands for. -/
def registered (s : LiveSourceTaskScheduler0) : ℕ × ℕ → Option ℕ := lookup s.mediaSessions

end LiveSourceTaskScheduler0

inductive RegistryEvent
  | addMediaSubsession (channelId sourceId mediaSubsession : ℕ)
  | removeMediaSubsession (channelId sourceId : ℕ)

def registryStep (s : LiveSourceTaskScheduler0) :
    RegistryEvent → Except Fault LiveSourceTaskScheduler0
  | .addMediaSubsession channelId sourceId mediaSubsession =>
    s.addMediaSubsession channelId sourceId mediaSubsession
  | .removeMediaSubsession channelId sourceId => .ok (s.removeMediaSubsession channelId sourceId)

/-- What an event should do: insert or delete the named pair and nothing else. -/
def pairStep (m : ℕ × ℕ → Option ℕ) : RegistryEvent → ℕ × ℕ → Option ℕ
  | .addMediaSubsession channelId sourceId mediaSubsession =>
    Function.update m (channelId, sourceId) (some mediaSubsession)
  | .removeMediaSubsession channelId sourceId => Function.update m (channelId, sourceId) none

/-- A registered source that is removed is the only one of its channel. -/
def RemovesLastSource (s : LiveSourceTaskScheduler0) (e : RegistryEvent) : Prop :=
  ∀ channelId sourceId, e = .removeMediaSubsession channelId sourceId →
    s.registered (channelId, sourceId) ≠ none →
    ∀ other, other ≠ sourceId → s.registered (channelId, other) = none

namespace LiveSourceTaskScheduler0
variable {s t : LiveSourceTaskScheduler0} {channelId sourceId mediaSubsession : ℕ}

theorem registered_of_session {session : Std.ExtTreeMap ℕ ℕ}
    (h : s.mediaSessions[channelId]? = some session) :
    s.registered (channelId, sourceId) = session[sourceId]? := by
  simp [registered, lookup, h]

theorem registered_of_none (h : s.mediaSessions[channelId]? = none) :
    s.registered (channelId, sourceId) = none := by
  simp [registered, lookup, h]

/-- Where a registered pair is found. -/
theorem session_of_registered (h : s.registered (channelId, sourceId) ≠ none) :
    ∃ session old, s.mediaSessions[channelId]? = some session ∧ session[sourceId]? = some old := by
  cases hsession : s.mediaSessions[channelId]? with
  | none => exact absurd (registered_of_none hsession) h
  | some session =>
    rw [registered_of_session hsession] at h
    obtain ⟨old, hold⟩ := Option.ne_none_iff_exists'.mp h
    exact ⟨session, old, rfl, hold⟩

/-- The registration of a free pair adds just that pair. -/
theorem addMediaSubsession_free (h : s.registered (channelId, sourceId) = none)
    (mediaSubsession : ℕ) :
    ∃ t, s.addMediaSubsession channelId sourceId mediaSubsession = .ok t ∧
      t.registered =
        Function.update s.registered (channelId, sourceId) (some mediaSubsession) := by
  unfold addMediaSubsession
  cases hsession : s.mediaSessions[channelId]? with
  | none => exact ⟨_, rfl, lookup_insert (by simp [lookup, hsession]) _ _⟩
  | some session =>
    rw [registered_of_session hsession] at h
    simp only [h]
    exact ⟨_, rfl, lookup_insert (by simp [lookup, hsession]) _ _⟩

theorem addMediaSubsession_taken (h : s.registered (channelId, sourceId) ≠ none)
    (mediaSubsession : ℕ) :
    s.addMediaSubsession channelId sourceId mediaSubsession = .error .alreadyRegistered := by
  obtain ⟨session, old, hsession, hold⟩ := session_of_registered h
  unfold addMediaSubsession
  simp only [hsession, hold]

/-- A registration that returns was one of a free pair. -/
theorem addMediaSubsession_ok
    (h : s.addMediaSubsession channelId sourceId mediaSubsession = .ok t) :
    s.registered (channelId, sourceId) = none ∧
      t.registered = Function.update s.registered (channelId, sourceId) (some mediaSubsession) := by
  by_cases hfree : s.registered (channelId, sourceId) = none
  · obtain ⟨t', ht, hregistered⟩ := addMediaSubsession_free hfree mediaSubsession
    rw [h] at ht
    cases ht
    exact ⟨hfree, hregistered⟩
  · rw [addMediaSubsession_taken hfree] at h
    cases h

theorem addMediaSubsession_error {f : Fault}
    (h : s.addMediaSubsession channelId sourceId mediaSubsession = .error f) :
    f = .alreadyRegistered := by
  by_cases hfree : s.registered (channelId, sourceId) = none
  · obtain ⟨t, ht, -⟩ := addMediaSubsession_free hfree mediaSubsession
    rw [h] at ht
    cases ht
  · rw [addMediaSubsession_taken hfree] at h
    exact (Except.error.inj h).symm

theorem removeMediaSubsession_free (h : s.registered (channelId, sourceId) = none) :
    s.removeMediaSubsession channelId sourceId = s := by
  unfold removeMediaSubsession
  cases hsession : s.mediaSessions[channelId]? with
  | none => rfl
  | some session =>
    rw [registered_of_session hsession] at h
    simp only [h]

/-- The deregistration of a registered pair clears its whole channel. -/
theorem removeMediaSubsession_taken (h : s.registered (channelId, sourceId) ≠ none) :
    s.removeMediaSubsession channelId sourceId = ⟨s.mediaSessions.erase channelId⟩ := by
  obtain ⟨session, old, hsession, hold⟩ := session_of_registered h
  unfold removeMediaSubsession
  simp only [hsession, hold]

/-- What is still registered was before and is not the named pair. -/
theorem removeMediaSubsession_kept {p : ℕ × ℕ}
    (h : (s.removeMediaSubsession channelId sourceId).registered p ≠ none) :
    s.registered p ≠ none ∧ p ≠ (channelId, sourceId) := by
  by_cases hfree : s.registered (channelId, sourceId) = none
  · rw [removeMediaSubsession_free hfree] at h
    refine ⟨h, ?_⟩
    rintro rfl
    exact h hfree
  · have herase : (s.removeMediaSubsession channelId sourceId).registered p =
        if p.1 = channelId then none else s.registered p := by
      rw [removeMediaSubsession_taken hfree]
      exact lookup_erase _ _ _
    by_cases hp : p.1 = channelId
    · rw [herase, if_pos hp] at h
      exact absurd rfl h
    · rw [herase, if_neg hp] at h
      refine ⟨h, ?_⟩
      rintro rfl
      exact hp rfl

/-- A deregistration deletes just the named pair exactly when a registered pair is the only
one of its channel. -/
theorem removeMediaSubsession_exact_iff :
    (s.removeMediaSubsession channelId sourceId).registered =
        Function.update s.registered (channelId, sourceId) none ↔
      (s.registered (channelId, sourceId) ≠ none →
        ∀ other, other ≠ sourceId → s.registered (channelId, other) = none) := by
  by_cases hfree : s.registered (channelId, sourceId) = none
  · have hupdate : Function.update s.registered (channelId, sourceId) none = s.registered := by
      rw [← hfree, Function.update_eq_self]
    rw [removeMediaSubsession_free hfree, hupdate]
    simp [hfree]
  · rw [removeMediaSubsession_taken hfree]
    constructor
    · intro h _
      exact (lookup_erase_eq_iff _ _ _).mp h
    · intro h
      exact (lookup_erase_eq_iff _ _ _).mpr (h hfree)

end LiveSourceTaskScheduler0

open LiveSourceTaskScheduler0

/-- One event does what it should exactly when it does not remove one source of several. -/
theorem registryStep_exact_iff {s : LiveSourceTaskScheduler0} {e : RegistryEvent}
    (hok : ∃ t, registryStep s e = .ok t) :
    (∀ t, registryStep s e = .ok t → t.registered = pairStep s.registered e) ↔
      RemovesLastSource s e := by
  cases e with
  | addMediaSubsession channelId sourceId mediaSubsession =>
    have hadds : RemovesLastSource s (.addMediaSubsession channelId sourceId mediaSubsession) := by
      intro channelId' sourceId' he
      cases he
    exact iff_of_true (fun t ht => (addMediaSubsession_ok ht).2) hadds
  | removeMediaSubsession channelId sourceId =>
    have hstep : registryStep s (.removeMediaSubsession channelId sourceId) =
        .ok (s.removeMediaSubsession channelId sourceId) := rfl
    constructor
    · intro h channelId' sourceId' he
      cases he
      exact removeMediaSubsession_exact_iff.mp (h _ hstep)
    · intro h t ht
      rw [hstep] at ht
      cases ht
      exact removeMediaSubsession_exact_iff.mpr (h channelId sourceId rfl)

/-- In a run without clashing registrations the registry is at every point the map that the
events describe exactly when no event removes one source of several from a channel. -/
theorem registry_exact_iff {events : List RegistryEvent} {s t : LiveSourceTaskScheduler0}
    (h : run registryStep s events = .ok t) :
    (∀ before after, events = before ++ after → ∀ m, run registryStep s before = .ok m →
      m.registered = before.foldl pairStep s.registered) ↔
    Along registryStep (fun _ m e => RemovesLastSource m e) s events := by
  rw [simulated_iff registered pairStep h]
  constructor
  · intro hstep before e after he m hm
    have hok : ∃ t, registryStep m e = .ok t := by
      rw [he] at h
      obtain ⟨m', hm', hrest⟩ := run_prefix_ok h
      rw [hm] at hm'
      cases hm'
      rw [← List.singleton_append] at hrest
      obtain ⟨t', ht', -⟩ := run_prefix_ok hrest
      exact ⟨t', by rwa [run_singleton] at ht'⟩
    exact (registryStep_exact_iff hok).mp (hstep before e after he m hm)
  · intro hguard before e after he m hm t ht
    exact (registryStep_exact_iff ⟨t, ht⟩).mpr (hguard before e after he m hm) t ht

theorem registry_exact_iff_single :
    (∀ before after, [RegistryEvent.addMediaSubsession 7 0 1, .removeMediaSubsession 7 0] =
        before ++ after → ∀ m, run registryStep createNew before = .ok m →
      m.registered = before.foldl pairStep createNew.registered) ↔
    Along registryStep (fun _ m e => RemovesLastSource m e) createNew
      [.addMediaSubsession 7 0 1, .removeMediaSubsession 7 0] :=
  registry_exact_iff (by rfl)

/-- Deregistering the video source of a channel takes the audio source with it. -/
theorem audio_source_lost : ∃ t,
    run registryStep createNew [.addMediaSubsession 7 0 1, .addMediaSubsession 7 1 2,
      .removeMediaSubsession 7 0] = .ok t ∧
    t.registered (7, 1) = none ∧
    [RegistryEvent.addMediaSubsession 7 0 1, .addMediaSubsession 7 1 2,
      .removeMediaSubsession 7 0].foldl pairStep createNew.registered (7, 1) = some 2 :=
  ⟨⟨∅⟩, by decide +kernel, by decide +kernel, by decide +kernel⟩

end LiveMediaExt.Scheduler
