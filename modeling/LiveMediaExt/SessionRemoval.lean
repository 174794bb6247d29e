import LiveMediaExt.RtspServer

/-!
# Removing the session of a channel

Removal first kicks the clients of the session, which changes the sources of subsessions but
neither the table of sessions nor the registry. Closing the session deregisters its subsessions.
-/
namespace LiveMediaExt.Rtsp
open Execution Media Subsession Scheduler LiveSourceTaskScheduler0

/-- The name of a session and the places of its subsessions in the scheduler. -/
def ServerMediaSession.entry {β : Type} (sms : ServerMediaSession β) : String × List (ℕ × ℕ) :=
  (sms.streamName, sms.subsessions.map fun sub => (sub.channelId, sub.sourceId))

namespace LiveEnvironment
variable {β : Type}

/-- The sessions of the server without their clients. -/
def table (env : LiveEnvironment β) : List (String × List (ℕ × ℕ)) :=
  env.serverMediaSessions.map ServerMediaSession.entry

def sessionNames (env : LiveEnvironment β) : List String :=
  env.serverMediaSessions.map ServerMediaSession.streamName

theorem sessionNames_eq (env : LiveEnvironment β) :
    env.sessionNames = env.table.map Prod.fst := by
  simp [sessionNames, table, ServerMediaSession.entry]

theorem kickClient_frame (env : LiveEnvironment β) (clientId : ℕ) :
    (env.kickClient clientId).table = env.table ∧
      (env.kickClient clientId).scheduler = env.scheduler := by
  unfold kickClient
  split_ifs
  · refine ⟨?_, rfl⟩
    simp [table, ServerMediaSession.entry, Function.comp_def]
  · exact ⟨rfl, rfl⟩

theorem kickClients_frame (clientIds : List ℕ) (env : LiveEnvironment β) :
    (clientIds.foldl kickClient env).table = env.table ∧
      (clientIds.foldl kickClient env).scheduler = env.scheduler := by
  induction clientIds generalizing env with
  | nil => exact ⟨rfl, rfl⟩
  | cons clientId rest ih =>
    obtain ⟨htable, hscheduler⟩ := ih (env.kickClient clientId)
    obtain ⟨htable', hscheduler'⟩ := env.kickClient_frame clientId
    exact ⟨htable.trans htable', hscheduler.trans hscheduler'⟩

theorem endServerSession_frame (session : String) (env : LiveEnvironment β) :
    (env.endServerSession session).table = env.table ∧
      (env.endServerSession session).scheduler = env.scheduler := by
  unfold endServerSession
  cases env.lookupServerMediaSession session with
  | none => exact ⟨rfl, rfl⟩
  | some sms => exact kickClients_frame _ env

/-- Closing a session deregisters its subsessions, at the cost of others of the channel. -/
theorem closeServerMediaSession_registered {subsessions : List (LiveMediaSubsession β)}
    {env : LiveEnvironment β} {p : ℕ × ℕ}
    (h : (subsessions.foldl deleteSubsession env).scheduler.registered p ≠ none) :
    env.scheduler.registered p ≠ none ∧
      p ∉ subsessions.map fun sub => (sub.channelId, sub.sourceId) := by
  induction subsessions generalizing env with
  | nil => exact ⟨h, by simp⟩
  | cons sub rest ih =>
    obtain ⟨hkept, hrest⟩ := ih h
    obtain ⟨hbefore, hne⟩ := removeMediaSubsession_kept hkept
    refine ⟨hbefore, ?_⟩
    rw [List.map_cons, List.mem_cons, not_or]
    exact ⟨hne, hrest⟩

theorem closeServerMediaSession_sessions (subsessions : List (LiveMediaSubsession β))
    (env : LiveEnvironment β) : (subsessions.foldl deleteSubsession env).serverMediaSessions =
      env.serverMediaSessions := by
  induction subsessions generalizing env with
  | nil => rfl
  | cons sub rest ih => exact ih (env.deleteSubsession sub)

theorem lookup_eq_none_iff {env : LiveEnvironment β} {streamName : String} :
    env.lookupServerMediaSession streamName = none ↔
      ∀ entry ∈ env.table, entry.1 ≠ streamName := by
  simp [lookupServerMediaSession, table, ServerMediaSession.entry]

/-- The entry of the name goes, and nothing stays registered that has no entry. -/
theorem removeRtspMediaSession_spec (channel : Channel) (env : LiveEnvironment β) :
    (env.removeRtspMediaSession channel).table =
      env.table.filter (fun entry => entry.1 != channel.streamName) ∧
    (env.sessionNames.Nodup →
      ∀ p, (env.removeRtspMediaSession channel).scheduler.registered p ≠ none →
        env.scheduler.registered p ≠ none ∧
          ∀ entry ∈ env.table, entry.1 = channel.streamName → p ∉ entry.2) := by
  obtain ⟨htable, hscheduler⟩ := env.endServerSession_frame channel.streamName
  unfold removeRtspMediaSession
  dsimp only
  cases hlookup :
      (env.endServerSession channel.streamName).lookupServerMediaSession channel.streamName with
  | none =>
    rw [lookup_eq_none_iff, htable] at hlookup
    dsimp only
    rw [htable, hscheduler]
    constructor
    · symm
      rw [List.filter_eq_self]
      intro entry hentry
      simpa using hlookup entry hentry
    · exact fun _ p hp => ⟨hp, fun entry hentry heq => absurd heq (hlookup entry hentry)⟩
  | some sms =>
    have hname : sms.streamName = channel.streamName := by
      simpa using List.find?_some hlookup
    have hmem : sms.entry ∈ env.table := by
      rw [← htable]
      exact List.mem_map_of_mem (List.mem_of_find?_eq_some hlookup)
    dsimp only
    constructor
    · rw [← htable]
      simp only [table, removeServerMediaSession, closeServerMediaSession,
        closeServerMediaSession_sessions, hname, List.filter_map]
      rfl
    · intro hnodup p hp
      obtain ⟨hbefore, hout⟩ := closeServerMediaSession_registered hp
      dsimp only at hbefore
      rw [hscheduler] at hbefore
      refine ⟨hbefore, fun entry hentry heq => ?_⟩
      have hsame : entry = sms.entry :=
        List.inj_on_of_nodup_map (env.sessionNames_eq ▸ hnodup) hentry hmem (heq.trans hname.symm)
      rw [hsame]
      exact hout

end LiveEnvironment

end LiveMediaExt.Rtsp
