import LiveMediaExt.Execution
import LiveMediaExt.MediaSample

/-!
# The limit on connected clients

The server counts the client sessions it has created, whether or not they were admitted, and
the one that sends the SETUP is among them. The count bounds the admitted sessions; it can be
used up by sessions that hold nothing.
-/
namespace LiveMediaExt.Rtsp
open Execution Media

/-- The base class never picks the id 0. -/
abbrev SessionId := { id : UInt32 // id ≠ 0 }

/-- `ourServerMediaSession` names the stream of the server media session, `none` for null. -/
structure LiveRTSPClientSession where
  sessionId : SessionId
  ourServerMediaSession : Option String
  deriving DecidableEq

/-- What a SETUP is answered by: the base class or `handleCmd_notEnoughBandwidth`. -/
inductive SetupResponse
  | baseClass
  | notEnoughBandwidth
  deriving DecidableEq, Repr

/-- The keys of the server's map of client sessions, and the session objects that are alive. -/
structure LiveRtspServer where
  maxConnectedClients : ℕ
  rtspClientSessions : Finset SessionId
  sessions : List LiveRTSPClientSession
  deriving DecidableEq

/-- A client session as it is created. -/
def LiveRTSPClientSession.create (sessionId : SessionId) : LiveRTSPClientSession :=
  ⟨sessionId, none⟩

def LiveRTSPClientSession.holdsMediaSession (session : LiveRTSPClientSession) : Bool :=
  session.ourServerMediaSession.isSome

namespace LiveRtspServer

def createNew (maxConnectedClients : ℕ) : LiveRtspServer := ⟨maxConnectedClients, ∅, []⟩

/-- The size of the map as an `unsigned`. -/
def getNumberOfConnectedClients (server : LiveRtspServer) : ℕ :=
  uint32 server.rtspClientSessions.card

def createNewClientSession (server : LiveRtspServer) (sessionId : SessionId) : LiveRtspServer :=
  { server with
    rtspClientSessions := insert sessionId server.rtspClientSessions
    sessions := server.sessions ++ [.create sessionId] }

def removeClientSession (server : LiveRtspServer) (sessionId : SessionId) : LiveRtspServer :=
  { server with rtspClientSessions := server.rtspClientSessions.erase sessionId }

/-- The destructor of the session object. -/
def destroyClientSession (server : LiveRtspServer) (sessionId : SessionId) : LiveRtspServer :=
  { server.removeClientSession sessionId with
    sessions := server.sessions.filter fun session => session.sessionId != sessionId }

/-- `base` is the media session that the base class leaves the client session with, should it
be called. -/
def handleCmdSetup (server : LiveRtspServer) (session : LiveRTSPClientSession)
    (base : Option String) : SetupResponse × LiveRTSPClientSession :=
  let baseClass := (.baseClass, { session with ourServerMediaSession := base })
  if server.maxConnectedClients = 0 then baseClass
  else if session.ourServerMediaSession = none then
    if server.getNumberOfConnectedClients ≤ server.maxConnectedClients then baseClass
    else (.notEnoughBandwidth, session)
  else baseClass

inductive ClientEvent
  | createNewClientSession (sessionId : SessionId)
  | handleCmdSetup (sessionId : SessionId) (base : Option String)
  | destroyClientSession (sessionId : SessionId)
  deriving DecidableEq

def clientStep (server : LiveRtspServer) : ClientEvent → Except Fault LiveRtspServer
  | .createNewClientSession sessionId => .ok (server.createNewClientSession sessionId)
  | .handleCmdSetup sessionId base =>
    .ok { server with
      sessions := server.sessions.map fun session =>
        if session.sessionId = sessionId then (server.handleCmdSetup session base).2
        else session }
  | .destroyClientSession sessionId => .ok (server.destroyClientSession sessionId)

/-- The sessions that hold a server media session. -/
def admitted (server : LiveRtspServer) : ℕ :=
  server.sessions.countP LiveRTSPClientSession.holdsMediaSession

/-- The base class creates a session under an id that no session has. -/
def FreshId (server : LiveRtspServer) : ClientEvent → Prop
  | .createNewClientSession sessionId =>
    ∀ session ∈ server.sessions, session.sessionId ≠ sessionId
  | .handleCmdSetup _ _ => True
  | .destroyClientSession _ => True

instance (server : LiveRtspServer) (e : ClientEvent) : Decidable (server.FreshId e) :=
  match e with
  | .createNewClientSession _ => inferInstanceAs (Decidable (∀ session ∈ server.sessions, _))
  | .handleCmdSetup _ _ => .isTrue trivial
  | .destroyClientSession _ => .isTrue trivial

/-- The map holds the live sessions, and no two of them share an id. -/
structure Registered (server : LiveRtspServer) : Prop where
  keys : server.rtspClientSessions = (server.sessions.map (·.sessionId)).toFinset
  distinct : (server.sessions.map (·.sessionId)).Nodup

variable {server server' : LiveRtspServer} {e : ClientEvent}

theorem card_lt (ids : Finset SessionId) : ids.card < 2 ^ 32 := by
  have hinj : Set.InjOn (fun id : SessionId => id.val.toNat) ids := by
    intro a _ b _ hab
    apply Subtype.ext
    exact UInt32.toNat_inj.mp hab
  have hmaps : ∀ id ∈ ids, id.val.toNat ∈ Finset.Ico 1 (2 ^ 32) := by
    intro id _
    have hlt := id.val.toNat_lt
    have hne : id.val.toNat ≠ 0 := fun hzero => id.property (UInt32.toNat_inj.mp hzero)
    rw [Finset.mem_Ico]
    omega
  have hcard := Finset.card_le_card_of_injOn _ hmaps hinj
  rw [Nat.card_Ico] at hcard
  omega

theorem Registered.getNumberOfConnectedClients (h : server.Registered) :
    server.getNumberOfConnectedClients = server.sessions.length := by
  unfold LiveRtspServer.getNumberOfConnectedClients
  rw [uint32_of_lt (card_lt _), h.keys, List.toFinset_card_of_nodup h.distinct, List.length_map]

theorem handleCmdSetup_sessionId (session : LiveRTSPClientSession) (base : Option String) :
    (server.handleCmdSetup session base).2.sessionId = session.sessionId := by
  unfold handleCmdSetup
  split_ifs <;> rfl

theorem clientStep_total (server : LiveRtspServer) (e : ClientEvent) :
    ∃ server', server.clientStep e = .ok server' := by
  cases e with
  | createNewClientSession sessionId => exact ⟨_, rfl⟩
  | handleCmdSetup sessionId base => exact ⟨_, rfl⟩
  | destroyClientSession sessionId => exact ⟨_, rfl⟩

theorem clientStep_maxConnectedClients (h : server.clientStep e = .ok server') :
    server'.maxConnectedClients = server.maxConnectedClients := by
  cases e with
  | createNewClientSession sessionId =>
    cases h
    rfl
  | handleCmdSetup sessionId base =>
    cases h
    rfl
  | destroyClientSession sessionId =>
    cases h
    rfl

theorem clientStep_registered (hserver : server.Registered) (hfresh : server.FreshId e)
    (h : server.clientStep e = .ok server') : server'.Registered := by
  cases e with
  | createNewClientSession sessionId =>
    cases h
    constructor
    · simp [LiveRtspServer.createNewClientSession, hserver.keys, LiveRTSPClientSession.create]
    · have hnotMem : sessionId ∉ server.sessions.map (·.sessionId) := by
        intro hmem
        obtain ⟨session, hsession, hid⟩ := List.mem_map.mp hmem
        exact hfresh session hsession hid
      simpa [LiveRtspServer.createNewClientSession, LiveRTSPClientSession.create,
        List.nodup_append, hserver.distinct] using hnotMem
  | handleCmdSetup sessionId base =>
    have hids : ∀ session : LiveRTSPClientSession,
        (if session.sessionId = sessionId then (server.handleCmdSetup session base).2
          else session).sessionId = session.sessionId := by
      intro session
      split_ifs
      · exact handleCmdSetup_sessionId session base
      · rfl
    cases h
    constructor
    · simp only [List.map_map, Function.comp_def, hids]
      exact hserver.keys
    · simp only [List.map_map, Function.comp_def, hids]
      exact hserver.distinct
  | destroyClientSession sessionId =>
    have hids : (server.sessions.filter fun session => session.sessionId != sessionId).map
        (·.sessionId) = (server.sessions.map (·.sessionId)).filter (· != sessionId) := by
      rw [List.filter_map]
      rfl
    cases h
    constructor
    · rw [LiveRtspServer.destroyClientSession, hids]
      ext id
      simp [LiveRtspServer.removeClientSession, hserver.keys, and_comm]
    · rw [LiveRtspServer.destroyClientSession, hids]
      exact hserver.distinct.filter _

section Bound

theorem createNew_registered (maxConnectedClients : ℕ) :
    (createNew maxConnectedClients).Registered := ⟨rfl, List.nodup_nil⟩

/-- A SETUP admits a session that was not admitted only while the count is within the limit. -/
theorem handleCmdSetup_holds {session : LiveRTSPClientSession} {base : Option String}
    (hmax : 0 < server.maxConnectedClients)
    (hcount : ¬ server.getNumberOfConnectedClients ≤ server.maxConnectedClients)
    (h : (server.handleCmdSetup session base).2.holdsMediaSession = true) :
    session.holdsMediaSession = true := by
  unfold handleCmdSetup at h
  rw [if_neg (by omega)] at h
  by_cases hnone : session.ourServerMediaSession = none
  · rw [if_pos hnone, if_neg hcount] at h
    exact h
  · exact Option.isSome_iff_ne_none.mpr hnone

theorem clientStep_admitted (hserver : server.Registered)
    (hmax : 0 < server.maxConnectedClients)
    (hadmitted : server.admitted ≤ server.maxConnectedClients)
    (h : server.clientStep e = .ok server') : server'.admitted ≤ server.maxConnectedClients := by
  cases e with
  | createNewClientSession sessionId =>
    cases h
    simpa [admitted, createNewClientSession, LiveRTSPClientSession.create,
      LiveRTSPClientSession.holdsMediaSession] using hadmitted
  | handleCmdSetup sessionId base =>
    cases h
    unfold admitted at hadmitted ⊢
    by_cases hcount : server.getNumberOfConnectedClients ≤ server.maxConnectedClients
    · rw [hserver.getNumberOfConnectedClients] at hcount
      apply List.countP_le_length.trans
      simpa using hcount
    · rw [List.countP_map]
      apply le_trans _ hadmitted
      apply List.countP_mono_left
      intro session _ hholds
      dsimp only [Function.comp_apply] at hholds
      split_ifs at hholds
      · exact handleCmdSetup_holds hmax hcount hholds
      · exact hholds
  | destroyClientSession sessionId =>
    cases h
    have hsublist : (server.sessions.filter fun session =>
        session.sessionId != sessionId).Sublist server.sessions := List.filter_sublist
    exact (hsublist.countP_le).trans hadmitted

/-- The invariant of a server with a limit. -/
structure Limited (m : ℕ) (server : LiveRtspServer) : Prop where
  registered : server.Registered
  maxConnectedClients : server.maxConnectedClients = m
  admitted_le_max : server.admitted ≤ m

theorem run_limited {m : ℕ} {events : List ClientEvent} (hmax : 0 < m)
    (hfresh : Along clientStep (fun _ server e => server.FreshId e) (createNew m) events)
    (hrun : run clientStep (createNew m) events = .ok server) : server.Limited m := by
  have hstart : (createNew m).Limited m := ⟨createNew_registered m, rfl, Nat.zero_le m⟩
  have hstep (es : List ClientEvent) (server : LiveRtspServer) (e : ClientEvent)
      (server' : LiveRtspServer) (_ : run clientStep (createNew m) es = .ok server)
      (hlimited : server.Limited m) (hid : server.FreshId e)
      (h : server.clientStep e = .ok server') : server'.Limited m := by
    obtain ⟨hserver, rfl, hadmitted⟩ := hlimited
    have hsame := clientStep_maxConnectedClients h
    exact ⟨clientStep_registered hserver hid h, hsame,
      clientStep_admitted hserver hmax hadmitted h⟩
  exact run_induction_along (R := fun _ server => Limited m server) hstart hstep hfresh hrun

/-- In every run the admitted clients are at most as many as the maximum. -/
theorem admitted_le (m : ℕ) (events : List ClientEvent) (hmax : 0 < m)
    (hfresh : Along clientStep (fun _ server e => server.FreshId e) (createNew m) events) :
    ∃ server, run clientStep (createNew m) events = .ok server ∧ server.admitted ≤ m := by
  obtain ⟨server, hrun⟩ := run_total clientStep_total (createNew m) events
  exact ⟨server, hrun, (run_limited hmax hfresh hrun).admitted_le_max⟩

def firstClient : SessionId := ⟨1, by decide⟩

def secondClient : SessionId := ⟨2, by decide⟩

/-- Two clients of a server for two, one of them with two subsessions. -/
theorem admitted_le_twoClients :
    ∃ server, run clientStep (createNew 2) [.createNewClientSession firstClient,
        .handleCmdSetup firstClient (some "stream"), .createNewClientSession secondClient,
        .handleCmdSetup firstClient (some "stream"), .handleCmdSetup secondClient (some "stream")] =
      .ok server ∧ server.admitted ≤ 2 :=
  admitted_le 2 _ (by decide) (by decide)

end Bound

section Refusal

/-- The other sessions. -/
def others (server : LiveRtspServer) (sessionId : SessionId) : List LiveRTSPClientSession :=
  server.sessions.filter fun session => session.sessionId != sessionId

/-- A session without a media session is refused only while as many others as the server
allows hold one. -/
def RefusedOnlyWhenFull (server : LiveRtspServer) (e : ClientEvent) : Prop :=
  ∀ sessionId base, e = .handleCmdSetup sessionId base →
    ∀ session ∈ server.sessions, session.sessionId = sessionId →
      session.ourServerMediaSession = none →
        (server.handleCmdSetup session base).1 = .notEnoughBandwidth →
          server.maxConnectedClients ≤
            (server.others sessionId).countP LiveRTSPClientSession.holdsMediaSession

/-- Where fewer others than the server allows hold a media session, fewer others exist. -/
def PlacesNotTaken (server : LiveRtspServer) (e : ClientEvent) : Prop :=
  ∀ sessionId base, e = .handleCmdSetup sessionId base →
    ∀ session ∈ server.sessions, session.sessionId = sessionId →
      session.ourServerMediaSession = none →
        (server.others sessionId).countP LiveRTSPClientSession.holdsMediaSession <
            server.maxConnectedClients →
          (server.others sessionId).length < server.maxConnectedClients

theorem others_length (hserver : server.Registered) {session : LiveRTSPClientSession}
    (hsession : session ∈ server.sessions) :
    (server.others session.sessionId).length + 1 = server.sessions.length := by
  have hmem : session.sessionId ∈ server.sessions.map (·.sessionId) :=
    List.mem_map.mpr ⟨session, hsession, rfl⟩
  have hone := List.count_eq_one_of_mem hserver.distinct hmem
  have hsplit := List.length_eq_countP_add_countP (l := server.sessions)
    fun other => other.sessionId == session.sessionId
  rw [List.count, List.countP_map] at hone
  have hown : server.sessions.countP (fun other => other.sessionId == session.sessionId) = 1 :=
    hone
  have hothers : (server.others session.sessionId).length =
      server.sessions.countP fun other =>
        decide ¬(other.sessionId == session.sessionId) = true := by
    rw [others, ← List.countP_eq_length_filter]
    congr 1
    funext other
    by_cases hid : other.sessionId = session.sessionId
    · simp [hid]
    · have hbne : (other.sessionId != session.sessionId) = true := bne_iff_ne.mpr hid
      have hbeq : (other.sessionId == session.sessionId) = false := beq_false_of_ne hid
      rw [hbne, hbeq]
      rfl
  omega

/-- When a session without a media session is refused. -/
theorem handleCmdSetup_refused_iff (hserver : server.Registered)
    (hmax : 0 < server.maxConnectedClients) {session : LiveRTSPClientSession}
    (hsession : session ∈ server.sessions) (hnone : session.ourServerMediaSession = none)
    (base : Option String) :
    (server.handleCmdSetup session base).1 = .notEnoughBandwidth ↔
      server.maxConnectedClients ≤ (server.others session.sessionId).length := by
  have hlength := others_length hserver hsession
  unfold handleCmdSetup
  rw [if_neg (by omega), if_pos hnone, hserver.getNumberOfConnectedClients]
  split_ifs with hcount
  · simp
    omega
  · simp
    omega

theorem refusedOnlyWhenFull_iff (hserver : server.Registered)
    (hmax : 0 < server.maxConnectedClients) :
    server.RefusedOnlyWhenFull e ↔ server.PlacesNotTaken e := by
  constructor
  · intro h sessionId base he session hsession hid hnone hholding
    by_contra hlength
    have hfull := h sessionId base he session hsession hid hnone
    rw [handleCmdSetup_refused_iff hserver hmax hsession hnone, hid] at hfull
    have hholding' := hfull (not_lt.mp hlength)
    omega
  · intro h sessionId base he session hsession hid hnone hrefused
    by_contra hholding
    have hplaces := h sessionId base he session hsession hid hnone (not_le.mp hholding)
    rw [handleCmdSetup_refused_iff hserver hmax hsession hnone, hid] at hrefused
    omega

/-- In a run every refusal finds the server full exactly when no place was taken by sessions
that hold nothing. -/
theorem refused_iff (m : ℕ) (events : List ClientEvent) (hmax : 0 < m)
    (hfresh : Along clientStep (fun _ server e => server.FreshId e) (createNew m) events) :
    Along clientStep (fun _ server e => server.RefusedOnlyWhenFull e) (createNew m) events ↔
      Along clientStep (fun _ server e => server.PlacesNotTaken e) (createNew m) events := by
  apply along_congr_of_along hfresh
  intro before server e hbefore hrun
  have hlimited := run_limited hmax hbefore hrun
  have hmax' : 0 < server.maxConnectedClients := by
    rw [hlimited.maxConnectedClients]
    exact hmax
  exact refusedOnlyWhenFull_iff hlimited.registered hmax'

theorem refused_iff_twoClients :
    Along clientStep (fun _ server e => server.RefusedOnlyWhenFull e) (createNew 1)
        [.createNewClientSession firstClient, .handleCmdSetup firstClient (some "stream")] ↔
      Along clientStep (fun _ server e => server.PlacesNotTaken e) (createNew 1)
        [.createNewClientSession firstClient, .handleCmdSetup firstClient (some "stream")] :=
  refused_iff 1 _ (by decide) (by decide)

def thirdClient : SessionId := ⟨3, by decide⟩

/-- The second client is refused while the first one is there, and stays; the first one
leaves and the third one arrives. -/
def rejectionHistory : List ClientEvent :=
  [.createNewClientSession firstClient, .handleCmdSetup firstClient (some "stream"),
    .createNewClientSession secondClient, .handleCmdSetup secondClient (some "stream"),
    .destroyClientSession firstClient, .createNewClientSession thirdClient]

/-- The third client is refused by a server for one client to which nobody is connected. -/
theorem refused_by_empty_server :
    Along clientStep (fun _ server e => server.FreshId e) (createNew 1) rejectionHistory ∧
      ∃ server, run clientStep (createNew 1) rejectionHistory = .ok server ∧
        server.admitted = 0 ∧ .create thirdClient ∈ server.sessions ∧
        (server.handleCmdSetup (.create thirdClient) (some "stream")).1 =
          .notEnoughBandwidth := by
  refine ⟨by decide, _, rfl, ?_⟩
  decide

end Refusal

end LiveRtspServer

end LiveMediaExt.Rtsp
