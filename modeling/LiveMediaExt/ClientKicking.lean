import LiveMediaExt.SessionRemoval

/-!
# Deleting the client sessions of a removed session

The server's map holds pointers to client session objects. To kick a client is to delete its
object, whose destructor takes the entry out of the map and destroys the client's device sources
while the kicking goes on. A second deletion of an object would be a fault.
-/
namespace LiveMediaExt.Rtsp
open Execution Media Subsession

/-- A client session object. It has a parent until the server is destroyed before it. -/
structure ClientSessionObject where
  sessionId : ℕ
  hasParent : Bool
  deriving DecidableEq

inductive HeapFault
  | danglingPointer
  deriving DecidableEq

/-- The server's media sessions, its map from ids to the addresses of client session objects, the
objects that are alive, and the ids of those deleted so far. -/
structure ServerHeap (β : Type) where
  serverMediaSessions : List (ServerMediaSession β)
  rtspClientSessions : Std.ExtTreeMap ℕ ℕ
  objects : Std.ExtTreeMap ℕ ClientSessionObject
  deleted : List ℕ

/-- The session without the device sources of some clients. -/
def ServerMediaSession.withoutSources {β : Type} (gone : ℕ → Bool)
    (sms : ServerMediaSession β) : ServerMediaSession β :=
  { sms with
    subsessions := sms.subsessions.map fun sub =>
      { sub with deviceSources := sub.deviceSources.filter fun src => !gone src.clientId } }

namespace ServerHeap
variable {β : Type}

def removeClientSession (s : ServerHeap β) (sessionId : ℕ) : ServerHeap β :=
  { s with rtspClientSessions := s.rtspClientSessions.erase sessionId }

/-- The destructor of the base class reclaims the streams of the client. -/
def reclaimStreams (s : ServerHeap β) (sessionId : ℕ) : ServerHeap β :=
  { s with
    serverMediaSessions :=
      s.serverMediaSessions.map (ServerMediaSession.withoutSources (· == sessionId)) }

/-- `delete`: the destructor of the derived class calls the server back, if it has one, before
that of the base class runs. -/
def deleteClientSession (s : ServerHeap β) (address : ℕ) : Except HeapFault (ServerHeap β) :=
  match s.objects[address]? with
  | none => .error .danglingPointer
  | some object =>
    let s := if object.hasParent then s.removeClientSession object.sessionId else s
    let s := s.reclaimStreams object.sessionId
    .ok { s with
      objects := s.objects.erase address
      deleted := s.deleted ++ [object.sessionId] }

def kickClient (s : ServerHeap β) (clientId : ℕ) : Except HeapFault (ServerHeap β) :=
  match s.rtspClientSessions[clientId]? with
  | some address => s.deleteClientSession address
  | none => .ok s

def lookupServerMediaSession (s : ServerHeap β) (streamName : String) :
    Option (ServerMediaSession β) :=
  s.serverMediaSessions.find? fun sms => sms.streamName == streamName

/-- The ids of all subsessions are gathered before the first client is kicked. -/
def endServerSession (s : ServerHeap β) (session : String) : Except HeapFault (ServerHeap β) :=
  match s.lookupServerMediaSession session with
  | none => .ok s
  | some sms =>
    let uniqueClientIds : Std.ExtTreeSet ℕ :=
      .ofList (sms.subsessions.flatMap LiveMediaSubsession.getConnectedClientIds)
    run kickClient s uniqueClientIds.toList

def removeServerMediaSession (s : ServerHeap β) (sms : ServerMediaSession β) : ServerHeap β :=
  { s with
    serverMediaSessions :=
      s.serverMediaSessions.filter fun other => other.streamName != sms.streamName }

def removeRtspMediaSession (s : ServerHeap β) (channel : Channel) :
    Except HeapFault (ServerHeap β) := do
  let s ← s.endServerSession channel.streamName
  match s.lookupServerMediaSession channel.streamName with
  | some sms => return s.removeServerMediaSession sms
  | none => return s

/-- The entries of the map point to live objects of their id that know the server, and no two
sessions share a name. -/
structure WellFormed (s : ServerHeap β) : Prop where
  registered : ∀ id address, s.rtspClientSessions[id]? = some address →
    s.objects[address]? = some (ClientSessionObject.mk id true)
  names : (s.serverMediaSessions.map ServerMediaSession.streamName).Nodup

/-- Some subsession of the session has a device source of the client. -/
def ConnectedTo (s : ServerHeap β) (streamName : String) (clientId : ℕ) : Prop :=
  ∃ sms ∈ s.serverMediaSessions, sms.streamName = streamName ∧
    ∃ sub ∈ sms.subsessions, clientId ∈ sub.getConnectedClientIds

/-- Just the client sessions with these ids were deleted, in this order. -/
structure Kicked (kicked : List ℕ) (s t : ServerHeap β) : Prop where
  deleted : t.deleted = s.deleted ++ kicked
  clients : ∀ id address, t.rtspClientSessions[id]? = some address ↔
    s.rtspClientSessions[id]? = some address ∧ id ∉ kicked
  objects : ∀ address object, t.objects[address]? = some object ↔
    s.objects[address]? = some object ∧
      ∀ id ∈ kicked, s.rtspClientSessions[id]? ≠ some address
  sessions : t.serverMediaSessions =
    s.serverMediaSessions.map (ServerMediaSession.withoutSources (kicked.contains ·))

section Maps
variable {α : Type} {map : Std.ExtTreeMap ℕ α} {id : ℕ}

theorem contains_iff : map.contains id = true ↔ ∃ value, map[id]? = some value := by
  rw [Std.ExtTreeMap.contains_eq_isSome_getElem?, Option.isSome_iff_exists]

/-- The entries that are left when one is taken out. -/
theorem getElem?_erase_eq_some_iff {erased : ℕ} {value : α} :
    (map.erase erased)[id]? = some value ↔ map[id]? = some value ∧ erased ≠ id := by
  rw [Std.ExtTreeMap.getElem?_erase]
  by_cases hid : erased = id
  · simp [hid]
  · simp [hid]

end Maps

section Lookup
variable {s : ServerHeap β} {streamName : String}

theorem lookup_eq_none_iff : s.lookupServerMediaSession streamName = none ↔
    ∀ sms ∈ s.serverMediaSessions, sms.streamName ≠ streamName := by
  simp [lookupServerMediaSession]

theorem lookup_some {sms : ServerMediaSession β}
    (hlookup : s.lookupServerMediaSession streamName = some sms) :
    sms ∈ s.serverMediaSessions ∧ sms.streamName = streamName := by
  refine ⟨List.mem_of_find?_eq_some hlookup, ?_⟩
  simpa using List.find?_some hlookup

end Lookup

section Sources

theorem withoutSources_none :
    ServerMediaSession.withoutSources (β := β) (fun _ => false) = id := by
  funext sms
  simp [ServerMediaSession.withoutSources]

/-- One client alone. -/
theorem contains_singleton (id : ℕ) : (fun id' : ℕ => [id].contains id') = (· == id) := by
  funext id'
  rw [Bool.eq_iff_iff]
  simp

theorem withoutSources_withoutSources (p q : ℕ → Bool) (sms : ServerMediaSession β) :
    (sms.withoutSources p).withoutSources q = sms.withoutSources fun id => p id || q id := by
  unfold ServerMediaSession.withoutSources
  simp only [List.map_map, Function.comp_def, List.filter_filter, Bool.not_or]
  simp only [Bool.and_comm]

theorem withoutSources_names (gone : ℕ → Bool) (sessions : List (ServerMediaSession β)) :
    (sessions.map (ServerMediaSession.withoutSources gone)).map ServerMediaSession.streamName =
      sessions.map ServerMediaSession.streamName := by
  simp [ServerMediaSession.withoutSources, Function.comp_def]

end Sources

section Kicking
variable {s t u : ServerHeap β} {ids ids' : List ℕ}

theorem Kicked.refl (s : ServerHeap β) : Kicked [] s s where
  deleted := (List.append_nil _).symm
  clients := by simp
  objects := by simp
  sessions := by simp [withoutSources_none]

theorem Kicked.trans (h : Kicked ids s t) (g : Kicked ids' t u) : Kicked (ids ++ ids') s u where
  deleted := by rw [g.deleted, h.deleted, List.append_assoc]
  clients := by
    intro id address
    rw [g.clients, h.clients, List.mem_append, not_or, and_assoc]
  objects := by
    intro address object
    rw [g.objects, h.objects, and_assoc]
    apply and_congr_right
    intro _
    constructor
    · rintro ⟨hids, hids'⟩ id hid hregistered
      rcases List.mem_append.mp hid with hid | hid'
      · exact hids id hid hregistered
      · by_cases hid : id ∈ ids
        · exact hids id hid hregistered
        · exact hids' id hid' ((h.clients id address).mpr ⟨hregistered, hid⟩)
    · intro hall
      refine ⟨fun id hid => hall id (List.mem_append_left _ hid), ?_⟩
      intro id hid' hregistered
      exact hall id (List.mem_append_right _ hid') ((h.clients id address).mp hregistered).1
  sessions := by
    rw [g.sessions, h.sessions, List.map_map]
    congr 1
    funext sms
    rw [Function.comp_apply, withoutSources_withoutSources]
    congr 1
    funext id
    rw [List.contains_append]

/-- What both destructors do. -/
theorem deleteClientSession_eq {address : ℕ} {object : ClientSessionObject}
    (hobject : s.objects[address]? = some object) :
    s.deleteClientSession address = .ok
      { serverMediaSessions := s.serverMediaSessions.map
          (ServerMediaSession.withoutSources (· == object.sessionId))
        rtspClientSessions :=
          if object.hasParent then s.rtspClientSessions.erase object.sessionId
          else s.rtspClientSessions
        objects := s.objects.erase address
        deleted := s.deleted ++ [object.sessionId] } := by
  obtain ⟨sessionId, hasParent⟩ := object
  unfold deleteClientSession
  rw [hobject]
  cases hasParent with
  | true => rfl
  | false => rfl

/-- Whatever object is deleted, the entries that are left point to other objects. -/
theorem deleteClientSession_wellFormed (h : s.WellFormed) {address : ℕ}
    (hdelete : s.deleteClientSession address = .ok t) : t.WellFormed := by
  cases hobject : s.objects[address]? with
  | none =>
    unfold deleteClientSession at hdelete
    rw [hobject] at hdelete
    cases hdelete
  | some object =>
    rw [deleteClientSession_eq hobject] at hdelete
    obtain rfl := Except.ok.inj hdelete
    refine ⟨?_, ?_⟩
    · intro id address' hentry
      have hold : s.rtspClientSessions[id]? = some address' ∧
          object ≠ ClientSessionObject.mk id true := by
        obtain ⟨sessionId, hasParent⟩ := object
        cases hasParent with
        | false => exact ⟨hentry, by simp⟩
        | true =>
          obtain ⟨hentry, hid⟩ := getElem?_erase_eq_some_iff.mp hentry
          exact ⟨hentry, by simp [hid]⟩
      have hobject' := h.registered id address' hold.1
      refine getElem?_erase_eq_some_iff.mpr ⟨hobject', ?_⟩
      rintro rfl
      rw [hobject] at hobject'
      exact hold.2 (Option.some.inj hobject')
    · rw [withoutSources_names]
      exact h.names

/-- Deleting the object that the map has under an id deletes the entry with it. -/
theorem deleteClientSession_ok (h : s.WellFormed) {id address : ℕ}
    (hregistered : s.rtspClientSessions[id]? = some address) :
    ∃ t, s.deleteClientSession address = .ok t ∧ t.WellFormed ∧ Kicked [id] s t := by
  have hdelete := deleteClientSession_eq (h.registered id address hregistered)
  refine ⟨_, hdelete, deleteClientSession_wellFormed h hdelete, ⟨rfl, ?_, ?_, ?_⟩⟩
  · intro id' address'
    dsimp only
    rw [if_pos rfl, getElem?_erase_eq_some_iff, List.mem_singleton, ne_comm]
  · intro address' object
    dsimp only
    rw [getElem?_erase_eq_some_iff]
    simp [hregistered]
  · rw [contains_singleton]

theorem kickClient_ok (h : s.WellFormed) (id : ℕ) :
    ∃ t, s.kickClient id = .ok t ∧ t.WellFormed ∧
      Kicked (if s.rtspClientSessions.contains id then [id] else []) s t := by
  unfold kickClient
  cases hentry : s.rtspClientSessions[id]? with
  | none =>
    have hmissing : ¬ s.rtspClientSessions.contains id = true := by
      rw [contains_iff, hentry]
      simp
    rw [if_neg hmissing]
    exact ⟨s, rfl, h, .refl s⟩
  | some address =>
    rw [if_pos (contains_iff.mpr ⟨address, hentry⟩)]
    exact deleteClientSession_ok h hentry

/-- The ids that are left in the map. -/
theorem Kicked.contains_iff (h : Kicked ids s t) (id : ℕ) :
    t.rtspClientSessions.contains id = true ↔
      s.rtspClientSessions.contains id = true ∧ id ∉ ids := by
  simp only [ServerHeap.contains_iff, h.clients, exists_and_right]

/-- Different ids are kicked one after the other; those that the map does not have are passed
over. -/
theorem kickClients_ok (h : s.WellFormed) (hnodup : ids.Nodup) :
    ∃ t, run kickClient s ids = .ok t ∧ t.WellFormed ∧
      Kicked (ids.filter (s.rtspClientSessions.contains ·)) s t := by
  induction ids generalizing s with
  | nil => exact ⟨s, rfl, h, .refl s⟩
  | cons id ids ih =>
    obtain ⟨hid, hnodup⟩ := List.nodup_cons.mp hnodup
    obtain ⟨m, hm, hwell, hkicked⟩ := kickClient_ok h id
    obtain ⟨t, ht, hwell', hkicked'⟩ := ih hwell hnodup
    refine ⟨t, by rw [run_cons_ok hm, ht], hwell', ?_⟩
    have hrest : ids.filter (m.rtspClientSessions.contains ·) =
        ids.filter (s.rtspClientSessions.contains ·) := by
      apply List.filter_congr
      intro other hother
      have hne : other ≠ id := fun hsame => hid (hsame ▸ hother)
      have hkept : other ∉ if s.rtspClientSessions.contains id then [id] else [] := by
        split_ifs
        · simpa using hne
        · simp
      rw [Bool.eq_iff_iff, hkicked.contains_iff]
      exact and_iff_left hkept
    rw [hrest] at hkicked'
    have hboth := hkicked.trans hkicked'
    rw [List.filter_cons]
    split_ifs at hboth ⊢
    · exact hboth
    · exact hboth

/-- The ids of a set, each once. -/
theorem toList_ofList_nodup (ids : List ℕ) : (Std.ExtTreeSet.ofList ids).toList.Nodup := by
  apply Std.ExtTreeSet.distinct_toList.imp
  intro a b hne hsame
  exact hne (Nat.compare_eq_eq.mpr hsame)

theorem mem_toList_ofList {ids : List ℕ} {id : ℕ} :
    id ∈ (Std.ExtTreeSet.ofList ids).toList ↔ id ∈ ids := by
  rw [Std.ExtTreeSet.mem_toList, Std.ExtTreeSet.mem_ofList, List.contains_iff_mem]

/-- The clients of the session are those of the session that is looked up. -/
theorem connectedTo_iff (h : s.WellFormed) {streamName : String} {sms : ServerMediaSession β}
    (hlookup : s.lookupServerMediaSession streamName = some sms) {id : ℕ} :
    s.ConnectedTo streamName id ↔
      id ∈ sms.subsessions.flatMap LiveMediaSubsession.getConnectedClientIds := by
  obtain ⟨hmem, hname⟩ := lookup_some hlookup
  rw [List.mem_flatMap]
  constructor
  · rintro ⟨other, hother, hsame, hsub⟩
    have heq : other = sms := List.inj_on_of_nodup_map h.names hother hmem (hsame.trans hname.symm)
    rwa [heq] at hsub
  · intro hsub
    exact ⟨sms, hmem, hname, hsub⟩

theorem endServerSession_ok (h : s.WellFormed) (streamName : String) :
    ∃ t kicked, s.endServerSession streamName = .ok t ∧ t.WellFormed ∧ Kicked kicked s t ∧
      kicked.Nodup ∧ ∀ id, id ∈ kicked ↔
        s.rtspClientSessions.contains id = true ∧ s.ConnectedTo streamName id := by
  unfold endServerSession
  cases hlookup : s.lookupServerMediaSession streamName with
  | none =>
    refine ⟨s, [], rfl, h, .refl s, List.nodup_nil, ?_⟩
    intro id
    refine iff_of_false List.not_mem_nil ?_
    rintro ⟨-, sms, hsms, hname, -⟩
    exact lookup_eq_none_iff.mp hlookup sms hsms hname
  | some sms =>
    obtain ⟨t, ht, hwell, hkicked⟩ := kickClients_ok h (toList_ofList_nodup
      (sms.subsessions.flatMap LiveMediaSubsession.getConnectedClientIds))
    refine ⟨t, _, ht, hwell, hkicked, (toList_ofList_nodup _).filter _, ?_⟩
    intro id
    rw [List.mem_filter, mem_toList_ofList, connectedTo_iff h hlookup, and_comm]

/-- The session looked up is the one that goes. -/
theorem remove_looked_up (s : ServerHeap β) (streamName : String) :
    (match s.lookupServerMediaSession streamName with
      | some sms => (Except.ok (s.removeServerMediaSession sms) : Except HeapFault _)
      | none => .ok s) =
      .ok { s with
        serverMediaSessions :=
          s.serverMediaSessions.filter fun sms => sms.streamName != streamName } := by
  cases hlookup : s.lookupServerMediaSession streamName with
  | none =>
    have hall : s.serverMediaSessions.filter (fun sms => sms.streamName != streamName) =
        s.serverMediaSessions := by
      rw [List.filter_eq_self]
      intro sms hsms
      simpa using lookup_eq_none_iff.mp hlookup sms hsms
    rw [hall]
  | some sms => simp only [removeServerMediaSession, (lookup_some hlookup).2]

end Kicking

/-- What it is to remove a session: the client sessions with a device source in it are deleted,
each once and no other, the other clients and sessions stay, and no source of the session is left
to a registered client. -/
structure Removes (channel : Channel) (kicked : List ℕ) (s t : ServerHeap β) : Prop where
  nodup : kicked.Nodup
  kicked_iff : ∀ id, id ∈ kicked ↔
    s.rtspClientSessions.contains id = true ∧ s.ConnectedTo channel.streamName id
  deleted : t.deleted = s.deleted ++ kicked
  objects : ∀ address object, t.objects[address]? = some object ↔
    s.objects[address]? = some object ∧
      ∀ id ∈ kicked, s.rtspClientSessions[id]? ≠ some address
  clients : ∀ id address, t.rtspClientSessions[id]? = some address ↔
    s.rtspClientSessions[id]? = some address ∧ id ∉ kicked
  sessions : t.serverMediaSessions =
    (s.serverMediaSessions.filter fun sms => sms.streamName != channel.streamName).map
      (ServerMediaSession.withoutSources (kicked.contains ·))
  disconnected : ∀ id, s.ConnectedTo channel.streamName id →
    t.rtspClientSessions.contains id = false

theorem removeRtspMediaSession_eq {s m : ServerHeap β} {channel : Channel}
    (hm : s.endServerSession channel.streamName = .ok m) :
    s.removeRtspMediaSession channel = .ok { m with
      serverMediaSessions :=
        m.serverMediaSessions.filter fun sms => sms.streamName != channel.streamName } := by
  unfold removeRtspMediaSession
  rw [hm]
  exact m.remove_looked_up channel.streamName

section Refinement
variable {s t : ServerHeap β} {env : LiveEnvironment β}

/-- The environment has the same sessions, and the ids of the client sessions in the map. -/
structure Represents (s : ServerHeap β) (env : LiveEnvironment β) : Prop where
  sessions : env.serverMediaSessions = s.serverMediaSessions
  clients : ∀ id, id ∈ env.rtspClientSessions ↔ s.rtspClientSessions.contains id = true

theorem kickClient_represents (h : s.WellFormed) (hrep : Represents s env) (id : ℕ) :
    ∃ t, s.kickClient id = .ok t ∧ t.WellFormed ∧ Represents t (env.kickClient id) := by
  obtain ⟨t, ht, hwell, hkicked⟩ := kickClient_ok h id
  refine ⟨t, ht, hwell, ?_⟩
  unfold LiveEnvironment.kickClient
  by_cases hpresent : s.rtspClientSessions.contains id = true
  · rw [if_pos ((hrep.clients id).mpr hpresent)]
    have hsessions := hkicked.sessions
    rw [if_pos hpresent, contains_singleton] at hsessions
    refine ⟨?_, ?_⟩
    · rw [hsessions, hrep.sessions]
      rfl
    · intro other
      rw [hkicked.contains_iff, if_pos hpresent, List.mem_filter, hrep.clients]
      simp
  · rw [if_neg (fun hmem => hpresent ((hrep.clients id).mp hmem))]
    have hsessions := hkicked.sessions
    rw [if_neg hpresent] at hsessions
    refine ⟨?_, ?_⟩
    · rw [hsessions, hrep.sessions]
      simp [withoutSources_none]
    · intro other
      rw [hkicked.contains_iff, if_neg hpresent, hrep.clients]
      simp

theorem kickClients_represents (h : s.WellFormed) (hrep : Represents s env) (ids : List ℕ) :
    ∃ t, run kickClient s ids = .ok t ∧ t.WellFormed ∧
      Represents t (ids.foldl LiveEnvironment.kickClient env) := by
  induction ids generalizing s env with
  | nil => exact ⟨s, rfl, h, hrep⟩
  | cons id ids ih =>
    obtain ⟨m, hm, hwell, hrep'⟩ := kickClient_represents h hrep id
    obtain ⟨t, ht, hwell', hrep''⟩ := ih hwell hrep'
    exact ⟨t, by rw [run_cons_ok hm, ht], hwell', hrep''⟩

theorem Represents.lookup (hrep : Represents s env) (streamName : String) :
    env.lookupServerMediaSession streamName = s.lookupServerMediaSession streamName := by
  rw [LiveEnvironment.lookupServerMediaSession, hrep.sessions]
  rfl

theorem endServerSession_represents (h : s.WellFormed) (hrep : Represents s env)
    (streamName : String) :
    ∃ t, s.endServerSession streamName = .ok t ∧
      Represents t (env.endServerSession streamName) := by
  unfold endServerSession LiveEnvironment.endServerSession
  rw [hrep.lookup]
  cases s.lookupServerMediaSession streamName with
  | none => exact ⟨s, rfl, hrep⟩
  | some sms =>
    obtain ⟨t, ht, -, hrep'⟩ := kickClients_represents h hrep _
    exact ⟨t, ht, hrep'⟩

theorem closeServerMediaSession_clients (subsessions : List (LiveMediaSubsession β))
    (env : LiveEnvironment β) :
    (subsessions.foldl LiveEnvironment.deleteSubsession env).rtspClientSessions =
      env.rtspClientSessions := by
  induction subsessions generalizing env with
  | nil => rfl
  | cons sub rest ih => exact ih (env.deleteSubsession sub)

/-- The deletions do what the environment's removal says. -/
theorem removeRtspMediaSession_represents (h : s.WellFormed) (hrep : Represents s env)
    (channel : Channel) :
    ∃ t, s.removeRtspMediaSession channel = .ok t ∧
      Represents t (env.removeRtspMediaSession channel) := by
  obtain ⟨m, hm, hrep'⟩ := endServerSession_represents h hrep channel.streamName
  unfold removeRtspMediaSession LiveEnvironment.removeRtspMediaSession
  dsimp only
  rw [hm, hrep'.lookup]
  cases hlookup : m.lookupServerMediaSession channel.streamName with
  | none => exact ⟨m, bind_ok.mpr ⟨m, rfl, by rw [hlookup]; rfl⟩, hrep'⟩
  | some sms =>
    refine ⟨_, bind_ok.mpr ⟨m, rfl, by rw [hlookup]; rfl⟩, ?_, ?_⟩
    · dsimp only
      rw [LiveEnvironment.removeServerMediaSession, LiveEnvironment.closeServerMediaSession,
        LiveEnvironment.closeServerMediaSession_sessions, hrep'.sessions]
      rfl
    · dsimp only
      rw [LiveEnvironment.removeServerMediaSession, LiveEnvironment.closeServerMediaSession,
        closeServerMediaSession_clients]
      exact hrep'.clients

end Refinement

/-- The server starts without sessions and clients. -/
def start : ServerHeap β := ⟨[], ∅, ∅, []⟩

def createNewClientSession (s : ServerHeap β) (sessionId address : ℕ) : ServerHeap β :=
  { s with
    rtspClientSessions := s.rtspClientSessions.insert sessionId address
    objects := s.objects.insert address ⟨sessionId, true⟩ }

/-- A session is only added under a name that is not taken. -/
def addServerMediaSession (s : ServerHeap β) (sms : ServerMediaSession β) : ServerHeap β :=
  match s.lookupServerMediaSession sms.streamName with
  | some _ => s
  | none => { s with serverMediaSessions := s.serverMediaSessions ++ [sms] }

/-- A SETUP has a subsession construct a device source for the client. -/
def createSource (s : ServerHeap β) (streamName : String) (subsession clientId frameSize : ℕ) :
    ServerHeap β :=
  { s with
    serverMediaSessions := s.serverMediaSessions.map fun sms =>
      if sms.streamName = streamName then
        { sms with
          subsessions := sms.subsessions.map fun sub =>
            if sub.self = subsession then sub.createNewStreamSource clientId frameSize else sub }
      else sms }

/-- What happens to the server. The base class also deletes client sessions by itself, on a
TEARDOWN or after a timeout. -/
inductive HeapEvent (β : Type)
  | createNewClientSession (sessionId address : ℕ)
  | deleteClientSession (address : ℕ)
  | addServerMediaSession (sms : ServerMediaSession β)
  | createSource (streamName : String) (subsession clientId frameSize : ℕ)
  | removeRtspMediaSession (channel : Channel)

def heapStep (s : ServerHeap β) : HeapEvent β → Except HeapFault (ServerHeap β)
  | .createNewClientSession sessionId address => .ok (s.createNewClientSession sessionId address)
  | .deleteClientSession address => s.deleteClientSession address
  | .addServerMediaSession sms => .ok (s.addServerMediaSession sms)
  | .createSource streamName subsession clientId frameSize =>
    .ok (s.createSource streamName subsession clientId frameSize)
  | .removeRtspMediaSession channel => s.removeRtspMediaSession channel

/-- `new` never returns the address of a live object. -/
def FreshAddress (s : ServerHeap β) : HeapEvent β → Prop
  | .createNewClientSession _ address => s.objects[address]? = none
  | .deleteClientSession _ => True
  | .addServerMediaSession _ => True
  | .createSource .. => True
  | .removeRtspMediaSession _ => True

section Reachable
variable {s t : ServerHeap β}

theorem start_wellFormed : (start : ServerHeap β).WellFormed := by
  refine ⟨?_, List.nodup_nil⟩
  intro id address hentry
  simp [start] at hentry

theorem createNewClientSession_wellFormed (h : s.WellFormed) {sessionId address : ℕ}
    (hfresh : s.objects[address]? = none) :
    (s.createNewClientSession sessionId address).WellFormed := by
  refine ⟨?_, h.names⟩
  intro id address' hentry
  unfold createNewClientSession at hentry ⊢
  dsimp only at hentry ⊢
  rw [Std.ExtTreeMap.getElem?_insert] at hentry ⊢
  by_cases hid : sessionId = id
  · obtain rfl : address = address' := by simpa [hid] using hentry
    simp [hid]
  · have hold : s.rtspClientSessions[id]? = some address' := by simpa [hid] using hentry
    have hobject := h.registered id address' hold
    have hne : address ≠ address' := by
      rintro rfl
      rw [hfresh] at hobject
      cases hobject
    simpa [hne] using hobject

theorem addServerMediaSession_wellFormed (h : s.WellFormed) (sms : ServerMediaSession β) :
    (s.addServerMediaSession sms).WellFormed := by
  unfold addServerMediaSession
  cases hlookup : s.lookupServerMediaSession sms.streamName with
  | some _ => exact h
  | none =>
    refine ⟨h.registered, ?_⟩
    dsimp only
    rw [List.map_append, List.nodup_append]
    refine ⟨h.names, List.nodup_singleton _, ?_⟩
    intro name hname name' hname'
    obtain ⟨other, hother, rfl⟩ := List.mem_map.mp hname
    obtain rfl := List.mem_singleton.mp hname'
    exact lookup_eq_none_iff.mp hlookup other hother

theorem createSource_wellFormed (h : s.WellFormed) (streamName : String)
    (subsession clientId frameSize : ℕ) :
    (s.createSource streamName subsession clientId frameSize).WellFormed := by
  refine ⟨h.registered, ?_⟩
  have hnames : (s.createSource streamName subsession clientId frameSize).serverMediaSessions.map
      ServerMediaSession.streamName = s.serverMediaSessions.map ServerMediaSession.streamName := by
    unfold createSource
    rw [List.map_map]
    apply List.map_congr_left
    intro sms _
    rw [Function.comp_apply]
    split_ifs
    · rfl
    · rfl
  rw [hnames]
  exact h.names

theorem removeRtspMediaSession_wellFormed (h : s.WellFormed) {channel : Channel}
    (hremove : s.removeRtspMediaSession channel = .ok t) : t.WellFormed := by
  obtain ⟨m, _, hm, hwell, -⟩ := endServerSession_ok h channel.streamName
  rw [removeRtspMediaSession_eq hm] at hremove
  obtain rfl := Except.ok.inj hremove
  exact ⟨hwell.registered, hwell.names.sublist (List.filter_sublist.map _)⟩

theorem heapStep_wellFormed (h : s.WellFormed) {event : HeapEvent β}
    (hfresh : s.FreshAddress event) (hstep : heapStep s event = .ok t) : t.WellFormed := by
  cases event with
  | createNewClientSession sessionId address =>
    obtain rfl := Except.ok.inj hstep
    exact createNewClientSession_wellFormed h hfresh
  | deleteClientSession address => exact deleteClientSession_wellFormed h hstep
  | addServerMediaSession sms =>
    obtain rfl := Except.ok.inj hstep
    exact addServerMediaSession_wellFormed h sms
  | createSource streamName subsession clientId frameSize =>
    obtain rfl := Except.ok.inj hstep
    exact createSource_wellFormed h streamName subsession clientId frameSize
  | removeRtspMediaSession channel => exact removeRtspMediaSession_wellFormed h hstep

/-- A server is well formed after everything that can happen to it. -/
theorem wellFormed_of_run {events : List (HeapEvent β)}
    (hfresh : Along heapStep (fun _ s event => s.FreshAddress event) start events)
    (hrun : run heapStep start events = .ok s) : s.WellFormed := by
  refine run_induction_along (R := fun _ s => s.WellFormed) start_wellFormed ?_ hfresh hrun
  intro _ m event t _ hm hevent hstep
  exact heapStep_wellFormed hm hevent hstep

end Reachable

section Removal

/-- A session is removed without a fault, together with just its clients. -/
theorem removeRtspMediaSession_exact {s : ServerHeap β} (h : s.WellFormed) (channel : Channel) :
    ∃ t kicked, s.removeRtspMediaSession channel = .ok t ∧ Removes channel kicked s t := by
  obtain ⟨m, kicked, hm, hwell, hkicked, hnodup, hmem⟩ := endServerSession_ok h channel.streamName
  refine ⟨_, kicked, removeRtspMediaSession_eq hm,
    ⟨hnodup, hmem, hkicked.deleted, hkicked.objects, hkicked.clients, ?_, ?_⟩⟩
  · dsimp only
    rw [hkicked.sessions, List.filter_map]
    rfl
  · intro id hconnected
    by_contra hpresent
    rw [Bool.not_eq_false, hkicked.contains_iff] at hpresent
    obtain ⟨hregistered, hnotKicked⟩ := hpresent
    exact hnotKicked ((hmem id).mpr ⟨hregistered, hconnected⟩)

def liveChannel : Channel where
  channelId := 1
  channelName := "live"
  videoDescriptor := some ⟨"H264", "", ""⟩
  audioDescriptor := some ⟨"AMR", 1, 16, 8000, ""⟩
  described := .inl rfl

/-- Client 7 plays the video and the audio of a session, client 8 is connected without. -/
def twoClients : ServerHeap Unit :=
  (((((start.addServerMediaSession ⟨"live",
      [⟨0, 1, 0, "live", .h264 "" "", (), [], 0⟩, ⟨1, 1, 1, "live", .amr 1 16 8000, (), [], 0⟩]⟩
    ).createNewClientSession 7 100).createNewClientSession 8 101
    ).createSource "live" 0 7 1000).createSource "live" 1 7 100)

theorem twoClients_wellFormed : twoClients.WellFormed := by
  apply createSource_wellFormed
  apply createSource_wellFormed
  apply createNewClientSession_wellFormed
  · apply createNewClientSession_wellFormed
    · apply addServerMediaSession_wellFormed
      exact start_wellFormed
    · decide +kernel
  · decide +kernel

theorem removeRtspMediaSession_exact_twoClients :
    ∃ t, twoClients.removeRtspMediaSession liveChannel = .ok t ∧
      Removes liveChannel [7] twoClients t := by
  obtain ⟨t, kicked, ht, hremoves⟩ :=
    removeRtspMediaSession_exact twoClients_wellFormed liveChannel
  have hdeleted : (twoClients.removeRtspMediaSession liveChannel).map deleted = .ok [7] := by
    rfl
  rw [ht] at hdeleted
  have hkicked : [] ++ kicked = [7] :=
    hremoves.deleted.symm.trans (Except.ok.inj hdeleted)
  rw [List.nil_append] at hkicked
  exact ⟨t, ht, hkicked ▸ hremoves⟩

end Removal

end ServerHeap

end LiveMediaExt.Rtsp
