import LiveMediaExt.ClientKicking

/-!
# The destruction of the server

The derived destructor runs first: it makes the client sessions forget the server, and its map is
gone when the base class deletes them. A client session that still knew the server would call it
back then.
-/
namespace LiveMediaExt.Rtsp.ServerHeap
open Execution Media Subsession
variable {β : Type}

/-- `it->second->orphan()`. -/
def orphan (s : ServerHeap β) (address : ℕ) : Except HeapFault (ServerHeap β) :=
  match s.objects[address]? with
  | none => .error .danglingPointer
  | some object =>
    .ok { s with objects := s.objects.insert address { object with hasParent := false } }

/-- `delete` once the server's own part is gone: only an orphan does not call it back. -/
def deleteOrphan (s : ServerHeap β) (address : ℕ) : Except HeapFault (ServerHeap β) :=
  match s.objects[address]? with
  | none => .error .danglingPointer
  | some object =>
    if object.hasParent then .error .danglingPointer
    else
      let s := s.reclaimStreams object.sessionId
      .ok { s with
        objects := s.objects.erase address
        deleted := s.deleted ++ [object.sessionId] }

/-- The destructor, and then that of the base class, which deletes the client sessions in the order
of its own table and closes the media sessions. -/
def destroy (s : ServerHeap β) (clientSessions : List ℕ) : Except HeapFault (ServerHeap β) := do
  let s ← run orphan s (s.rtspClientSessions.toList.map Prod.snd)
  let s ← run deleteOrphan { s with rtspClientSessions := ∅ } clientSessions
  return { s with serverMediaSessions := [] }

/-- Every client session that is alive knows the server, and the server knows it. -/
def Known (s : ServerHeap β) : Prop :=
  ∀ (address : ℕ) (object : ClientSessionObject), s.objects[address]? = some object →
    object.hasParent = true ∧ s.rtspClientSessions[object.sessionId]? = some address

/-- The base class gives a new client session an id that no other has. -/
def FreshId (s : ServerHeap β) : HeapEvent β → Prop
  | .createNewClientSession sessionId _ =>
    ∀ (address : ℕ) (object : ClientSessionObject), s.objects[address]? = some object →
      object.sessionId ≠ sessionId
  | .deleteClientSession _ => True
  | .addServerMediaSession _ => True
  | .createSource .. => True
  | .removeRtspMediaSession _ => True

def HeapEvent.created? : HeapEvent β → Option ℕ
  | .createNewClientSession sessionId _ => some sessionId
  | .deleteClientSession _ => none
  | .addServerMediaSession _ => none
  | .createSource .. => none
  | .removeRtspMediaSession _ => none

/-- The ids of the client sessions that were created. -/
def created (events : List (HeapEvent β)) : List ℕ := events.filterMap HeapEvent.created?

/-- Each client session that was created is either registered or deleted, and only once. -/
structure Accounts (events : List (HeapEvent β)) (s : ServerHeap β) : Prop where
  wellFormed : s.WellFormed
  known : s.Known
  counts : ∀ id, (created events).count id =
    s.deleted.count id + if s.rtspClientSessions.contains id then 1 else 0

section Accounting
variable {s t : ServerHeap β} {events : List (HeapEvent β)} {ids : List ℕ}

theorem created_snoc (events : List (HeapEvent β)) (event : HeapEvent β) :
    created (events ++ [event]) = created events ++ event.created?.toList := by
  unfold created
  rw [List.filterMap_append]
  cases event <;> rfl

theorem Known.kicked (h : s.Known) (hkicked : Kicked ids s t) : t.Known := by
  intro address object hobject
  obtain ⟨hold, hnot⟩ := (hkicked.objects address object).mp hobject
  obtain ⟨hparent, hregistered⟩ := h address object hold
  exact ⟨hparent, (hkicked.clients _ _).mpr
    ⟨hregistered, fun hid => hnot object.sessionId hid hregistered⟩⟩

/-- Kicking turns registered client sessions into deleted ones. -/
theorem Accounts.kicked (h : Accounts events s) (hwell : t.WellFormed)
    (hkicked : Kicked ids s t) (hnodup : ids.Nodup)
    (hmem : ∀ id ∈ ids, s.rtspClientSessions.contains id = true) {event : HeapEvent β}
    (hevent : event.created? = none) : Accounts (events ++ [event]) t where
  wellFormed := hwell
  known := h.known.kicked hkicked
  counts := by
    intro id
    have hleft := hkicked.contains_iff id
    rw [created_snoc, hevent, Option.toList_none, List.append_nil, h.counts, hkicked.deleted,
      List.count_append, hnodup.count]
    by_cases hid : id ∈ ids
    · rw [if_pos (hmem id hid), if_pos hid, if_neg (by simp [hleft, hid])]
    · have hsame : t.rtspClientSessions.contains id = s.rtspClientSessions.contains id := by
        rw [Bool.eq_iff_iff, hleft]
        exact and_iff_left hid
      rw [if_neg hid, hsame, Nat.add_zero]

theorem start_accounts : Accounts [] (start : ServerHeap β) where
  wellFormed := start_wellFormed
  known := by
    intro address object hobject
    simp [start] at hobject
  counts := by
    intro id
    simp [start, created]

/-- What leaves the client sessions alone keeps the account. -/
theorem Accounts.kept (h : Accounts events s) (hwell : t.WellFormed)
    (hobjects : t.objects = s.objects) (hclients : t.rtspClientSessions = s.rtspClientSessions)
    (hdeleted : t.deleted = s.deleted) {event : HeapEvent β} (hevent : event.created? = none) :
    Accounts (events ++ [event]) t where
  wellFormed := hwell
  known := by
    intro address object hobject
    rw [hobjects] at hobject
    rw [hclients]
    exact h.known address object hobject
  counts := by
    intro id
    rw [created_snoc, hevent, Option.toList_none, List.append_nil, hclients, hdeleted]
    exact h.counts id

theorem Accounts.createNewClientSession (h : Accounts events s) {sessionId address : ℕ}
    (haddress : s.objects[address]? = none)
    (hid : s.FreshId (.createNewClientSession sessionId address)) :
    Accounts (events ++ [.createNewClientSession sessionId address])
      (s.createNewClientSession sessionId address) where
  wellFormed := createNewClientSession_wellFormed h.wellFormed haddress
  known := by
    intro address' object hobject
    unfold ServerHeap.createNewClientSession at hobject ⊢
    dsimp only at hobject ⊢
    rw [Std.ExtTreeMap.getElem?_insert] at hobject ⊢
    by_cases hsame : address = address'
    · obtain rfl : ClientSessionObject.mk sessionId true = object := by simpa [hsame] using hobject
      simp [hsame]
    · have hold : s.objects[address']? = some object := by simpa [hsame] using hobject
      obtain ⟨hparent, hregistered⟩ := h.known address' object hold
      have hne : sessionId ≠ object.sessionId := (hid address' object hold).symm
      exact ⟨hparent, by simpa [hne] using hregistered⟩
  counts := by
    intro id
    have hnew : s.rtspClientSessions.contains sessionId = false := by
      rw [← Bool.not_eq_true, contains_iff]
      rintro ⟨address', hregistered⟩
      exact hid address' _ (h.wellFormed.registered sessionId address' hregistered) rfl
    rw [created_snoc, List.count_append, h.counts]
    unfold ServerHeap.createNewClientSession HeapEvent.created?
    dsimp only
    rw [Std.ExtTreeMap.contains_insert]
    by_cases hsame : sessionId = id
    · subst hsame
      simp [hnew]
    · simp [hsame]

theorem Accounts.deleteClientSession (h : Accounts events s) {address : ℕ}
    (hstep : s.deleteClientSession address = .ok t) :
    Accounts (events ++ [.deleteClientSession address]) t := by
  cases hobject : s.objects[address]? with
  | none =>
    unfold ServerHeap.deleteClientSession at hstep
    rw [hobject] at hstep
    cases hstep
  | some object =>
    obtain ⟨-, hregistered⟩ := h.known address object hobject
    obtain ⟨t', ht', hwell, hkicked⟩ := deleteClientSession_ok h.wellFormed hregistered
    obtain rfl : t' = t := Except.ok.inj (ht'.symm.trans hstep)
    refine h.kicked hwell hkicked (List.nodup_singleton _) (fun id hmem => ?_) rfl
    rw [List.mem_singleton.mp hmem]
    exact contains_iff.mpr ⟨address, hregistered⟩

/-- One event. -/
theorem Accounts.step (h : Accounts events s) {event : HeapEvent β} (haddress : s.FreshAddress event)
    (hid : s.FreshId event) (hstep : heapStep s event = .ok t) :
    Accounts (events ++ [event]) t := by
  have hwell := heapStep_wellFormed h.wellFormed haddress hstep
  cases event with
  | createNewClientSession sessionId address =>
    obtain rfl := Except.ok.inj hstep
    exact h.createNewClientSession haddress hid
  | deleteClientSession address => exact h.deleteClientSession hstep
  | addServerMediaSession sms =>
    obtain rfl := Except.ok.inj hstep
    have hsame : (s.addServerMediaSession sms).objects = s.objects ∧
        (s.addServerMediaSession sms).rtspClientSessions = s.rtspClientSessions ∧
        (s.addServerMediaSession sms).deleted = s.deleted := by
      unfold addServerMediaSession
      split
      · exact ⟨rfl, rfl, rfl⟩
      · exact ⟨rfl, rfl, rfl⟩
    exact h.kept hwell hsame.1 hsame.2.1 hsame.2.2 rfl
  | createSource streamName subsession clientId frameSize =>
    obtain rfl := Except.ok.inj hstep
    exact h.kept hwell rfl rfl rfl rfl
  | removeRtspMediaSession channel =>
    obtain ⟨m, ids, hm, hwell', hkicked, hnodup, hmem⟩ :=
      endServerSession_ok h.wellFormed channel.streamName
    change s.removeRtspMediaSession channel = .ok t at hstep
    rw [removeRtspMediaSession_eq hm] at hstep
    obtain rfl := Except.ok.inj hstep
    have hm' : Accounts (events ++ [.removeRtspMediaSession channel]) m :=
      h.kicked hwell' hkicked hnodup (fun id hid => ((hmem id).mp hid).1) rfl
    exact ⟨hwell, hm'.known, hm'.counts⟩

theorem accounts_of_run
    (hfresh : Along heapStep (fun _ s event => s.FreshAddress event ∧ s.FreshId event) start events)
    (hrun : run heapStep start events = .ok s) : Accounts events s := by
  refine run_induction_along (R := fun es s => Accounts es s) start_accounts ?_ hfresh hrun
  intro es m event t _ hm hevent hstep
  exact hm.step hevent.1 hevent.2 hstep

end Accounting

section Destruction
variable {s t : ServerHeap β} {addresses : List ℕ}

/-- The objects know no server any more, and nothing else has changed. -/
structure Orphaned (addresses : List ℕ) (s t : ServerHeap β) : Prop where
  deleted : t.deleted = s.deleted
  objects : ∀ address : ℕ, t.objects[address]? = (s.objects[address]?).map fun object =>
    if address ∈ addresses then { object with hasParent := false } else object

theorem orphans_ok
    (hlive : ∀ address ∈ addresses, ∃ object, s.objects[address]? = some object) :
    ∃ t, run orphan s addresses = .ok t ∧ Orphaned addresses s t := by
  induction addresses generalizing s with
  | nil => exact ⟨s, rfl, rfl, by simp⟩
  | cons first rest ih =>
    obtain ⟨⟨object, hobject⟩, hrest⟩ := List.forall_mem_cons.mp hlive
    let m : ServerHeap β :=
      { s with objects := s.objects.insert first { object with hasParent := false } }
    have hm : s.orphan first = .ok m := by
      unfold orphan
      rw [hobject]
    have hget (address : ℕ) : m.objects[address]? = (s.objects[address]?).map fun object =>
        if address = first then { object with hasParent := false } else object := by
      change (s.objects.insert first _)[address]? = _
      rw [Std.ExtTreeMap.getElem?_insert]
      by_cases hsame : address = first
      · subst hsame
        simp [hobject]
      · simp [hsame, Ne.symm hsame]
    obtain ⟨t, ht, hdeleted, hobjects⟩ := ih (s := m) fun address haddress => by
      obtain ⟨object', hobject'⟩ := hrest address haddress
      rw [hget, hobject']
      exact ⟨_, rfl⟩
    refine ⟨t, by rw [run_cons_ok hm, ht], hdeleted, fun address => ?_⟩
    rw [hobjects, hget, Option.map_map]
    congr 1
    funext object'
    by_cases hfirst : address = first
    · simp [hfirst]
    · simp [hfirst]

/-- Different orphans are deleted one after the other. -/
theorem deleteOrphans_ok (hnodup : addresses.Nodup)
    (horphans : ∀ address ∈ addresses, ∃ sessionId, s.objects[address]? =
      some (ClientSessionObject.mk sessionId false)) :
    ∃ t, run deleteOrphan s addresses = .ok t ∧
      t.deleted = s.deleted ++
        addresses.filterMap (fun address => s.objects[address]?.map ClientSessionObject.sessionId) ∧
      ∀ address : ℕ, t.objects[address]? =
        if address ∈ addresses then none else s.objects[address]? := by
  induction addresses generalizing s with
  | nil => exact ⟨s, rfl, by simp, by simp⟩
  | cons first rest ih =>
    obtain ⟨hfirst, hnodup⟩ := List.nodup_cons.mp hnodup
    obtain ⟨⟨sessionId, hobject⟩, hrest⟩ := List.forall_mem_cons.mp horphans
    let m : ServerHeap β :=
      { s.reclaimStreams sessionId with
        objects := s.objects.erase first
        deleted := s.deleted ++ [sessionId] }
    have hm : s.deleteOrphan first = .ok m := by
      unfold deleteOrphan
      rw [hobject]
      rfl
    have hget (address : ℕ) : m.objects[address]? =
        if address = first then none else s.objects[address]? := by
      change (s.objects.erase first)[address]? = _
      rw [Std.ExtTreeMap.getElem?_erase]
      by_cases hsame : address = first
      · simp [hsame]
      · simp [hsame, Ne.symm hsame]
    have hkept (address : ℕ) (haddress : address ∈ rest) :
        m.objects[address]? = s.objects[address]? := by
      rw [hget, if_neg]
      rintro rfl
      exact hfirst haddress
    obtain ⟨t, ht, hdeleted, hobjects⟩ := ih (s := m) hnodup fun address haddress => by
      rw [hkept address haddress]
      exact hrest address haddress
    refine ⟨t, by rw [run_cons_ok hm, ht], ?_, fun address => ?_⟩
    · have hids : rest.filterMap
          (fun address => m.objects[address]?.map ClientSessionObject.sessionId) =
          rest.filterMap fun address => s.objects[address]?.map ClientSessionObject.sessionId :=
        List.filterMap_congr fun address haddress => by rw [hkept address haddress]
      rw [hdeleted, hids, List.filterMap_cons, hobject]
      exact List.append_assoc _ _ _
    · rw [hobjects, hget]
      by_cases hsame : address = first
      · simp [hsame]
      · simp [hsame]

/-- The ids of the client sessions that are alive are those of the map, each once. -/
theorem Known.count_ids (h : s.Known) (hwell : s.WellFormed) (hnodup : addresses.Nodup)
    (hall : ∀ address, address ∈ addresses ↔ ∃ object, s.objects[address]? = some object) (id : ℕ) :
    (addresses.filterMap fun address =>
      s.objects[address]?.map ClientSessionObject.sessionId).count id =
        if s.rtspClientSessions.contains id then 1 else 0 := by
  have hdistinct : (addresses.filterMap fun address =>
      s.objects[address]?.map ClientSessionObject.sessionId).Nodup := by
    apply hnodup.filterMap
    intro address address' id' hid hid'
    obtain ⟨object, hobject, rfl⟩ := Option.map_eq_some_iff.mp hid
    obtain ⟨object', hobject', hsame⟩ := Option.map_eq_some_iff.mp hid'
    have hregistered := (h address object hobject).2
    rw [← hsame, (h address' object' hobject').2] at hregistered
    exact (Option.some.inj hregistered).symm
  have hmem : id ∈ (addresses.filterMap fun address =>
      s.objects[address]?.map ClientSessionObject.sessionId) ↔
      s.rtspClientSessions.contains id = true := by
    rw [List.mem_filterMap, contains_iff]
    constructor
    · rintro ⟨address, -, hid⟩
      obtain ⟨object, hobject, rfl⟩ := Option.map_eq_some_iff.mp hid
      exact ⟨address, (h address object hobject).2⟩
    · rintro ⟨address, hregistered⟩
      have hobject := hwell.registered id address hregistered
      exact ⟨address, (hall address).mpr ⟨_, hobject⟩, by rw [hobject]; rfl⟩
  rw [hdistinct.count]
  simp only [hmem]

end Destruction

/-- Whatever has happened to the server, its destruction touches no client session that is gone and
none calls it back. In the end each client session that was ever created has been deleted just
once. -/
theorem destroyed_each_once (events : List (HeapEvent β)) (s : ServerHeap β)
    (clientSessions : List ℕ)
    (hfresh : Along heapStep (fun _ s event => s.FreshAddress event ∧ s.FreshId event) start events)
    (hrun : run heapStep start events = .ok s) (hnodup : clientSessions.Nodup)
    (hall : ∀ address, address ∈ clientSessions ↔ ∃ object, s.objects[address]? = some object) :
    ∃ t, s.destroy clientSessions = .ok t ∧ t.objects = ∅ ∧ t.deleted.Perm (created events) := by
  have haccounts := accounts_of_run hfresh hrun
  have hknown := haccounts.known
  have hregistered (address : ℕ) :
      address ∈ s.rtspClientSessions.toList.map Prod.snd ↔
        ∃ object, s.objects[address]? = some object := by
    rw [List.mem_map]
    constructor
    · rintro ⟨⟨id, _⟩, hentry, rfl⟩
      exact ⟨_, haccounts.wellFormed.registered id _
        (Std.ExtTreeMap.mem_toList_iff_getElem?_eq_some.mp hentry)⟩
    · rintro ⟨object, hobject⟩
      exact ⟨(object.sessionId, address), Std.ExtTreeMap.mem_toList_iff_getElem?_eq_some.mpr
        (hknown address object hobject).2, rfl⟩
  obtain ⟨m, hm, hdeleted, hobjects⟩ :=
    orphans_ok (s := s) fun address haddress => (hregistered address).mp haddress
  have horphans (address : ℕ) : m.objects[address]? = (s.objects[address]?).map fun object =>
      { object with hasParent := false } := by
    rw [hobjects]
    cases hobject : s.objects[address]? with
    | none => rfl
    | some object => simp [(hregistered address).mpr ⟨object, hobject⟩]
  obtain ⟨t, ht, hdeleted', hobjects'⟩ :=
    deleteOrphans_ok (s := { m with rtspClientSessions := ∅ }) hnodup fun address haddress => by
      obtain ⟨object, hobject⟩ := (hall address).mp haddress
      refine ⟨object.sessionId, ?_⟩
      change m.objects[address]? = _
      rw [horphans, hobject]
      rfl
  refine ⟨{ t with serverMediaSessions := [] }, bind_ok.mpr ⟨m, hm, bind_ok.mpr ⟨t, ht, rfl⟩⟩,
    ?_, ?_⟩
  · apply Std.ExtTreeMap.ext_getElem?
    intro address
    rw [hobjects', Std.ExtTreeMap.getElem?_empty]
    split_ifs with hmem
    · rfl
    · change m.objects[address]? = none
      rw [horphans]
      cases hobject : s.objects[address]? with
      | none => rfl
      | some object => exact absurd ((hall address).mpr ⟨object, hobject⟩) hmem
  · have hids : (clientSessions.filterMap fun address =>
        m.objects[address]?.map ClientSessionObject.sessionId) =
        clientSessions.filterMap fun address =>
          s.objects[address]?.map ClientSessionObject.sessionId := by
      congr 1
      funext address
      rw [horphans, Option.map_map]
      rfl
    rw [List.perm_iff_count]
    intro id
    change t.deleted.count id = _
    rw [hdeleted', haccounts.counts, List.count_append]
    change List.count id m.deleted + List.count id (clientSessions.filterMap fun address =>
      m.objects[address]?.map ClientSessionObject.sessionId) = _
    rw [hids, hknown.count_ids haccounts.wellFormed hnodup hall, hdeleted]

instance (s : ServerHeap β) (event : HeapEvent β) : Decidable (s.FreshAddress event) :=
  match event with
  | .createNewClientSession _ _ => inferInstanceAs (Decidable (_ = _))
  | .deleteClientSession _ | .addServerMediaSession _ | .createSource .. |
    .removeRtspMediaSession _ => inferInstanceAs (Decidable True)

instance (s : ServerHeap β) (event : HeapEvent β) : Decidable (s.FreshId event) :=
  match event with
  | .createNewClientSession sessionId _ =>
    decidable_of_iff (∀ entry ∈ s.objects.toList, entry.2.sessionId ≠ sessionId) (by
      simp only [Prod.forall, Std.ExtTreeMap.mem_toList_iff_getElem?_eq_some]
      rfl)
  | .deleteClientSession _ | .addServerMediaSession _ | .createSource .. |
    .removeRtspMediaSession _ => inferInstanceAs (Decidable True)

/-- One client leaves, one is kicked with its session, and the id of the first one is taken again
before the server is destroyed. -/
def fourClients : List (HeapEvent Unit) :=
  [.addServerMediaSession ⟨"live", [⟨0, 1, 0, "live", .h264 "" "", (), [], 0⟩]⟩,
    .createNewClientSession 8 101, .deleteClientSession 101, .createNewClientSession 7 100,
    .createNewClientSession 8 102, .createSource "live" 0 7 1000,
    .removeRtspMediaSession liveChannel, .createNewClientSession 9 100]

theorem destroyed_each_once_four : ∃ s t, run heapStep start fourClients = .ok s ∧
    s.destroy [102, 100] = .ok t ∧ t.objects = ∅ ∧ t.deleted.Perm [8, 7, 8, 9] := by
  have hfresh : Along heapStep (fun _ s event => s.FreshAddress event ∧ s.FreshId event) start
      fourClients := by
    decide +kernel
  have hobjects : (run heapStep start fourClients).map (fun s => s.objects.toList) =
      .ok [(100, ⟨9, true⟩), (102, ⟨8, true⟩)] := by
    decide +kernel
  cases hrun : run heapStep start fourClients with
  | error f =>
    rw [hrun] at hobjects
    cases hobjects
  | ok s =>
    rw [hrun] at hobjects
    have hlist : s.objects.toList = [(100, ⟨9, true⟩), (102, ⟨8, true⟩)] := Except.ok.inj hobjects
    have hall : ∀ address, address ∈ [102, 100] ↔ ∃ object, s.objects[address]? = some object := by
      intro address
      simp only [← Std.ExtTreeMap.mem_toList_iff_getElem?_eq_some, hlist]
      simp [exists_or, or_comm]
    obtain ⟨t, ht, hempty, hperm⟩ :=
      destroyed_each_once fourClients s [102, 100] hfresh hrun (by decide) hall
    exact ⟨s, t, rfl, ht, hempty, hperm⟩

end LiveMediaExt.Rtsp.ServerHeap
