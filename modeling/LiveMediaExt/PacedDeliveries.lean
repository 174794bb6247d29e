import LiveMediaExt.ServerPipeline

/-!
# Deliveries that the event loop keeps up with

A turn takes fifteen samples of each kind. As long as no more are delivered between two turns, the
queues of the packet manager are empty after every turn, no assertion fails on the way, and every
sample reaches its subsession in the next turn.
-/
namespace LiveMediaExt.System
open Execution Media Sources Subsession Scheduler Rtsp

/-- At most fifteen samples of each kind come between two turns; `waiting` counts those since the
last one. -/
def Paced (waiting : MediaType → ℕ) : List SystemEvent → Prop
  | [] => True
  | .deliver media mediaSamples :: events =>
    waiting media + mediaSamples.length ≤ 15 ∧
      Paced (Function.update waiting media (waiting media + mediaSamples.length)) events
  | .turn _ :: events => Paced (fun _ => 0) events
  | .client _ _ :: events => Paced waiting events

/-- Samples are delivered for a subsession that can take them apart, and clients call a registered
subsession. -/
def Served (scheduler : LiveSourceTaskScheduler0)
    (p : Pipeline SingleMediaSampleBuffer) : SystemEvent → Prop
  | .deliver media mediaSamples =>
    ∃ mediaSubsession sub, scheduler.registered (p.manager.ids media) = some mediaSubsession ∧
      p.subsessions mediaSubsession = some sub ∧
      ∀ s ∈ mediaSamples, Proper sub.kind s ∧ s.getMediaSize < 2 ^ 31
  | .turn _ => True
  | .client mediaSubsession _ =>
    ∃ media, scheduler.registered (p.manager.ids media) = some mediaSubsession

/-- The state of a server that keeps up, against its start `p`. -/
structure KeepsUp (scheduler : LiveSourceTaskScheduler0) (p : Pipeline SingleMediaSampleBuffer)
    (waiting : MediaType → ℕ) (t : Pipeline SingleMediaSampleBuffer) : Prop where
  wired : Wired scheduler t
  ids : t.manager.ids = p.manager.ids
  kinds : ∀ mediaSubsession first, p.subsessions mediaSubsession = some first →
    ∃ sub, t.subsessions mediaSubsession = some sub ∧ sub.kind = first.kind
  waits : ∀ media, (t.manager.queue media).length ≤ waiting media
  unserved : ∀ media, scheduler.registered (t.manager.ids media) = none →
    t.manager.queue media = []
  follows : ∀ media mediaSubsession sub,
    scheduler.registered (t.manager.ids media) = some mediaSubsession →
    t.subsessions mediaSubsession = some sub → ∃ events, ClientsFollow events sub ∧
      ∀ s ∈ samplesAdded events ++ (t.manager.queue media).map (sent (t.manager.ids media)),
        Proper sub.kind s ∧ s.getMediaSize < 2 ^ 31

section Steps
variable {scheduler : LiveSourceTaskScheduler0} (assertions : Bool)
  {waiting : MediaType → ℕ} {p m t : Pipeline SingleMediaSampleBuffer}

/-- A delivery within the limit finds room. -/
theorem KeepsUp.deliver (h : KeepsUp scheduler p waiting m) {media : MediaType}
    {mediaSamples : List MediaSample} (hserved : Served scheduler p (.deliver media mediaSamples))
    (hlimit : waiting media + mediaSamples.length ≤ 15) :
    ∃ t, systemStep assertions scheduler m (.deliver media mediaSamples) = .ok t ∧
      KeepsUp scheduler p
        (Function.update waiting media (waiting media + mediaSamples.length)) t := by
  have hwaits : ((m.manager.packetManager.samples media).items).length ≤ waiting media :=
    h.waits media
  have hfits : ((m.manager.packetManager.samples media).push mediaSamples).2 = [] := by
    rw [Queues.BoundedQueue.push_fits_iff]
    have hcapacity : lfCapacity = 10240 := rfl
    omega
  have hdeliver := PacketManagerMediaChannel.deliver_fits assertions hfits
  have hok : ∃ t, m.addMediaSamples media assertions mediaSamples = .ok t := by
    unfold Pipeline.addMediaSamples
    rw [hdeliver]
    exact ⟨_, rfl⟩
  obtain ⟨t, ht⟩ := hok
  obtain ⟨hids, hsubsessions, hqueue⟩ := addMediaSamples_ok hfits ht
  have hstep : systemStep assertions scheduler m (.deliver media mediaSamples) = .ok t := ht
  have hfeeds : Feeds scheduler [.deliver media mediaSamples] m t :=
    feeds_step h.wired hfits hstep
  obtain ⟨place, first, hplace, hfirst, hgood⟩ := hserved
  refine ⟨t, ht, hfeeds.wired h.wired, hids.trans h.ids, fun mediaSubsession old hold => ?_,
    fun other => ?_, fun other hnone => ?_, fun other mediaSubsession sub hother hsub => ?_⟩
  · rw [hsubsessions]
    exact h.kinds mediaSubsession old hold
  · rw [hqueue other]
    by_cases hsame : other = media
    · subst hsame
      have hlength := h.waits other
      rw [Function.update_self, List.length_append, SystemEvent.delivered, if_pos rfl]
      omega
    · rw [Function.update_of_ne hsame, SystemEvent.delivered, if_neg (Ne.symm hsame),
        List.append_nil]
      exact h.waits other
  · rw [hids] at hnone
    rw [hqueue other, h.unserved other hnone, SystemEvent.delivered]
    have hne : media ≠ other := by
      rintro rfl
      rw [h.ids, hplace] at hnone
      cases hnone
    rw [if_neg hne, List.append_nil]
  · rw [hids] at hother
    rw [hsubsessions] at hsub
    obtain ⟨events, hfollows, hall⟩ := h.follows other mediaSubsession sub hother hsub
    refine ⟨events, hfollows, ?_⟩
    rw [hqueue other, hids, List.map_append, ← List.append_assoc]
    intro s hs
    rcases List.mem_append.mp hs with hs | hs
    · exact hall s hs
    · obtain ⟨s₀, hs₀, rfl⟩ := List.mem_map.mp hs
      rw [SystemEvent.delivered] at hs₀
      split_ifs at hs₀ with hsame
      · subst hsame
        rw [h.ids, hplace] at hother
        obtain rfl := Option.some.inj hother
        obtain ⟨sub', hsub', hkind⟩ := h.kinds place first hfirst
        obtain rfl : sub = sub' := Option.some.inj (hsub.symm.trans hsub')
        obtain ⟨hproper, hsize⟩ := hgood s₀ hs₀
        rw [← hkind] at hproper
        exact ⟨proper_sent hproper, hsize⟩
      · cases hs₀

/-- A turn faults on none of the samples, and takes them all. -/
theorem KeepsUp.turn (h : KeepsUp scheduler p waiting m) (hlimit : ∀ media, waiting media ≤ 15)
    (worlds : ℕ → ℕ → ℕ → Delivery) :
    ∃ t, systemStep assertions scheduler m (.turn worlds) = .ok t ∧
      KeepsUp scheduler p (fun _ => 0) t := by
  cases ht : System.turn scheduler worlds m with
  | error f =>
    exfalso
    obtain ⟨media, mediaSubsession, hplace, hraised⟩ := turn_raised h.wired ht
    obtain ⟨sub, sub', calls, mediaSample, world, g, hsub, hrun, -, hfrom, hstep, -⟩ :=
      hraised.raised
    obtain ⟨events, hfollows, hall⟩ := h.follows media mediaSubsession sub hplace hsub
    have hgood : ∀ s ∈ samplesAdded (events ++ (calls ++ [.addMediaSample mediaSample world])),
        Proper sub.kind s ∧ s.getMediaSize < 2 ^ 31 := by
      intro s hs
      rw [samplesAdded_append, samplesAdded_append] at hs
      refine hall s ?_
      rcases List.mem_append.mp hs with hs | hs
      · exact List.mem_append_left _ hs
      · obtain ⟨s₀, hs₀, rfl⟩ := hfrom s hs
        exact List.mem_append_right _ (List.mem_map_of_mem hs₀)
    obtain ⟨t, ht'⟩ := run_follows_ok hfollows (fun s hs => (hgood s hs).1)
      fun s hs => (hgood s hs).2
    rw [run_snoc_ok hrun, hstep] at ht'
    cases ht'
  | ok t =>
    have hfeeds := feeds_turn h.wired ht
    have hqueue : ∀ media, t.manager.queue media = [] := by
      intro media
      cases hplace : scheduler.registered (m.manager.ids media) with
      | none =>
        obtain ⟨calls, heffect, -, hhanded, -⟩ := turn_ok h.wired.sourcesDiffer ht
        have htaken := heffect.taken media
        rw [h.unserved media hplace] at htaken
        exact (List.append_eq_nil_iff.mp htaken.symm).2
      | some mediaSubsession =>
        rw [(turn_taken h.wired ht hplace).queue, List.drop_eq_nil_iff]
        exact (h.waits media).trans (hlimit media)
    refine ⟨t, ht, hfeeds.wired h.wired, hfeeds.ids.trans h.ids, fun mediaSubsession old hold => ?_,
      fun media => ?_, fun media _ => hqueue media, fun media mediaSubsession sub' hplace hsub' => ?_⟩
    · obtain ⟨sub, hsub, hkind⟩ := h.kinds mediaSubsession old hold
      obtain ⟨sub', hsub', -, hkind'⟩ := hfeeds.alive mediaSubsession sub hsub
      exact ⟨sub', hsub', hkind'.trans hkind⟩
    · rw [hqueue media]
      exact Nat.zero_le _
    · rw [hfeeds.ids] at hplace
      obtain ⟨sub, sub'', calls, hsub, hsub'', hrun, -, hadded⟩ :=
        (turn_taken h.wired ht hplace).fed
      obtain rfl : sub' = sub'' := Option.some.inj (hsub'.symm.trans hsub'')
      obtain ⟨events, hfollows, hall⟩ := h.follows media mediaSubsession sub hplace hsub
      have hgood : ∀ s ∈ samplesAdded (events ++ calls),
          Proper sub.kind s ∧ s.getMediaSize < 2 ^ 31 := by
        intro s hs
        rw [samplesAdded_append, hadded] at hs
        refine hall s ?_
        rcases List.mem_append.mp hs with hs | hs
        · exact List.mem_append_left _ hs
        · obtain ⟨s₀, hs₀, rfl⟩ := List.mem_map.mp hs
          exact List.mem_append_right _ (List.mem_map_of_mem (List.mem_of_mem_take hs₀))
      refine ⟨events ++ calls, run_follows hfollows (fun s hs => (hgood s ?_).1) hrun, ?_⟩
      · rw [samplesAdded_append]
        exact List.mem_append_right _ hs
      · rw [hqueue media, List.map_nil, List.append_nil, run_kind hrun]
        exact hgood

/-- A client's call faults on none of the queued samples. -/
theorem KeepsUp.client (h : KeepsUp scheduler p waiting m) {mediaSubsession : ℕ}
    {call : ClientCall} (hserved : Served scheduler p (.client mediaSubsession call)) :
    ∃ t, systemStep assertions scheduler m (.client mediaSubsession call) = .ok t ∧
      KeepsUp scheduler p waiting t := by
  obtain ⟨media, hplace⟩ := hserved
  rw [← h.ids] at hplace
  obtain ⟨sub, hsub, -⟩ := h.wired.alive _ _ hplace
  obtain ⟨events, hfollows, hall⟩ := h.follows media mediaSubsession sub hplace hsub
  have hadded : samplesAdded (events ++ [call.event]) = samplesAdded events := by
    rw [samplesAdded_append, samplesAdded_call, List.append_nil]
  have hgood : ∀ s ∈ samplesAdded (events ++ [call.event]),
      Proper sub.kind s ∧ s.getMediaSize < 2 ^ 31 := by
    rw [hadded]
    exact fun s hs => hall s (List.mem_append_left _ hs)
  cases hstep : sub.step call.event with
  | error f =>
    exact absurd hstep
      (hfollows.step_ne_error (fun s hs => (hgood s hs).1) fun s hs => (hgood s hs).2)
  | ok sub' =>
    have hnone : ∀ s ∈ samplesAdded [call.event], Proper sub.kind s := by
      rw [samplesAdded_call]
      simp
    have hfollows' := hfollows.step hnone hstep
    have hkind : sub'.kind = sub.kind := (step_frame hstep).1
    have hcall : systemStep assertions scheduler m (.client mediaSubsession call) = .ok { m with
        subsessions := Function.update m.subsessions mediaSubsession (some sub') } := by
      unfold systemStep Pipeline.callClient
      dsimp only
      rw [hsub]
      dsimp only
      rw [hstep]
    have hfeeds : Feeds scheduler [.client mediaSubsession call] m { m with
        subsessions := Function.update m.subsessions mediaSubsession (some sub') } :=
      feeds_step h.wired trivial hcall
    refine ⟨_, hcall, hfeeds.wired h.wired, h.ids, fun other first hfirst => ?_, h.waits,
      h.unserved, fun media' other old hother hold => ?_⟩
    · obtain ⟨old, hold, hkind'⟩ := h.kinds other first hfirst
      obtain ⟨new, hnew, -, hkind''⟩ := hfeeds.alive other old hold
      exact ⟨new, hnew, hkind''.trans hkind'⟩
    · dsimp only at hold hother
      by_cases hsame : other = mediaSubsession
      · subst hsame
        rw [Function.update_self] at hold
        obtain rfl := Option.some.inj hold
        obtain ⟨events', hfollows'', hall'⟩ := h.follows media' other sub hother hsub
        refine ⟨events' ++ [call.event], hfollows''.step hnone hstep, ?_⟩
        rw [samplesAdded_append, samplesAdded_call, List.append_nil, hkind]
        exact hall'
      · rw [Function.update_of_ne hsame] at hold
        exact h.follows media' other old hother hold

/-- The run lemma: a server that keeps up goes on keeping up. -/
theorem KeepsUp.run {events : List SystemEvent} (h : KeepsUp scheduler p waiting m)
    (hlimit : ∀ media, waiting media ≤ 15) (hpaced : Paced waiting events)
    (hserved : ∀ e ∈ events, Served scheduler p e) :
    ∃ waiting' t, Execution.run (systemStep assertions scheduler) m events = .ok t ∧
      (∀ media, waiting' media ≤ 15) ∧ KeepsUp scheduler p waiting' t := by
  induction events generalizing waiting m with
  | nil => exact ⟨waiting, m, rfl, hlimit, h⟩
  | cons e events ih =>
    have hfirst := hserved e List.mem_cons_self
    have hrest : ∀ e ∈ events, Served scheduler p e :=
      fun e he => hserved e (List.mem_cons_of_mem _ he)
    cases e with
    | deliver media mediaSamples =>
      obtain ⟨hroom, hpaced⟩ := hpaced
      obtain ⟨m', hm', hkeeps⟩ := h.deliver assertions hfirst hroom
      have hlimit' : ∀ media', Function.update waiting media
          (waiting media + mediaSamples.length) media' ≤ 15 := by
        intro media'
        by_cases hsame : media' = media
        · subst hsame
          rw [Function.update_self]
          exact hroom
        · rw [Function.update_of_ne hsame]
          exact hlimit media'
      rw [run_cons_ok hm']
      exact ih hkeeps hlimit' hpaced hrest
    | turn worlds =>
      obtain ⟨m', hm', hkeeps⟩ := h.turn assertions hlimit worlds
      rw [run_cons_ok hm']
      exact ih hkeeps (fun _ => Nat.zero_le _) hpaced hrest
    | client mediaSubsession call =>
      obtain ⟨m', hm', hkeeps⟩ := h.client assertions hfirst
      rw [run_cons_ok hm']
      exact ih hkeeps hlimit hpaced hrest

end Steps

theorem Paced.of_append {waiting : MediaType → ℕ} {events later : List SystemEvent}
    (h : Paced waiting (events ++ later)) : Paced waiting events := by
  induction events generalizing waiting with
  | nil => exact trivial
  | cons e events ih =>
    cases e with
    | deliver media mediaSamples => exact ⟨h.1, ih h.2⟩
    | turn worlds => exact ih (show Paced (fun _ => 0) (events ++ later) from h)
    | client mediaSubsession call => exact ih (show Paced waiting (events ++ later) from h)

section Server
variable {channel : Channel} {newBuffer : SingleMediaSampleBuffer}
  {env : LiveEnvironment SingleMediaSampleBuffer}

theorem hosting_keepsUp
    (hopen : (LiveEnvironment.createNew newBuffer).addRtspMediaSession channel = .ok env) :
    KeepsUp env.scheduler (hosting channel env) (fun _ => 0) (hosting channel env) where
  wired := hosting_wired hopen
  ids := rfl
  kinds := fun _ first hfirst => ⟨first, hfirst, rfl⟩
  waits := fun media => (congrArg List.length (managerOf_queue channel media)).le
  unserved := fun media _ => managerOf_queue channel media
  follows := by
    intro media mediaSubsession sub _ hsub
    obtain ⟨hnone, hzero⟩ := hosting_new hopen sub (List.mem_of_find?_eq_some hsub)
    have hqueue : (hosting channel env).manager.queue media = [] := managerOf_queue channel media
    refine ⟨[], ⟨hzero, by simp [hnone]⟩, ?_⟩
    rw [hqueue]
    simp [samplesAdded]

/-- While at most fifteen samples of each kind are delivered between two turns, and they are proper
and below 2 GiB, nothing faults, whatever the clients do: no assertion of the packet manager, the
manager, the scheduler or the sources fails and no memory access leaves its allocation. No more
than fifteen samples wait at any time, and none after a turn. -/
theorem paced_deliveries_drained (channel : Channel) (newBuffer : SingleMediaSampleBuffer)
    (env : LiveEnvironment SingleMediaSampleBuffer) (assertions : Bool)
    (events : List SystemEvent)
    (hopen : (LiveEnvironment.createNew newBuffer).addRtspMediaSession channel = .ok env)
    (hpaced : Paced (fun _ => 0) events)
    (hserved : ∀ e ∈ events, Served env.scheduler (hosting channel env) e) :
    ∃ t, run (systemStep assertions env.scheduler) (hosting channel env) events = .ok t ∧
      (∀ media, (t.manager.queue media).length ≤ 15) ∧
      ∀ before worlds, events = before ++ [.turn worlds] →
        ∀ media, t.manager.queue media = [] := by
  have hstart := hosting_keepsUp hopen
  obtain ⟨waiting, t, hrun, hlimit, hkeeps⟩ :=
    hstart.run assertions (fun _ => Nat.zero_le _) hpaced hserved
  refine ⟨t, hrun, fun media => (hkeeps.waits media).trans (hlimit media), ?_⟩
  rintro before worlds rfl media
  obtain ⟨waiting', m, hbefore, hlimit', hkeeps'⟩ :=
    hstart.run assertions (fun _ => Nat.zero_le _) hpaced.of_append
      fun e he => hserved e (List.mem_append_left _ he)
  obtain ⟨t', ht', hdrained⟩ := hkeeps'.turn assertions hlimit' worlds
  rw [run_snoc_ok hbefore, ht'] at hrun
  obtain rfl := Except.ok.inj hrun
  exact List.length_eq_zero_iff.mp (Nat.le_zero.mp (hdrained.waits media))

theorem paced_deliveries_drained_test : ∃ t,
    run (systemStep true testServer.scheduler) (hosting testChannel testServer)
      (testBefore ++ [.turn fun _ => unasked]) = .ok t ∧
    ∀ media, t.manager.queue media = [] := by
  have hopen : (LiveEnvironment.createNew testBuffer).addRtspMediaSession testChannel =
      .ok testServer := by decide +kernel
  have hpaced : Paced (fun _ => 0) (testBefore ++ [.turn fun _ => unasked]) := by
    simp [testBefore, Paced]
  have hplace : testServer.scheduler.registered
      ((hosting testChannel testServer).manager.ids .audio) = some 0 := by decide +kernel
  have hserved : ∀ e ∈ testBefore ++ [.turn fun _ => unasked],
      Served testServer.scheduler (hosting testChannel testServer) e := by
    have hsample (b : UInt8) : Served testServer.scheduler (hosting testChannel testServer)
        (.deliver .audio [amrSample b]) := by
      refine ⟨0, .create 0 12345 0 "test" (.amr 1 8 8000) testBuffer, hplace, rfl, ?_⟩
      intro s hs
      rw [List.mem_singleton.mp hs]
      exact ⟨List.cons_ne_nil _ _, show 2 < 2 ^ 31 by decide⟩
    intro e he
    simp only [testBefore, List.cons_append, List.nil_append, List.mem_cons, List.not_mem_nil,
      or_false] at he
    rcases he with rfl | rfl | rfl | rfl
    · exact hsample 1
    · exact trivial
    · exact hsample 2
    · exact trivial
  obtain ⟨t, hrun, -, hdrained⟩ := paced_deliveries_drained testChannel testBuffer testServer true
    (testBefore ++ [.turn fun _ => unasked]) hopen hpaced hserved
  exact ⟨t, hrun, hdrained testBefore (fun _ => unasked) rfl⟩

end Server

end LiveMediaExt.System
