import Mathlib

/-!
# Runs of a fallible step function

A system is a step function that takes a state and an event and either moves on or stops
with a fault. The rules below lift what one step does to what every run does: induction
over the events taken so far, the step that raised a fault, guards met along a run, and
agreement with an abstract machine at every prefix.
-/
namespace LiveMediaExt.Execution

variable {σ ε φ τ : Type*} {step : σ → ε → Except φ σ}

/-- Take the events in order and stop at the first fault. -/
def run (step : σ → ε → Except φ σ) (s : σ) : List ε → Except φ σ
  | [] => .ok s
  | e :: es =>
    match step s e with
    | .ok t => run step t es
    | .error f => .error f

@[simp] theorem run_nil (s : σ) : run step s [] = .ok s := rfl

theorem run_cons_ok {s t : σ} {e : ε} (h : step s e = .ok t) (es : List ε) :
    run step s (e :: es) = run step t es := by
  simp [run, h]

theorem run_cons_error {s : σ} {e : ε} {f : φ} (h : step s e = .error f) (es : List ε) :
    run step s (e :: es) = .error f := by
  simp [run, h]

theorem run_append_ok {s m : σ} {es : List ε} (h : run step s es = .ok m) (fs : List ε) :
    run step s (es ++ fs) = run step m fs := by
  induction es generalizing s with
  | nil =>
    cases h
    rfl
  | cons e es ih =>
    cases he : step s e with
    | error f => simp [run_cons_error he] at h
    | ok t =>
      rw [run_cons_ok he] at h
      rw [List.cons_append, run_cons_ok he]
      exact ih h

/-- A run that ends ended well on each of its prefixes. -/
theorem run_prefix_ok {s t : σ} {es fs : List ε} (h : run step s (es ++ fs) = .ok t) :
    ∃ m, run step s es = .ok m ∧ run step m fs = .ok t := by
  induction es generalizing s with
  | nil => exact ⟨s, rfl, h⟩
  | cons e es ih =>
    cases he : step s e with
    | error f => simp [run_cons_error he] at h
    | ok m =>
      rw [List.cons_append, run_cons_ok he] at h
      rw [run_cons_ok he]
      exact ih h

@[simp] theorem run_singleton (s : σ) (e : ε) : run step s [e] = step s e := by
  cases h : step s e with
  | ok t => rw [run_cons_ok h, run_nil]
  | error f => exact run_cons_error h []

theorem run_snoc_ok {s m : σ} {es : List ε} (h : run step s es = .ok m) (e : ε) :
    run step s (es ++ [e]) = step m e := by
  rw [run_append_ok h, run_singleton]

/-- A fault of a run is the fault of one of its steps, taken from a state the run reached. -/
theorem run_error {s : σ} {es : List ε} {f : φ} (h : run step s es = .error f) :
    ∃ before e after m, es = before ++ e :: after ∧ run step s before = .ok m ∧
      step m e = .error f := by
  induction es generalizing s with
  | nil => cases h
  | cons e es ih =>
    cases he : step s e with
    | error g =>
      rw [run_cons_error he] at h
      cases h
      exact ⟨[], e, es, s, rfl, rfl, he⟩
    | ok t =>
      rw [run_cons_ok he] at h
      obtain ⟨before, e', after, m, rfl, hm, hf⟩ := ih h
      exact ⟨e :: before, e', after, m, rfl, by rw [run_cons_ok he, hm], hf⟩

/-- Steps that cannot fail make runs that cannot fail. -/
theorem run_total (h : ∀ s e, ∃ t, step s e = .ok t) (s : σ) (es : List ε) :
    ∃ t, run step s es = .ok t := by
  induction es generalizing s with
  | nil => exact ⟨s, rfl⟩
  | cons e es ih =>
    obtain ⟨m, hm⟩ := h s e
    rw [run_cons_ok hm]
    exact ih m

/-- Every event of the list meets `G`, which may look at the events taken before it and at
the state it is taken from. -/
def Along (step : σ → ε → Except φ σ) (G : List ε → σ → ε → Prop) (s : σ) (es : List ε) : Prop :=
  ∀ before e after, es = before ++ e :: after → ∀ m, run step s before = .ok m → G before m e

section Along
variable {G : List ε → σ → ε → Prop} {s : σ}

theorem Along.of_append {es fs : List ε} (h : Along step G s (es ++ fs)) : Along step G s es := by
  intro before e after he m hm
  exact h before e (after ++ fs) (by simp [he]) m hm

theorem Along.last {es : List ε} {e : ε} {m : σ} (h : Along step G s (es ++ [e]))
    (hm : run step s es = .ok m) : G es m e :=
  h es e [] rfl m hm

/-- The rest of a guarded run is one, too. -/
theorem Along.later {P : σ → ε → Prop} {es fs : List ε} {m : σ}
    (h : Along step (fun _ => P) s (es ++ fs)) (hm : run step s es = .ok m) :
    Along step (fun _ => P) m fs := by
  intro before e after he m' hm'
  refine h (es ++ before) e after ?_ m' ?_
  · rw [he, List.append_assoc]
  · rw [run_append_ok hm, hm']

theorem along_nil : Along step G s [] := by
  intro before e after he
  simp at he

theorem Along.imp {G' : List ε → σ → ε → Prop} {es : List ε} (h : Along step G s es)
    (hG : ∀ before m e, run step s before = .ok m → G before m e → G' before m e) :
    Along step G' s es :=
  fun before e after he m hm => hG before m e hm (h before e after he m hm)

/-- A run is guarded up to its last event and there. -/
theorem along_snoc {es : List ε} {m : σ} (hm : run step s es = .ok m) (e : ε) :
    Along step G s (es ++ [e]) ↔ Along step G s es ∧ G es m e := by
  constructor
  · intro h
    exact ⟨h.of_append, h.last hm⟩
  · intro ⟨hes, he⟩ before e' after heq m' hm'
    rcases List.eq_nil_or_concat after with rfl | ⟨after, last, rfl⟩
    · obtain ⟨rfl, hlast⟩ := List.append_inj' heq rfl
      obtain rfl : e = e' := List.singleton_inj.mp hlast
      obtain rfl : m = m' := Except.ok.inj (hm.symm.trans hm')
      exact he
    · rw [List.concat_eq_append, ← List.cons_append, ← List.append_assoc] at heq
      obtain ⟨rfl, -⟩ := List.append_inj' heq rfl
      exact hes before e' after rfl m' hm'

/-- Guards that agree in the states a run reaches are met along the same runs. -/
theorem along_congr {G' : List ε → σ → ε → Prop} {es : List ε}
    (hG : ∀ before m e, run step s before = .ok m → (G before m e ↔ G' before m e)) :
    Along step G s es ↔ Along step G' s es := by
  constructor
  · intro h
    exact h.imp fun before m e hm => (hG before m e hm).mp
  · intro h
    exact h.imp fun before m e hm => (hG before m e hm).mpr

/-- The same where the run is known to meet another guard. -/
theorem along_congr_of_along {G' H : List ε → σ → ε → Prop} {es : List ε}
    (guard : Along step H s es)
    (hG : ∀ before m e, Along step H s before → run step s before = .ok m →
      (G before m e ↔ G' before m e)) :
    Along step G s es ↔ Along step G' s es := by
  constructor
  · intro h before e after he m hm
    rw [he] at guard
    exact (hG before m e guard.of_append hm).mp (h before e after he m hm)
  · intro h before e after he m hm
    rw [he] at guard
    exact (hG before m e guard.of_append hm).mpr (h before e after he m hm)

/-- A guard without history, taken apart at the first event. -/
theorem along_cons {P : σ → ε → Prop} {e : ε} {es : List ε} :
    Along step (fun _ => P) s (e :: es) ↔
      P s e ∧ ∀ t, step s e = .ok t → Along step (fun _ => P) t es := by
  constructor
  · intro h
    refine ⟨h [] e es rfl s rfl, fun t ht before e' after he m hm => ?_⟩
    exact h (e :: before) e' after (by rw [he, List.cons_append]) m (by rw [run_cons_ok ht, hm])
  · rintro ⟨hfirst, hrest⟩ before e' after he m hm
    cases before with
    | nil =>
      obtain ⟨rfl, rfl⟩ := List.cons.inj he
      cases hm
      exact hfirst
    | cons e₁ before =>
      obtain ⟨rfl, rfl⟩ := List.cons.inj he
      cases ht : step s e with
      | error f => simp [run_cons_error ht] at hm
      | ok t =>
        rw [run_cons_ok ht] at hm
        exact hrest t ht before e' after rfl m hm

/-- The guard, checked while the run is executed. -/
def checkAlong (step : σ → ε → Except φ σ) (P : σ → ε → Bool) (s : σ) : List ε → Bool
  | [] => true
  | e :: es =>
    P s e && match step s e with
      | .ok t => checkAlong step P t es
      | .error _ => true

theorem checkAlong_iff {P : σ → ε → Prop} [∀ s e, Decidable (P s e)] {s : σ} {es : List ε} :
    checkAlong step (fun s e => decide (P s e)) s es = true ↔ Along step (fun _ => P) s es := by
  induction es generalizing s with
  | nil => simp [checkAlong, along_nil]
  | cons e es ih =>
    rw [along_cons]
    cases ht : step s e with
    | error f => simp [checkAlong, ht]
    | ok t => simp [checkAlong, ht, ih]

instance {P : σ → ε → Prop} [∀ s e, Decidable (P s e)] {s : σ} {es : List ε} :
    Decidable (Along step (fun _ => P) s es) :=
  decidable_of_iff _ checkAlong_iff

/-- Induction over the events of a run whose steps all meet a guard. -/
theorem run_induction_along {R : List ε → σ → Prop} (start : R [] s)
    (next : ∀ es m e t, run step s es = .ok m → R es m → G es m e → step m e = .ok t →
      R (es ++ [e]) t)
    {es : List ε} {t : σ} (guard : Along step G s es) (h : run step s es = .ok t) : R es t := by
  induction es using List.reverseRecOn generalizing t with
  | nil =>
    cases h
    exact start
  | append_singleton es e ih =>
    obtain ⟨m, hm, ht⟩ := run_prefix_ok h
    rw [run_singleton] at ht
    exact next es m e t hm (ih guard.of_append hm) (guard.last hm) ht

end Along

/-- Induction over the events of a run. -/
theorem run_induction {s : σ} {R : List ε → σ → Prop} (start : R [] s)
    (next : ∀ es m e t, run step s es = .ok m → R es m → step m e = .ok t → R (es ++ [e]) t)
    {es : List ε} {t : σ} (h : run step s es = .ok t) : R es t :=
  run_induction_along (G := fun _ _ _ => True) start (fun es m e t hm hR _ => next es m e t hm hR)
    (fun _ _ _ _ _ _ => trivial) h

section Reaches
variable {s : σ} {I : σ → Prop} {R : List ε → σ → Prop} {G : List ε → σ → ε → Prop}

/-- What every prefix reaches meets the invariant that the steps keep there. -/
theorem reaches_invariant (init : I s) (start : R [] s)
    (kept : ∀ es m e t, I m → R es m → step m e = .ok t → I t) {es : List ε}
    (h : ∀ before after, es = before ++ after → ∃ m, run step s before = .ok m ∧ R before m) :
    ∀ before after m, es = before ++ after → run step s before = .ok m → I m ∧ R before m := by
  intro before
  induction before using List.reverseRecOn with
  | nil =>
    intro after m _ hm
    cases hm
    exact ⟨init, start⟩
  | append_singleton before e ih =>
    intro after t he ht
    obtain ⟨t', ht', hR⟩ := h (before ++ [e]) after he
    rw [ht] at ht'
    cases ht'
    obtain ⟨m, hm, hstep⟩ := run_prefix_ok ht
    rw [run_singleton] at hstep
    obtain ⟨hI, hR'⟩ := ih (e :: after) m (by simpa using he) hm
    exact ⟨kept before m e t hI hR' hstep, hR⟩

/-- Guarded steps that end and keep `R` make every prefix do so. -/
theorem reaches_of_along (init : I s) (start : R [] s)
    (kept : ∀ es m e t, I m → R es m → step m e = .ok t → I t)
    (next : ∀ es m e, I m → R es m → G es m e → ∃ t, step m e = .ok t ∧ R (es ++ [e]) t)
    {es : List ε} (guard : Along step G s es) :
    ∀ before after, es = before ++ after →
      ∃ m, run step s before = .ok m ∧ I m ∧ R before m := by
  intro before
  induction before using List.reverseRecOn with
  | nil =>
    intro _ _
    exact ⟨s, rfl, init, start⟩
  | append_singleton before e ih =>
    intro after he
    rw [List.append_assoc, List.singleton_append] at he
    obtain ⟨m, hm, hI, hR⟩ := ih (e :: after) he
    obtain ⟨t, ht, hR'⟩ := next before m e hI hR (guard before e after he m hm)
    exact ⟨t, by rw [run_snoc_ok hm, ht], kept before m e t hI hR ht, hR'⟩

/-- Every prefix runs to its end and meets `R` exactly when every step is guarded, where the
guard says when a step from a state meeting `R` and the invariant ends and keeps `R`. -/
theorem reaches_iff_of_invariant (init : I s) (start : R [] s)
    (kept : ∀ es m e t, I m → R es m → step m e = .ok t → I t)
    (next : ∀ es m e, I m → R es m →
      ((∃ t, step m e = .ok t ∧ R (es ++ [e]) t) ↔ G es m e)) (es : List ε) :
    (∀ before after, es = before ++ after → ∃ m, run step s before = .ok m ∧ R before m) ↔
      Along step G s es := by
  constructor
  · intro h before e after he m hm
    obtain ⟨hI, hR⟩ := reaches_invariant init start kept h before (e :: after) m he hm
    obtain ⟨t, ht, hR'⟩ := h (before ++ [e]) after (by simp [he])
    rw [run_snoc_ok hm] at ht
    exact (next before m e hI hR).mp ⟨t, ht, hR'⟩
  · intro guard before after he
    have hnext := fun es m e hI hR => (next es m e hI hR).mpr
    obtain ⟨m, hm, -, hR⟩ := reaches_of_along init start kept hnext guard before after he
    exact ⟨m, hm, hR⟩

/-- The same where the start may fail to meet `R`. -/
theorem reaches_iff_of_start (init : I s)
    (kept : ∀ es m e t, I m → R es m → step m e = .ok t → I t)
    (next : ∀ es m e, I m → R es m →
      ((∃ t, step m e = .ok t ∧ R (es ++ [e]) t) ↔ G es m e)) (es : List ε) :
    (∀ before after, es = before ++ after → ∃ m, run step s before = .ok m ∧ R before m) ↔
      R [] s ∧ Along step G s es := by
  by_cases start : R [] s
  · rw [reaches_iff_of_invariant init start kept next]
    exact (and_iff_right start).symm
  · apply iff_of_false
    · intro h
      obtain ⟨m, hm, hR⟩ := h [] es rfl
      cases hm
      exact start hR
    · intro h
      exact start h.1

/-- The same where the guard looks at nothing but the event. -/
theorem reaches_iff_forall {P : ε → Prop} (init : I s)
    (kept : ∀ es m e t, I m → R es m → step m e = .ok t → I t)
    (next : ∀ es m e, I m → R es m → ((∃ t, step m e = .ok t ∧ R (es ++ [e]) t) ↔ P e))
    (es : List ε) :
    (∀ before after, es = before ++ after → ∃ m, run step s before = .ok m ∧ R before m) ↔
      R [] s ∧ ∀ e ∈ es, P e := by
  have hstart := reaches_iff_of_start (G := fun _ _ => P) init kept next es
  constructor
  · intro h
    obtain ⟨start, guard⟩ := hstart.mp h
    refine ⟨start, fun e he => ?_⟩
    obtain ⟨before, after, hes⟩ := List.append_of_mem he
    obtain ⟨m, hm, -⟩ := h before (e :: after) hes
    exact guard before e after hes m hm
  · rintro ⟨start, hall⟩
    refine hstart.mpr ⟨start, ?_⟩
    intro before e after hes m _
    exact hall e (hes ▸ List.mem_append_right _ List.mem_cons_self)

theorem reaches_iff (start : R [] s)
    (next : ∀ es m e, R es m → ((∃ t, step m e = .ok t ∧ R (es ++ [e]) t) ↔ G es m e))
    (es : List ε) :
    (∀ before after, es = before ++ after → ∃ m, run step s before = .ok m ∧ R before m) ↔
      Along step G s es :=
  reaches_iff_of_invariant (I := fun _ => True) trivial start (fun _ _ _ _ _ _ _ => trivial)
    (fun es m e _ => next es m e) es

end Reaches

/-- An invariant of the step holds in every state a run reaches. -/
theorem run_invariant {s : σ} {I : σ → Prop} (start : I s)
    (next : ∀ m e t, I m → step m e = .ok t → I t)
    {es : List ε} {t : σ} (h : run step s es = .ok t) : I t :=
  run_induction (R := fun _ => I) start (fun _ m e t _ => next m e t) h

/-- The abstract machine agrees with the run at every prefix exactly when every step of the
run agrees with the abstract step from the state it is taken from. -/
theorem simulated_iff {s t : σ} {es : List ε} (abs : σ → τ) (spec : τ → ε → τ)
    (h : run step s es = .ok t) :
    (∀ before after, es = before ++ after → ∀ m, run step s before = .ok m →
      abs m = before.foldl spec (abs s)) ↔
    Along step (fun _ m e => ∀ m', step m e = .ok m' → abs m' = spec (abs m) e) s es := by
  constructor
  · intro hpre before e after he m hm m' hm'
    have hb := hpre before (e :: after) he m hm
    have hs := hpre (before ++ [e]) after (by simp [he]) m' (by rw [run_snoc_ok hm, hm'])
    rw [hs, List.foldl_append, ← hb]
    rfl
  · rintro hstep before after rfl m hm
    refine run_induction_along (R := fun before m => abs m = before.foldl spec (abs s)) rfl ?_
      hstep.of_append hm
    intro before m e m' _ hR hG hm'
    rw [hG m' hm', hR, List.foldl_append]
    rfl

section Bind
universe u
variable {α β : Type u}

/-- A sequence of two calls that returned, taken apart. -/
theorem bind_ok {x : Except φ α} {f : α → Except φ β} {b : β} :
    (x >>= f) = .ok b ↔ ∃ a, x = .ok a ∧ f a = .ok b := by
  cases x with
  | error e => simp [bind, Except.bind]
  | ok a => simp [bind, Except.bind]

theorem bind_error {x : Except φ α} {f : α → Except φ β} {e : φ} :
    (x >>= f) = .error e ↔ x = .error e ∨ ∃ a, x = .ok a ∧ f a = .error e := by
  cases x with
  | error e' => simp [bind, Except.bind]
  | ok a => simp [bind, Except.bind]

end Bind

section MapM
variable {α β : Type*} {f : α → Except φ β}

theorem mapM_ok_mem {l : List α} {l' : List β} (h : l.mapM f = .ok l') {b : β} (hb : b ∈ l') :
    ∃ a ∈ l, f a = .ok b := by
  induction l generalizing l' with
  | nil =>
    cases h
    simp at hb
  | cons a l ih =>
    rw [List.mapM_cons] at h
    obtain ⟨c, hc, h⟩ := bind_ok.mp h
    obtain ⟨cs, hcs, h⟩ := bind_ok.mp h
    cases h
    rcases List.mem_cons.mp hb with rfl | hb
    · exact ⟨a, by simp, hc⟩
    · obtain ⟨a', ha', hf⟩ := ih hcs hb
      exact ⟨a', by simp [ha'], hf⟩

theorem mapM_ok_all {l : List α} {l' : List β} (h : l.mapM f = .ok l') {a : α} (ha : a ∈ l) :
    ∃ b, f a = .ok b := by
  induction l generalizing l' with
  | nil => simp at ha
  | cons a' l ih =>
    rw [List.mapM_cons] at h
    obtain ⟨c, hc, h⟩ := bind_ok.mp h
    obtain ⟨cs, hcs, h⟩ := bind_ok.mp h
    rcases List.mem_cons.mp ha with rfl | ha
    · exact ⟨c, hc⟩
    · exact ih hcs ha

theorem mapM_error {l : List α} {e : φ} (h : l.mapM f = .error e) : ∃ a ∈ l, f a = .error e := by
  induction l with
  | nil => cases h
  | cons a l ih =>
    rw [List.mapM_cons] at h
    rcases bind_error.mp h with ha | ⟨b, -, h⟩
    · exact ⟨a, by simp, ha⟩
    · rcases bind_error.mp h with hl | ⟨bs, -, h⟩
      · obtain ⟨a', ha', he⟩ := ih hl
        exact ⟨a', by simp [ha'], he⟩
      · cases h

end MapM

end LiveMediaExt.Execution
