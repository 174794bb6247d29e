import LiveMediaExt.Execution

/-!
# Two machines in lockstep

The events of one machine are translated to events of another, by a translator that keeps a
state of its own. If each step and its translation end alike from related states, so do whole
runs: both fail in the same way, or both end, in related states.
-/
namespace LiveMediaExt.Lockstep
open Execution

section Alike
variable {φ σ τ α β : Type} {R : σ → τ → Prop} {x : Except φ σ} {y : Except φ τ}

/-- Both fail in the same way, or both end, with related results. -/
def Alike (R : σ → τ → Prop) : Except φ σ → Except φ τ → Prop
  | .ok s, .ok t => R s t
  | .error f, .error g => f = g
  | _, _ => False

theorem alike_self {R : σ → σ → Prop} (h : ∀ s, x = .ok s → R s s) : Alike R x x := by
  cases x with
  | error f => rfl
  | ok s => exact h s rfl

/-- A fact about the results of the second machine. -/
theorem Alike.and_right (h : Alike R x y) {P : τ → Prop} (hP : ∀ t, y = .ok t → P t) :
    Alike (fun s t => R s t ∧ P t) x y := by
  cases x with
  | error f =>
    cases y with
    | error g => exact h
    | ok t => exact h
  | ok s =>
    cases y with
    | error g => exact h
    | ok t => exact ⟨h, hP t rfl⟩

theorem Alike.bind {S : α → β → Prop} {f : σ → Except φ α} {g : τ → Except φ β}
    (h : Alike R x y) (hnext : ∀ s t, R s t → Alike S (f s) (g t)) :
    Alike S (x >>= f) (y >>= g) := by
  cases x with
  | error e =>
    cases y with
    | error e' => exact h
    | ok t => exact False.elim h
  | ok s =>
    cases y with
    | error e' => exact False.elim h
    | ok t => exact hnext s t h

/-- What looks alike on related results is equal. -/
theorem Alike.map_eq (h : Alike R x y) {f : σ → α} {g : τ → α} (hsame : ∀ s t, R s t → f s = g t) :
    x.map f = y.map g := by
  cases x with
  | error e =>
    cases y with
    | error e' => exact congrArg Except.error h
    | ok t => exact False.elim h
  | ok s =>
    cases y with
    | error e' => exact False.elim h
    | ok t => exact congrArg Except.ok (hsame s t h)

/-- The results of two functions that agree on the list. -/
theorem mapM_alike {f g : σ → Except φ τ} {l : List σ} (h : ∀ s ∈ l, f s = g s) :
    l.mapM f = l.mapM g := by
  induction l with
  | nil => rfl
  | cons s l ih =>
    have hrest : l.mapM f = l.mapM g := ih fun s' hs' => h s' (List.mem_cons_of_mem s hs')
    rw [List.mapM_cons, List.mapM_cons, h s List.mem_cons_self, hrest]

end Alike

section Translation
variable {φ σ τ ε δ κ : Type} {step : σ → ε → Except φ σ} {step' : τ → δ → Except φ τ}
  {translate : κ → ε → κ × List δ} {R : κ → σ → τ → Prop} {P : δ → Prop}

/-- What the translator makes of the events. -/
def translated (translate : κ → ε → κ × List δ) (k : κ) : List ε → List δ
  | [] => []
  | e :: es => (translate k e).2 ++ translated translate (translate k e).1 es

/-- The state of the translator behind the events. -/
def translator (translate : κ → ε → κ × List δ) (k : κ) (es : List ε) : κ :=
  es.foldl (fun k e => (translate k e).1) k

theorem run_append {t : τ} (es fs : List δ) :
    run step' t (es ++ fs) = run step' t es >>= fun m => run step' m fs := by
  cases h : run step' t es with
  | ok m => exact run_append_ok h fs
  | error f =>
    obtain ⟨before, e, after, m, rfl, hm, hf⟩ := run_error h
    rw [List.append_assoc, run_append_ok hm, List.cons_append, run_cons_error hf]
    rfl

/-- The run of a translated list of events ends like the run of the list. -/
theorem run_alike
    (hstep : ∀ k s t e, R k s t → (∀ d ∈ (translate k e).2, P d) →
      Alike (R (translate k e).1) (step s e) (run step' t (translate k e).2))
    {k : κ} {s : σ} {t : τ} (h : R k s t) (es : List ε)
    (hP : ∀ d ∈ translated translate k es, P d) :
    Alike (R (translator translate k es)) (run step s es)
      (run step' t (translated translate k es)) := by
  induction es generalizing k s t with
  | nil => exact h
  | cons e es ih =>
    obtain ⟨hfirst, hrest⟩ := List.forall_mem_append.mp hP
    have hbind : run step s (e :: es) = step s e >>= fun m => run step m es := by
      cases hs : step s e with
      | ok m => exact run_cons_ok hs es
      | error f => exact run_cons_error hs es
    rw [hbind, translated, run_append]
    exact Alike.bind (hstep k s t e h hfirst) fun m n hmn => ih hmn hrest

end Translation

end LiveMediaExt.Lockstep
