import Mathlib

/-!
# Machines that ignore repeated events

A machine answers every event with an output and a next state. Where an event equal to the one
right before it gives the silent output and leaves the state alone, such repetitions can be left
out of the sequence of events without any other output being changed.
-/
namespace LiveMediaExt.Stuttering
variable {σ ε α : Type*} (step : σ → ε → α × σ)

/-- The state that the events lead to. -/
def stateAfter (s : σ) (es : List ε) : σ := es.foldl (fun s e => (step s e).2) s

def outputs : σ → List ε → List α
  | _, [] => []
  | s, e :: es => (step s e).1 :: outputs (step s e).2 es

/-- Every event that is equal to the one right before it is ignored. -/
def RepeatsIgnored (silent : α) (s : σ) (es : List ε) : Prop :=
  ∀ before e later, es = before ++ e :: later → before.getLast? = some e →
    step (stateAfter step s before) e = (silent, stateAfter step s before)

variable {step} {silent : α} {s : σ} {e : ε} {es : List ε}

theorem stateAfter_cons (e : ε) (es : List ε) :
    stateAfter step s (e :: es) = stateAfter step (step s e).2 es := rfl

theorem stateAfter_append (es fs : List ε) :
    stateAfter step s (es ++ fs) = stateAfter step (stateAfter step s es) fs :=
  List.foldl_append

theorem outputs_append (es fs : List ε) :
    outputs step s (es ++ fs) = outputs step s es ++ outputs step (stateAfter step s es) fs := by
  induction es generalizing s with
  | nil => rfl
  | cons e es ih =>
    rw [List.cons_append, outputs, outputs, ih]
    rfl

theorem RepeatsIgnored.tail (h : RepeatsIgnored step silent s (e :: es)) :
    RepeatsIgnored step silent (step s e).2 es := by
  intro before e' later hes hlast
  have hcons := h (e :: before) e' later (by rw [hes, List.cons_append])
  rw [List.getLast?_cons, hlast] at hcons
  exact hcons rfl

/-- The second of two equal events. -/
theorem RepeatsIgnored.second (h : RepeatsIgnored step silent s (e :: e :: es)) :
    step (step s e).2 e = (silent, (step s e).2) :=
  h [e] e es rfl rfl

/-- Without the second of two equal events the others are still ignored. -/
theorem RepeatsIgnored.drop_second (h : RepeatsIgnored step silent s (e :: e :: es)) :
    RepeatsIgnored step silent s (e :: es) := by
  have hsame : (step (step s e).2 e).2 = (step s e).2 := by rw [h.second]
  intro before e' later hes hlast
  cases before with
  | nil => cases hlast
  | cons first before =>
    obtain ⟨rfl, hes⟩ := List.cons.inj hes
    have hlonger := h (e :: e :: before) e' later (by rw [hes]; rfl)
    rw [List.getLast?_cons_cons, stateAfter_cons, stateAfter_cons, hsame] at hlonger
    exact hlonger hlast

/-- The outputs but for the silent ones are those of the events without repetitions. -/
theorem outputs_destutter [DecidableEq ε] [DecidableEq α]
    (h : RepeatsIgnored step silent s es) :
    (outputs step s (es.destutter (· ≠ ·))).filter (· ≠ silent) =
      (outputs step s es).filter (· ≠ silent) := by
  cases es with
  | nil => rfl
  | cons e es =>
    rw [List.destutter_cons']
    induction es generalizing s e with
    | nil => rfl
    | cons e' es ih =>
      by_cases hsame : e = e'
      · subst hsame
        have hsilent := h.second
        rw [List.destutter'_cons_neg _ (not_not_intro rfl), ih e h.drop_second]
        simp [outputs, hsilent, List.filter_cons]
      · rw [List.destutter'_cons_pos _ hsame]
        simp only [outputs, List.filter_cons]
        rw [ih e' h.tail]
        simp only [outputs, List.filter_cons]

end LiveMediaExt.Stuttering
