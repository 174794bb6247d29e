import Mathlib

/-!
# Pieces between delimiters

A delimiter none of whose proper beginnings is also an end cannot overlap itself, so pieces
without a delimiter inside can be told apart again. A scan that is careless about what stands
behind a delimiter finds the same pieces only if all but the first are non-empty.
-/
namespace LiveMediaExt.Delimiters
variable {α : Type*}

/-- Every piece behind a delimiter of its own. -/
def join (d : List α) (pieces : List (List α)) : List α := (pieces.map (d ++ ·)).flatten

/-- No proper beginning of the delimiter is also an end of it. -/
structure Unbordered (d : List α) : Prop where
  ne_nil : d ≠ []
  border : ∀ z, z <+: d → z <:+ d → z = [] ∨ z = d

section Splitters
variable [DecidableEq α]

/-- The pieces between the non-overlapping delimiters that a scan from the left finds. -/
def cut (d : List α) : List α → List (List α)
  | [] => [[]]
  | x :: xs =>
    if d <+: x :: xs then [] :: cut d (xs.drop (d.length - 1))
    else (cut d xs).modifyHead (x :: ·)
termination_by l => l.length
decreasing_by all_goals simp; try omega

/-- A scan that finds a delimiter only if something follows it, and does not look for another
one directly behind it. -/
def scan (d : List α) : List α → List (List α)
  | [] => [[]]
  | x :: xs =>
    if d <+: x :: xs ∧ d.length < (x :: xs).length then
      [] :: (scan d (xs.drop d.length)).modifyHead (((x :: xs).drop d.length).take 1 ++ ·)
    else (scan d xs).modifyHead (x :: ·)
termination_by l => l.length
decreasing_by all_goals simp; try omega

end Splitters

@[simp] theorem join_nil (d : List α) : join d [] = [] := rfl

@[simp] theorem join_cons (d p : List α) (ps : List (List α)) :
    join d (p :: ps) = d ++ (p ++ join d ps) := by
  simp [join]

namespace Unbordered
variable {d l u a b w : List α}

/-- Two delimiters either coincide or lie apart. -/
theorem apart (hd : Unbordered d) (h : d ++ l = w ++ (d ++ b)) :
    (w = [] ∧ b = l) ∨ ∃ c, w = d ++ c ∧ l = c ++ (d ++ b) := by
  rcases List.append_eq_append_iff.mp h with ⟨c, hw, hl⟩ | ⟨z, hz, hb⟩
  · exact .inr ⟨c, hw, hl⟩
  · have hends : z <:+ d := ⟨w, hz.symm⟩
    have hbegins : z <+: d :=
      List.prefix_of_prefix_length_le ⟨l, hb.symm⟩ (List.prefix_append d b) hends.length_le
    rcases hd.border z hbegins hends with rfl | rfl
    · rw [List.append_nil] at hz
      exact .inr ⟨[], by simp [hz], by simpa using hb.symm⟩
    · exact .inl ⟨List.append_left_eq_self.mp hz.symm, List.append_cancel_left hb⟩

/-- Behind a piece without delimiter, the first delimiter is the one at its end. -/
theorem first (hd : Unbordered d) (hu : ¬ d <:+: u) (h : u ++ (d ++ l) = a ++ (d ++ b)) :
    (a = u ∧ b = l) ∨ ∃ c, a = u ++ (d ++ c) ∧ l = c ++ (d ++ b) := by
  rcases List.append_eq_append_iff.mp h with ⟨w, ha, hw⟩ | ⟨w, hu', hw⟩
  · rcases hd.apart hw with ⟨rfl, rfl⟩ | ⟨c, rfl, hl⟩
    · exact .inl ⟨by simpa using ha, rfl⟩
    · exact .inr ⟨c, ha, hl⟩
  · rcases hd.apart hw with ⟨rfl, rfl⟩ | ⟨c, rfl, -⟩
    · exact .inl ⟨by simpa using hu'.symm, rfl⟩
    · rw [hu'] at hu
      exact absurd (List.infix_append' a d c) hu

/-- Inside a piece no delimiter begins. -/
theorem not_begins {x : α} (hd : Unbordered d) (h : ¬ d <:+: x :: u) (rest : List α) :
    ¬ d <+: x :: (u ++ (d ++ rest)) := by
  rintro ⟨after, hafter⟩
  have heq : (x :: u) ++ (d ++ rest) = [] ++ (d ++ after) := by simpa using hafter.symm
  rcases hd.first h heq with ⟨hnil, -⟩ | ⟨c, hnil, -⟩
  · simp at hnil
  · simp at hnil

/-- Nor at any later place of the piece. -/
theorem skips (hd : Unbordered d) (hu : ¬ d <:+: u) (rest : List α) (x : α) (v : List α)
    (hv : x :: v <:+ u) : ¬ d <+: x :: (v ++ (d ++ rest)) := by
  have hfree : ¬ d <:+: x :: v := by
    intro hinside
    exact hu (hinside.trans hv.isInfix)
  exact hd.not_begins hfree rest

/-- A delimiter at the end is the first one or stands behind it. -/
theorem ends_iff (hd : Unbordered d) (hu : ¬ d <:+: u) :
    d <:+ u ++ (d ++ l) ↔ l = [] ∨ d <:+ l := by
  constructor
  · rintro ⟨a, ha⟩
    have heq : u ++ (d ++ l) = a ++ (d ++ []) := by simpa using ha.symm
    rcases hd.first hu heq with ⟨-, hl⟩ | ⟨c, -, hl⟩
    · exact .inl hl.symm
    · exact .inr ⟨c, by simpa using hl.symm⟩
  · rintro (rfl | hends)
    · exact ⟨u, by simp⟩
    · exact (hends.trans (List.suffix_append d l)).trans (List.suffix_append u _)

/-- Two delimiters in a row begin with the first one or stand behind it. -/
theorem twice_iff (hd : Unbordered d) (hu : ¬ d <:+: u) :
    d ++ d <:+: u ++ (d ++ l) ↔ d <+: l ∨ d ++ d <:+: l := by
  constructor
  · rintro ⟨a, b, hab⟩
    have heq : u ++ (d ++ l) = a ++ (d ++ (d ++ b)) := by simpa using hab.symm
    rcases hd.first hu heq with ⟨-, hl⟩ | ⟨c, -, hl⟩
    · exact .inl ⟨b, hl⟩
    · exact .inr ⟨c, b, by simpa using hl.symm⟩
  · rintro (⟨b, rfl⟩ | hinside)
    · exact ⟨u, b, by simp⟩
    · exact (hinside.trans (List.suffix_append d l).isInfix).trans
        (List.suffix_append u _).isInfix

end Unbordered

/-- Either there is no delimiter, or there is a first one. -/
theorem free_or_first {d : List α} (hd : d ≠ []) (l : List α) :
    ¬ d <:+: l ∨ ∃ u rest, l = u ++ (d ++ rest) ∧ ¬ d <:+: u := by
  induction l with
  | nil => exact .inl (by simpa using hd)
  | cons x xs ih =>
    by_cases hbegins : d <+: x :: xs
    · obtain ⟨rest, hrest⟩ := hbegins
      exact .inr ⟨[], rest, hrest.symm, by simpa using hd⟩
    · rcases ih with hfree | ⟨u, rest, rfl, hu⟩
      · refine .inl fun hinside => ?_
        rcases List.infix_cons_iff.mp hinside with h | h
        · exact hbegins h
        · exact hfree h
      · refine .inr ⟨x :: u, rest, rfl, fun hinside => ?_⟩
        rcases List.infix_cons_iff.mp hinside with h | h
        · exact hbegins (h.trans ⟨d ++ rest, rfl⟩)
        · exact hu h

/-- Induction over the pieces of a list, from the last to the first. -/
theorem pieces_induction {d : List α} (hd : d ≠ []) {P : List α → Prop}
    (free : ∀ l, ¬ d <:+: l → P l)
    (step : ∀ u rest, ¬ d <:+: u → P rest → P (u ++ (d ++ rest))) (l : List α) : P l := by
  induction hn : l.length using Nat.strong_induction_on generalizing l with
  | _ n ih =>
    rcases free_or_first hd l with hfree | ⟨u, rest, rfl, hu⟩
    · exact free l hfree
    · have hpos := List.length_pos_of_ne_nil hd
      have hlt : rest.length < n := by
        rw [← hn, List.length_append, List.length_append]
        omega
      exact step u rest hu (ih _ hlt rest rfl)

/-- In a list without delimiters none begins. -/
theorem no_begin {d l : List α} (h : ¬ d <:+: l) (x : α) (v : List α) (hv : x :: v <:+ l) :
    ¬ d <+: x :: (v ++ []) := by
  rw [List.append_nil]
  intro hbegins
  exact h (hbegins.isInfix.trans hv.isInfix)

section Cut
variable [DecidableEq α] {d l u rest : List α} {x : α} {xs : List α}

theorem cut_cons_of_not_begins (h : ¬ d <+: x :: xs) :
    cut d (x :: xs) = (cut d xs).modifyHead (x :: ·) := by
  rw [cut, if_neg h]

theorem cut_delimiter (hd : d ≠ []) (rest : List α) : cut d (d ++ rest) = [] :: cut d rest := by
  obtain ⟨x, d', rfl⟩ := List.exists_cons_of_ne_nil hd
  have hbegins : x :: d' <+: x :: (d' ++ rest) := ⟨rest, rfl⟩
  rw [List.cons_append, cut, if_pos hbegins, List.length_cons, Nat.add_sub_cancel,
    List.drop_left]

/-- What no delimiter begins in goes to the first piece. -/
theorem cut_skip (h : ∀ x v, x :: v <:+ u → ¬ d <+: x :: (v ++ l)) :
    cut d (u ++ l) = (cut d l).modifyHead (u ++ ·) := by
  induction u with
  | nil =>
    have hid : (([] : List α) ++ ·) = id := rfl
    rw [hid, List.modifyHead_id, List.nil_append, id_eq]
  | cons x u ih =>
    have hbegins : ¬ d <+: x :: (u ++ l) := h x u List.suffix_rfl
    have hrest : ∀ y v, y :: v <:+ u → ¬ d <+: y :: (v ++ l) := by
      intro y v hv
      exact h y v (hv.trans (List.suffix_cons x u))
    rw [List.cons_append, cut_cons_of_not_begins hbegins, ih hrest, List.modifyHead_modifyHead]
    rfl

theorem cut_free (h : ¬ d <:+: l) : cut d l = [l] := by
  have hskip := cut_skip (no_begin h)
  rw [cut, List.append_nil] at hskip
  rw [hskip, List.modifyHead_cons, List.append_nil]

/-- The first piece ends at the first delimiter. -/
theorem cut_append (hd : Unbordered d) (hu : ¬ d <:+: u) (rest : List α) :
    cut d (u ++ (d ++ rest)) = u :: cut d rest := by
  rw [cut_skip (hd.skips hu rest), cut_delimiter hd.ne_nil, List.modifyHead_cons,
    List.append_nil]

theorem cut_spec (hd : Unbordered d) (l : List α) :
    ∃ p ps, cut d l = p :: ps ∧ p ++ join d ps = l ∧ ∀ q ∈ p :: ps, ¬ d <:+: q := by
  induction l using pieces_induction hd.ne_nil with
  | free l hfree =>
    exact ⟨l, [], cut_free hfree, by simp, by simpa using hfree⟩
  | step u rest hu ih =>
    obtain ⟨p, ps, hcut, hjoin, hpieces⟩ := ih
    refine ⟨u, p :: ps, ?_, ?_, ?_⟩
    · rw [cut_append hd hu, hcut]
    · rw [join_cons, hjoin]
    · intro q hq
      rcases List.mem_cons.mp hq with rfl | hq
      · exact hu
      · exact hpieces q hq

/-- Pieces without delimiters are found again between the delimiters. -/
theorem cut_join (hd : Unbordered d) {p : List α} {ps : List (List α)}
    (h : ∀ q ∈ p :: ps, ¬ d <:+: q) : cut d (p ++ join d ps) = p :: ps := by
  induction ps generalizing p with
  | nil =>
    rw [join_nil, List.append_nil]
    exact cut_free (h p (by simp))
  | cons q ps ih =>
    have hpieces : ∀ r ∈ q :: ps, ¬ d <:+: r := fun r hr => h r (List.mem_cons_of_mem _ hr)
    rw [join_cons, cut_append hd (h p (by simp)), ih hpieces]

end Cut

section Scan
variable [DecidableEq α] {d l u rest : List α} {x y : α} {xs ys : List α}

theorem scan_cons_of_not_found (h : ¬ (d <+: x :: xs ∧ d.length < (x :: xs).length)) :
    scan d (x :: xs) = (scan d xs).modifyHead (x :: ·) := by
  rw [scan, if_neg h]

theorem scan_delimiter (hd : d ≠ []) (y : α) (ys : List α) :
    scan d (d ++ y :: ys) = [] :: (scan d ys).modifyHead (y :: ·) := by
  obtain ⟨x, d', rfl⟩ := List.exists_cons_of_ne_nil hd
  have hfound : x :: d' <+: x :: (d' ++ y :: ys) ∧
      (x :: d').length < (x :: (d' ++ y :: ys)).length := by
    refine ⟨⟨y :: ys, rfl⟩, ?_⟩
    simp only [List.length_cons, List.length_append]
    omega
  have hdrop : (x :: (d' ++ y :: ys)).drop (x :: d').length = y :: ys := by
    rw [← List.cons_append, List.drop_left]
  have hdrop' : (d' ++ y :: ys).drop (x :: d').length = ys := by
    rw [List.length_cons, ← List.drop_drop, List.drop_left]
    rfl
  rw [List.cons_append, scan, if_pos hfound, hdrop, hdrop']
  rfl

/-- What is too short for a delimiter with something behind it is left whole. -/
theorem scan_short (h : l.length ≤ d.length) : scan d l = [l] := by
  induction l with
  | nil => rw [scan]
  | cons x xs ih =>
    have hnotFound : ¬ (d <+: x :: xs ∧ d.length < (x :: xs).length) := by
      intro hfound
      omega
    have hxs : xs.length ≤ d.length := by
      rw [List.length_cons] at h
      omega
    rw [scan_cons_of_not_found hnotFound, ih hxs]
    rfl

/-- What no delimiter begins in goes to the first piece. -/
theorem scan_skip (h : ∀ x v, x :: v <:+ u → ¬ d <+: x :: (v ++ l)) :
    scan d (u ++ l) = (scan d l).modifyHead (u ++ ·) := by
  induction u with
  | nil =>
    have hid : (([] : List α) ++ ·) = id := rfl
    rw [hid, List.modifyHead_id, List.nil_append, id_eq]
  | cons x u ih =>
    have hnotFound : ¬ (d <+: x :: (u ++ l) ∧ d.length < (x :: (u ++ l)).length) := by
      intro hfound
      exact h x u List.suffix_rfl hfound.1
    have hrest : ∀ y v, y :: v <:+ u → ¬ d <+: y :: (v ++ l) := by
      intro y v hv
      exact h y v (hv.trans (List.suffix_cons x u))
    rw [List.cons_append, scan_cons_of_not_found hnotFound, ih hrest, List.modifyHead_modifyHead]
    rfl

theorem scan_free (h : ¬ d <:+: l) : scan d l = [l] := by
  have hskip := scan_skip (no_begin h)
  rw [scan, List.append_nil] at hskip
  rw [hskip, List.modifyHead_cons, List.append_nil]

/-- A delimiter at the very end stays in the last piece. -/
theorem scan_end (hd : Unbordered d) (hu : ¬ d <:+: u) : scan d (u ++ d) = [u ++ d] := by
  have hskip := hd.skips hu []
  rw [List.append_nil] at hskip
  rw [scan_skip hskip, scan_short le_rfl, List.modifyHead_cons]

theorem scan_append (hd : Unbordered d) (hu : ¬ d <:+: u) (y : α) (ys : List α) :
    scan d (u ++ (d ++ y :: ys)) = u :: (scan d ys).modifyHead (y :: ·) := by
  rw [scan_skip (hd.skips hu (y :: ys)), scan_delimiter hd.ne_nil, List.modifyHead_cons,
    List.append_nil]

/-- The scan cuts at delimiters only, and leaves only the first piece empty. -/
theorem scan_spec (hd : Unbordered d) (l : List α) :
    ∃ p ps, scan d l = p :: ps ∧ p ++ join d ps = l ∧ ∀ q ∈ ps, q ≠ [] := by
  induction hn : l.length using Nat.strong_induction_on generalizing l with
  | _ n ih =>
    rcases free_or_first hd.ne_nil l with hfree | ⟨u, rest, rfl, hu⟩
    · exact ⟨l, [], scan_free hfree, by simp, by simp⟩
    · cases rest with
      | nil =>
        rw [List.append_nil]
        exact ⟨u ++ d, [], scan_end hd hu, by simp, by simp⟩
      | cons y ys =>
        have hlt : ys.length < n := by
          rw [← hn, List.length_append, List.length_append, List.length_cons]
          omega
        obtain ⟨p, ps, hscan, hjoin, hps⟩ := ih _ hlt ys rfl
        refine ⟨u, (y :: p) :: ps, ?_, ?_, ?_⟩
        · rw [scan_append hd hu, hscan]
          rfl
        · rw [join_cons, List.cons_append, hjoin]
        · intro q hq
          rcases List.mem_cons.mp hq with rfl | hq
          · simp
          · exact hps q hq

theorem join_scan (hd : Unbordered d) (l : List α) : join d (scan d l) = d ++ l := by
  obtain ⟨p, ps, hscan, hjoin, -⟩ := scan_spec hd l
  rw [hscan, join_cons, hjoin]

/-- The first piece is empty where another delimiter follows at once. -/
theorem scan_ne_nil_iff (hd : Unbordered d) (l : List α) :
    (∀ q ∈ scan d l, q ≠ []) ↔ l ≠ [] ∧ (d <+: l → l = d) := by
  obtain ⟨p, ps, hscan, -, hps⟩ := scan_spec hd l
  have hhead : (∀ q ∈ scan d l, q ≠ []) ↔ p ≠ [] := by
    rw [hscan]
    constructor
    · intro h
      exact h p (by simp)
    · intro hp q hq
      rcases List.mem_cons.mp hq with rfl | hq
      · exact hp
      · exact hps q hq
  rw [hhead]
  cases l with
  | nil =>
    rw [scan] at hscan
    obtain rfl := (List.cons.inj hscan).1
    simp
  | cons x xs =>
    by_cases hfound : d <+: x :: xs ∧ d.length < (x :: xs).length
    · rw [scan, if_pos hfound] at hscan
      obtain rfl := (List.cons.inj hscan).1
      have hne : x :: xs ≠ d := by
        intro heq
        rw [heq] at hfound
        exact absurd hfound.2 (lt_irrefl _)
      simp [hfound.1, hne]
    · rw [scan_cons_of_not_found hfound] at hscan
      obtain ⟨q, qs, hqs, -⟩ := scan_spec hd xs
      rw [hqs] at hscan
      obtain rfl := (List.cons.inj hscan).1
      have hsame : d <+: x :: xs → x :: xs = d := by
        intro hbegins
        have hge : (x :: xs).length ≤ d.length := not_lt.mp fun hlt => hfound ⟨hbegins, hlt⟩
        exact (hbegins.eq_of_length_le hge).symm
      simpa using hsame

end Scan

section Agreement
variable [DecidableEq α] {d : List α}

/-- A piece is empty where the list ends or another delimiter begins. -/
theorem cut_ne_nil_iff (hd : Unbordered d) (l : List α) :
    (∀ q ∈ cut d l, q ≠ []) ↔ (l ≠ [] ∧ ¬ d <+: l) ∧ ∀ q ∈ (cut d l).tail, q ≠ [] := by
  obtain ⟨p, ps, hcut, hjoin, -⟩ := cut_spec hd l
  have hhead : p ≠ [] ↔ l ≠ [] ∧ ¬ d <+: l := by
    constructor
    · intro hp
      have hne : l ≠ [] := by
        rw [← hjoin]
        simp [hp]
      refine ⟨hne, ?_⟩
      rintro ⟨rest, rfl⟩
      rw [cut_delimiter hd.ne_nil] at hcut
      exact hp (List.cons.inj hcut).1.symm
    · rintro ⟨hne, hbegins⟩ rfl
      cases ps with
      | nil => exact hne (by simpa using hjoin.symm)
      | cons q ps =>
        rw [join_cons, List.nil_append] at hjoin
        exact hbegins ⟨_, hjoin⟩
  rw [← hhead, hcut]
  simp

/-- The careless scan agrees with the cuts when no piece but the first is empty. -/
theorem scan_eq_cut_iff (hd : Unbordered d) (l : List α) :
    scan d l = cut d l ↔ ∀ q ∈ (cut d l).tail, q ≠ [] := by
  induction l using pieces_induction hd.ne_nil with
  | free l hfree => simp [scan_free hfree, cut_free hfree]
  | step u rest hu ih =>
    rw [cut_append hd hu, List.tail_cons, cut_ne_nil_iff hd]
    cases rest with
    | nil =>
      have hlen : u ++ d ≠ u := by simpa using hd.ne_nil
      rw [List.append_nil, scan_end hd hu]
      simp [hlen]
    | cons y ys =>
      rw [scan_append hd hu, ← ih]
      by_cases hbegins : d <+: y :: ys
      · obtain ⟨after, hafter⟩ := id hbegins
        obtain ⟨p, ps, hscan, -⟩ := scan_spec hd ys
        rw [← hafter, cut_delimiter hd.ne_nil, hscan]
        simp
      · have hnotFound : ¬ (d <+: y :: ys ∧ d.length < (y :: ys).length) :=
          fun hfound => hbegins hfound.1
        rw [← scan_cons_of_not_found hnotFound]
        simp [hbegins]

/-- No piece but the first is empty when no delimiter ends the list or follows another. -/
theorem tail_ne_nil_iff (hd : Unbordered d) (l : List α) :
    (∀ q ∈ (cut d l).tail, q ≠ []) ↔ ¬ d <:+ l ∧ ¬ d ++ d <:+: l := by
  induction l using pieces_induction hd.ne_nil with
  | free l hfree =>
    have hends : ¬ d <:+ l := fun hends => hfree hends.isInfix
    have htwice : ¬ d ++ d <:+: l :=
      fun htwice => hfree ((List.prefix_append d d).isInfix.trans htwice)
    simp [cut_free hfree, hends, htwice]
  | step u rest hu ih =>
    rw [cut_append hd hu, List.tail_cons, cut_ne_nil_iff hd, ih, hd.ends_iff hu, hd.twice_iff hu]
    tauto

end Agreement

end LiveMediaExt.Delimiters
