import LiveMediaExt.ChannelIndices

/-!
# The bitrate limits of the switch controller

The controller keeps the bitrates of its two limits beside them. New limits are looked up in the
sorted list. When the bitrates are set they are looked up in the list as it was given, so they are
right just when its first and its last element are where the sorting leaves them.
-/
namespace LiveMediaExt.Media.SwitchController
open Execution SortedRanges

/-- The bitrate limits are those of the two channels in the sorted list. -/
structure LimitsCached (s : SwitchController) : Prop where
  minBitrate : readBitrate s.bitrates s.minChannel = .ok s.minBitrate
  maxBitrate : readBitrate s.bitrates s.maxChannel = .ok s.maxBitrate
  le : s.minBitrate ≤ s.maxBitrate

/-- The list has bitrates, and sorting it changes neither the first one nor the one at the
maximum channel. -/
structure LimitsInPlace (bitrates : List UInt32) : Prop where
  nonempty : bitrates ≠ []
  first : readBitrate bitrates 0 = readBitrate (bitrates.insertionSort (· ≤ ·)) 0
  last : readBitrate bitrates (UInt32.ofNat bitrates.length - 1) =
    readBitrate (bitrates.insertionSort (· ≤ ·)) (UInt32.ofNat bitrates.length - 1)

def Use.InPlace : Use → Prop
  | .setChannelBitrates bitrates => LimitsInPlace bitrates
  | .call _ => True

/-- A controller with bitrates: they are sorted, and the limits are in order. -/
structure Ordered (s : SwitchController) : Prop where
  initialised : s.initialised = true
  sorted : s.bitrates.Pairwise (· ≤ ·)
  min_le_max : s.minChannel ≤ s.maxChannel

section Limits
variable {s t : SwitchController} {bitrates : List UInt32}

theorem readBitrate_eq_ok {channel bitrate : UInt32} :
    readBitrate bitrates channel = .ok bitrate ↔ bitrates[channel.toNat]? = some bitrate := by
  unfold readBitrate
  cases bitrates[channel.toNat]? with
  | none => simp
  | some b => simp

/-- In a sorted list a channel that is not lower has a bitrate that is not lower. -/
theorem readBitrate_mono (hsorted : bitrates.Pairwise (· ≤ ·)) {c d b e : UInt32} (hle : c ≤ d)
    (hc : readBitrate bitrates c = .ok b) (hd : readBitrate bitrates d = .ok e) : b ≤ e := by
  rw [readBitrate_eq_ok, List.getElem?_eq_some_iff] at hc hd
  obtain ⟨hclt, rfl⟩ := hc
  obtain ⟨hdlt, rfl⟩ := hd
  exact hsorted.rel_get_of_le (a := ⟨_, hclt⟩) (b := ⟨_, hdlt⟩) (UInt32.le_iff_toNat_le.mp hle)

/-- Limits that are read from the sorted list are in order. -/
theorem Ordered.limitsCached (h : s.Ordered)
    (hmin : readBitrate s.bitrates s.minChannel = .ok s.minBitrate)
    (hmax : readBitrate s.bitrates s.maxChannel = .ok s.maxBitrate) : s.LimitsCached :=
  ⟨hmin, hmax, readBitrate_mono h.sorted h.min_le_max hmin hmax⟩

theorem setSwitchFlagIfNecessary_ordered (h : s.Ordered) : s.setSwitchFlagIfNecessary.Ordered := by
  unfold setSwitchFlagIfNecessary
  split_ifs <;> exact { h with }

theorem setSwitchFlagIfNecessary_limitsCached (h : s.LimitsCached) :
    s.setSwitchFlagIfNecessary.LimitsCached := by
  unfold setSwitchFlagIfNecessary
  split_ifs <;> exact { h with }

theorem Effect.ordered {call : Call} (heffect : Effect s call t) (h : s.Ordered) : t.Ordered := by
  cases heffect with
  | limit _ minChannel maxChannel minBitrate maxBitrate haccepts =>
    apply setSwitchFlagIfNecessary_ordered
    exact { h with min_le_max := haccepts.1 }
  | _ => exact { h with }

/-- Whatever is accepted as a limit refreshes the bitrates, and nothing else touches them. -/
theorem Effect.limitsCached {call : Call} (heffect : Effect s call t) (hordered : s.Ordered)
    (h : s.LimitsCached) : t.LimitsCached := by
  cases heffect with
  | limit _ minChannel maxChannel minBitrate maxBitrate haccepts hmin hmax =>
    apply setSwitchFlagIfNecessary_limitsCached
    have hlimits : Ordered { s with minChannel, maxChannel, minBitrate, maxBitrate } :=
      { hordered with min_le_max := haccepts.1 }
    exact hlimits.limitsCached hmin hmax
  | _ => exact { h with }

theorem setChannelBitrates_ordered (h : s.setChannelBitrates bitrates = .ok t) : t.Ordered := by
  obtain ⟨minBitrate, -, h⟩ := bind_ok.mp h
  obtain ⟨maxBitrate, -, h⟩ := bind_ok.mp h
  obtain rfl := Except.ok.inj h
  exact ⟨rfl, List.pairwise_insertionSort (· ≤ ·) bitrates, UInt32.zero_le⟩

/-- Setting the bitrates gives the right limits just when they are in their places. -/
theorem setChannelBitrates_limitsCached_iff (s : SwitchController) (bitrates : List UInt32) :
    (∃ t, s.setChannelBitrates bitrates = .ok t ∧ t.LimitsCached) ↔ LimitsInPlace bitrates := by
  by_cases hbitrates : bitrates = []
  · subst hbitrates
    apply iff_of_false
    · rintro ⟨t, ht, -⟩
      cases ht
    · exact fun h => h.nonempty rfl
  · obtain ⟨minBitrate, maxBitrate, hmin, hmax, hset⟩ := setChannelBitrates_ok s hbitrates
    have hordered := setChannelBitrates_ordered hset
    simp only [hset, Except.ok.injEq, exists_eq_left']
    constructor
    · intro h
      exact ⟨hbitrates, hmin.trans h.minBitrate.symm, hmax.trans h.maxBitrate.symm⟩
    · intro h
      exact hordered.limitsCached (h.first.symm.trans hmin) (h.last.symm.trans hmax)

theorem useStep_ordered (h : s.Ordered) {use : Use} (ht : useStep s use = .ok t) : t.Ordered := by
  cases use with
  | setChannelBitrates bitrates => exact setChannelBitrates_ordered ht
  | call call =>
    obtain ⟨t', ht', heffect⟩ := callStep_effect h.initialised call
    rw [useStep, ht'] at ht
    exact Except.ok.inj ht ▸ heffect.ordered h

/-- One step, over all uses. -/
theorem useStep_limitsCached_iff (hordered : s.Ordered) (h : s.LimitsCached) (use : Use) :
    (∃ t, useStep s use = .ok t ∧ t.LimitsCached) ↔ use.InPlace := by
  cases use with
  | setChannelBitrates bitrates => exact setChannelBitrates_limitsCached_iff s bitrates
  | call call =>
    obtain ⟨t, ht, heffect⟩ := callStep_effect hordered.initialised call
    exact iff_of_true ⟨t, ht, heffect.limitsCached hordered h⟩ trivial

end Limits

section Places
variable {bitrates : List UInt32}

theorem readBitrate_zero (hbitrates : bitrates ≠ []) :
    readBitrate bitrates 0 = .ok (bitrates.head hbitrates) := by
  obtain ⟨b, rest, rfl⟩ := List.exists_cons_of_ne_nil hbitrates
  rfl

theorem readBitrate_last (hbitrates : bitrates ≠ []) (hlength : bitrates.length < 2 ^ 32) :
    readBitrate bitrates (UInt32.ofNat bitrates.length - 1) =
      .ok (bitrates.getLast hbitrates) := by
  have hpos := List.length_pos_iff.mpr hbitrates
  have hsize : (UInt32.ofNat bitrates.length).toNat = bitrates.length := by
    rw [UInt32.toNat_ofNat', Nat.mod_eq_of_lt hlength]
  have hlast : (UInt32.ofNat bitrates.length - 1).toNat = bitrates.length - 1 := by
    rw [toNat_sub_one (by omega), hsize]
  rw [readBitrate_eq_ok, hlast, ← List.getLast?_eq_getElem?, List.getLast?_eq_some_getLast]

/-- As long as the size fits into 32 bits, the first bitrate has to be the least one and the last
bitrate the greatest. -/
theorem limitsInPlace_iff (hbitrates : bitrates ≠ []) (hlength : bitrates.length < 2 ^ 32) :
    LimitsInPlace bitrates ↔ (∀ b ∈ bitrates, bitrates.head hbitrates ≤ b) ∧
      ∀ b ∈ bitrates, b ≤ bitrates.getLast hbitrates := by
  have hperm := List.perm_insertionSort (· ≤ ·) bitrates
  have hsorted := List.pairwise_insertionSort (· ≤ ·) bitrates
  have hne : bitrates.insertionSort (· ≤ ·) ≠ [] := by
    rw [← List.length_pos_iff, hperm.length_eq]
    exact List.length_pos_iff.mpr hbitrates
  have hfirst := head_eq_iff hsorted hne (a := bitrates.head hbitrates)
  have hlast := getLast_eq_iff hsorted hne (a := bitrates.getLast hbitrates)
  have hplaces : LimitsInPlace bitrates ↔
      (bitrates.insertionSort (· ≤ ·)).head hne = bitrates.head hbitrates ∧
        (bitrates.insertionSort (· ≤ ·)).getLast hne = bitrates.getLast hbitrates := by
    have hsortedLast := readBitrate_last hne (by rwa [hperm.length_eq])
    rw [hperm.length_eq] at hsortedLast
    constructor
    · intro h
      have hfirst' := h.first
      have hlast' := h.last
      rw [readBitrate_zero hbitrates, readBitrate_zero hne] at hfirst'
      rw [readBitrate_last hbitrates hlength, hsortedLast] at hlast'
      exact ⟨(Except.ok.inj hfirst').symm, (Except.ok.inj hlast').symm⟩
    · intro h
      refine ⟨hbitrates, ?_, ?_⟩
      · rw [readBitrate_zero hbitrates, readBitrate_zero hne, h.1]
      · rw [readBitrate_last hbitrates hlength, hsortedLast, h.2]
  rw [hplaces, hfirst, hlast]
  simp only [hperm.mem_iff, List.head_mem, List.getLast_mem, true_and]

end Places

/-- The bitrate limits are right in every state exactly when they are in their places in every
list of bitrates that is set. -/
theorem limits_cached_iff (new : SwitchController) (bitrates : List UInt32)
    (hbitrates : bitrates ≠ []) (uses : List Use) :
    ∃ s₀, new.setChannelBitrates bitrates = .ok s₀ ∧
      ((∀ before after, uses = before ++ after →
          ∃ s, run useStep s₀ before = .ok s ∧ s.LimitsCached) ↔
        LimitsInPlace bitrates ∧ ∀ use ∈ uses, use.InPlace) := by
  obtain ⟨minBitrate, maxBitrate, -, -, hset⟩ := setChannelBitrates_ok new hbitrates
  have hstart := setChannelBitrates_limitsCached_iff new bitrates
  simp only [hset, Except.ok.injEq, exists_eq_left'] at hstart
  refine ⟨_, hset, ?_⟩
  rw [← hstart]
  exact reaches_iff_forall (R := fun _ s => s.LimitsCached) (setChannelBitrates_ordered hset)
    (fun _ _ _ _ hordered _ ht => useStep_ordered hordered ht)
    (fun _ _ use hordered h => useStep_limitsCached_iff hordered h use) uses

/-- Three channels in the order of their bitrates, new limits, and then four channels of which
only the middle ones are out of order. -/
theorem limits_cached_inPlace : ∃ s₀, setChannelBitrates {} [100, 200, 300] = .ok s₀ ∧
    ∀ before after, [Use.call (.limitChannel 1 2), .setChannelBitrates [100, 300, 200, 300]] =
      before ++ after → ∃ s, run useStep s₀ before = .ok s ∧ s.LimitsCached := by
  obtain ⟨s₀, hset, hiff⟩ := limits_cached_iff {} [100, 200, 300] (by decide)
    [.call (.limitChannel 1 2), .setChannelBitrates [100, 300, 200, 300]]
  refine ⟨s₀, hset, hiff.mpr ⟨?_, ?_⟩⟩
  · exact ⟨by decide, by decide +kernel, by decide +kernel⟩
  · intro use huse
    simp only [List.mem_cons, List.not_mem_nil, or_false] at huse
    rcases huse with rfl | rfl
    · trivial
    · exact ⟨by decide, by decide +kernel, by decide +kernel⟩

/-- Of two channels given in falling order the limits are cached the wrong way round. -/
theorem falling_bitrates_swapped : ∃ s, setChannelBitrates {} [200, 100] = .ok s ∧
    s.bitrates = [100, 200] ∧ s.minChannel = 0 ∧ s.minBitrate = 200 ∧
    s.maxChannel = 1 ∧ s.maxBitrate = 100 ∧ ¬ s.LimitsCached := by
  refine ⟨_, rfl, rfl, rfl, rfl, rfl, rfl, ?_⟩
  intro h
  exact absurd h.le (by decide)

end LiveMediaExt.Media.SwitchController
