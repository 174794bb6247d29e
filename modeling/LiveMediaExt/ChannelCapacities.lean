import LiveMediaExt.HeaderExtents

/-!
# What a multiplexed sample can do to the buffer

The doubling is a multiplication modulo 2^32, so a length can lie beyond every size that it
runs through. The declared lengths are never compared with the size of the sample, and a
sample is rejected only after its presentation time was taken over.
-/
namespace LiveMediaExt.Media
open Execution Words

namespace ChannelBuffer
variable {uiLengthOfStream bufferSize r : UInt32} {fuel : ℕ}

/-- The size after `k` doublings. -/
def doubled (bufferSize : UInt32) (k : ℕ) : ℕ := bufferSize.toNat * 2 ^ k % 2 ^ 32

@[simp] theorem doubled_zero (bufferSize : UInt32) : doubled bufferSize 0 = bufferSize.toNat := by
  simp only [doubled, pow_zero, mul_one]
  exact Nat.mod_eq_of_lt bufferSize.toNat_lt

@[simp] theorem doubled_shiftLeft (bufferSize : UInt32) (k : ℕ) :
    doubled (bufferSize <<< 1) k = doubled bufferSize (k + 1) := by
  unfold doubled
  rw [toNat_shiftLeft_one, Nat.mod_mul_mod, mul_assoc, ← pow_succ']

/-- The loop ends with the first size that is large enough. -/
theorem growBufferSize_first (h : growBufferSize uiLengthOfStream fuel bufferSize = .ok r) :
    ∃ k, r.toNat = doubled bufferSize k ∧ uiLengthOfStream ≤ r ∧
      ∀ k' < k, doubled bufferSize k' < uiLengthOfStream.toNat := by
  induction fuel generalizing bufferSize with
  | zero => cases h
  | succ fuel ih =>
    rw [growBufferSize] at h
    by_cases hgrow : uiLengthOfStream > bufferSize
    · rw [if_pos hgrow] at h
      obtain ⟨k, hr, hle, hsmall⟩ := ih h
      rw [doubled_shiftLeft] at hr
      refine ⟨k + 1, hr, hle, fun k' hk' => ?_⟩
      cases k' with
      | zero =>
        rw [doubled_zero]
        exact UInt32.lt_iff_toNat_lt.mp hgrow
      | succ k' =>
        rw [← doubled_shiftLeft]
        exact hsmall k' (by omega)
    · rw [if_neg hgrow] at h
      obtain rfl := Except.ok.inj h
      exact ⟨0, (doubled_zero _).symm, UInt32.not_lt.mp hgrow, by simp⟩

/-- A size that is large enough is found. -/
theorem growBufferSize_reaches {k : ℕ} (hk : k < fuel)
    (h : uiLengthOfStream.toNat ≤ doubled bufferSize k) :
    ∃ r, growBufferSize uiLengthOfStream fuel bufferSize = .ok r := by
  induction fuel generalizing bufferSize k with
  | zero => omega
  | succ fuel ih =>
    rw [growBufferSize]
    by_cases hgrow : uiLengthOfStream > bufferSize
    · rw [if_pos hgrow]
      cases k with
      | zero =>
        have hlt := UInt32.lt_iff_toNat_lt.mp hgrow
        rw [doubled_zero] at h
        omega
      | succ k =>
        rw [← doubled_shiftLeft] at h
        exact ih (by omega) h
    · rw [if_neg hgrow]
      exact ⟨bufferSize, rfl⟩

/-- The default frame size after `n` doublings. -/
def defaultDoubled (n : ℕ) : ℕ := 10000 * 2 ^ n % 2 ^ 32

/-- The largest of these sizes, that after 21 doublings. -/
def largestCapacity : ℕ := 3791650816

/-- From the 28th doubling on every bit is shifted out. -/
theorem defaultDoubled_shifted {n : ℕ} (hn : 28 ≤ n) : defaultDoubled n = 0 := by
  obtain ⟨m, rfl⟩ := Nat.exists_eq_add_of_le hn
  have hpow : 10000 * 2 ^ (28 + m) = 2 ^ 32 * (625 * 2 ^ m) := by
    rw [pow_add]
    ring
  rw [defaultDoubled, hpow, Nat.mul_mod_right]

theorem defaultDoubled_le (n : ℕ) : defaultDoubled n ≤ largestCapacity := by
  by_cases hn : 28 ≤ n
  · rw [defaultDoubled_shifted hn]
    exact Nat.zero_le _
  · have hsmall : ∀ n < 28, defaultDoubled n ≤ largestCapacity := by decide
    exact hsmall n (by omega)

/-- A capacity that the doublings can leave behind: 18 of them stay below 2^32, and after 19 or
20 the size is smaller than it was before. -/
def Capacity (bufferSize : UInt32) : Prop :=
  ∃ n, (n ≤ 18 ∨ n = 21) ∧ bufferSize.toNat = defaultDoubled n

theorem doubled_default {n : ℕ} (h : bufferSize.toNat = defaultDoubled n) (k : ℕ) :
    doubled bufferSize k = defaultDoubled (n + k) := by
  unfold doubled
  rw [h, defaultDoubled, Nat.mod_mul_mod, mul_assoc, ← pow_add]
  rfl

/-- From a doubled default size the loop ends with another one, the first that is large
enough. -/
theorem growBufferSize_defaultDoubled {n : ℕ} (hsize : bufferSize.toNat = defaultDoubled n)
    (h : growBufferSize uiLengthOfStream fuel bufferSize = .ok r) :
    ∃ k, r.toNat = defaultDoubled (n + k) ∧ uiLengthOfStream.toNat ≤ defaultDoubled (n + k) ∧
      ∀ m, n ≤ m → m < n + k → defaultDoubled m < defaultDoubled (n + k) := by
  obtain ⟨k, hr, hle, hsmall⟩ := growBufferSize_first h
  have hle' := UInt32.le_iff_toNat_le.mp hle
  rw [doubled_default hsize] at hr
  refine ⟨k, hr, by omega, fun m hnm hmk => ?_⟩
  have hbefore := hsmall (m - n) (by omega)
  rw [doubled_default hsize, Nat.add_sub_cancel' hnm] at hbefore
  omega

theorem Capacity.grow (hcapacity : Capacity bufferSize)
    (h : growBufferSize uiLengthOfStream fuel bufferSize = .ok r) : Capacity r := by
  obtain ⟨n, hn, hsize⟩ := hcapacity
  obtain ⟨k, hr, -, hgrew⟩ := growBufferSize_defaultDoubled hsize h
  refine ⟨n + k, ?_, hr⟩
  by_contra hlate
  rcases (show n + k = 19 ∨ n + k = 20 ∨ 21 < n + k by omega) with hlast | hlast | hlast
  · have hlt := hgrew 18 (by omega) (by omega)
    rw [hlast] at hlt
    exact absurd hlt (by decide)
  · have hlt := hgrew 18 (by omega) (by omega)
    rw [hlast] at hlt
    exact absurd hlt (by decide)
  · have hlt := hgrew 21 (by omega) hlast
    have hmost : defaultDoubled 21 = largestCapacity := by decide
    have hbound := defaultDoubled_le (n + k)
    omega

/-- From such a capacity the doubling ends for the lengths up to the largest size. -/
theorem Capacity.ends_iff (hcapacity : Capacity bufferSize) (uiLengthOfStream : UInt32) :
    (∃ turns r, growBufferSize uiLengthOfStream turns bufferSize = .ok r ∧
        uiLengthOfStream ≤ r) ↔ uiLengthOfStream.toNat ≤ largestCapacity := by
  obtain ⟨n, hn, hsize⟩ := hcapacity
  constructor
  · rintro ⟨turns, r, hgrow, -⟩
    obtain ⟨k, -, hle, -⟩ := growBufferSize_defaultDoubled hsize hgrow
    exact hle.trans (defaultDoubled_le (n + k))
  · intro hle
    have hmost : doubled bufferSize (21 - n) = largestCapacity := by
      rw [doubled_default hsize, show n + (21 - n) = 21 by omega]
      decide
    rw [← hmost] at hle
    obtain ⟨r, hr⟩ := growBufferSize_reaches (Nat.lt_succ_self _) hle
    obtain ⟨-, -, hroom, -⟩ := growBufferSize_first hr
    exact ⟨_, r, hr, hroom⟩

/-- Storing a stream leaves the capacity that the doubling ended with. -/
theorem storeStream_bufferSize {machine : Machine} {pMediaData : List UInt8}
    {channel channel' : ChannelBuffer} {uiLength : UInt32}
    {pSource allocations allocations' : ℕ}
    (h : channel.storeStream machine pMediaData pSource uiLength allocations =
      .ok (channel', allocations')) :
    growBufferSize uiLength 33 channel.bufferSize = .ok channel'.bufferSize := by
  obtain ⟨bufferSize, hgrow, h⟩ := bind_ok.mp h
  obtain ⟨copied, hcopy, h⟩ := bind_ok.mp h
  obtain ⟨rfl, -⟩ := Prod.mk.inj (Except.ok.inj h)
  have hsame : copied.bufferSize = bufferSize := by
    rw [← reallocate_bufferSize machine bufferSize allocations channel]
    unfold copyStream at hcopy
    split_ifs at hcopy with hroom hsource
    obtain rfl := Except.ok.inj hcopy
    rfl
  rw [hsame]
  exact hgrow

/-- What the loop over the channels does to the capacities. -/
theorem storeStreams_bufferSize {machine : Machine} {pMediaData : List UInt8}
    {channels channels' : List ChannelBuffer} {lengths : List UInt32}
    {pSource allocations allocations' : ℕ}
    (h : storeStreams machine pMediaData channels lengths pSource allocations =
      .ok (channels', allocations')) :
    ∀ channel' ∈ channels', ∃ channel ∈ channels, ∃ uiLengthOfStream,
      growBufferSize uiLengthOfStream 33 channel.bufferSize = .ok channel'.bufferSize := by
  induction channels generalizing channels' lengths pSource allocations allocations' with
  | nil =>
    cases h
    simp
  | cons channel channels ih =>
    cases lengths with
    | nil => cases h
    | cons uiLength lengths =>
      obtain ⟨⟨stored, allocations₁⟩, hstore, h⟩ := bind_ok.mp h
      obtain ⟨⟨rest, allocations₂⟩, hrest, h⟩ := bind_ok.mp h
      obtain ⟨rfl, -⟩ := Prod.mk.inj (Except.ok.inj h)
      intro channel' hchannel'
      rcases List.mem_cons.mp hchannel' with rfl | hmem
      · exact ⟨channel, by simp, uiLength, storeStream_bufferSize hstore⟩
      · obtain ⟨old, hold, hgrown⟩ := ih hrest channel' hmem
        exact ⟨old, List.mem_cons_of_mem _ hold, hgrown⟩

/-- One channel's part of the sample is copied just when it lies in the sample. -/
theorem storeStream_source (machine : Machine) {pMediaData : List UInt8} {pSource : ℕ}
    (allocations : ℕ) (channel : ChannelBuffer) :
    (∀ stored, channel.storeStream machine pMediaData pSource uiLengthOfStream allocations =
        .ok stored → pSource + uiLengthOfStream.toNat ≤ pMediaData.length) ∧
      (pSource + uiLengthOfStream.toNat ≤ pMediaData.length →
        channel.storeStream machine pMediaData pSource uiLengthOfStream allocations ≠
          .error .outOfBounds) := by
  constructor
  · intro stored h
    obtain ⟨bufferSize, -, h⟩ := bind_ok.mp h
    obtain ⟨copied, hcopy, -⟩ := bind_ok.mp h
    unfold copyStream at hcopy
    split_ifs at hcopy with hroom hsource
    exact hsource
  · intro hsource h
    rcases bind_error.mp h with hgrow | ⟨bufferSize, -, h⟩
    · cases growBufferSize_error hgrow
    · rcases bind_error.mp h with hcopy | ⟨copied, -, h⟩
      · unfold copyStream at hcopy
        split_ifs at hcopy
        cases hcopy
      · cases h

/-- The lengths are added up as the source pointer moves along. -/
theorem storeStreams_source (machine : Machine) {pMediaData : List UInt8}
    {channels : List ChannelBuffer} {lengths : List UInt32} {pSource : ℕ} (allocations : ℕ)
    (hcount : lengths.length = channels.length) (hstart : pSource ≤ pMediaData.length) :
    (∀ stored, storeStreams machine pMediaData channels lengths pSource allocations =
        .ok stored → pSource + (lengths.map UInt32.toNat).sum ≤ pMediaData.length) ∧
      (pSource + (lengths.map UInt32.toNat).sum ≤ pMediaData.length →
        storeStreams machine pMediaData channels lengths pSource allocations ≠
          .error .outOfBounds) := by
  induction lengths generalizing channels pSource allocations with
  | nil =>
    obtain rfl : channels = [] := List.eq_nil_of_length_eq_zero hcount.symm
    refine ⟨fun _ _ => by simpa using hstart, fun _ h => ?_⟩
    cases h
  | cons uiLength lengths ih =>
    cases channels with
    | nil => simp at hcount
    | cons channel channels =>
      have hcount' : lengths.length = channels.length := Nat.succ.inj hcount
      rw [List.map_cons, List.sum_cons, ← Nat.add_assoc]
      constructor
      · intro stored h
        obtain ⟨⟨channel', allocations₁⟩, hstore, h⟩ := bind_ok.mp h
        obtain ⟨⟨channels₁, allocations₂⟩, hrest, -⟩ := bind_ok.mp h
        have hnext := (storeStream_source machine allocations channel).1 _ hstore
        exact (ih allocations₁ hcount' hnext).1 _ hrest
      · intro hfits h
        have hnext : pSource + uiLength.toNat ≤ pMediaData.length :=
          (Nat.le_add_right _ _).trans hfits
        rcases bind_error.mp h with hstore | ⟨⟨channel', allocations₁⟩, -, h⟩
        · exact (storeStream_source machine allocations channel).2 hnext hstore
        · rcases bind_error.mp h with hrest | ⟨⟨channels₁, allocations₂⟩, -, h⟩
          · exact (ih allocations₁ hcount' hnext).2 hfits hrest
          · cases h

end ChannelBuffer

namespace MultiplexedMediaHeader

/-- The header of a sample lies in the sample. -/
theorem getHeaderLength_le {order : ByteOrder} {pBuffer : List UInt8} {uiBufferSize : ℕ}
    {header : MultiplexedMediaHeader}
    (h : read order pBuffer uiBufferSize = .ok (some header)) :
    header.getHeaderLength ≤ pBuffer.length := by
  obtain ⟨hcount, hbytes, hunflagged⟩ := read_ok h
  have hlt : header.streamLengths.length < 16 := by
    rw [hcount]
    exact streamCount_lt pBuffer
  have hlength := congrArg List.length hbytes
  have hlist : (pBuffer.take (consumed pBuffer)).length ≤ pBuffer.length := by
    rw [List.length_take]
    exact Nat.min_le_right _ _
  rw [getHeaderLength_eq hlt]
  cases hflag : flagged pBuffer with
  | false =>
    rw [hflag, if_neg (by simp), List.length_cons, List.nil_append, length_wordsBytes] at hlength
    rw [hunflagged hflag, if_neg (by simp)]
    omega
  | true =>
    rw [hflag, if_pos rfl, List.length_cons, List.length_append, length_wordBytes,
      length_wordsBytes] at hlength
    split_ifs
    · omega
    · omega

end MultiplexedMediaHeader

namespace MultiMediaSampleBuffer
variable {machine : Machine} {b b' : MultiMediaSampleBuffer machine} {mediaSample : MediaSample}

theorem call_capacities {c : Call}
    (hcapacity : ∀ channel ∈ b.channels, ChannelBuffer.Capacity channel.bufferSize)
    (h : b.call c = .ok b') :
    ∀ channel ∈ b'.channels, ChannelBuffer.Capacity channel.bufferSize := by
  cases c with
  | setCurrentChannel uiChannel =>
    obtain rfl := Except.ok.inj h
    unfold setCurrentChannel
    split_ifs
    · exact hcapacity
    · exact hcapacity
  | addMediaSample mediaSample =>
    change b.addMediaSample mediaSample = .ok b' at h
    cases haccepts : accepts machine b.getNumberOfChannels mediaSample with
    | false =>
      rw [addMediaSample_rejected haccepts] at h
      obtain rfl := Except.ok.inj h
      exact hcapacity
    | true =>
      obtain ⟨header, stored, hstore, rfl⟩ := addMediaSample_stored haccepts h
      intro channel' hchannel'
      obtain ⟨channel, hchannel, uiLength, hgrow⟩ :=
        ChannelBuffer.storeStreams_bufferSize hstore channel' hchannel'
      exact (hcapacity channel hchannel).grow hgrow

/-- Whatever was stored before, the doubling ends with enough room for the lengths up to the
largest size, and for no others. -/
theorem doubling_ends_iff (machine : Machine) (uiChannels : ℕ) (calls : List Call)
    (b : MultiMediaSampleBuffer machine) (hrun : run call (create machine uiChannels) calls = .ok b)
    (channel : ChannelBuffer) (hchannel : channel ∈ b.channels) (uiLengthOfStream : UInt32) :
    (∃ turns bufferSize,
        ChannelBuffer.growBufferSize uiLengthOfStream turns channel.bufferSize = .ok bufferSize ∧
          uiLengthOfStream ≤ bufferSize) ↔
      uiLengthOfStream.toNat ≤ ChannelBuffer.largestCapacity := by
  have hstart : ∀ channel ∈ (create machine uiChannels).channels,
      ChannelBuffer.Capacity channel.bufferSize := by
    intro channel hchannel
    rw [List.eq_of_mem_replicate hchannel]
    exact ⟨0, by omega, rfl⟩
  have hcapacity := run_invariant (I := fun b : MultiMediaSampleBuffer machine =>
    ∀ channel ∈ b.channels, ChannelBuffer.Capacity channel.bufferSize) hstart
    (fun _ _ _ hm hstep => call_capacities hm hstep) hrun
  exact (hcapacity channel hchannel).ends_iff uiLengthOfStream

/-- Two doublings, after a rejected sample. -/
theorem doubling_ends_twice : ∃ turns bufferSize,
    ChannelBuffer.growBufferSize 40000 turns 10000 = .ok bufferSize ∧ 40000 ≤ bufferSize :=
  (doubling_ends_iff sevens 1 [.addMediaSample {}] { create sevens 1 with startTime := 0 } rfl _
    (List.mem_singleton.mpr rfl) 40000).mpr (by decide)

/-- A header of one stream that declares the largest length, and nothing behind it. -/
def hugeLength : MediaSample where
  data := ⟨[1, 0xFF, 0xFF, 0xFF, 0xFF], by decide⟩

theorem hugeLength_endless :
    accepts sevens 1 hugeLength = true ∧
      (∀ turns, ChannelBuffer.growBufferSize 0xFFFFFFFF turns 10000 = .error .endlessLoop) ∧
      (create sevens 1).addMediaSample hugeLength = .error .endlessLoop := by
  refine ⟨by decide, fun turns => ?_, rfl⟩
  have hcapacity : ChannelBuffer.Capacity 10000 := ⟨0, by omega, rfl⟩
  cases h : ChannelBuffer.growBufferSize 0xFFFFFFFF turns 10000 with
  | error f => rw [ChannelBuffer.growBufferSize_error h]
  | ok r =>
    obtain ⟨-, -, hroom, -⟩ := ChannelBuffer.growBufferSize_first h
    have hle := (hcapacity.ends_iff 0xFFFFFFFF).mp ⟨turns, r, h, hroom⟩
    exact absurd hle (by decide)

theorem streamLengths_length {header : MultiplexedMediaHeader}
    (hread : MultiplexedMediaHeader.read machine.order mediaSample.data.data
      mediaSample.data.getSize = .ok (some header))
    (hcount : header.getStreamCount = b.getNumberOfChannels) :
    header.streamLengths.length = b.channels.length := by
  have hlt := MultiplexedMediaHeader.streamCount_lt mediaSample.data.data
  rw [← (MultiplexedMediaHeader.read_ok hread).1] at hlt
  rw [← uint32_of_lt (show header.streamLengths.length < 2 ^ 32 by omega)]
  exact hcount

/-- An accepted sample is stored only if its declared lengths fit, and bytes behind it are copied
only if they do not. -/
theorem addMediaSample_source {header : MultiplexedMediaHeader}
    (hread : MultiplexedMediaHeader.read machine.order mediaSample.data.data
      mediaSample.data.getSize = .ok (some header))
    (hcount : header.getStreamCount = b.getNumberOfChannels) :
    (∀ b', b.addMediaSample mediaSample = .ok b' →
        header.getHeaderLength + (header.streamLengths.map UInt32.toNat).sum ≤
          mediaSample.getMediaSize) ∧
      (header.getHeaderLength + (header.streamLengths.map UInt32.toNat).sum ≤
          mediaSample.getMediaSize → b.addMediaSample mediaSample ≠ .error .outOfBounds) := by
  have haccepts : accepts machine b.getNumberOfChannels mediaSample = true := by
    rw [accepts, hread]
    simpa using hcount
  obtain ⟨header', hread', -, hstored⟩ := addMediaSample_accepted haccepts
  obtain rfl : header = header' := Option.some.inj (Except.ok.inj (hread.symm.trans hread'))
  obtain ⟨hstoredFits, hfitsStored⟩ := ChannelBuffer.storeStreams_source machine b.allocations
    (streamLengths_length hread hcount) (MultiplexedMediaHeader.getHeaderLength_le hread)
  rw [hstored]
  cases hstore : ChannelBuffer.storeStreams machine mediaSample.data.data b.channels
      header.streamLengths header.getHeaderLength b.allocations with
  | error f =>
    refine ⟨fun b' hb' => ?_, fun hfits hfault => ?_⟩
    · cases hb'
    · obtain rfl := Except.error.inj hfault
      exact hfitsStored hfits hstore
  | ok stored =>
    refine ⟨fun _ _ => hstoredFits stored hstore, fun _ hfault => ?_⟩
    cases hfault

/-- Of an accepted sample only bytes of its own are copied, and one that does not fit is
rejected, exactly if its declared lengths fit: nothing compares them with its size. -/
theorem addMediaSample_fits_iff (machine : Machine) (b : MultiMediaSampleBuffer machine)
    (mediaSample : MediaSample) (header : MultiplexedMediaHeader)
    (hread : MultiplexedMediaHeader.read machine.order mediaSample.data.data
      mediaSample.data.getSize = .ok (some header))
    (hcount : header.getStreamCount = b.getNumberOfChannels) :
    (b.addMediaSample mediaSample ≠ .error .outOfBounds ∧
        (mediaSample.getMediaSize <
            header.getHeaderLength + (header.streamLengths.map UInt32.toNat).sum →
          b.addMediaSample mediaSample =
            .ok { b with startTime := mediaSample.presentationTime })) ↔
      header.getHeaderLength + (header.streamLengths.map UInt32.toNat).sum ≤
        mediaSample.getMediaSize := by
  obtain ⟨hstored, hinside⟩ := addMediaSample_source hread hcount
  constructor
  · rintro ⟨-, hrejected⟩
    by_contra hlarge
    exact hlarge (hstored _ (hrejected (not_le.mp hlarge)))
  · intro hfits
    exact ⟨hinside hfits, fun hlarge => absurd hfits (not_le.mpr hlarge)⟩

theorem twoStreams_fits :
    (create sevens 2).addMediaSample twoStreams ≠ .error .outOfBounds :=
  ((addMediaSample_fits_iff sevens (create sevens 2) twoStreams ⟨0, 0, [3, 1]⟩ (by decide)
    (by decide)).mpr (by decide)).1

/-- A header of one stream that declares ten bytes, and two bytes behind it. -/
def cutStream : MediaSample where
  data := ⟨[1, 10, 0, 0, 0, 8, 9], by decide⟩

/-- The sample is accepted, and eight bytes behind it are copied. -/
theorem cutStream_overrun :
    accepts sevens 1 cutStream = true ∧
      (create sevens 1).addMediaSample cutStream = .error .outOfBounds :=
  ⟨by decide, rfl⟩

/-- A rejected sample leaves everything as it was only if it has the current start time. -/
theorem addMediaSample_unchanged_iff (machine : Machine) (b : MultiMediaSampleBuffer machine)
    (mediaSample : MediaSample)
    (h : accepts machine b.getNumberOfChannels mediaSample = false) :
    b.addMediaSample mediaSample = .ok b ↔ mediaSample.presentationTime = b.startTime := by
  rw [addMediaSample_rejected h]
  constructor
  · intro heq
    exact congrArg MultiMediaSampleBuffer.startTime (Except.ok.inj heq)
  · intro htime
    rw [htime]

theorem addMediaSample_unchanged_empty :
    (create sevens 2).addMediaSample { presentationTime := -1 } = .ok (create sevens 2) :=
  (addMediaSample_unchanged_iff sevens (create sevens 2) { presentationTime := -1 } rfl).mpr rfl

/-- The streams stored before get the presentation time of the rejected sample. -/
theorem rejected_relabels :
    accepts sevens 2 { presentationTime := 5 } = false ∧
      (run call (create sevens 2 4) [.addMediaSample twoStreams]).toOption.map
          (fun b => (b.channels.map ChannelBuffer.frameBytes, b.startTime)) =
        some ([[10, 11, 12], [20]], 0) ∧
      (run call (create sevens 2 4) [.addMediaSample twoStreams,
          .addMediaSample { presentationTime := 5 }]).toOption.map
          (fun b => (b.channels.map ChannelBuffer.frameBytes, b.startTime)) =
        some ([[10, 11, 12], [20]], 5) := by
  decide +kernel

end MultiMediaSampleBuffer

end LiveMediaExt.Media
