import LiveMediaExt.MultiplexedHeader
import LiveMediaExt.SampleBuffer

/-!
# The sample buffer of a multiplexed stream

One allocation for each channel keeps the channel's part of the current sample. An allocation
that is too small is replaced by one of twice its size, as often as it takes.
-/
namespace LiveMediaExt.Media
open Execution Words

/-- What the code depends on of the machine: its byte order, and what the bytes of an
allocation happen to be. -/
structure Machine where
  order : ByteOrder
  heap : ℕ → ℕ → UInt8

/-- `new BYTE[size]`. -/
def Machine.newBytes (machine : Machine) (allocation size : ℕ) : List UInt8 :=
  (List.range size).map (machine.heap allocation)

/-- A channel's entries of `m_vSampleBuffers`, `m_vSizes` and `m_mBufferSizes`. -/
structure ChannelBuffer where
  memory : List UInt8
  size : ℤ
  bufferSize : UInt32
  length_memory : memory.length = bufferSize.toNat
  deriving DecidableEq

namespace ChannelBuffer

/-- The loop that doubles an unsigned size. After 32 doublings every bit is shifted out, so a
size that is still too small at the 33rd look stays zero and the loop does not end. -/
def growBufferSize (uiLengthOfStream : UInt32) : ℕ → UInt32 → Except Fault UInt32
  | 0, _ => .error .endlessLoop
  | fuel + 1, bufferSize =>
    if uiLengthOfStream > bufferSize then
      growBufferSize uiLengthOfStream fuel (bufferSize <<< 1)
    else .ok bufferSize

/-- A changed size gets a new allocation; the second component counts them. -/
def reallocate (machine : Machine) (bufferSize : UInt32) (allocations : ℕ)
    (channel : ChannelBuffer) : ChannelBuffer × ℕ :=
  if channel.bufferSize ≠ bufferSize then
    ({ channel with
        memory := machine.newBytes allocations bufferSize.toNat
        bufferSize := bufferSize
        length_memory := by simp [Machine.newBytes] }, allocations + 1)
  else (channel, allocations)

/-- The assertion and the `memcpy` behind it. -/
def copyStream (pMediaData : List UInt8) (pSource : ℕ) (uiLengthOfStream : UInt32)
    (channel : ChannelBuffer) : Except Fault ChannelBuffer :=
  if hroom : uiLengthOfStream ≤ channel.bufferSize then
    if hsource : pSource + uiLengthOfStream.toNat ≤ pMediaData.length then
      .ok {
        memory := (pMediaData.drop pSource).take uiLengthOfStream.toNat ++
          channel.memory.drop uiLengthOfStream.toNat
        size := int32 uiLengthOfStream.toNat
        bufferSize := channel.bufferSize
        length_memory := by
          have hmemory := channel.length_memory
          have hle := UInt32.le_iff_toNat_le.mp hroom
          rw [List.length_append, List.length_take, List.length_drop, List.length_drop]
          omega }
    else .error .outOfBounds
  else .error .bufferTooSmall

/-- One turn of the loop over the channels. -/
def storeStream (machine : Machine) (pMediaData : List UInt8) (pSource : ℕ)
    (uiLengthOfStream : UInt32) (allocations : ℕ) (channel : ChannelBuffer) :
    Except Fault (ChannelBuffer × ℕ) := do
  let bufferSize ← growBufferSize uiLengthOfStream 33 channel.bufferSize
  let (channel, allocations) := channel.reallocate machine bufferSize allocations
  let channel ← channel.copyStream pMediaData pSource uiLengthOfStream
  return (channel, allocations)

/-- The loop over the channels; `getStreamLength` throws behind the last length. -/
def storeStreams (machine : Machine) (pMediaData : List UInt8) :
    List ChannelBuffer → List UInt32 → ℕ → ℕ → Except Fault (List ChannelBuffer × ℕ)
  | [], _, _, allocations => .ok ([], allocations)
  | _ :: _, [], _, _ => .error .outOfBounds
  | channel :: channels, uiLengthOfStream :: lengths, pSource, allocations => do
    let (channel, allocations) ←
      channel.storeStream machine pMediaData pSource uiLengthOfStream allocations
    let (channels, allocations) ← storeStreams machine pMediaData channels lengths
      (pSource + uiLengthOfStream.toNat) allocations
    return (channel :: channels, allocations)

end ChannelBuffer

/-- `allocations` counts the allocations made since the construction. -/
structure MultiMediaSampleBuffer (machine : Machine) where
  channels : List ChannelBuffer
  currentChannel : ℕ
  startTime : ℚ
  allocations : ℕ
  deriving DecidableEq

namespace MultiMediaSampleBuffer
variable {machine : Machine}

def create (machine : Machine) (uiChannels : ℕ) (uiMaxFrameSize : UInt32 := 10000) :
    MultiMediaSampleBuffer machine where
  channels := List.replicate uiChannels
    { memory := List.replicate uiMaxFrameSize.toNat 0
      size := 0
      bufferSize := uiMaxFrameSize
      length_memory := List.length_replicate }
  currentChannel := 0
  startTime := -1
  allocations := 0

def getNumberOfChannels (b : MultiMediaSampleBuffer machine) : ℕ := b.channels.length

def setCurrentChannel (uiChannel : ℕ) (b : MultiMediaSampleBuffer machine) :
    MultiMediaSampleBuffer machine :=
  if uiChannel < b.getNumberOfChannels then { b with currentChannel := uiChannel } else b

def addMediaSample (b : MultiMediaSampleBuffer machine) (mediaSample : MediaSample) :
    Except Fault (MultiMediaSampleBuffer machine) := do
  let b := { b with startTime := mediaSample.presentationTime }
  let pMediaData := mediaSample.data.data
  match ← MultiplexedMediaHeader.read machine.order pMediaData mediaSample.data.getSize with
  | none => return b
  | some header =>
    if header.getStreamCount ≠ b.getNumberOfChannels then return b
    else
      let (channels, allocations) ← ChannelBuffer.storeStreams machine pMediaData b.channels
        header.streamLengths header.getHeaderLength b.allocations
      return { b with channels := channels, allocations := allocations }

def getBufferAt (uiIndex : ℕ) (b : MultiMediaSampleBuffer machine) : Option (List UInt8) :=
  b.channels[uiIndex]?.map ChannelBuffer.memory

def getCurrentBuffer (b : MultiMediaSampleBuffer machine) : Option (List UInt8) :=
  b.getBufferAt b.currentChannel

/-- The conversion of the recorded `int` back to `unsigned`. -/
def getCurrentSize (b : MultiMediaSampleBuffer machine) : ℕ :=
  match b.channels[b.currentChannel]? with
  | some channel => (channel.size % 2 ^ 32).toNat
  | none => 0

end MultiMediaSampleBuffer

namespace ChannelBuffer
variable {channel channel' : ChannelBuffer} {f : Fault}

theorem growBufferSize_error {uiLengthOfStream bufferSize : UInt32} {fuel : ℕ}
    (h : growBufferSize uiLengthOfStream fuel bufferSize = .error f) : f = .endlessLoop := by
  induction fuel generalizing bufferSize with
  | zero => exact (Except.error.inj h).symm
  | succ fuel ih =>
    rw [growBufferSize] at h
    split_ifs at h with hgrow
    exact ih h

theorem toNat_shiftLeft_one (n : UInt32) : (n <<< 1).toNat = n.toNat * 2 % 2 ^ 32 := by
  simp only [UInt32.toNat_shiftLeft, UInt32.toNat_one, Nat.reduceMod, Nat.shiftLeft_eq, pow_one]

/-- A loop that ends at all ends within 33 looks, which is the case `j = 32`. -/
theorem growBufferSize_fuel {uiLengthOfStream bufferSize r : UInt32} {fuel j : ℕ}
    (hshifted : bufferSize.toNat * 2 ^ j % 2 ^ 32 = 0)
    (h : growBufferSize uiLengthOfStream fuel bufferSize = .ok r) :
    growBufferSize uiLengthOfStream (j + 1) bufferSize = .ok r := by
  induction fuel generalizing bufferSize j with
  | zero => cases h
  | succ fuel ih =>
    rw [growBufferSize] at h ⊢
    by_cases hgrow : uiLengthOfStream > bufferSize
    · rw [if_pos hgrow] at h ⊢
      cases j with
      | zero =>
        have hzero : bufferSize = 0 := by
          have hlt := bufferSize.toNat_lt
          apply UInt32.toNat_inj.mp
          simp at hshifted ⊢
          omega
        subst hzero
        have hstays : (0 : UInt32) <<< 1 = 0 := rfl
        rw [hstays] at h ⊢
        have hlook := ih hshifted h
        rw [growBufferSize, if_pos hgrow] at hlook
        exact hlook
      | succ j =>
        have hnext : (bufferSize <<< 1).toNat * 2 ^ j % 2 ^ 32 = 0 := by
          rw [toNat_shiftLeft_one, Nat.mod_mul_mod, mul_assoc, ← pow_succ']
          exact hshifted
        exact ih hnext h
    · rw [if_neg hgrow] at h ⊢
      exact h
theorem copyStream_error {pMediaData : List UInt8} {pSource : ℕ} {uiLengthOfStream : UInt32}
    (h : copyStream pMediaData pSource uiLengthOfStream channel = .error f) :
    f = .outOfBounds ∨ f = .bufferTooSmall := by
  unfold copyStream at h
  split_ifs at h
  · exact .inl (Except.error.inj h).symm
  · exact .inr (Except.error.inj h).symm

theorem storeStreams_error {machine : Machine} {pMediaData : List UInt8}
    {channels : List ChannelBuffer} {lengths : List UInt32} {pSource allocations : ℕ}
    (h : storeStreams machine pMediaData channels lengths pSource allocations = .error f) :
    f ≠ .emptyQueue := by
  induction channels generalizing lengths pSource allocations with
  | nil => cases h
  | cons channel channels ih =>
    cases lengths with
    | nil =>
      obtain rfl : Fault.outOfBounds = f := Except.error.inj h
      simp
    | cons uiLength lengths =>
      rcases bind_error.mp h with hstore | ⟨⟨channel', allocations'⟩, -, h⟩
      · rcases bind_error.mp hstore with hgrow | ⟨bufferSize, -, hstore⟩
        · simp [growBufferSize_error hgrow]
        · rcases bind_error.mp hstore with hcopy | ⟨copied, -, hstore⟩
          · rcases copyStream_error hcopy with rfl | rfl
            · simp
            · simp
          · cases hstore
      · rcases bind_error.mp h with hrest | ⟨⟨channels', allocations'⟩, -, h⟩
        · exact ih hrest
        · cases h

/-- What the channel hands out, its bytes up to its size. -/
def frameBytes (channel : ChannelBuffer) : List UInt8 :=
  channel.memory.take (channel.size % 2 ^ 32).toNat

/-- The conversions to `int` and back cancel. -/
theorem int32_toUnsigned (n : UInt32) : (int32 n.toNat % 2 ^ 32).toNat = n.toNat := by
  have hlt := n.toNat_lt
  have hback : int32 n.toNat % 2 ^ 32 = (n.toNat : ℤ) % 2 ^ 32 := Int.bmod_emod
  rw [hback]
  omega

theorem storeStream_bytes {machine : Machine} {pMediaData : List UInt8} {pSource : ℕ}
    {uiLengthOfStream : UInt32} {allocations allocations' : ℕ}
    (h : channel.storeStream machine pMediaData pSource uiLengthOfStream allocations =
      .ok (channel', allocations')) : channel'.frameBytes <:+: pMediaData := by
  obtain ⟨bufferSize, -, h⟩ := bind_ok.mp h
  obtain ⟨copied, hcopy, h⟩ := bind_ok.mp h
  obtain rfl : copied = channel' := (Prod.mk.inj (Except.ok.inj h)).1
  unfold copyStream at hcopy
  split_ifs at hcopy with hroom hsource
  obtain rfl := Except.ok.inj hcopy
  have hlen : ((pMediaData.drop pSource).take uiLengthOfStream.toNat).length =
      uiLengthOfStream.toNat := by
    rw [List.length_take, List.length_drop]
    omega
  unfold frameBytes
  dsimp only
  rw [int32_toUnsigned, List.take_append_of_le_length hlen.ge, List.take_of_length_le hlen.le]
  exact (List.take_prefix _ _).isInfix.trans (List.drop_suffix _ _).isInfix

/-- Every channel hands out a part of the sample just stored. -/
theorem storeStreams_bytes {machine : Machine} {pMediaData : List UInt8}
    {channels channels' : List ChannelBuffer} {lengths : List UInt32}
    {pSource allocations allocations' : ℕ}
    (h : storeStreams machine pMediaData channels lengths pSource allocations =
      .ok (channels', allocations')) :
    channels'.length = channels.length ∧
      ∀ channel ∈ channels', channel.frameBytes <:+: pMediaData := by
  induction channels generalizing channels' lengths pSource allocations allocations' with
  | nil =>
    cases h
    exact ⟨rfl, by simp⟩
  | cons channel channels ih =>
    cases lengths with
    | nil => cases h
    | cons uiLength lengths =>
      obtain ⟨⟨channel', allocations₁⟩, hstore, h⟩ := bind_ok.mp h
      obtain ⟨⟨channels₁, allocations₂⟩, hrest, h⟩ := bind_ok.mp h
      cases h
      obtain ⟨hlength, hbytes⟩ := ih hrest
      refine ⟨congrArg Nat.succ hlength, fun c hc => ?_⟩
      rcases List.mem_cons.mp hc with rfl | hc
      · exact storeStream_bytes hstore
      · exact hbytes c hc

end ChannelBuffer

namespace MultiMediaSampleBuffer
variable {machine : Machine} {b b' : MultiMediaSampleBuffer machine} {mediaSample : MediaSample}

/-- The header of the sample is valid and names as many streams as there are channels. -/
def accepts (machine : Machine) (uiChannels : ℕ) (mediaSample : MediaSample) : Bool :=
  match MultiplexedMediaHeader.read machine.order mediaSample.data.data
      mediaSample.data.getSize with
  | .ok (some header) => header.getStreamCount == uiChannels
  | _ => false

/-- A rejected sample changes the start time and nothing else. -/
theorem addMediaSample_rejected (h : accepts machine b.getNumberOfChannels mediaSample = false) :
    b.addMediaSample mediaSample =
      .ok { b with startTime := mediaSample.presentationTime } := by
  obtain ⟨read, hread⟩ : ∃ read, MultiplexedMediaHeader.read machine.order mediaSample.data.data
      mediaSample.data.getSize = .ok read := MultiplexedMediaHeader.read_inside _
  rw [accepts, hread] at h
  simp only [addMediaSample, hread, bind, Except.bind]
  cases read with
  | none => rfl
  | some header =>
    have hcount : header.getStreamCount ≠ b.getNumberOfChannels := by simpa using h
    exact if_pos hcount

theorem addMediaSample_accepted (h : accepts machine b.getNumberOfChannels mediaSample = true) :
    ∃ header, MultiplexedMediaHeader.read machine.order mediaSample.data.data
        mediaSample.data.getSize = .ok (some header) ∧
      header.getStreamCount = b.getNumberOfChannels ∧
      b.addMediaSample mediaSample =
        (ChannelBuffer.storeStreams machine mediaSample.data.data b.channels
          header.streamLengths header.getHeaderLength b.allocations).map fun stored =>
            { channels := stored.1, currentChannel := b.currentChannel,
              startTime := mediaSample.presentationTime, allocations := stored.2 } := by
  obtain ⟨read, hread⟩ : ∃ read, MultiplexedMediaHeader.read machine.order mediaSample.data.data
      mediaSample.data.getSize = .ok read := MultiplexedMediaHeader.read_inside _
  rw [accepts, hread] at h
  cases read with
  | none => cases h
  | some header =>
    have hcount : header.getStreamCount = b.getNumberOfChannels := by simpa using h
    refine ⟨header, hread, hcount, ?_⟩
    have hsame : ¬ header.getStreamCount ≠ b.getNumberOfChannels := not_not.mpr hcount
    simp only [addMediaSample, hread, bind, Except.bind]
    refine (if_neg hsame).trans ?_
    cases ChannelBuffer.storeStreams machine mediaSample.data.data b.channels
      header.streamLengths header.getHeaderLength b.allocations with
    | error f => rfl
    | ok stored => rfl

/-- What is stored of an accepted sample. -/
theorem addMediaSample_stored
    (haccepts : accepts machine b.getNumberOfChannels mediaSample = true)
    (h : b.addMediaSample mediaSample = .ok b') :
    ∃ (header : MultiplexedMediaHeader) (stored : List ChannelBuffer × ℕ),
      ChannelBuffer.storeStreams machine mediaSample.data.data b.channels
        header.streamLengths header.getHeaderLength b.allocations = .ok stored ∧
      b' = { channels := stored.1, currentChannel := b.currentChannel,
             startTime := mediaSample.presentationTime, allocations := stored.2 } := by
  obtain ⟨header, -, -, hstored⟩ := addMediaSample_accepted haccepts
  rw [hstored] at h
  cases hstore : ChannelBuffer.storeStreams machine mediaSample.data.data b.channels
      header.streamLengths header.getHeaderLength b.allocations with
  | error f =>
    rw [hstore] at h
    cases h
  | ok stored =>
    rw [hstore] at h
    exact ⟨header, stored, hstore, (Except.ok.inj h).symm⟩

/-- No sample changes the number of channels or the current one. -/
theorem addMediaSample_frame (h : b.addMediaSample mediaSample = .ok b') :
    b'.getNumberOfChannels = b.getNumberOfChannels ∧
      b'.currentChannel = b.currentChannel ∧ b'.startTime = mediaSample.presentationTime := by
  cases haccepts : accepts machine b.getNumberOfChannels mediaSample with
  | false =>
    rw [addMediaSample_rejected haccepts] at h
    cases h
    exact ⟨rfl, rfl, rfl⟩
  | true =>
    obtain ⟨header, stored, hstore, rfl⟩ := addMediaSample_stored haccepts h
    exact ⟨(ChannelBuffer.storeStreams_bytes hstore).1, rfl, rfl⟩

theorem addMediaSample_error {f : Fault} (h : b.addMediaSample mediaSample = .error f) :
    f ≠ .emptyQueue := by
  cases haccepts : accepts machine b.getNumberOfChannels mediaSample with
  | false =>
    rw [addMediaSample_rejected haccepts] at h
    cases h
  | true =>
    obtain ⟨header, -, -, hstored⟩ := addMediaSample_accepted haccepts
    rw [hstored] at h
    cases hstore : ChannelBuffer.storeStreams machine mediaSample.data.data b.channels
        header.streamLengths header.getHeaderLength b.allocations with
    | error g =>
      rw [hstore] at h
      obtain rfl : g = f := Except.error.inj h
      exact ChannelBuffer.storeStreams_error hstore
    | ok stored =>
      rw [hstore] at h
      cases h

instance : IMediaSampleBuffer (MultiMediaSampleBuffer machine) where
  addMediaSample b mediaSample := b.addMediaSample mediaSample
  getCurrentBuffer b := b.getCurrentBuffer
  getCurrentStartTime b := b.startTime
  getCurrentSize b := b.getCurrentSize
  addMediaSample_ne _ _ h := addMediaSample_error h rfl

/-- The frame of the current channel. -/
theorem getNextFrame_channel {f : Frame} (h : Media.getNextFrame b = some f) :
    ∃ channel ∈ b.channels, f.memory = channel.memory ∧
      f.size = (channel.size % 2 ^ 32).toNat ∧ f.startTime = b.startTime := by
  unfold Media.getNextFrame at h
  obtain ⟨memory, hmemory, rfl⟩ := Option.map_eq_some_iff.mp h
  obtain ⟨channel, hchannel, rfl⟩ := Option.map_eq_some_iff.mp hmemory
  refine ⟨channel, List.mem_of_getElem? hchannel, rfl, ?_, rfl⟩
  change b.getCurrentSize = _
  rw [getCurrentSize, hchannel]

theorem getNextFrame_lt {f : Frame} (h : Media.getNextFrame b = some f) :
    f.memory.length < 2 ^ 32 ∧ f.size < 2 ^ 32 := by
  obtain ⟨channel, -, hmemory, hsize, -⟩ := getNextFrame_channel h
  rw [hmemory, hsize, channel.length_memory]
  have hlt := channel.bufferSize.toNat_lt
  refine ⟨hlt, ?_⟩
  omega

/-- After an accepted sample the frame is a part of it, with its presentation time. -/
theorem getNextFrame_accepted {f : Frame}
    (haccepts : accepts machine b.getNumberOfChannels mediaSample = true)
    (hadd : b.addMediaSample mediaSample = .ok b') (h : Media.getNextFrame b' = some f) :
    f.startTime = mediaSample.presentationTime ∧
      f.memory.take f.size <:+: mediaSample.data.data := by
  obtain ⟨channel, hchannel, hmemory, hsize, htime⟩ := getNextFrame_channel h
  obtain ⟨header, stored, hstore, rfl⟩ := addMediaSample_stored haccepts hadd
  have hbytes := (ChannelBuffer.storeStreams_bytes hstore).2 channel hchannel
  refine ⟨htime, ?_⟩
  rw [hmemory, hsize]
  exact hbytes

end MultiMediaSampleBuffer

namespace ChannelBuffer
variable {channel : ChannelBuffer} {pMediaData rest stream : List UInt8}

/-- A capacity that doublings have made of the default frame size; with 18 of them it takes
any stream below 2 GiB and still fits 32 bits. -/
def Grown (channel : ChannelBuffer) : Prop := ∃ k ≤ 18, channel.bufferSize.toNat = 10000 * 2 ^ k

/-- The channel keeps the stream. -/
structure Holds (channel : ChannelBuffer) (stream : List UInt8) : Prop where
  grown : Grown channel
  take_memory : channel.memory.take stream.length = stream
  size : channel.size = stream.length
  le_bufferSize : stream.length ≤ channel.bufferSize.toNat

theorem growBufferSize_default {uiLengthOfStream bufferSize : UInt32} {fuel k : ℕ}
    (hsmall : uiLengthOfStream.toNat < 2 ^ 31) (hk : k ≤ 18)
    (hsize : bufferSize.toNat = 10000 * 2 ^ k)
    (hfuel : 18 < k + fuel) :
    ∃ bufferSize', growBufferSize uiLengthOfStream fuel bufferSize = .ok bufferSize' ∧
      (∃ k' ≤ 18, bufferSize'.toNat = 10000 * 2 ^ k') ∧ uiLengthOfStream ≤ bufferSize' := by
  induction fuel generalizing bufferSize k with
  | zero => omega
  | succ fuel ih =>
    by_cases hgrow : uiLengthOfStream > bufferSize
    · have hgrow' : 10000 * 2 ^ k < uiLengthOfStream.toNat := by
        rw [← hsize]
        exact UInt32.lt_iff_toNat_lt.mp hgrow
      have hlt : k < 18 := by
        rcases Nat.lt_or_eq_of_le hk with hlt | rfl
        · exact hlt
        · omega
      have hpow : 2 ^ (k + 1) ≤ 2 ^ 18 := Nat.pow_le_pow_right (by norm_num) hlt
      have hdouble : bufferSize.toNat * 2 = 10000 * 2 ^ (k + 1) := by
        rw [hsize, pow_succ]
        omega
      have hsize' : (bufferSize <<< 1).toNat = 10000 * 2 ^ (k + 1) := by
        rw [toNat_shiftLeft_one, hdouble, Nat.mod_eq_of_lt (by omega)]
      rw [growBufferSize, if_pos hgrow]
      exact ih hlt hsize' (by omega)
    · refine ⟨bufferSize, ?_, ⟨k, hk, hsize⟩, UInt32.not_lt.mp hgrow⟩
      rw [growBufferSize, if_neg hgrow]

theorem reallocate_bufferSize (machine : Machine) (bufferSize : UInt32) (allocations : ℕ)
    (channel : ChannelBuffer) :
    (channel.reallocate machine bufferSize allocations).1.bufferSize = bufferSize := by
  unfold reallocate
  split_ifs with hchanged
  · rfl
  · exact not_not.mp hchanged

theorem storeStream_complete (machine : Machine) {pSource : ℕ} {uiLengthOfStream : UInt32}
    (allocations : ℕ) (hgrown : Grown channel) (hlength : uiLengthOfStream.toNat = stream.length)
    (hsmall : stream.length < 2 ^ 31)
    (hle : pSource ≤ pMediaData.length) (hsource : pMediaData.drop pSource = stream ++ rest) :
    ∃ channel' allocations',
      channel.storeStream machine pMediaData pSource uiLengthOfStream allocations =
        .ok (channel', allocations') ∧ Holds channel' stream := by
  obtain ⟨k, hk, hsize⟩ := hgrown
  have hsmall' : uiLengthOfStream.toNat < 2 ^ 31 := by omega
  obtain ⟨bufferSize, hgrow, hbufferGrown, hroom⟩ :=
    growBufferSize_default hsmall' hk hsize (show 18 < k + 33 by omega)
  have hlen := congrArg List.length hsource
  rw [List.length_drop, List.length_append] at hlen
  have hbufferSize := reallocate_bufferSize machine bufferSize allocations channel
  cases hgrown : channel.reallocate machine bufferSize allocations with
  | mk grown allocations' =>
    rw [hgrown] at hbufferSize
    obtain rfl : grown.bufferSize = bufferSize := hbufferSize
    have hbytes : pSource + uiLengthOfStream.toNat ≤ pMediaData.length := by omega
    have htake : (pMediaData.drop pSource).take uiLengthOfStream.toNat = stream := by
      rw [hsource, hlength, List.take_left]
    have hroom' : stream.length ≤ grown.bufferSize.toNat := by
      rw [← hlength]
      exact UInt32.le_iff_toNat_le.mp hroom
    unfold storeStream copyStream
    simp only [hgrow, hgrown, bind, Except.bind, dif_pos hroom, dif_pos hbytes]
    refine ⟨_, allocations', rfl, hbufferGrown, ?_, ?_, hroom'⟩
    · dsimp only
      rw [htake, List.take_left]
    · dsimp only
      rw [hlength, int32_of_lt hsmall]

theorem storeStreams_complete (machine : Machine) {channels : List ChannelBuffer}
    {streams : List (List UInt8)} {pSource : ℕ} (allocations : ℕ)
    (hgrown : ∀ channel ∈ channels, Grown channel)
    (hsmall : ∀ stream ∈ streams, stream.length < 2 ^ 31)
    (hcount : channels.length = streams.length) (hle : pSource ≤ pMediaData.length)
    (hsource : pMediaData.drop pSource = streams.flatten) :
    ∃ channels' allocations',
      storeStreams machine pMediaData channels
          (streams.map fun stream => UInt32.ofNat stream.length) pSource allocations =
        .ok (channels', allocations') ∧ List.Forall₂ Holds channels' streams := by
  induction streams generalizing channels pSource allocations with
  | nil =>
    obtain rfl : channels = [] := List.eq_nil_of_length_eq_zero hcount
    exact ⟨[], allocations, rfl, .nil⟩
  | cons stream streams ih =>
    cases channels with
    | nil => simp at hcount
    | cons channel channels =>
      have hstream : stream.length < 2 ^ 31 := hsmall stream (by simp)
      have hlength : (UInt32.ofNat stream.length).toNat = stream.length := by
        simp only [UInt32.toNat_ofNat']
        omega
      rw [List.flatten_cons] at hsource
      obtain ⟨channel', allocations₁, hstore, hholds⟩ :=
        storeStream_complete machine allocations (hgrown channel (by simp)) hlength hstream hle
          hsource
      have hlen := congrArg List.length hsource
      rw [List.length_drop, List.length_append] at hlen
      have hnext : pMediaData.drop (pSource + stream.length) = streams.flatten := by
        rw [← List.drop_drop, hsource, List.drop_left]
      obtain ⟨channels', allocations₂, hrest, hholdsRest⟩ :=
        ih allocations₁ (fun c hc => hgrown c (List.mem_cons_of_mem _ hc))
          (fun s hs => hsmall s (List.mem_cons_of_mem _ hs)) (Nat.succ.inj hcount)
          (show pSource + stream.length ≤ pMediaData.length by omega) hnext
      refine ⟨channel' :: channels', allocations₂, ?_, .cons hholds hholdsRest⟩
      simp only [List.map_cons, storeStreams, hlength, hstore, hrest, bind, Except.bind, pure,
        Except.pure]

end ChannelBuffer

namespace MultiMediaSampleBuffer
variable {machine : Machine} {b b' : MultiMediaSampleBuffer machine} {mediaSample : MediaSample}
  {uiChannels : ℕ}

/-- The data of a sample is a header that `writeHeader` made of the FourCC and the lengths of
the streams, followed by the streams. -/
def Multiplexes (order : ByteOrder) (fourCC : UInt32) (streams : List (List UInt8))
    (data : List UInt8) : Prop :=
  let header : MultiplexedMediaHeader :=
    { version := 0, fourCC := fourCC
      streamLengths := streams.map fun stream => UInt32.ofNat stream.length }
  ∃ pData written, pData.length = header.getHeaderLength ∧
    header.writeHeader order pData pData.length = .ok (true, written) ∧
    data = written ++ streams.flatten

/-- One stream below 2 GiB for each channel. -/
def WellFormed (machine : Machine) (uiChannels : ℕ) (mediaSample : MediaSample) : Prop :=
  ∃ fourCC streams, streams.length = uiChannels ∧
    (∀ stream ∈ streams, stream.length < 2 ^ 31) ∧
    Multiplexes machine.order fourCC streams mediaSample.data.data

/-- The calls that change a buffer. -/
inductive Call
  | setCurrentChannel (uiChannel : ℕ)
  | addMediaSample (mediaSample : MediaSample)

def call (b : MultiMediaSampleBuffer machine) : Call → Except Fault (MultiMediaSampleBuffer machine)
  | .setCurrentChannel uiChannel => .ok (b.setCurrentChannel uiChannel)
  | .addMediaSample mediaSample => b.addMediaSample mediaSample

/-- The samples among the calls are rejected or well-formed. -/
def Call.Regular (machine : Machine) (uiChannels : ℕ) : Call → Prop
  | .setCurrentChannel _ => True
  | .addMediaSample mediaSample =>
    accepts machine uiChannels mediaSample = false ∨ WellFormed machine uiChannels mediaSample

/-- The channels are as many as at the start, and only doublings changed their capacity. -/
structure Doubled (uiChannels : ℕ) (b : MultiMediaSampleBuffer machine) : Prop where
  channels : b.getNumberOfChannels = uiChannels
  grown : ∀ channel ∈ b.channels, channel.Grown

theorem create_doubled (uiChannels : ℕ) : Doubled uiChannels (create machine uiChannels) where
  channels := List.length_replicate
  grown := by
    intro channel hchannel
    rw [List.eq_of_mem_replicate hchannel]
    exact ⟨0, by omega, rfl⟩

/-- A well-formed sample is stored stream by stream. -/
theorem addMediaSample_complete {fourCC : UInt32} {streams : List (List UInt8)}
    (hdoubled : Doubled uiChannels b) (hcount : streams.length = uiChannels)
    (hsmall : ∀ stream ∈ streams, stream.length < 2 ^ 31)
    (hdata : Multiplexes machine.order fourCC streams mediaSample.data.data) :
    ∃ b', b.addMediaSample mediaSample = .ok b' ∧ b'.currentChannel = b.currentChannel ∧
      List.Forall₂ ChannelBuffer.Holds b'.channels streams := by
  obtain ⟨pData, written, hpData, hwrite, hdata⟩ := hdata
  set header : MultiplexedMediaHeader :=
    { version := 0, fourCC := fourCC
      streamLengths := streams.map fun stream => UInt32.ofNat stream.length } with hheader
  have hfew : header.streamLengths.length < 16 := MultiplexedMediaHeader.writeHeader_count hwrite
  have hwritten : written = header.headerBytes machine.order := by
    rw [MultiplexedMediaHeader.writeHeader_complete hfew hpData.ge hpData.ge] at hwrite
    have hpair := (Prod.mk.inj (Except.ok.inj hwrite)).2
    rw [← hpair, ← hpData, List.drop_length, List.append_nil]
  have hlength : written.length = header.getHeaderLength := by
    rw [hwritten]
    exact MultiplexedMediaHeader.length_headerBytes hfew
  have hsize : mediaSample.data.getSize = header.getHeaderLength + streams.flatten.length := by
    unfold Buffer.getSize
    rw [hdata, List.length_append, hlength]
  have hread : MultiplexedMediaHeader.read machine.order mediaSample.data.data
      mediaSample.data.getSize = .ok (some header) := by
    rw [hdata, hwritten]
    exact MultiplexedMediaHeader.read_headerBytes rfl hfew (by omega) streams.flatten
  have hstreamCount : header.getStreamCount = b.getNumberOfChannels := by
    have hlengths : header.streamLengths.length = uiChannels := by
      rw [hheader, List.length_map, hcount]
    unfold MultiplexedMediaHeader.getStreamCount
    rw [uint32_of_lt (by omega), hlengths, hdoubled.channels]
  have hle : header.getHeaderLength ≤ mediaSample.data.data.length := by
    rw [hdata, List.length_append]
    omega
  have hsource : mediaSample.data.data.drop header.getHeaderLength = streams.flatten := by
    rw [hdata, ← hlength, List.drop_left]
  obtain ⟨channels', allocations', hstore, hholds⟩ := ChannelBuffer.storeStreams_complete machine
    b.allocations hdoubled.grown hsmall (hdoubled.channels.trans hcount.symm) hle hsource
  have haccepts : accepts machine b.getNumberOfChannels mediaSample = true := by
    rw [accepts, hread]
    simpa using hstreamCount
  obtain ⟨header', hread', -, hadd⟩ := addMediaSample_accepted haccepts
  obtain rfl : header = header' := Option.some.inj (Except.ok.inj (hread.symm.trans hread'))
  rw [hstore] at hadd
  exact ⟨_, hadd, rfl, hholds⟩

theorem call_doubled {call : Call} (hcall : call.Regular machine uiChannels)
    (hdoubled : Doubled uiChannels b) : ∃ b', b.call call = .ok b' ∧ Doubled uiChannels b' := by
  cases call with
  | setCurrentChannel uiChannel =>
    refine ⟨_, rfl, ?_⟩
    unfold setCurrentChannel
    split_ifs
    · exact ⟨hdoubled.channels, hdoubled.grown⟩
    · exact hdoubled
  | addMediaSample mediaSample =>
    rcases hcall with hrejected | ⟨fourCC, streams, hcount, hsmall, hdata⟩
    · rw [← hdoubled.channels] at hrejected
      exact ⟨_, addMediaSample_rejected hrejected, hdoubled.channels, hdoubled.grown⟩
    · obtain ⟨b', hadd, -, hholds⟩ := addMediaSample_complete hdoubled hcount hsmall hdata
      have hgrown : ∀ channel ∈ b'.channels, channel.Grown :=
        ((List.forall₂_and_left _ _).mp (hholds.imp fun channel stream h => ⟨h.grown, h⟩)).1
      exact ⟨b', hadd, hholds.length_eq.trans hcount, hgrown⟩

theorem run_doubled {calls : List Call} (hcalls : ∀ call ∈ calls, call.Regular machine uiChannels)
    (hdoubled : Doubled uiChannels b) : ∃ b', run call b calls = .ok b' ∧ Doubled uiChannels b' := by
  induction calls generalizing b with
  | nil => exact ⟨b, rfl, hdoubled⟩
  | cons first calls ih =>
    obtain ⟨t, ht, hdoubled⟩ := call_doubled (hcalls first (by simp)) hdoubled
    obtain ⟨b', hb', hdoubled⟩ := ih (fun call hcall => hcalls call (by simp [hcall])) hdoubled
    exact ⟨b', by rw [run_cons_ok ht, hb'], hdoubled⟩

/-- Whatever was stored before, each channel of a multiplexed sample can be read from its
buffer afterwards. -/
theorem streams_stored (machine : Machine) (uiChannels : ℕ) (calls : List Call)
    (hcalls : ∀ call ∈ calls, call.Regular machine uiChannels) (mediaSample : MediaSample)
    (fourCC : UInt32) (streams : List (List UInt8)) (hcount : streams.length = uiChannels)
    (hsmall : ∀ stream ∈ streams, stream.length < 2 ^ 31)
    (hdata : Multiplexes machine.order fourCC streams mediaSample.data.data) :
    ∃ b b', run call (create machine uiChannels) calls = .ok b ∧
      b.addMediaSample mediaSample = .ok b' ∧ b'.currentChannel = b.currentChannel ∧
      b'.getNumberOfChannels = uiChannels ∧
      ∀ i (hi : i < streams.length), ∃ channel, b'.channels[i]? = some channel ∧
        b'.getBufferAt i = some channel.memory ∧
        channel.memory.take streams[i].length = streams[i] ∧
        channel.size = streams[i].length ∧ streams[i].length ≤ channel.bufferSize.toNat := by
  obtain ⟨b, hb, hdoubled⟩ := run_doubled hcalls (create_doubled uiChannels)
  obtain ⟨b', hadd, hcurrent, hholds⟩ := addMediaSample_complete hdoubled hcount hsmall hdata
  refine ⟨b, b', hb, hadd, hcurrent, hholds.length_eq.trans hcount, fun i hi => ?_⟩
  have hchannel : i < b'.channels.length := by rw [hholds.length_eq]; exact hi
  have hget := List.getElem?_eq_getElem hchannel
  have hstream := hholds.get hchannel hi
  refine ⟨b'.channels[i], hget, ?_, hstream.take_memory, hstream.size, hstream.le_bufferSize⟩
  rw [getBufferAt, hget]
  rfl

/-- A machine whose fresh allocations are filled with sevens. -/
def sevens : Machine where
  order := .littleEndian
  heap := fun _ _ => 7

/-- Two streams of three bytes and one. -/
def twoStreams : MediaSample where
  data := ⟨[2, 3, 0, 0, 0, 1, 0, 0, 0, 10, 11, 12, 20], by norm_num⟩

theorem twoStreams_multiplexes :
    Multiplexes .littleEndian 0 [[10, 11, 12], [20]] twoStreams.data.data :=
  ⟨List.replicate 9 0, [2, 3, 0, 0, 0, 1, 0, 0, 0], rfl, rfl, rfl⟩

/-- A rejected sample, a change of the channel and a first sample come before. -/
theorem streams_stored_twoStreams :
    ∃ b b', run call (create sevens 2) [.addMediaSample {}, .setCurrentChannel 1,
        .addMediaSample twoStreams] = .ok b ∧
      b.addMediaSample twoStreams = .ok b' ∧ b'.currentChannel = b.currentChannel ∧
      b'.getNumberOfChannels = 2 ∧
      ∀ i (hi : i < [[10, 11, 12], [20]].length), ∃ channel, b'.channels[i]? = some channel ∧
        b'.getBufferAt i = some channel.memory ∧
        channel.memory.take ([[10, 11, 12], [20]] : List (List UInt8))[i].length =
          ([[10, 11, 12], [20]] : List (List UInt8))[i] ∧
        channel.size = ([[10, 11, 12], [20]] : List (List UInt8))[i].length ∧
        ([[10, 11, 12], [20]] : List (List UInt8))[i].length ≤ channel.bufferSize.toNat := by
  have hsmall : ∀ stream ∈ ([[10, 11, 12], [20]] : List (List UInt8)), stream.length < 2 ^ 31 := by
    intro stream hstream
    rcases List.mem_pair.mp hstream with rfl | rfl
    · norm_num
    · norm_num
  refine streams_stored sevens 2 _ (fun call hcall => ?_) twoStreams 0 [[10, 11, 12], [20]] rfl
    hsmall twoStreams_multiplexes
  simp only [List.mem_cons, List.not_mem_nil, or_false] at hcall
  rcases hcall with rfl | rfl | rfl
  · exact .inl rfl
  · trivial
  · exact .inr ⟨0, _, rfl, hsmall, twoStreams_multiplexes⟩

end MultiMediaSampleBuffer

end LiveMediaExt.Media
