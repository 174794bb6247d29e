import Mathlib

/-!
# Media samples, 32-bit sizes and checked memory reads

A block of memory is the list of bytes from a pointer to the end of its allocation. Reads
past that end are faults, so a function that returns has read only memory it may read.
-/
namespace LiveMediaExt.Media

/-- How a call can go wrong: undefined memory accesses, the assertions of the source and a
loop that does not end. -/
inductive Fault
  | outOfBounds
  | nullPointer
  | emptyQueue
  | channelMissing
  | alreadyRegistered
  | tooManyStreams
  | bufferTooSmall
  | samplesLeft
  | notInitialised
  | endlessLoop
  deriving DecidableEq, Repr

/-- The value a 32-bit unsigned variable keeps. -/
def uint32 (n : ℕ) : ℕ := n % 2 ^ 32

/-- The value the cast to `int` gives a 32-bit unsigned number. -/
def int32 (n : ℕ) : ℤ := (n : ℤ).bmod (2 ^ 32)

theorem uint32_lt (n : ℕ) : uint32 n < 2 ^ 32 := Nat.mod_lt _ (by norm_num)

theorem uint32_of_lt {n : ℕ} (h : n < 2 ^ 32) : uint32 n = n := Nat.mod_eq_of_lt h

/-- The cast keeps sizes below 2 GiB. -/
theorem int32_of_lt {n : ℕ} (h : n < 2 ^ 31) : int32 n = n := by
  unfold int32
  exact Int.bmod_eq_of_le (by omega) (by omega)

theorem int32_le (n : ℕ) : int32 n ≤ n := by
  unfold int32 Int.bmod
  dsimp only
  split_ifs <;> omega

/-- The owned bytes of a sample; their number fits the 32-bit size they were set with. -/
structure Buffer where
  data : List UInt8
  length_lt : data.length < 2 ^ 32
  deriving DecidableEq

def Buffer.getSize (b : Buffer) : ℕ := b.data.length

def Buffer.empty : Buffer := ⟨[], by norm_num⟩

/-- The ids are `none` where the constructor leaves them unset. -/
structure MediaSample where
  presentationTime : ℚ := 0
  data : Buffer := .empty
  channelId : Option ℕ := none
  sourceId : Option ℕ := none
  deriving DecidableEq

def MediaSample.getMediaSize (s : MediaSample) : ℕ := s.data.getSize

theorem MediaSample.getMediaSize_lt (s : MediaSample) : s.getMediaSize < 2 ^ 32 :=
  s.data.length_lt

/-- What a receiver of the sample can tell: its bytes and its presentation time. -/
def MediaSample.content (s : MediaSample) : List UInt8 × ℚ := (s.data.data, s.presentationTime)

def readByte (memory : List UInt8) (i : ℕ) : Except Fault UInt8 :=
  match memory[i]? with
  | some b => .ok b
  | none => .error .outOfBounds

/-- `memcmp(pattern, memory + i, sizeof pattern) == 0`. -/
def memcmp (pattern memory : List UInt8) (i : ℕ) : Except Fault Bool :=
  if i + pattern.length ≤ memory.length then
    .ok ((memory.drop i).take pattern.length == pattern)
  else .error .outOfBounds

/-- `new uint8_t[size]` filled by `memcpy` from `memory + pos`; the size is unsigned. -/
def copyBytes (memory : List UInt8) (pos size : ℕ) : Except Fault Buffer :=
  if pos + uint32 size ≤ memory.length then
    .ok ⟨(memory.drop pos).take (uint32 size),
      (List.length_take_le _ _).trans_lt (uint32_lt size)⟩
  else .error .outOfBounds

theorem readByte_error {memory : List UInt8} {i : ℕ} {f : Fault}
    (h : readByte memory i = .error f) : f = .outOfBounds := by
  unfold readByte at h
  split at h
  · cases h
  · exact (Except.error.inj h).symm

theorem memcmp_error {pattern memory : List UInt8} {i : ℕ} {f : Fault}
    (h : memcmp pattern memory i = .error f) : f = .outOfBounds := by
  unfold memcmp at h
  split_ifs at h with hle
  exact (Except.error.inj h).symm

theorem copyBytes_error {memory : List UInt8} {pos size : ℕ} {f : Fault}
    (h : copyBytes memory pos size = .error f) : f = .outOfBounds := by
  unfold copyBytes at h
  split_ifs at h with hle
  exact (Except.error.inj h).symm

theorem take_drop_infix {memory : List UInt8} {pos size limit : ℕ} (h : pos + size ≤ limit) :
    (memory.drop pos).take size <:+: memory.take limit := by
  rw [List.take_drop]
  exact (List.drop_suffix _ _).isInfix.trans (List.take_prefix_take_left h).isInfix

theorem copyBytes_data {memory : List UInt8} {pos size : ℕ} {data : Buffer}
    (h : copyBytes memory pos size = .ok data) :
    pos + uint32 size ≤ memory.length ∧ data.data = (memory.drop pos).take (uint32 size) := by
  unfold copyBytes at h
  split_ifs at h with hle
  cases h
  exact ⟨hle, rfl⟩

/-- Copying the bytes at the start of a block gives exactly those bytes. -/
theorem copyBytes_append (b : Buffer) (rest : List UInt8) :
    copyBytes (b.data ++ rest) 0 b.getSize = .ok b := by
  have hsize : uint32 b.getSize = b.data.length := uint32_of_lt b.length_lt
  simp [copyBytes, hsize]

end LiveMediaExt.Media
