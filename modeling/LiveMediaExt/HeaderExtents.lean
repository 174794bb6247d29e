import LiveMediaExt.MultiSampleBuffer

/-!
# Where the payload of a multiplexed sample begins

The reader skips a FourCC if the flag says that there is one; the length of a header counts a
FourCC if its value is not zero. A flagged FourCC of zero is read and not counted.
-/
namespace LiveMediaExt.Words
variable {order : ByteOrder} {bytes : List UInt8}

theorem wordBytes_littleEndian (h : bytes.length = 4) :
    wordBytes .littleEndian (bytesWord .littleEndian bytes) = bytes := by
  obtain ⟨a, b, c, d, rfl⟩ := List.length_eq_four.mp h
  have ha := a.toNat_lt
  have hb := b.toNat_lt
  have hc := c.toNat_lt
  have hd := d.toNat_lt
  simp only [wordBytes, bytesWord, List.foldr_cons, List.foldr_nil, List.cons.injEq, and_true]
  refine ⟨?_, ?_, ?_, ?_⟩
  all_goals
    apply UInt8.toNat_inj.mp
    simp only [UInt32.toNat_add, UInt32.toNat_mul, UInt8.toNat_toUInt32, UInt32.toNat_toUInt8,
      UInt32.toNat_shiftRight, Nat.shiftRight_eq_div_pow, UInt32.toNat_ofNat, Nat.reducePow,
      Nat.reduceMod]
    omega

/-- Four bytes are the bytes of the word they stand for. -/
theorem wordBytes_bytesWord (h : bytes.length = 4) :
    wordBytes order (bytesWord order bytes) = bytes := by
  cases order with
  | littleEndian => exact wordBytes_littleEndian h
  | bigEndian =>
    have hreverse : wordBytes .littleEndian (bytesWord .littleEndian bytes.reverse) =
        bytes.reverse := wordBytes_littleEndian (by simpa using h)
    have hword : bytesWord .bigEndian bytes = bytesWord .littleEndian bytes.reverse := by
      simp [bytesWord]
    rw [hword]
    change (wordBytes .littleEndian _).reverse = bytes
    rw [hreverse, List.reverse_reverse]

end LiveMediaExt.Words

namespace LiveMediaExt.Media
open Execution Words

namespace MultiplexedMediaHeader
variable {order : ByteOrder} {pBuffer : List UInt8} {header : MultiplexedMediaHeader}

/-- The FourCC indicator of the first byte. -/
def flagged (pBuffer : List UInt8) : Bool := pBuffer.headD 0 &&& 0x20 > 0

/-- The number of streams that the first byte gives. -/
def streamCount (pBuffer : List UInt8) : ℕ := (pBuffer.headD 0 &&& 0x0F).toNat

/-- The number of bytes that `read` takes from the buffer. -/
def consumed (pBuffer : List UInt8) : ℕ :=
  1 + (if flagged pBuffer then 4 else 0) + streamCount pBuffer * 4

theorem streamCount_lt (pBuffer : List UInt8) : streamCount pBuffer < 16 := by
  unfold streamCount
  rw [UInt8.toNat_and]
  exact Nat.and_lt_two_pow _ (by decide : (0x0F : UInt8).toNat < 2 ^ 4)

theorem readWord_ok {memory : List UInt8} {pos : ℕ} {word : UInt32}
    (h : readWord order memory pos = .ok word) :
    (memory.drop pos).take 4 = wordBytes order word := by
  unfold readWord at h
  split_ifs at h with hle
  obtain rfl := Except.ok.inj h
  have hlength : ((memory.drop pos).take 4).length = 4 := by
    rw [List.length_take, List.length_drop]
    omega
  exact (wordBytes_bytesWord hlength).symm

theorem readStreamLengths_ok {pSrc count : ℕ} {lengths : List UInt32}
    (h : readStreamLengths order pBuffer pSrc count = .ok lengths) :
    lengths.length = count ∧ (pBuffer.drop pSrc).take (count * 4) = wordsBytes order lengths := by
  induction count generalizing pSrc lengths with
  | zero =>
    obtain rfl : [] = lengths := Except.ok.inj h
    simp
  | succ count ih =>
    obtain ⟨uiLen, hword, h⟩ := bind_ok.mp h
    obtain ⟨later, hlater, h⟩ := bind_ok.mp h
    obtain rfl : uiLen :: later = lengths := Except.ok.inj h
    obtain ⟨hlength, hbytes⟩ := ih hlater
    refine ⟨congrArg Nat.succ hlength, ?_⟩
    rw [wordsBytes_cons, ← hbytes, ← readWord_ok hword, ← List.drop_drop,
      show (count + 1) * 4 = 4 + count * 4 by omega, List.take_add]

theorem readByte_cons {first : UInt8} (h : readByte pBuffer 0 = .ok first) :
    ∃ tail, pBuffer = first :: tail := by
  cases pBuffer with
  | nil => cases h
  | cons b tail =>
    obtain rfl := Except.ok.inj h
    exact ⟨tail, rfl⟩

/-- What the fields of an accepted header are read from. -/
theorem read_fields {uiBufferSize : ℕ}
    (h : read order pBuffer uiBufferSize = .ok (some header)) :
    (∃ first tail, pBuffer = first :: tail) ∧
      (if flagged pBuffer then readWord order pBuffer 1 else .ok 0) = .ok header.fourCC ∧
      readStreamLengths order pBuffer (if flagged pBuffer then 1 + 4 else 1)
        (streamCount pBuffer) = .ok header.streamLengths := by
  unfold read at h
  split_ifs at h with hone
  · cases h
  · obtain ⟨first, hfirst, h⟩ := bind_ok.mp h
    obtain ⟨tail, rfl⟩ := readByte_cons hfirst
    dsimp only at h
    split_ifs at h with hver hflag hsize hsize
    · cases h
    · cases h
    · obtain ⟨fourCC, hfourCC, h⟩ := bind_ok.mp h
      obtain ⟨lengths, hlengths, h⟩ := bind_ok.mp h
      obtain rfl := Option.some.inj (Except.ok.inj h)
      have hflagged : flagged (first :: tail) = true := by simpa [flagged] using hflag
      rw [hflagged, if_pos rfl, if_pos rfl]
      exact ⟨⟨first, tail, rfl⟩, hfourCC, hlengths⟩
    · cases h
    · obtain ⟨fourCC, hfourCC, h⟩ := bind_ok.mp h
      obtain ⟨lengths, hlengths, h⟩ := bind_ok.mp h
      obtain rfl := Option.some.inj (Except.ok.inj h)
      have hflagged : flagged (first :: tail) = false := by simpa [flagged] using hflag
      rw [hflagged, if_neg (by simp), if_neg (by simp)]
      exact ⟨⟨first, tail, rfl⟩, hfourCC, hlengths⟩

/-- The bytes taken from the buffer are those of the fields. -/
theorem read_ok {uiBufferSize : ℕ}
    (h : read order pBuffer uiBufferSize = .ok (some header)) :
    header.streamLengths.length = streamCount pBuffer ∧
      pBuffer.take (consumed pBuffer) = pBuffer.headD 0 ::
        ((if flagged pBuffer then wordBytes order header.fourCC else []) ++
          wordsBytes order header.streamLengths) ∧
      (flagged pBuffer = false → header.fourCC = 0) := by
  obtain ⟨⟨first, tail, rfl⟩, hfourCC, hlengths⟩ := read_fields h
  obtain ⟨hcount, hbytes⟩ := readStreamLengths_ok hlengths
  rw [consumed]
  cases hflag : flagged (first :: tail) with
  | false =>
    rw [hflag, if_neg (by simp)] at hfourCC hbytes
    have hrest : tail.take (streamCount (first :: tail) * 4) =
        wordsBytes order header.streamLengths := hbytes
    refine ⟨hcount, ?_, fun _ => (Except.ok.inj hfourCC).symm⟩
    rw [if_neg (by simp), if_neg (by simp), ← hrest,
      show 1 + 0 + streamCount (first :: tail) * 4 = streamCount (first :: tail) * 4 + 1 by omega,
      List.take_succ_cons]
    rfl
  | true =>
    rw [hflag, if_pos rfl] at hfourCC hbytes
    have hword : tail.take 4 = wordBytes order header.fourCC := readWord_ok hfourCC
    have hrest : (tail.drop 4).take (streamCount (first :: tail) * 4) =
        wordsBytes order header.streamLengths := hbytes
    refine ⟨hcount, ?_, by simp⟩
    rw [if_pos rfl, if_pos rfl, ← hword, ← hrest,
      show 1 + 4 + streamCount (first :: tail) * 4 =
        (4 + streamCount (first :: tail) * 4) + 1 by omega, List.take_succ_cons, List.take_add]
    rfl

/-- The bytes behind the first are the FourCC's, if there is one. -/
theorem fourCC_eq_zero_iff {uiBufferSize : ℕ}
    (h : read order pBuffer uiBufferSize = .ok (some header)) (hflag : flagged pBuffer = true) :
    header.fourCC = 0 ↔ (pBuffer.drop 1).take 4 = [0, 0, 0, 0] := by
  obtain ⟨-, hbytes, -⟩ := read_ok h
  rw [hflag, if_pos rfl] at hbytes
  have hbuffer := List.take_append_drop (consumed pBuffer) pBuffer
  rw [hbytes, List.cons_append, List.append_assoc] at hbuffer
  have hfour : (pBuffer.drop 1).take 4 = wordBytes order header.fourCC := by
    rw [← hbuffer, List.drop_succ_cons, List.drop_zero, ← length_wordBytes order header.fourCC,
      List.take_left]
  have hzero : wordBytes order 0 = [0, 0, 0, 0] := by cases order <;> rfl
  rw [hfour, ← hzero]
  constructor
  · intro heq
    rw [heq]
  · intro heq
    rw [← bytesWord_wordBytes order header.fourCC, heq, bytesWord_wordBytes]

/-- The length of a header that was read is what the reader took, except for a flagged FourCC
of zero. -/
theorem getHeaderLength_consumed_iff (order : ByteOrder) (pBuffer : List UInt8)
    (uiBufferSize : ℕ) (header : MultiplexedMediaHeader)
    (h : read order pBuffer uiBufferSize = .ok (some header)) :
    header.getHeaderLength = consumed pBuffer ↔
      (flagged pBuffer = true → (pBuffer.drop 1).take 4 ≠ [0, 0, 0, 0]) := by
  obtain ⟨hcount, -, hunflagged⟩ := read_ok h
  have hlt : header.streamLengths.length < 16 := by
    rw [hcount]
    exact streamCount_lt pBuffer
  rw [getHeaderLength_eq hlt, hcount, consumed]
  cases hflag : flagged pBuffer with
  | false =>
    rw [hunflagged hflag]
    simp
  | true =>
    have hzero := fourCC_eq_zero_iff h hflag
    by_cases hfourCC : header.fourCC = 0
    · have hbytes := hzero.mp hfourCC
      simp only [hfourCC, ne_eq, not_true_eq_false, if_false, if_true, hbytes, forall_const,
        iff_false]
      omega
    · have hbytes : (pBuffer.drop 1).take 4 ≠ [0, 0, 0, 0] := fun heq => hfourCC (hzero.mpr heq)
      simp only [ne_eq, hfourCC, not_false_eq_true, if_true, forall_const, hbytes, iff_true]
      omega

/-- One stream, and a FourCC of one. -/
theorem getHeaderLength_consumed_one :
    MultiplexedMediaHeader.getHeaderLength ⟨0, 1, [2]⟩ =
      consumed [0x21, 1, 0, 0, 0, 2, 0, 0, 0, 8, 9] :=
  (getHeaderLength_consumed_iff .littleEndian [0x21, 1, 0, 0, 0, 2, 0, 0, 0, 8, 9] 11 ⟨0, 1, [2]⟩
    (by decide)).mpr (by decide)

end MultiplexedMediaHeader

/-- A sample of one stream, 8 and 9, with a flagged FourCC of zero. -/
def zeroFourCC : MediaSample where
  data := ⟨[0x21, 0, 0, 0, 0, 2, 0, 0, 0, 8, 9], by decide⟩

/-- Four bytes of the header are not counted, so the channel gets bytes of the length word. -/
theorem zeroFourCC_shifted :
    MultiplexedMediaHeader.read .littleEndian zeroFourCC.data.data 11 = .ok (some ⟨0, 0, [2]⟩) ∧
      MultiplexedMediaHeader.getHeaderLength ⟨0, 0, [2]⟩ = 5 ∧
      MultiplexedMediaHeader.consumed zeroFourCC.data.data = 9 ∧
      ((MultiMediaSampleBuffer.create MultiMediaSampleBuffer.sevens 1 2).addMediaSample
        zeroFourCC).toOption.map (fun b => b.channels.map ChannelBuffer.frameBytes) =
          some [[2, 0]] := by
  decide +kernel

end LiveMediaExt.Media
