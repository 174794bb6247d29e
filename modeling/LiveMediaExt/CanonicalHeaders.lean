import LiveMediaExt.HeaderExtents

/-!
# Headers written back

The reader accepts a reserved bit that is set and a flagged FourCC of zero, the writer produces
neither. A header that was read and is written back over its buffer keeps its fields; the bytes
are kept if the first byte was one that the writer chooses.
-/
namespace LiveMediaExt.Media
open Execution Words

namespace MultiplexedMediaHeader
variable {order : ByteOrder} {pBuffer : List UInt8} {header : MultiplexedMediaHeader}

/-- The buffer begins as the writer begins it: the reserved bit is clear, and a FourCC is only
announced if it is not zero. -/
def Canonical (pBuffer : List UInt8) : Prop :=
  pBuffer.headD 0 &&& 0x10 = 0 ∧ (flagged pBuffer = true → (pBuffer.drop 1).take 4 ≠ [0, 0, 0, 0])

instance (pBuffer : List UInt8) : Decidable (Canonical pBuffer) :=
  inferInstanceAs (Decidable (_ ∧ _))

/-- The first byte that the writer chooses for these fields. -/
def firstByte (header : MultiplexedMediaHeader) : UInt8 :=
  (if header.fourCC ≠ 0 then 0x20 else 0) ||| UInt8.ofNat (header.streamLengths.length &&& 0xF)

theorem headerBytes_cons (order : ByteOrder) (header : MultiplexedMediaHeader) :
    headerBytes order header = firstByte header ::
      ((if header.fourCC ≠ 0 then wordBytes order header.fourCC else []) ++
        wordsBytes order header.streamLengths) := rfl

/-- A byte without version bits is put together from its flag and its count, but for the
reserved bit. -/
theorem byte_fields : ∀ n < 256, UInt8.ofNat n &&& 0xC0 = 0 →
    (0x20 ||| UInt8.ofNat ((UInt8.ofNat n &&& 0x0F).toNat &&& 0xF) = UInt8.ofNat n ↔
      UInt8.ofNat n &&& 0x10 = 0 ∧ UInt8.ofNat n &&& 0x20 > 0) ∧
    (0 ||| UInt8.ofNat ((UInt8.ofNat n &&& 0x0F).toNat &&& 0xF) = UInt8.ofNat n ↔
      UInt8.ofNat n &&& 0x10 = 0 ∧ ¬ UInt8.ofNat n &&& 0x20 > 0) := by
  decide +kernel

theorem read_version {uiBufferSize : ℕ}
    (h : read order pBuffer uiBufferSize = .ok (some header)) :
    pBuffer.headD 0 &&& 0xC0 = 0 ∧ header.version = 0 := by
  unfold read at h
  split_ifs at h with hone
  · cases h
  · obtain ⟨first, hfirst, h⟩ := bind_ok.mp h
    obtain ⟨tail, rfl⟩ := readByte_cons hfirst
    dsimp only at h
    split_ifs at h with hver hflag hsize hsize
    · cases h
    · cases h
    · obtain ⟨fourCC, -, h⟩ := bind_ok.mp h
      obtain ⟨lengths, -, h⟩ := bind_ok.mp h
      obtain rfl := Option.some.inj (Except.ok.inj h)
      have hver : first &&& 0xC0 = 0 := not_not.mp hver
      refine ⟨hver, ?_⟩
      dsimp only
      rw [hver]
      rfl
    · cases h
    · obtain ⟨fourCC, -, h⟩ := bind_ok.mp h
      obtain ⟨lengths, -, h⟩ := bind_ok.mp h
      obtain rfl := Option.some.inj (Except.ok.inj h)
      have hver : first &&& 0xC0 = 0 := not_not.mp hver
      refine ⟨hver, ?_⟩
      dsimp only
      rw [hver]
      rfl

section Accepted
variable (h : read order pBuffer pBuffer.length = .ok (some header))
include h

theorem accepted_count : header.streamLengths.length < 16 := by
  rw [(read_ok h).1]
  exact streamCount_lt pBuffer

theorem consumed_le : consumed pBuffer ≤ pBuffer.length := by
  obtain ⟨hcount, hbytes, -⟩ := read_ok h
  have hlength := congrArg List.length hbytes
  rw [List.length_take, List.length_cons, List.length_append, length_wordsBytes, hcount] at hlength
  have hflag : (if flagged pBuffer then wordBytes order header.fourCC else []).length =
      if flagged pBuffer then 4 else 0 := by
    split_ifs
    · exact length_wordBytes order header.fourCC
    · rfl
  rw [hflag] at hlength
  have hconsumed : consumed pBuffer =
      1 + (if flagged pBuffer then 4 else 0) + streamCount pBuffer * 4 := rfl
  omega

/-- The header needs no more room than it was read from. -/
theorem header_fits : header.getHeaderLength ≤ pBuffer.length := by
  have hle := consumed_le h
  obtain ⟨hcount, -, hunflagged⟩ := read_ok h
  rw [getHeaderLength_eq (accepted_count h), hcount]
  rw [consumed] at hle
  cases hflag : flagged pBuffer with
  | false =>
    rw [hflag, if_neg (by simp)] at hle
    rw [if_neg (not_not.mpr (hunflagged hflag))]
    omega
  | true =>
    rw [hflag, if_pos rfl] at hle
    split_ifs
    · omega
    · omega

/-- The writer chooses the first byte that was read, if it is one of its own. -/
theorem firstByte_eq_iff : firstByte header = pBuffer.headD 0 ↔ Canonical pBuffer := by
  obtain ⟨hcount, -, hunflagged⟩ := read_ok h
  obtain ⟨hver, -⟩ := read_version h
  have hbyte := byte_fields (pBuffer.headD 0).toNat (UInt8.toNat_lt _)
  rw [UInt8.ofNat_toNat] at hbyte
  obtain ⟨hset, hclear⟩ := hbyte hver
  rw [firstByte, hcount, Canonical]
  change (_ ||| UInt8.ofNat ((pBuffer.headD 0 &&& 0x0F).toNat &&& 0xF)) = _ ↔ _
  cases hflag : flagged pBuffer with
  | false =>
    have hbit : ¬ pBuffer.headD 0 &&& 0x20 > 0 := of_decide_eq_false hflag
    rw [if_neg (not_not.mpr (hunflagged hflag)), hclear]
    simp only [hbit, not_false_eq_true, and_true, Bool.false_eq_true, false_implies]
  | true =>
    have hbit : pBuffer.headD 0 &&& 0x20 > 0 := of_decide_eq_true hflag
    have hzero := fourCC_eq_zero_iff h hflag
    by_cases hfourCC : header.fourCC = 0
    · rw [if_neg (not_not.mpr hfourCC), hclear]
      simp only [hbit, hzero.mp hfourCC, not_true_eq_false, and_false, ne_eq, forall_const]
    · have hbytes : (pBuffer.drop 1).take 4 ≠ [0, 0, 0, 0] := fun heq => hfourCC (hzero.mpr heq)
      rw [if_pos hfourCC, hset]
      simp only [hbit, hbytes, ne_eq, not_false_eq_true, and_true, implies_true]

/-- The bytes of a canonical header are those that were read. -/
theorem headerBytes_eq_take (hcanonical : Canonical pBuffer) :
    headerBytes order header = pBuffer.take (consumed pBuffer) := by
  obtain ⟨-, hbytes, hunflagged⟩ := read_ok h
  rw [headerBytes_cons, (firstByte_eq_iff h).mpr hcanonical, hbytes]
  cases hflag : flagged pBuffer with
  | false => rw [if_neg (not_not.mpr (hunflagged hflag)), if_neg (by simp)]
  | true =>
    have hfourCC : header.fourCC ≠ 0 := fun hzero =>
      hcanonical.2 hflag ((fourCC_eq_zero_iff h hflag).mp hzero)
    rw [if_pos hfourCC, if_pos rfl]

theorem rewritten_eq_iff :
    headerBytes order header ++ pBuffer.drop header.getHeaderLength = pBuffer ↔
      Canonical pBuffer := by
  constructor
  · intro heq
    rw [← firstByte_eq_iff h]
    have hhead := congrArg (fun bytes => bytes.headD 0) heq
    rwa [headerBytes_cons] at hhead
  · intro hcanonical
    have hbytes := headerBytes_eq_take h hcanonical
    have hlength := congrArg List.length hbytes
    rw [length_headerBytes (accepted_count h), List.length_take,
      min_eq_left (consumed_le h)] at hlength
    rw [hbytes, hlength, List.take_append_drop]

end Accepted

/-- A header that was read and is written back over its buffer leaves the rest of the buffer as
it was and is read again as before; from then on it is written back as it stands, and at once if
the buffer is canonical. -/
theorem written_back_iff (order : ByteOrder) (pBuffer : List UInt8)
    (header : MultiplexedMediaHeader)
    (h : read order pBuffer pBuffer.length = .ok (some header)) :
    ∃ pData, writeHeader order header pBuffer pBuffer.length = .ok (true, pData) ∧
      pData.length = pBuffer.length ∧
      pData.drop header.getHeaderLength = pBuffer.drop header.getHeaderLength ∧
      read order pData pData.length = .ok (some header) ∧
      writeHeader order header pData pData.length = .ok (true, pData) ∧
      (pData = pBuffer ↔ Canonical pBuffer) := by
  have hcount := accepted_count h
  have hroom := header_fits h
  have hbytes : (headerBytes order header).length = header.getHeaderLength :=
    length_headerBytes hcount
  obtain ⟨-, hversion⟩ := read_version h
  have hlength : (headerBytes order header ++ pBuffer.drop header.getHeaderLength).length =
      pBuffer.length := by
    rw [List.length_append, List.length_drop, hbytes]
    omega
  have hdrop : (headerBytes order header ++ pBuffer.drop header.getHeaderLength).drop
      header.getHeaderLength = pBuffer.drop header.getHeaderLength := by
    rw [← hbytes]
    exact List.drop_left
  refine ⟨_, writeHeader_complete hcount hroom hroom, hlength, hdrop, ?_, ?_,
    rewritten_eq_iff h⟩
  · rw [hlength]
    exact read_headerBytes hversion hcount hroom _
  · rw [hlength, writeHeader_complete hcount hroom (by rw [hlength]; exact hroom), hdrop]

/-- One stream with the reserved bit set. -/
theorem written_back_reserved : ∃ pData,
    writeHeader .littleEndian ⟨0, 0, [2]⟩ [0x11, 2, 0, 0, 0, 8, 9] 7 = .ok (true, pData) ∧
      pData.length = 7 ∧
      pData.drop (getHeaderLength ⟨0, 0, [2]⟩) =
        [0x11, 2, 0, 0, 0, 8, 9].drop (getHeaderLength ⟨0, 0, [2]⟩) ∧
      read .littleEndian pData pData.length = .ok (some ⟨0, 0, [2]⟩) ∧
      writeHeader .littleEndian ⟨0, 0, [2]⟩ pData pData.length = .ok (true, pData) ∧
      (pData = [0x11, 2, 0, 0, 0, 8, 9] ↔ Canonical [0x11, 2, 0, 0, 0, 8, 9]) :=
  written_back_iff .littleEndian [0x11, 2, 0, 0, 0, 8, 9] ⟨0, 0, [2]⟩ (by decide)

end MultiplexedMediaHeader

end LiveMediaExt.Media
