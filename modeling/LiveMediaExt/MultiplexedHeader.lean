import LiveMediaExt.ByteOrder
import LiveMediaExt.Execution
import LiveMediaExt.MediaSample

/-!
# The in-band header of a multiplexed sample

One byte with the version, the FourCC flag and the number of streams is followed by the FourCC,
if it is not zero, and by the lengths of the streams, as words in the byte order of the machine.
-/
namespace LiveMediaExt.Media
open Execution Words

structure MultiplexedMediaHeader where
  version : UInt32
  fourCC : UInt32 := 0
  streamLengths : List UInt32 := []
  deriving DecidableEq, Repr

/-- `memcpy` of a 32-bit variable from `memory + pos`. -/
def readWord (order : ByteOrder) (memory : List UInt8) (pos : ℕ) : Except Fault UInt32 :=
  if pos + 4 ≤ memory.length then .ok (bytesWord order ((memory.drop pos).take 4))
  else .error .outOfBounds

/-- `memcpy` of the bytes to `memory + pos`. -/
def writeBytes (memory : List UInt8) (pos : ℕ) (bytes : List UInt8) :
    Except Fault (List UInt8) :=
  if pos + bytes.length ≤ memory.length then
    .ok (memory.take pos ++ bytes ++ memory.drop (pos + bytes.length))
  else .error .outOfBounds

namespace MultiplexedMediaHeader
variable (order : ByteOrder)

def getStreamCount (header : MultiplexedMediaHeader) : ℕ := uint32 header.streamLengths.length

def getHeaderLength (header : MultiplexedMediaHeader) : ℕ :=
  uint32 (1 + header.streamLengths.length * 4 + if header.fourCC ≠ 0 then 4 else 0)

/-- The loop that reads the lengths. -/
def readStreamLengths (pBuffer : List UInt8) (pSrc : ℕ) : ℕ → Except Fault (List UInt32)
  | 0 => .ok []
  | count + 1 => do
    let uiLen ← readWord order pBuffer pSrc
    let lengths ← readStreamLengths pBuffer (pSrc + 4) count
    return uiLen :: lengths

def read (pBuffer : List UInt8) (uiBufferSize : ℕ) :
    Except Fault (Option MultiplexedMediaHeader) :=
  if uiBufferSize < 1 then .ok none
  else do
    let first ← readByte pBuffer 0
    let uiVersion := first &&& 0xC0
    if uiVersion ≠ 0 then return none
    else
      let bFourCC := first &&& 0x20 > 0
      let uiStreamCount := (first &&& 0x0F).toNat
      if uiBufferSize < 1 + uiStreamCount * 4 + (if bFourCC then 4 else 0) then return none
      else
        let fourCC ← if bFourCC then readWord order pBuffer 1 else .ok 0
        let pSrc := if bFourCC then 1 + 4 else 1
        let streamLengths ← readStreamLengths order pBuffer pSrc uiStreamCount
        return some { version := uiVersion.toUInt32, fourCC, streamLengths }

/-- The loop that writes the lengths. -/
def writeStreamLengths (pData : List UInt8) (pDest : ℕ) :
    List UInt32 → Except Fault (List UInt8)
  | [] => .ok pData
  | uiLen :: lengths => do
    let pData ← writeBytes pData pDest (wordBytes order uiLen)
    writeStreamLengths pData (pDest + 4) lengths

/-- The success flag and the memory after the call. -/
def writeHeader (header : MultiplexedMediaHeader) (pData : List UInt8) (uiSize : ℕ) :
    Except Fault (Bool × List UInt8) :=
  if uiSize < 1 + header.streamLengths.length * 4 + (if header.fourCC ≠ 0 then 4 else 0) then
    .ok (false, pData)
  else do
    let flags : UInt8 := if header.fourCC ≠ 0 then 0 ||| 0x20 else 0
    let pData ← writeBytes pData 0 [flags]
    if header.streamLengths.length < 16 then
      let pData ← writeBytes pData 0
        [flags ||| UInt8.ofNat (header.streamLengths.length &&& 0xF)]
      let pData ← if header.fourCC ≠ 0 then writeBytes pData 1 (wordBytes order header.fourCC)
        else .ok pData
      let pDest := if header.fourCC ≠ 0 then 1 + 4 else 1
      let pData ← writeStreamLengths order pData pDest header.streamLengths
      return (true, pData)
    else .error .tooManyStreams

/-- The bytes that stand for the header. -/
def headerBytes (header : MultiplexedMediaHeader) : List UInt8 :=
  [(if header.fourCC ≠ 0 then 0x20 else 0) |||
    UInt8.ofNat (header.streamLengths.length &&& 0xF)] ++
  (if header.fourCC ≠ 0 then wordBytes order header.fourCC else []) ++
  wordsBytes order header.streamLengths

end MultiplexedMediaHeader

section Memory
variable {order : ByteOrder} {memory rest done old bytes : List UInt8} {pos : ℕ} {word : UInt32}

theorem readWord_complete (h : memory.drop pos = wordBytes order word ++ rest) :
    readWord order memory pos = .ok word := by
  have hlen := congrArg List.length h
  rw [List.length_drop, List.length_append, length_wordBytes] at hlen
  have hle : pos + 4 ≤ memory.length := by omega
  have htake : (wordBytes order word ++ rest).take 4 = wordBytes order word := by
    rw [← length_wordBytes order word]
    exact List.take_left
  unfold readWord
  rw [if_pos hle, h, htake, bytesWord_wordBytes]

theorem readWord_inside (hle : pos + 4 ≤ memory.length) :
    ∃ word, readWord order memory pos = .ok word := ⟨_, if_pos hle⟩

/-- A write behind what was written so far. -/
theorem writeBytes_complete (hle : bytes.length ≤ old.length) :
    writeBytes (done ++ old) done.length bytes =
      .ok ((done ++ bytes) ++ old.drop bytes.length) := by
  have hroom : done.length + bytes.length ≤ (done ++ old).length := by
    rw [List.length_append]
    omega
  unfold writeBytes
  rw [if_pos hroom, List.take_left, ← List.drop_drop, List.drop_left]

end Memory

namespace MultiplexedMediaHeader
variable {order : ByteOrder} {header : MultiplexedMediaHeader}

theorem readStreamLengths_complete {pBuffer rest : List UInt8} {lengths : List UInt32}
    {pSrc : ℕ} (h : pBuffer.drop pSrc = wordsBytes order lengths ++ rest) :
    readStreamLengths order pBuffer pSrc lengths.length = .ok lengths := by
  induction lengths generalizing pSrc with
  | nil => rfl
  | cons uiLen lengths ih =>
    rw [wordsBytes_cons, List.append_assoc] at h
    have hword := readWord_complete h
    have hnext : pBuffer.drop (pSrc + 4) = wordsBytes order lengths ++ rest := by
      rw [← List.drop_drop, h, ← length_wordBytes order uiLen]
      exact List.drop_left
    simp only [List.length_cons, readStreamLengths, hword, ih hnext, bind, Except.bind, pure,
      Except.pure]

theorem readStreamLengths_inside {pBuffer : List UInt8} {pSrc count : ℕ}
    (hle : pSrc + count * 4 ≤ pBuffer.length) :
    ∃ lengths, readStreamLengths order pBuffer pSrc count = .ok lengths := by
  induction count generalizing pSrc with
  | zero => exact ⟨[], rfl⟩
  | succ count ih =>
    obtain ⟨uiLen, hword⟩ : ∃ uiLen, readWord order pBuffer pSrc = .ok uiLen :=
      readWord_inside (by omega)
    obtain ⟨lengths, hlengths⟩ := ih (show pSrc + 4 + count * 4 ≤ pBuffer.length by omega)
    refine ⟨uiLen :: lengths, ?_⟩
    simp only [readStreamLengths, hword, hlengths, bind, Except.bind, pure, Except.pure]

/-- The size checks keep the reader inside a sample. -/
theorem read_inside (pBuffer : List UInt8) :
    ∃ header, read order pBuffer pBuffer.length = .ok header := by
  unfold read
  by_cases hone : pBuffer.length < 1
  · exact ⟨none, if_pos hone⟩
  · obtain ⟨first, hfirst⟩ : ∃ first, readByte pBuffer 0 = .ok first := by
      unfold readByte
      rw [List.getElem?_eq_getElem (by omega)]
      exact ⟨_, rfl⟩
    simp only [if_neg hone, hfirst, bind, Except.bind]
    by_cases hver : first &&& 0xC0 ≠ 0
    · exact ⟨none, if_pos hver⟩
    · rw [if_neg hver]
      by_cases hflag : first &&& 0x20 > 0
      · simp only [if_pos hflag]
        split_ifs with hsize
        · exact ⟨none, rfl⟩
        · obtain ⟨fourCC, hword⟩ : ∃ fourCC, readWord order pBuffer 1 = .ok fourCC :=
            readWord_inside (by omega)
          obtain ⟨lengths, hlengths⟩ : ∃ lengths, readStreamLengths order pBuffer (1 + 4)
              (first &&& 0x0F).toNat = .ok lengths :=
            readStreamLengths_inside (by omega)
          simp only [hword, hlengths]
          exact ⟨_, rfl⟩
      · simp only [if_neg hflag]
        split_ifs with hsize
        · exact ⟨none, rfl⟩
        · obtain ⟨lengths, hlengths⟩ : ∃ lengths, readStreamLengths order pBuffer 1
              (first &&& 0x0F).toNat = .ok lengths :=
            readStreamLengths_inside (by omega)
          simp only [hlengths]
          exact ⟨_, rfl⟩

theorem writeStreamLengths_complete {done old : List UInt8} {pDest : ℕ}
    {lengths : List UInt32} (hpos : done.length = pDest)
    (hle : 4 * lengths.length ≤ old.length) :
    writeStreamLengths order (done ++ old) pDest lengths =
      .ok (done ++ wordsBytes order lengths ++ old.drop (4 * lengths.length)) := by
  induction lengths generalizing done old pDest with
  | nil => simp [writeStreamLengths]
  | cons uiLen lengths ih =>
    have hfour : (wordBytes order uiLen).length = 4 := length_wordBytes order uiLen
    rw [List.length_cons] at hle
    have hwrite : writeBytes (done ++ old) done.length (wordBytes order uiLen) =
        .ok ((done ++ wordBytes order uiLen) ++ old.drop (wordBytes order uiLen).length) :=
      writeBytes_complete (by omega)
    have hpos' : (done ++ wordBytes order uiLen).length = pDest + 4 := by
      rw [List.length_append, hfour, hpos]
    have hrest : 4 * lengths.length ≤ (old.drop (wordBytes order uiLen).length).length := by
      rw [List.length_drop]
      omega
    rw [writeStreamLengths, ← hpos, hwrite, hpos]
    simp only [bind, Except.bind]
    rw [ih hpos' hrest, wordsBytes_cons, List.append_assoc done, List.drop_drop, hfour,
      List.length_cons]
    rw [show 4 + 4 * lengths.length = 4 * (lengths.length + 1) by omega]

theorem getHeaderLength_eq (hcount : header.streamLengths.length < 16) :
    header.getHeaderLength =
      1 + header.streamLengths.length * 4 + if header.fourCC ≠ 0 then 4 else 0 := by
  refine uint32_of_lt ?_
  split_ifs
  · omega
  · omega

theorem length_headerBytes (hcount : header.streamLengths.length < 16) :
    (headerBytes order header).length = header.getHeaderLength := by
  rw [getHeaderLength_eq hcount]
  unfold headerBytes
  split_ifs
  · simp
    omega
  · simp
    omega

/-- The fields of the first byte do not overlap. -/
theorem firstByte_fields : ∀ count < 16, ∀ flags ∈ [(0x20 : UInt8), 0],
    (flags ||| UInt8.ofNat (count &&& 0xF)) &&& 0xC0 = 0 ∧
      (flags ||| UInt8.ofNat (count &&& 0xF)) &&& 0x20 = flags ∧
      ((flags ||| UInt8.ofNat (count &&& 0xF)) &&& 0x0F).toNat = count := by
  decide +kernel

section Fields
variable {fourCC : UInt32} {lengths : List UInt32}

theorem read_withoutFourCC {uiBufferSize : ℕ} (hcount : lengths.length < 16)
    (hsize : 1 + lengths.length * 4 ≤ uiBufferSize) (rest : List UInt8) :
    read order (headerBytes order ⟨0, 0, lengths⟩ ++ rest) uiBufferSize =
      .ok (some ⟨0, 0, lengths⟩) := by
  obtain ⟨hver, hflag, hstreams⟩ := firstByte_fields _ hcount 0 (by simp)
  have hread : readByte (headerBytes order ⟨0, 0, lengths⟩ ++ rest) 0 =
    .ok (0 ||| UInt8.ofNat (lengths.length &&& 0xF)) := rfl
  have hlengths : readStreamLengths order (headerBytes order ⟨0, 0, lengths⟩ ++ rest) 1
      lengths.length = .ok lengths := readStreamLengths_complete rfl
  have hunflagged : ¬ (0 : UInt8) > 0 := by decide
  have hone : ¬ uiBufferSize < 1 := by omega
  have hsize' : ¬ uiBufferSize < 1 + lengths.length * 4 + 0 := by omega
  simp only [read, if_neg hone, hread, bind, Except.bind, hver, hflag, hstreams,
    if_neg hunflagged, if_neg hsize', hlengths, ne_eq, not_true_eq_false, if_false]
  rfl

theorem read_withFourCC {uiBufferSize : ℕ} (hfourCC : fourCC ≠ 0) (hcount : lengths.length < 16)
    (hsize : 1 + lengths.length * 4 + 4 ≤ uiBufferSize) (rest : List UInt8) :
    read order (headerBytes order ⟨0, fourCC, lengths⟩ ++ rest) uiBufferSize =
      .ok (some ⟨0, fourCC, lengths⟩) := by
  obtain ⟨hver, hflag, hstreams⟩ := firstByte_fields _ hcount 0x20 (by simp)
  have hbytes : headerBytes order ⟨0, fourCC, lengths⟩ =
      (0x20 ||| UInt8.ofNat (lengths.length &&& 0xF)) ::
        (wordBytes order fourCC ++ wordsBytes order lengths) := by
    simp [headerBytes, hfourCC]
  have hread : readByte (headerBytes order ⟨0, fourCC, lengths⟩ ++ rest) 0 =
      .ok (0x20 ||| UInt8.ofNat (lengths.length &&& 0xF)) := by
    rw [hbytes]
    rfl
  have hdrop : (headerBytes order ⟨0, fourCC, lengths⟩ ++ rest).drop 1 =
      wordBytes order fourCC ++ (wordsBytes order lengths ++ rest) := by
    rw [hbytes, ← List.append_assoc]
    rfl
  have hword := readWord_complete hdrop
  have hdrop' : (headerBytes order ⟨0, fourCC, lengths⟩ ++ rest).drop (1 + 4) =
      wordsBytes order lengths ++ rest := by
    rw [← List.drop_drop, hdrop, ← length_wordBytes order fourCC]
    exact List.drop_left
  have hlengths := readStreamLengths_complete hdrop'
  have hflagged : (0x20 : UInt8) > 0 := by decide
  have hone : ¬ uiBufferSize < 1 := by omega
  have hsize' : ¬ uiBufferSize < 1 + lengths.length * 4 + 4 := by omega
  simp only [read, if_neg hone, hread, bind, Except.bind, hver, hflag, hstreams,
    if_pos hflagged, if_neg hsize', hword, hlengths, ne_eq, not_true_eq_false, if_false]
  rfl

/-- A header is read back from its bytes, whatever follows them. -/
theorem read_headerBytes {uiBufferSize : ℕ} (hversion : header.version = 0)
    (hcount : header.streamLengths.length < 16) (hsize : header.getHeaderLength ≤ uiBufferSize)
    (rest : List UInt8) :
    read order (headerBytes order header ++ rest) uiBufferSize = .ok (some header) := by
  rw [getHeaderLength_eq hcount] at hsize
  obtain ⟨version, fourCC, lengths⟩ := header
  obtain rfl : version = 0 := hversion
  dsimp only at hsize
  by_cases hfourCC : fourCC = 0
  · subst hfourCC
    rw [if_neg (by simp)] at hsize
    exact read_withoutFourCC hcount hsize rest
  · rw [if_pos hfourCC] at hsize
    exact read_withFourCC hfourCC hcount hsize rest

/-- The first byte is written twice, first the flags and then with the number of streams. -/
theorem writeBytes_first (b flags : UInt8) (pData : List UInt8) :
    writeBytes (b :: pData) 0 [flags] = .ok (flags :: pData) := rfl

theorem writeHeader_withoutFourCC {version : UInt32} {b : UInt8} {pData : List UInt8} {uiSize : ℕ}
    (hcount : lengths.length < 16) (hsize : 1 + lengths.length * 4 ≤ uiSize)
    (hroom : lengths.length * 4 ≤ pData.length) :
    writeHeader order ⟨version, 0, lengths⟩ (b :: pData) uiSize =
      .ok (true, headerBytes order ⟨version, 0, lengths⟩ ++
        (b :: pData).drop (1 + lengths.length * 4)) := by
  have hlengths : writeStreamLengths order
      ([0 ||| UInt8.ofNat (lengths.length &&& 0xF)] ++ pData) 1 lengths =
        .ok ([0 ||| UInt8.ofNat (lengths.length &&& 0xF)] ++ wordsBytes order lengths ++
          pData.drop (4 * lengths.length)) :=
    writeStreamLengths_complete rfl (by omega)
  have hrest : (b :: pData).drop (1 + lengths.length * 4) = pData.drop (4 * lengths.length) := by
    rw [show 1 + lengths.length * 4 = 4 * lengths.length + 1 by omega]
    rfl
  have hsize' : ¬ uiSize < 1 + lengths.length * 4 + 0 := by omega
  rw [List.singleton_append] at hlengths
  simp only [writeHeader, ne_eq, not_true_eq_false, if_false, if_neg hsize', writeBytes_first, bind,
    Except.bind, if_pos hcount, hlengths, hrest]
  rfl

theorem writeHeader_withFourCC {version : UInt32} {b : UInt8} {pData : List UInt8} {uiSize : ℕ}
    (hfourCC : fourCC ≠ 0) (hcount : lengths.length < 16)
    (hsize : 1 + lengths.length * 4 + 4 ≤ uiSize)
    (hroom : lengths.length * 4 + 4 ≤ pData.length) :
    writeHeader order ⟨version, fourCC, lengths⟩ (b :: pData) uiSize =
      .ok (true, headerBytes order ⟨version, fourCC, lengths⟩ ++
        (b :: pData).drop (1 + lengths.length * 4 + 4)) := by
  have hword : writeBytes
      ([0x20 ||| UInt8.ofNat (lengths.length &&& 0xF)] ++ pData) 1 (wordBytes order fourCC) =
        .ok (([0x20 ||| UInt8.ofNat (lengths.length &&& 0xF)] ++ wordBytes order fourCC) ++
          pData.drop (wordBytes order fourCC).length) := by
    refine writeBytes_complete ?_
    rw [length_wordBytes]
    omega
  have hlengths : writeStreamLengths order
      (([0x20 ||| UInt8.ofNat (lengths.length &&& 0xF)] ++ wordBytes order fourCC) ++
        pData.drop 4) (1 + 4) lengths =
        .ok (([0x20 ||| UInt8.ofNat (lengths.length &&& 0xF)] ++ wordBytes order fourCC) ++
          wordsBytes order lengths ++ (pData.drop 4).drop (4 * lengths.length)) := by
    apply writeStreamLengths_complete
    · rw [List.length_append, length_wordBytes]
      rfl
    · rw [List.length_drop]
      omega
  have hrest : (b :: pData).drop (1 + lengths.length * 4 + 4) =
      (pData.drop 4).drop (4 * lengths.length) := by
    rw [show 1 + lengths.length * 4 + 4 = 4 + 4 * lengths.length + 1 by omega,
      List.drop_succ_cons, List.drop_drop]
  have hflags : (0 : UInt8) ||| 0x20 = 0x20 := by decide
  have hsize' : ¬ uiSize < 1 + lengths.length * 4 + 4 := by omega
  rw [length_wordBytes, List.singleton_append] at hword
  simp only [writeHeader, ne_eq, hfourCC, not_false_eq_true, if_true, if_neg hsize',
    writeBytes_first, bind, Except.bind, if_pos hcount, hflags, hword, hlengths, hrest, headerBytes]
  rfl

end Fields

/-- With enough room the header is written to the front of the memory. -/
theorem writeHeader_complete {pData : List UInt8} {uiSize : ℕ}
    (hcount : header.streamLengths.length < 16) (hsize : header.getHeaderLength ≤ uiSize)
    (hroom : header.getHeaderLength ≤ pData.length) :
    writeHeader order header pData uiSize =
      .ok (true, headerBytes order header ++ pData.drop header.getHeaderLength) := by
  rw [getHeaderLength_eq hcount] at hsize hroom ⊢
  obtain ⟨version, fourCC, lengths⟩ := header
  dsimp only at hsize hroom ⊢
  cases pData with
  | nil => simp at hroom
  | cons b pData =>
    rw [List.length_cons] at hroom
    by_cases hfourCC : fourCC = 0
    · subst hfourCC
      rw [if_neg (by simp)] at hsize hroom ⊢
      exact writeHeader_withoutFourCC hcount hsize (by omega)
    · rw [if_pos hfourCC] at hsize hroom ⊢
      exact writeHeader_withFourCC hfourCC hcount hsize (by omega)

/-- A call that reports success has not failed the assertion. -/
theorem writeHeader_count {pData written : List UInt8} {uiSize : ℕ}
    (h : writeHeader order header pData uiSize = .ok (true, written)) :
    header.streamLengths.length < 16 := by
  by_contra hcount
  unfold writeHeader at h
  by_cases hsize : uiSize < 1 + header.streamLengths.length * 4 +
      if header.fourCC ≠ 0 then 4 else 0
  · rw [if_pos hsize] at h
    cases h
  · rw [if_neg hsize] at h
    obtain ⟨cleared, -, h⟩ := bind_ok.mp h
    rw [if_neg hcount] at h
    cases h

/-- The header as a stranger to the code sees it: the call succeeds just with enough room,
touches nothing behind the header, and what it wrote reads back as the header. -/
theorem writeHeader_read (hversion : header.version = 0)
    (hcount : header.streamLengths.length < 16) (pData : List UInt8) :
    ∃ written pData',
      writeHeader order header pData pData.length = .ok (written, pData') ∧
      (written = true ↔ header.getHeaderLength ≤ pData.length) ∧
      (written = false → pData' = pData) ∧
      (written = true → pData'.length = pData.length ∧
        pData'.drop header.getHeaderLength = pData.drop header.getHeaderLength ∧
        ∀ rest uiBufferSize, header.getHeaderLength ≤ uiBufferSize →
          read order (pData'.take header.getHeaderLength ++ rest) uiBufferSize =
            .ok (some header)) := by
  have hlen : (headerBytes order header).length = header.getHeaderLength :=
    length_headerBytes hcount
  by_cases hroom : header.getHeaderLength ≤ pData.length
  · refine ⟨true, _, writeHeader_complete hcount hroom hroom, by simpa using hroom, by simp, ?_⟩
    intro _
    rw [← hlen]
    refine ⟨?_, ?_, ?_⟩
    · rw [List.length_append, List.length_drop]
      omega
    · exact List.drop_left
    · intro rest uiBufferSize hsize
      rw [List.take_left]
      exact read_headerBytes hversion hcount (hlen ▸ hsize) rest
  · have hshort : writeHeader order header pData pData.length = .ok (false, pData) := by
      refine if_pos ?_
      rw [getHeaderLength_eq hcount] at hroom
      omega
    exact ⟨false, pData, hshort, by simpa using hroom, by simp, by simp⟩

/-- Two streams with the FourCC of the unit test. -/
def fmmHeader : MultiplexedMediaHeader where
  version := 0
  fourCC := 0x20666d6d
  streamLengths := [123, 246]

theorem writeHeader_read_fmm :
    fmmHeader.version = 0 ∧ fmmHeader.streamLengths.length < 16 ∧
    ∃ written pData',
      writeHeader .littleEndian fmmHeader (List.replicate 13 0xCC) 13 = .ok (written, pData') ∧
      (written = true ↔ fmmHeader.getHeaderLength ≤ 13) ∧
      (written = false → pData' = List.replicate 13 0xCC) ∧
      (written = true → pData'.length = 13 ∧
        pData'.drop fmmHeader.getHeaderLength =
          (List.replicate 13 0xCC).drop fmmHeader.getHeaderLength ∧
        ∀ rest uiBufferSize, fmmHeader.getHeaderLength ≤ uiBufferSize →
          read .littleEndian (pData'.take fmmHeader.getHeaderLength ++ rest) uiBufferSize =
            .ok (some fmmHeader)) :=
  ⟨rfl, by decide, writeHeader_read rfl (by decide) (List.replicate 13 0xCC)⟩

example : writeHeader .littleEndian fmmHeader (List.replicate 12 0) 12 =
    .ok (false, List.replicate 12 0) := rfl

end MultiplexedMediaHeader

end LiveMediaExt.Media
