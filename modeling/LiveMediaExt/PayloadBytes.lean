import LiveMediaExt.NalUnits
import LiveMediaExt.SampleBuffer

/-!
# Which bytes the splitter looks at

The sample buffer keeps bytes of earlier samples behind the current one, and the splitter takes
four bytes and the number four for granted. A payload of at least five bytes is split without a
look behind it; a shorter one may be completed by leftovers to a start code.
-/
namespace LiveMediaExt.Media
open Execution SingleMediaSampleBuffer

section Extension
variable {memory : List UInt8} {pos size limit fuel i startingPos : ℕ} {dPts : ℚ}

/-- A call that returned has read nothing behind the memory it was given. -/
theorem readByte_extend {b : UInt8} (h : readByte memory pos = .ok b) (rest : List UInt8) :
    readByte (memory ++ rest) pos = .ok b := by
  unfold readByte at h ⊢
  cases hget : memory[pos]? with
  | none => simp [hget] at h
  | some c =>
    have hlt : pos < memory.length := (List.getElem?_eq_some_iff.mp hget).1
    rw [hget] at h
    rw [List.getElem?_append_left hlt, hget]
    exact h

theorem take_drop_append (rest : List UInt8) (hle : pos + size ≤ memory.length) :
    ((memory ++ rest).drop pos).take size = (memory.drop pos).take size := by
  have hdrop : size ≤ (memory.drop pos).length := by
    rw [List.length_drop]
    omega
  rw [List.drop_append_of_le_length (by omega), List.take_append_of_le_length hdrop]

theorem memcmp_extend {pattern : List UInt8} {found : Bool}
    (h : memcmp pattern memory pos = .ok found) (rest : List UInt8) :
    memcmp pattern (memory ++ rest) pos = .ok found := by
  unfold memcmp at h ⊢
  split_ifs at h with hle
  have hle' : pos + pattern.length ≤ (memory ++ rest).length := by
    rw [List.length_append]
    omega
  rw [if_pos hle', take_drop_append rest hle]
  exact h

theorem copyBytes_extend {b : Buffer} (h : copyBytes memory pos size = .ok b)
    (rest : List UInt8) : copyBytes (memory ++ rest) pos size = .ok b := by
  unfold copyBytes at h ⊢
  split_ifs at h with hle
  have hle' : pos + uint32 size ≤ (memory ++ rest).length := by
    rw [List.length_append]
    omega
  cases h
  simp only [if_pos hle', take_drop_append rest hle]

theorem storeNalUnit_extend {unit : MediaSample}
    (h : storeNalUnit memory dPts startingPos size = .ok unit) (rest : List UInt8) :
    storeNalUnit (memory ++ rest) dPts startingPos size = .ok unit := by
  obtain ⟨header, hheader, h⟩ := bind_ok.mp h
  obtain ⟨data, hdata, h⟩ := bind_ok.mp h
  have hheader' := readByte_extend hheader rest
  have hdata' := copyBytes_extend hdata rest
  simp only [storeNalUnit, printNalInfo, hheader', hdata', bind, Except.bind]
  exact h

theorem splitLoop_extend {before : List MediaSample} {r : List MediaSample × ℕ}
    (h : splitLoop memory limit dPts fuel i startingPos before = .ok r) (rest : List UInt8) :
    splitLoop (memory ++ rest) limit dPts fuel i startingPos before = .ok r := by
  induction fuel generalizing i startingPos before with
  | zero => exact h
  | succ fuel ih =>
    rw [splitLoop] at h ⊢
    by_cases hi : i < limit
    · rw [if_pos hi] at h ⊢
      obtain ⟨found, hfound, h⟩ := bind_ok.mp h
      refine bind_ok.mpr ⟨found, memcmp_extend hfound rest, ?_⟩
      cases found with
      | false => exact ih h
      | true =>
        obtain ⟨unit, hunit, h⟩ := bind_ok.mp h
        exact bind_ok.mpr ⟨unit, storeNalUnit_extend hunit rest, ih h⟩
    · rw [if_neg hi] at h ⊢
      exact h

theorem splitPayload_extend {uiSize : ℕ} {mediaSamples : List MediaSample}
    (h : splitPayloadIntoMediaSamples memory uiSize dPts = .ok mediaSamples)
    (rest : List UInt8) :
    splitPayloadIntoMediaSamples (memory ++ rest) uiSize dPts = .ok mediaSamples := by
  unfold splitPayloadIntoMediaSamples at h ⊢
  by_cases hsize : uiSize = 0
  · rw [if_pos hsize] at h ⊢
    exact h
  · rw [if_neg hsize] at h ⊢
    obtain ⟨found, hfound, h⟩ := bind_ok.mp h
    refine bind_ok.mpr ⟨found, memcmp_extend hfound rest, ?_⟩
    cases found with
    | false =>
      obtain rfl : [] = mediaSamples := Except.ok.inj h
      rfl
    | true =>
      obtain ⟨⟨units, endPos⟩, hloop, h⟩ := bind_ok.mp h
      obtain ⟨unit, hunit, h⟩ := bind_ok.mp h
      have hloop' := splitLoop_extend hloop rest
      have hunit' := storeNalUnit_extend hunit rest
      refine bind_ok.mpr ⟨(units, endPos), hloop', ?_⟩
      exact bind_ok.mpr ⟨unit, hunit', h⟩

end Extension

section Inside
variable {memory : List UInt8} {dPts : ℚ}

theorem storeNalUnit_inside {pos size : ℕ} (hpos : pos < memory.length)
    (hsize : pos + size ≤ memory.length) (hlt : memory.length < 2 ^ 32) :
    ∃ unit, storeNalUnit memory dPts pos size = .ok unit := by
  have hread : readByte memory pos = .ok memory[pos] := by
    simp [readByte, List.getElem?_eq_getElem hpos]
  have huint : uint32 size = size := uint32_of_lt (by omega)
  simp [storeNalUnit, printNalInfo, hread, copyBytes, huint, hsize, bind, Except.bind, pure,
    Except.pure]

/-- Up to the bound that leaves room for a start code the search stays inside the memory, and
the last NAL unit begins inside. -/
theorem splitLoop_inside {limit fuel i startingPos : ℕ} {before : List MediaSample}
    (hmem : memory.length = limit + 4) (hlt : memory.length < 2 ^ 32)
    (hi : startingPos ≤ i) (hstart : startingPos < memory.length) :
    ∃ units endPos,
      splitLoop memory limit dPts fuel i startingPos before = .ok (units, endPos) ∧
        endPos < memory.length := by
  induction fuel generalizing i startingPos before with
  | zero => exact ⟨before, startingPos, rfl, hstart⟩
  | succ fuel ih =>
    rw [splitLoop]
    by_cases hlimit : i < limit
    · have hcmp : ∃ found, memcmp startCode memory i = .ok found := by
        have hle : i + startCode.length ≤ memory.length := by
          simp only [startCode, List.length_cons, List.length_nil]
          omega
        exact ⟨_, if_pos hle⟩
      obtain ⟨found, hfound⟩ := hcmp
      simp only [if_pos hlimit, hfound, bind, Except.bind]
      cases found with
      | false =>
        have hnext : startingPos ≤ i + 1 := by omega
        simpa using ih hnext hstart
      | true =>
        have huint : uint32 (i - startingPos) = i - startingPos := uint32_of_lt (by omega)
        have hpos : uint32 (i + 4) = i + 4 := uint32_of_lt (by omega)
        obtain ⟨unit, hunit⟩ : ∃ unit,
            storeNalUnit memory dPts startingPos (i - startingPos) = .ok unit :=
          storeNalUnit_inside hstart (by omega) hlt
        have hnext : i + 4 ≤ i + 4 + 1 := by omega
        have hstart' : i + 4 < memory.length := by omega
        simpa [huint, hunit, hpos] using ih hnext hstart'
    · rw [if_neg hlimit]
      exact ⟨before, startingPos, rfl, hstart⟩

theorem sub32_of_le {a b : ℕ} (ha : a < 2 ^ 32) (hb : b ≤ a) : sub32 a b = a - b := by
  unfold sub32 uint32
  omega

/-- The memory ends with the payload and the splitter returns all the same. -/
theorem splitPayload_inside (hsize : 5 ≤ memory.length) (hlt : memory.length < 2 ^ 32) :
    ∃ mediaSamples,
      splitPayloadIntoMediaSamples memory memory.length dPts = .ok mediaSamples := by
  have hle : 0 + startCode.length ≤ memory.length := by
    simp only [startCode, List.length_cons, List.length_nil]
    omega
  have hlimit : sub32 memory.length 4 = memory.length - 4 := sub32_of_le hlt (by omega)
  have hcmp : memcmp startCode memory 0 =
      .ok ((memory.drop 0).take startCode.length == startCode) := if_pos hle
  unfold splitPayloadIntoMediaSamples
  rw [if_neg (by omega), hcmp, hlimit]
  simp only [bind, Except.bind]
  split_ifs
  · obtain ⟨units, endPos, hloop, hend⟩ : ∃ units endPos, splitLoop memory (memory.length - 4)
        dPts (memory.length - 4) 4 4 [] = .ok (units, endPos) ∧ endPos < memory.length :=
      splitLoop_inside (by omega) hlt le_rfl (by omega)
    have hlast : sub32 memory.length endPos = memory.length - endPos := sub32_of_le hlt hend.le
    obtain ⟨unit, hunit⟩ : ∃ unit,
        storeNalUnit memory dPts endPos (memory.length - endPos) = .ok unit :=
      storeNalUnit_inside hend (by omega) hlt
    simp only [hloop, hlast, hunit]
    exact ⟨units ++ [unit], rfl⟩
  · exact ⟨[], rfl⟩

end Inside

section Extent
variable {memory : List UInt8} {dPts : ℚ}

theorem storeNalUnit_data {pos size : ℕ} {unit : MediaSample}
    (h : storeNalUnit memory dPts pos size = .ok unit) :
    pos + uint32 size ≤ memory.length ∧
      unit.data.data = (memory.drop pos).take (uint32 size) := by
  obtain ⟨header, -, h⟩ := bind_ok.mp h
  obtain ⟨data, hdata, h⟩ := bind_ok.mp h
  cases h
  exact copyBytes_data hdata

/-- The units found so far lie before the start of the next one. -/
theorem splitLoop_infix {limit fuel i startingPos endPos : ℕ} {before after : List MediaSample}
    (hmem : memory.length < 2 ^ 32) (hi : startingPos ≤ i) (hstart : startingPos ≤ memory.length)
    (hbefore : ∀ unit ∈ before, unit.data.data <:+: memory.take startingPos)
    (h : splitLoop memory limit dPts fuel i startingPos before = .ok (after, endPos)) :
    endPos ≤ memory.length ∧ ∀ unit ∈ after, unit.data.data <:+: memory.take endPos := by
  induction fuel generalizing i startingPos before with
  | zero =>
    cases h
    exact ⟨hstart, hbefore⟩
  | succ fuel ih =>
    rw [splitLoop] at h
    by_cases hlimit : i < limit
    · rw [if_pos hlimit] at h
      obtain ⟨found, hfound, h⟩ := bind_ok.mp h
      cases found with
      | false => exact ih (by omega) hstart hbefore h
      | true =>
        obtain ⟨unit, hunit, h⟩ := bind_ok.mp h
        have hroom : i + 4 ≤ memory.length := by
          unfold memcmp at hfound
          split_ifs at hfound with hle
          exact hle
        have hnext : uint32 (i + 4) = i + 4 := uint32_of_lt (by omega)
        have hsize : uint32 (uint32 (i - startingPos)) = i - startingPos := by
          rw [uint32_of_lt (uint32_lt _), uint32_of_lt (by omega)]
        rw [hnext] at h
        refine ih (by omega) hroom (fun u hu => ?_) h
        rcases List.mem_append.mp hu with hu | hu
        · have hlater : memory.take startingPos <+: memory.take (i + 4) :=
            List.take_prefix_take_left (by omega)
          exact (hbefore u hu).trans hlater.isInfix
        · obtain ⟨-, hdata⟩ := storeNalUnit_data hunit
          rw [List.mem_singleton.mp hu, hdata, hsize]
          exact take_drop_infix (by omega)
    · rw [if_neg hlimit] at h
      cases h
      exact ⟨hstart, hbefore⟩

/-- Every NAL unit is cut out of the payload: a size that wraps makes the last copy leave the
memory. -/
theorem splitPayload_infix {uiSize : ℕ} {mediaSamples : List MediaSample}
    (hmem : memory.length < 2 ^ 32)
    (h : splitPayloadIntoMediaSamples memory uiSize dPts = .ok mediaSamples) :
    ∀ unit ∈ mediaSamples, unit.data.data <:+: memory.take uiSize := by
  unfold splitPayloadIntoMediaSamples at h
  by_cases hsize : uiSize = 0
  · rw [if_pos hsize] at h
    cases h
    simp
  · rw [if_neg hsize] at h
    obtain ⟨found, hfound, h⟩ := bind_ok.mp h
    cases found with
    | false =>
      obtain rfl : [] = mediaSamples := Except.ok.inj h
      simp
    | true =>
      obtain ⟨⟨units, endPos⟩, hloop, h⟩ := bind_ok.mp h
      obtain ⟨final, hfinal, h⟩ := bind_ok.mp h
      obtain rfl : units ++ [final] = mediaSamples := Except.ok.inj h
      have hroom : 4 ≤ memory.length := by
        unfold memcmp at hfound
        split_ifs at hfound with hle
        simpa [startCode] using hle
      obtain ⟨hend, hunits⟩ := splitLoop_infix hmem le_rfl hroom (by simp) hloop
      obtain ⟨hcopied, hdata⟩ := storeNalUnit_data hfinal
      have hsub : endPos ≤ uiSize ∧ uint32 (sub32 uiSize endPos) ≤ uiSize - endPos := by
        unfold sub32 uint32 at hcopied ⊢
        omega
      intro unit hunit
      rcases List.mem_append.mp hunit with hunit | hunit
      · have hlater : memory.take endPos <+: memory.take uiSize :=
          List.take_prefix_take_left hsub.1
        exact (hunits unit hunit).trans hlater.isInfix
      · rw [List.mem_singleton.mp hunit, hdata]
        exact take_drop_infix (by omega)

end Extent

section History
variable {b : SingleMediaSampleBuffer} {mediaSample : MediaSample} {dPts : ℚ}

/-- A buffer of the size given to the constructor, with what its memory happens to contain,
after the samples of the history. -/
def filled (memory : Buffer) (history : List MediaSample) : SingleMediaSampleBuffer :=
  history.foldl SingleMediaSampleBuffer.addMediaSample (create memory.data memory.length_lt)

/-- The splitter called on the frame that the grabber hands out. -/
def splitCurrent (b : SingleMediaSampleBuffer) : Except Fault (List MediaSample) :=
  match getNextFrame b with
  | none => .ok []
  | some frame => splitPayloadIntoMediaSamples frame.memory frame.size frame.startTime

/-- If the splitter comes to its loop, the loop returns also on memory that ends with the
sample: it looks at no byte behind it. -/
def LoopInside (b : SingleMediaSampleBuffer) : Prop :=
  b.size ≠ 0 → memcmp startCode b.buffer 0 = .ok true → ∃ r,
    splitLoop (b.buffer.take b.size) (sub32 b.size 4) b.startTime (sub32 b.size 4) 4 4 [] = .ok r

/-- Whatever was stored before, the sample is split alike and the loop stays inside it. -/
def HistoryFree (uiMaxFrameSize : UInt32) (mediaSample : MediaSample) : Prop :=
  ∀ memory₁ memory₂ history₁ history₂,
    memory₁.getSize = uiMaxFrameSize.toNat → memory₂.getSize = uiMaxFrameSize.toNat →
    splitCurrent ((filled memory₁ history₁).addMediaSample mediaSample) =
        splitCurrent ((filled memory₂ history₂).addMediaSample mediaSample) ∧
      LoopInside ((filled memory₁ history₁).addMediaSample mediaSample)

/-- A sample that leftovers cannot complete to a start code, with memory for the four bytes of
the first comparison and the header byte behind a lone start code. -/
def SelfContained (uiMaxFrameSize : UInt32) (mediaSample : MediaSample) : Prop :=
  mediaSample.data.data = [] ∨ 5 ≤ mediaSample.getMediaSize ∨
  (mediaSample.getMediaSize = 4 ∧
    (mediaSample.data.data ≠ startCode ∨ 5 ≤ uiMaxFrameSize.toNat)) ∨
  (mediaSample.getMediaSize < 4 ∧ 4 ≤ uiMaxFrameSize.toNat ∧
    ¬ mediaSample.data.data <+: startCode)

theorem addMediaSample_buffer (b : SingleMediaSampleBuffer) (mediaSample : MediaSample) :
    (b.addMediaSample mediaSample).buffer =
      mediaSample.data.data ++ b.buffer.drop mediaSample.getMediaSize := by
  have hb := b.length_buffer
  unfold SingleMediaSampleBuffer.addMediaSample
  split_ifs with hlarge
  · have hdrop : b.buffer.drop mediaSample.getMediaSize = [] :=
      List.drop_eq_nil_of_le (by omega)
    simp only [hdrop, List.append_nil]
  · rfl

theorem addMediaSample_fields (b : SingleMediaSampleBuffer) (mediaSample : MediaSample) :
    (b.addMediaSample mediaSample).size = mediaSample.getMediaSize ∧
      (b.addMediaSample mediaSample).startTime = mediaSample.presentationTime := by
  unfold SingleMediaSampleBuffer.addMediaSample
  split_ifs
  · exact ⟨rfl, rfl⟩
  · exact ⟨rfl, rfl⟩

theorem le_length_addMediaSample (b : SingleMediaSampleBuffer) (mediaSample : MediaSample) :
    b.buffer.length ≤ (b.addMediaSample mediaSample).buffer.length := by
  have hdata : mediaSample.data.data.length = mediaSample.getMediaSize := rfl
  rw [addMediaSample_buffer, List.length_append, List.length_drop]
  omega

theorem le_length_filled (memory : Buffer) (history : List MediaSample) :
    memory.getSize ≤ (filled memory history).buffer.length := by
  unfold filled
  induction history using List.reverseRecOn with
  | nil => exact le_rfl
  | append_singleton history mediaSample ih =>
    rw [List.foldl_append]
    exact ih.trans (le_length_addMediaSample _ mediaSample)

theorem splitCurrent_addMediaSample (b : SingleMediaSampleBuffer) (mediaSample : MediaSample) :
    splitCurrent (b.addMediaSample mediaSample) =
      splitPayloadIntoMediaSamples (b.addMediaSample mediaSample).buffer
        mediaSample.getMediaSize mediaSample.presentationTime := by
  obtain ⟨hsize, htime⟩ := addMediaSample_fields b mediaSample
  rw [← hsize, ← htime]
  rfl

/-- A payload that is not a beginning of the start code is told from it by its own bytes. -/
theorem memcmp_false {data rest : List UInt8} (hlen : 4 ≤ (data ++ rest).length)
    (hshort : data.length ≤ 4) (hdata : ¬ data <+: startCode) :
    memcmp startCode (data ++ rest) 0 = .ok false := by
  have hle : 0 + startCode.length ≤ (data ++ rest).length := by simpa [startCode] using hlen
  unfold memcmp
  rw [if_pos hle]
  have hne : ((data ++ rest).drop 0).take startCode.length ≠ startCode := by
    intro heq
    refine hdata ?_
    rw [← heq, List.drop_zero, List.take_append]
    have htake : data.take startCode.length = data := List.take_of_length_le hshort
    rw [htake]
    exact List.prefix_append _ _
  simpa using hne

theorem historyFree_large (h : 5 ≤ mediaSample.getMediaSize) (b : SingleMediaSampleBuffer) :
    splitCurrent (b.addMediaSample mediaSample) =
        splitPayloadIntoMediaSamples mediaSample.data.data mediaSample.getMediaSize
          mediaSample.presentationTime ∧
      LoopInside (b.addMediaSample mediaSample) := by
  have hbuffer := addMediaSample_buffer b mediaSample
  have hsize := (addMediaSample_fields b mediaSample).1
  have hlt : mediaSample.data.data.length < 2 ^ 32 := mediaSample.data.length_lt
  have hlarge : 5 ≤ mediaSample.data.data.length := h
  constructor
  · obtain ⟨units, hunits⟩ : ∃ units, splitPayloadIntoMediaSamples mediaSample.data.data
        mediaSample.data.data.length mediaSample.presentationTime = .ok units :=
      splitPayload_inside hlarge hlt
    have hextend := splitPayload_extend hunits (b.buffer.drop mediaSample.getMediaSize)
    rw [splitCurrent_addMediaSample, hbuffer]
    exact hextend.trans hunits.symm
  · intro _ _
    have htake : (b.addMediaSample mediaSample).buffer.take mediaSample.getMediaSize =
        mediaSample.data.data := by
      rw [hbuffer]
      exact List.take_left
    have hlimit : sub32 mediaSample.getMediaSize 4 = mediaSample.getMediaSize - 4 :=
      sub32_of_le hlt (by omega)
    have hmem : mediaSample.data.data.length = mediaSample.getMediaSize - 4 + 4 := by
      have hdata : mediaSample.data.data.length = mediaSample.getMediaSize := rfl
      omega
    rw [hsize, htake, hlimit]
    obtain ⟨units, endPos, hloop, -⟩ : ∃ units endPos, splitLoop mediaSample.data.data
        (mediaSample.getMediaSize - 4) (b.addMediaSample mediaSample).startTime
        (mediaSample.getMediaSize - 4) 4 4 [] = .ok (units, endPos) ∧
          endPos < mediaSample.data.data.length :=
      splitLoop_inside hmem hlt le_rfl (by omega)
    exact ⟨_, hloop⟩

/-- A short payload that is not taken for a start code yields nothing. -/
theorem historyFree_unframed
    (h : memcmp startCode (b.addMediaSample mediaSample).buffer 0 = .ok false) :
    splitCurrent (b.addMediaSample mediaSample) = .ok [] ∧
      LoopInside (b.addMediaSample mediaSample) := by
  constructor
  · rw [splitCurrent_addMediaSample]
    exact splitPayload_nil_iff.mpr (.inr h)
  · intro _ hfound
    rw [h] at hfound
    cases hfound

/-- A lone start code yields one empty NAL unit; the header byte read for it lies behind. -/
theorem splitCurrent_startCode (h : mediaSample.data.data = startCode)
    (hlen : 5 ≤ (b.addMediaSample mediaSample).buffer.length) :
    splitCurrent (b.addMediaSample mediaSample) =
        .ok [{ presentationTime := mediaSample.presentationTime, data := .empty }] ∧
      LoopInside (b.addMediaSample mediaSample) := by
  have hbuffer := addMediaSample_buffer b mediaSample
  have hsize := (addMediaSample_fields b mediaSample).1
  have hfour : mediaSample.getMediaSize = 4 := by
    simp [MediaSample.getMediaSize, Buffer.getSize, h, startCode]
  constructor
  · rw [splitCurrent_addMediaSample, hfour]
    rw [hbuffer, h] at hlen ⊢
    cases hrest : b.buffer.drop mediaSample.getMediaSize with
    | nil => simp [hrest, startCode] at hlen
    | cons header tail => rfl
  · intro _ _
    rw [hsize, hfour]
    exact ⟨([], 4), rfl⟩

theorem historyFree_of_selfContained {uiMaxFrameSize : UInt32}
    (h : SelfContained uiMaxFrameSize mediaSample) : HistoryFree uiMaxFrameSize mediaSample := by
  have hdata : mediaSample.data.data.length = mediaSample.getMediaSize := rfl
  have same : ∃ r, ∀ b : SingleMediaSampleBuffer, uiMaxFrameSize.toNat ≤ b.buffer.length →
      splitCurrent (b.addMediaSample mediaSample) = r ∧
        LoopInside (b.addMediaSample mediaSample) := by
    rcases h with hnil | hlarge | ⟨hfour, hother⟩ | ⟨hshort, hmemory, hother⟩
    · refine ⟨.ok [], fun b _ => ⟨?_, ?_⟩⟩
      · rw [splitCurrent_addMediaSample]
        exact splitPayload_nil_iff.mpr (.inl (by rw [← hdata, hnil, List.length_nil]))
      · intro hne
        rw [(addMediaSample_fields b mediaSample).1, ← hdata, hnil] at hne
        simp at hne
    · exact ⟨_, fun b _ => historyFree_large hlarge b⟩
    · by_cases hcode : mediaSample.data.data = startCode
      · refine ⟨_, fun b hb => splitCurrent_startCode hcode ?_⟩
        have hgrows := le_length_addMediaSample b mediaSample
        have hroom : 5 ≤ uiMaxFrameSize.toNat := hother.resolve_left (not_not.mpr hcode)
        omega
      · refine ⟨_, fun b _ => historyFree_unframed ?_⟩
        have hbegins : ¬ mediaSample.data.data <+: startCode := by
          intro hbegins
          exact hcode (hbegins.eq_of_length (by rw [hdata, hfour]; rfl))
        rw [addMediaSample_buffer]
        refine memcmp_false ?_ (by omega) hbegins
        rw [List.length_append]
        omega
    · refine ⟨_, fun b hb => historyFree_unframed ?_⟩
      have hgrows := le_length_addMediaSample b mediaSample
      rw [addMediaSample_buffer] at hgrows ⊢
      exact memcmp_false (by omega) (by omega) hother
  obtain ⟨r, hr⟩ := same
  intro memory₁ memory₂ history₁ history₂ h₁ h₂
  have hroom₁ : uiMaxFrameSize.toNat ≤ (filled memory₁ history₁).buffer.length :=
    h₁ ▸ le_length_filled memory₁ history₁
  have hroom₂ : uiMaxFrameSize.toNat ≤ (filled memory₂ history₂).buffer.length :=
    h₂ ▸ le_length_filled memory₂ history₂
  obtain ⟨hsplit₁, hloop⟩ := hr _ hroom₁
  obtain ⟨hsplit₂, -⟩ := hr _ hroom₂
  exact ⟨hsplit₁.trans hsplit₂.symm, hloop⟩

/-- Memory that holds no byte of a start code. -/
def nines (n : ℕ) (h : n < 2 ^ 32) : Buffer := ⟨List.replicate n 9, by simpa using h⟩

theorem memcmp_nines {data : List UInt8} {n : ℕ} (hshort : data.length < 4) (hn : 4 ≤ n) :
    memcmp startCode (data ++ (List.replicate n 9).drop data.length) 0 = .ok false := by
  have hle : 0 + startCode.length ≤ (data ++ (List.replicate n 9).drop data.length).length := by
    simp only [startCode, List.length_cons, List.length_nil, List.length_append,
      List.length_drop, List.length_replicate]
    omega
  have hne : ((data ++ (List.replicate n 9).drop data.length).drop 0).take startCode.length ≠
      startCode := by
    intro heq
    have hlast : ((data ++ (List.replicate n 9).drop data.length).take 4)[3]? = startCode[3]? :=
      congrArg (fun l => l[3]?) heq
    have hin : 3 - data.length < n - data.length := by omega
    rw [List.getElem?_take_of_lt (by omega), List.getElem?_append_right (by omega),
      List.drop_replicate, List.getElem?_replicate, if_pos hin] at hlast
    simp [startCode] at hlast
  unfold memcmp
  rw [if_pos hle]
  simpa using hne

theorem filled_buffer (memory : Buffer) (mediaSample : MediaSample) :
    ((filled memory []).addMediaSample mediaSample).buffer =
      mediaSample.data.data ++ memory.data.drop mediaSample.getMediaSize :=
  addMediaSample_buffer _ mediaSample

/-- A lone start code whose header byte lies behind the allocation. -/
theorem not_historyFree_startCode {uiMaxFrameSize : UInt32}
    (hcode : mediaSample.data.data = startCode) (hroom : uiMaxFrameSize.toNat < 5) :
    ¬ HistoryFree uiMaxFrameSize mediaSample := by
  intro h
  have hsize : mediaSample.getMediaSize = 4 := by
    simp [MediaSample.getMediaSize, Buffer.getSize, hcode, startCode]
  let memory := nines uiMaxFrameSize.toNat uiMaxFrameSize.toNat_lt
  have hmemory : memory.getSize = uiMaxFrameSize.toNat := List.length_replicate
  obtain ⟨heq, -⟩ :=
    h memory memory [] [{ data := nines 5 (by norm_num) }] hmemory hmemory
  have hfault : splitCurrent ((filled memory []).addMediaSample mediaSample) =
      .error .outOfBounds := by
    have hrest : memory.data.drop 4 = [] := by
      refine List.drop_eq_nil_of_le ?_
      have hlen : memory.data.length = uiMaxFrameSize.toNat := hmemory
      omega
    rw [splitCurrent_addMediaSample, filled_buffer, hsize, hcode, hrest]
    rfl
  have hlen : 5 ≤ ((filled memory [{ data := nines 5 (by norm_num) }]).addMediaSample
      mediaSample).buffer.length := by
    have hfive := le_length_addMediaSample
      ((filled memory []).addMediaSample { data := nines 5 (by norm_num) }) mediaSample
    have hnines : 5 ≤ ((filled memory []).addMediaSample
        { data := nines 5 (by norm_num) }).buffer.length := by
      rw [addMediaSample_buffer, List.length_append]
      have hdata : (nines 5 (by norm_num)).data.length = 5 := rfl
      dsimp only
      omega
    exact hnines.trans hfive
  rw [hfault, (splitCurrent_startCode hcode hlen).1] at heq
  cases heq

/-- Fewer than four bytes in an allocation of fewer than four. -/
theorem not_historyFree_small {uiMaxFrameSize : UInt32} (hne : mediaSample.data.data ≠ [])
    (hshort : mediaSample.getMediaSize < 4) (hroom : uiMaxFrameSize.toNat < 4) :
    ¬ HistoryFree uiMaxFrameSize mediaSample := by
  intro h
  have hdata : mediaSample.data.data.length = mediaSample.getMediaSize := rfl
  have hpos : mediaSample.getMediaSize ≠ 0 := by
    rw [← hdata]
    exact fun hzero => hne (List.eq_nil_of_length_eq_zero hzero)
  let memory := nines uiMaxFrameSize.toNat uiMaxFrameSize.toNat_lt
  have hmemory : memory.getSize = uiMaxFrameSize.toNat := List.length_replicate
  have hlen : memory.data.length = uiMaxFrameSize.toNat := hmemory
  obtain ⟨heq, -⟩ :=
    h memory memory [] [{ data := nines 4 (by norm_num) }] hmemory hmemory
  have hfault : splitCurrent ((filled memory []).addMediaSample mediaSample) =
      .error .outOfBounds := by
    rw [splitCurrent_addMediaSample, filled_buffer]
    have hover : ¬ 0 + startCode.length ≤
        (mediaSample.data.data ++ memory.data.drop mediaSample.getMediaSize).length := by
      simp only [startCode, List.length_cons, List.length_nil, List.length_append,
        List.length_drop]
      omega
    unfold splitPayloadIntoMediaSamples memcmp
    rw [if_neg hpos, if_neg hover]
    rfl
  have hunframed : memcmp startCode
      ((filled memory [{ data := nines 4 (by norm_num) }]).addMediaSample
        mediaSample).buffer 0 = .ok false := by
    have hnines : (filled memory [{ data := nines 4 (by norm_num) }]).buffer =
        List.replicate 4 9 := by
      have hrest : memory.data.drop 4 = [] := List.drop_eq_nil_of_le (by omega)
      have hbuffer := filled_buffer memory { data := nines 4 (by norm_num) }
      exact hbuffer.trans (by rw [show (MediaSample.getMediaSize
        { data := nines 4 (by norm_num) }) = 4 from rfl, hrest]; rfl)
    rw [addMediaSample_buffer, hnines]
    exact memcmp_nines hshort le_rfl
  rw [hfault, (historyFree_unframed hunframed).1] at heq
  cases heq

/-- A start code as a sample. -/
def startCodeSample : MediaSample := { data := ⟨startCode, by norm_num [startCode]⟩ }

/-- A beginning of the start code yields nothing in fresh memory; behind a start code stored
before, the leftovers complete it. -/
theorem splitCurrent_leftovers {n : ℕ} (hn : n < 2 ^ 32) (hne : mediaSample.data.data ≠ [])
    (hshort : mediaSample.getMediaSize < 4) (hroom : 4 ≤ n)
    (hcode : mediaSample.data.data <+: startCode) :
    splitCurrent ((filled (nines n hn) []).addMediaSample mediaSample) = .ok [] ∧
      splitCurrent ((filled (nines n hn) [startCodeSample]).addMediaSample mediaSample) ≠
        .ok [] := by
  have hdata : mediaSample.data.data.length = mediaSample.getMediaSize := rfl
  have hunframed : memcmp startCode
      ((filled (nines n hn) []).addMediaSample mediaSample).buffer 0 = .ok false := by
    rw [filled_buffer, ← hdata]
    exact memcmp_nines (by omega) hroom
  have hframed : memcmp startCode
      ((filled (nines n hn) [startCodeSample]).addMediaSample mediaSample).buffer 0 =
        .ok true := by
    obtain ⟨tail, htail⟩ := hcode
    have hstored : (filled (nines n hn) [startCodeSample]).buffer =
        mediaSample.data.data ++ (tail ++ (nines n hn).data.drop 4) := by
      rw [← List.append_assoc, htail]
      exact filled_buffer (nines n hn) startCodeSample
    rw [addMediaSample_buffer, hstored, ← hdata, List.drop_left, ← List.append_assoc, htail]
    exact memcmp_append startCode _
  refine ⟨(historyFree_unframed hunframed).1, ?_⟩
  rw [splitCurrent_addMediaSample]
  intro hnil
  rcases splitPayload_nil_iff.mp hnil with hzero | hfalse
  · exact hne (List.eq_nil_of_length_eq_zero (hdata.trans hzero))
  · rw [hframed] at hfalse
    cases hfalse

/-- The splitting of a sample depends on that sample only exactly when the sample is
self-contained. -/
theorem historyFree_iff (uiMaxFrameSize : UInt32) (mediaSample : MediaSample) :
    HistoryFree uiMaxFrameSize mediaSample ↔ SelfContained uiMaxFrameSize mediaSample := by
  constructor
  · intro h
    by_contra hself
    unfold SelfContained at hself
    push Not at hself
    obtain ⟨hne, hlarge, hfour, hshort⟩ := hself
    by_cases hsize : mediaSample.getMediaSize = 4
    · obtain ⟨hcode, hroom⟩ := hfour hsize
      exact not_historyFree_startCode hcode hroom h
    · have hlt : mediaSample.getMediaSize < 4 := by omega
      by_cases hroom : 4 ≤ uiMaxFrameSize.toNat
      · obtain ⟨hfresh, hstale⟩ := splitCurrent_leftovers uiMaxFrameSize.toNat_lt hne hlt hroom
          (hshort hlt hroom)
        have hmemory : (nines _ uiMaxFrameSize.toNat_lt).getSize = uiMaxFrameSize.toNat :=
          List.length_replicate
        obtain ⟨heq, -⟩ := h _ _ [] [startCodeSample] hmemory hmemory
        exact hstale (heq.symm.trans hfresh)
      · exact not_historyFree_small hne hlt (by omega) h
  · exact historyFree_of_selfContained

def zeroByte : MediaSample := { data := ⟨[0], by norm_num⟩ }

/-- In a buffer of the default size one zero byte yields nothing, but after a start code it is
taken for one. -/
theorem zeroByte_taken_for_startCode :
    splitCurrent ((filled (nines 10000 (by norm_num)) []).addMediaSample zeroByte) = .ok [] ∧
      splitCurrent ((filled (nines 10000 (by norm_num)) [startCodeSample]).addMediaSample
        zeroByte) ≠ .ok [] := by
  have hne : zeroByte.data.data ≠ [] := by simp [zeroByte]
  have hshort : zeroByte.getMediaSize < 4 := by decide
  have hcode : zeroByte.data.data <+: startCode := by decide
  exact splitCurrent_leftovers (by norm_num) hne hshort (by norm_num) hcode

end History

end LiveMediaExt.Media
