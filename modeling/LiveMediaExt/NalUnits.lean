import LiveMediaExt.Execution
import LiveMediaExt.MediaSample

/-!
# Splitting an H.264 payload into NAL units

The splitter compares four bytes at a time with the start code. Its loop bound `uiSize - 4`
is unsigned, so a payload shorter than a start code is scanned to the end of the allocation.
-/
namespace LiveMediaExt.Media
open Execution

def startCode : List UInt8 := [0, 0, 0, 1]

/-- `a - b` on 32-bit unsigned numbers. -/
def sub32 (a b : ℕ) : ℕ := uint32 (a + (2 ^ 32 - b))

/-- All that `printNalInfo` does beside logging is to read the header byte. -/
def printNalInfo (memory : List UInt8) (pos : ℕ) : Except Fault UInt8 := readByte memory pos

/-- The NAL unit of the given extent as a sample of its own. -/
def storeNalUnit (memory : List UInt8) (dPts : ℚ) (startingPos nalUnitSize : ℕ) :
    Except Fault MediaSample := do
  let _ ← printNalInfo memory startingPos
  let data ← copyBytes memory startingPos nalUnitSize
  return { presentationTime := dPts, data := data }

/-- The search loop over the positions `i < limit`; `fuel` bounds the iterations left. -/
def splitLoop (memory : List UInt8) (limit : ℕ) (dPts : ℚ) :
    ℕ → ℕ → ℕ → List MediaSample → Except Fault (List MediaSample × ℕ)
  | 0, _, startingPos, mediaSamples => .ok (mediaSamples, startingPos)
  | fuel + 1, i, startingPos, mediaSamples =>
    if i < limit then do
      if ← memcmp startCode memory i then
        let mediaSample ← storeNalUnit memory dPts startingPos (uint32 (i - startingPos))
        -- the body advances `i` by four, the loop header by one more
        splitLoop memory limit dPts fuel (i + 4 + 1) (uint32 (i + 4)) (mediaSamples ++ [mediaSample])
      else
        splitLoop memory limit dPts fuel (i + 1) startingPos mediaSamples
    else
      .ok (mediaSamples, startingPos)

def splitPayloadIntoMediaSamples (memory : List UInt8) (uiSize : ℕ) (dPts : ℚ) :
    Except Fault (List MediaSample) :=
  if uiSize = 0 then .ok []
  else do
    if ← memcmp startCode memory 0 then
      let limit := sub32 uiSize 4
      -- every iteration advances `i` from 4, so `limit` iterations reach the bound
      let (mediaSamples, startingPos) ← splitLoop memory limit dPts limit 4 4 []
      let mediaSample ← storeNalUnit memory dPts startingPos (sub32 uiSize startingPos)
      return mediaSamples ++ [mediaSample]
    else
      return []

def isIdrFrame (nalUnitHeader : UInt8) : Bool := nalUnitHeader &&& 0x1f == 5

theorem memcmp_append (pattern rest : List UInt8) :
    memcmp pattern (pattern ++ rest) 0 = .ok true := by
  simp [memcmp]

theorem storeNalUnit_presentationTime {memory : List UInt8} {dPts : ℚ}
    {startingPos nalUnitSize : ℕ} {unit : MediaSample}
    (h : storeNalUnit memory dPts startingPos nalUnitSize = .ok unit) :
    unit.presentationTime = dPts := by
  obtain ⟨header, -, h⟩ := bind_ok.mp h
  obtain ⟨data, -, h⟩ := bind_ok.mp h
  cases h
  rfl

theorem splitLoop_presentationTime {memory : List UInt8} {limit fuel i startingPos endPos : ℕ}
    {dPts : ℚ} {before after : List MediaSample}
    (hbefore : ∀ unit ∈ before, unit.presentationTime = dPts)
    (h : splitLoop memory limit dPts fuel i startingPos before = .ok (after, endPos)) :
    ∀ unit ∈ after, unit.presentationTime = dPts := by
  induction fuel generalizing i startingPos before with
  | zero =>
    cases h
    exact hbefore
  | succ fuel ih =>
    rw [splitLoop] at h
    by_cases hi : i < limit
    · rw [if_pos hi] at h
      obtain ⟨found, -, h⟩ := bind_ok.mp h
      cases found with
      | false => exact ih hbefore h
      | true =>
        obtain ⟨unit, hunit, h⟩ := bind_ok.mp h
        refine ih (fun u hu => ?_) h
        rcases List.mem_append.mp hu with hu | hu
        · exact hbefore u hu
        · rw [List.mem_singleton.mp hu, storeNalUnit_presentationTime hunit]
    · rw [if_neg hi] at h
      cases h
      exact hbefore

/-- Every NAL unit carries the presentation time of its payload. -/
theorem splitPayload_presentationTime {memory : List UInt8} {uiSize : ℕ} {dPts : ℚ}
    {mediaSamples : List MediaSample}
    (h : splitPayloadIntoMediaSamples memory uiSize dPts = .ok mediaSamples) :
    ∀ unit ∈ mediaSamples, unit.presentationTime = dPts := by
  unfold splitPayloadIntoMediaSamples at h
  by_cases hsize : uiSize = 0
  · rw [if_pos hsize] at h
    cases h
    simp
  · rw [if_neg hsize] at h
    obtain ⟨found, -, h⟩ := bind_ok.mp h
    cases found with
    | false =>
      cases h
      simp
    | true =>
      obtain ⟨⟨units, startingPos⟩, hloop, h⟩ := bind_ok.mp h
      obtain ⟨final, hfinal, h⟩ := bind_ok.mp h
      have hunits := splitLoop_presentationTime (by simp) hloop
      obtain rfl : units ++ [final] = mediaSamples := Except.ok.inj h
      intro unit hunit
      rcases List.mem_append.mp hunit with hunit | hunit
      · exact hunits unit hunit
      · rw [List.mem_singleton.mp hunit, storeNalUnit_presentationTime hfinal]

theorem storeNalUnit_error {memory : List UInt8} {dPts : ℚ} {startingPos nalUnitSize : ℕ}
    {f : Fault} (h : storeNalUnit memory dPts startingPos nalUnitSize = .error f) :
    f = .outOfBounds := by
  rcases bind_error.mp h with hread | ⟨header, -, h⟩
  · exact readByte_error hread
  · rcases bind_error.mp h with hcopy | ⟨data, -, h⟩
    · exact copyBytes_error hcopy
    · cases h

theorem splitLoop_error {memory : List UInt8} {limit fuel i startingPos : ℕ} {dPts : ℚ}
    {mediaSamples : List MediaSample} {f : Fault}
    (h : splitLoop memory limit dPts fuel i startingPos mediaSamples = .error f) :
    f = .outOfBounds := by
  induction fuel generalizing i startingPos mediaSamples with
  | zero => cases h
  | succ fuel ih =>
    rw [splitLoop] at h
    by_cases hi : i < limit
    · rw [if_pos hi] at h
      rcases bind_error.mp h with hcmp | ⟨found, -, h⟩
      · exact memcmp_error hcmp
      · cases found with
        | false => exact ih h
        | true =>
          rcases bind_error.mp h with hstore | ⟨unit, -, h⟩
          · exact storeNalUnit_error hstore
          · exact ih h
    · rw [if_neg hi] at h
      cases h

/-- The splitter has no assertion that could fail. -/
theorem splitPayload_error {memory : List UInt8} {uiSize : ℕ} {dPts : ℚ} {f : Fault}
    (h : splitPayloadIntoMediaSamples memory uiSize dPts = .error f) : f = .outOfBounds := by
  unfold splitPayloadIntoMediaSamples at h
  by_cases hsize : uiSize = 0
  · rw [if_pos hsize] at h
    cases h
  · rw [if_neg hsize] at h
    rcases bind_error.mp h with hcmp | ⟨found, -, h⟩
    · exact memcmp_error hcmp
    · cases found with
      | false => cases h
      | true =>
        rcases bind_error.mp h with hloop | ⟨⟨units, startingPos⟩, -, h⟩
        · exact splitLoop_error hloop
        · rcases bind_error.mp h with hstore | ⟨unit, -, h⟩
          · exact storeNalUnit_error hstore
          · cases h

/-- The splitter returns nothing just for empty payloads and those of another beginning. -/
theorem splitPayload_nil_iff {memory : List UInt8} {uiSize : ℕ} {dPts : ℚ} :
    splitPayloadIntoMediaSamples memory uiSize dPts = .ok [] ↔
      uiSize = 0 ∨ memcmp startCode memory 0 = .ok false := by
  unfold splitPayloadIntoMediaSamples
  by_cases hsize : uiSize = 0
  · simp [hsize]
  · rw [if_neg hsize]
    constructor
    · intro h
      obtain ⟨found, hfound, h⟩ := bind_ok.mp h
      cases found with
      | false => exact .inr hfound
      | true =>
        obtain ⟨⟨units, startingPos⟩, -, h⟩ := bind_ok.mp h
        obtain ⟨unit, -, h⟩ := bind_ok.mp h
        have hnil : units ++ [unit] = [] := Except.ok.inj h
        simp at hnil
    · rintro (hzero | hfound)
      · exact absurd hzero hsize
      · rw [hfound]
        rfl

end LiveMediaExt.Media
