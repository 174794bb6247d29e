import LiveMediaExt.Delimiters
import LiveMediaExt.PayloadBytes

/-!
# What the splitter makes of a payload

The search loop is a scan for start codes that resumes one byte behind a start code and stops
where nothing would follow one. Its cursors only ever move over bytes that it has put into a
NAL unit, so nothing is lost; but two start codes in a row, or one at the end, are not told
from payload.
-/
namespace LiveMediaExt.Media
open Execution Delimiters

theorem startCode_unbordered : Unbordered startCode where
  ne_nil := by simp [startCode]
  border := by
    intro z hbegins hends
    have hcases : ∀ z ∈ startCode.inits, z <:+ startCode → z = [] ∨ z = startCode := by decide
    exact hcases z ((List.mem_inits z startCode).mpr hbegins) hends

def unitBytes (units : List MediaSample) : List (List UInt8) :=
  units.map fun unit => unit.data.data

section Loop
variable {memory : List UInt8} {dPts : ℚ} {startingPos i : ℕ}

theorem storeNalUnit_eq {pos size : ℕ} (hpos : pos < memory.length)
    (hsize : pos + size ≤ memory.length) (hlt : memory.length < 2 ^ 32) :
    ∃ unit, storeNalUnit memory dPts pos size = .ok unit ∧
      unit.data.data = (memory.drop pos).take size := by
  obtain ⟨unit, hunit⟩ : ∃ unit, storeNalUnit memory dPts pos size = .ok unit :=
    storeNalUnit_inside hpos hsize hlt
  have hdata := (storeNalUnit_data hunit).2
  rw [uint32_of_lt (by omega)] at hdata
  exact ⟨unit, hunit, hdata⟩

/-- Inside the memory the comparison tells whether a start code begins. -/
theorem memcmp_startCode (hle : i + 4 ≤ memory.length) :
    ∃ found, memcmp startCode memory i = .ok found ∧
      (found = true ↔ startCode <+: memory.drop i) := by
  refine ⟨_, if_pos hle, ?_⟩
  rw [beq_iff_eq, List.prefix_iff_eq_take]
  exact eq_comm

/-- The pieces of the scan from the second cursor, the first of them with the bytes between the
two cursors. -/
def pendingPieces (memory : List UInt8) (startingPos i : ℕ) : List (List UInt8) :=
  (scan startCode (memory.drop i)).modifyHead
    ((memory.drop startingPos).take (i - startingPos) ++ ·)

theorem pendingPieces_self : pendingPieces memory i i = scan startCode (memory.drop i) := by
  obtain ⟨p, ps, hscan, -⟩ := scan_spec startCode_unbordered (memory.drop i)
  rw [pendingPieces, hscan, Nat.sub_self, List.take_zero, List.modifyHead_cons, List.nil_append]

/-- What is too short for another start code with something behind it is left for the end. -/
theorem pendingPieces_stopped {limit : ℕ} (hmem : memory.length = limit + 4)
    (hi : startingPos ≤ i) (hlimit : limit ≤ i) :
    pendingPieces memory startingPos i = [memory.drop startingPos] := by
  have hshort : (memory.drop i).length ≤ startCode.length := by
    rw [List.length_drop, hmem]
    simp only [startCode, List.length_cons, List.length_nil]
    omega
  have hdrop : memory.drop i = (memory.drop startingPos).drop (i - startingPos) := by
    rw [List.drop_drop, Nat.add_sub_cancel' hi]
  rw [pendingPieces, scan_short hshort, List.modifyHead_cons, hdrop, List.take_append_drop]

/-- A byte where no start code begins joins those between the cursors. -/
theorem pendingPieces_missed (hi : startingPos ≤ i) (hi' : i < memory.length)
    (hnotFound : ¬ startCode <+: memory.drop i) :
    pendingPieces memory startingPos i = pendingPieces memory startingPos (i + 1) := by
  have hdrop : memory.drop i = memory[i] :: memory.drop (i + 1) :=
    List.drop_eq_getElem_cons hi'
  have hget : (memory.drop startingPos)[i - startingPos]? = some memory[i] := by
    rw [List.getElem?_drop, Nat.add_sub_cancel' hi, List.getElem?_eq_getElem hi']
  have hnext : i + 1 - startingPos = i - startingPos + 1 := by omega
  have htake : (memory.drop startingPos).take (i + 1 - startingPos) =
      (memory.drop startingPos).take (i - startingPos) ++ [memory[i]] := by
    rw [hnext, List.take_add_one, hget]
    rfl
  have hscan : scan startCode (memory.drop i) =
      (scan startCode (memory.drop (i + 1))).modifyHead (memory[i] :: ·) := by
    rw [hdrop] at hnotFound ⊢
    exact scan_cons_of_not_found fun hfound => hnotFound hfound.1
  unfold pendingPieces
  rw [hscan, htake, List.modifyHead_modifyHead]
  congr 1
  funext piece
  simp

/-- Below the bound something follows a start code. -/
theorem drop_found {limit : ℕ} (hmem : memory.length = limit + 4) (hlimit : i < limit)
    (h : startCode <+: memory.drop i) :
    ∃ y ys, memory.drop i = startCode ++ y :: ys ∧ memory.drop (i + 4) = y :: ys ∧
      memory.drop (i + 4 + 1) = ys := by
  obtain ⟨tail, htail⟩ := h
  have hlength := congrArg List.length htail
  have hfour : startCode.length = 4 := rfl
  rw [List.length_append, List.length_drop, hmem] at hlength
  cases tail with
  | nil =>
    rw [List.length_nil] at hlength
    omega
  | cons y ys =>
    have hnext : memory.drop (i + 4) = y :: ys := by
      rw [← List.drop_drop, ← htail]
      rfl
    refine ⟨y, ys, htail.symm, hnext, ?_⟩
    rw [← List.drop_drop, hnext]
    rfl

/-- At a start code the bytes between the cursors are a piece of their own, and the byte behind
the start code is not looked at. -/
theorem pendingPieces_found {limit : ℕ} (hmem : memory.length = limit + 4) (hlimit : i < limit)
    (hfound : startCode <+: memory.drop i) :
    pendingPieces memory startingPos i =
      (memory.drop startingPos).take (i - startingPos) ::
        pendingPieces memory (i + 4) (i + 4 + 1) := by
  obtain ⟨y, ys, hdrop, hnext, hys⟩ := drop_found hmem hlimit hfound
  have hone : i + 4 + 1 - (i + 4) = 1 := by omega
  unfold pendingPieces
  rw [hdrop, scan_delimiter startCode_unbordered.ne_nil, hnext, hys, hone,
    List.modifyHead_cons, List.append_nil]
  rfl

/-- The loop, started between two of its turns, yields the pieces of the scan: those before
the last as NAL units, the last as what is left from the start position. -/
theorem splitLoop_scan {limit fuel : ℕ} (before : List MediaSample)
    (hmem : memory.length = limit + 4) (hlt : memory.length < 2 ^ 32)
    (hi : startingPos ≤ i) (hle : i ≤ memory.length) (hstart : startingPos < memory.length)
    (hfuel : limit ≤ i + fuel) :
    ∃ units endPos,
      splitLoop memory limit dPts fuel i startingPos before = .ok (before ++ units, endPos) ∧
        endPos < memory.length ∧
        pendingPieces memory startingPos i = unitBytes units ++ [memory.drop endPos] := by
  induction fuel generalizing i startingPos before with
  | zero =>
    have hlimit : limit ≤ i := by omega
    exact ⟨[], startingPos, by simp [splitLoop], hstart, pendingPieces_stopped hmem hi hlimit⟩
  | succ fuel ih =>
    rw [splitLoop]
    by_cases hlimit : i < limit
    · rw [if_pos hlimit]
      obtain ⟨found, hcmp, hfound⟩ : ∃ found, memcmp startCode memory i = .ok found ∧
          (found = true ↔ startCode <+: memory.drop i) := memcmp_startCode (by omega)
      cases found with
      | false =>
        have hnotFound : ¬ startCode <+: memory.drop i := by
          rw [← hfound]
          simp
        obtain ⟨units, endPos, hloop, hend, hpieces⟩ :=
          ih before (show startingPos ≤ i + 1 by omega) (by omega) hstart (by omega)
        refine ⟨units, endPos, bind_ok.mpr ⟨false, hcmp, hloop⟩, hend, ?_⟩
        rw [pendingPieces_missed hi (by omega) hnotFound, hpieces]
      | true =>
        obtain ⟨unit, hunit, hbytes⟩ : ∃ unit,
            storeNalUnit memory dPts startingPos (i - startingPos) = .ok unit ∧
              unit.data.data = (memory.drop startingPos).take (i - startingPos) :=
          storeNalUnit_eq hstart (by omega) hlt
        obtain ⟨units, endPos, hloop, hend, hpieces⟩ := ih (before ++ [unit])
          (show i + 4 ≤ i + 4 + 1 by omega) (by omega) (by omega) (by omega)
        have hsize : uint32 (i - startingPos) = i - startingPos := uint32_of_lt (by omega)
        have hpos : uint32 (i + 4) = i + 4 := uint32_of_lt (by omega)
        refine ⟨unit :: units, endPos, ?_, hend, ?_⟩
        · refine bind_ok.mpr ⟨true, hcmp, ?_⟩
          rw [if_pos rfl, hsize, hpos]
          refine bind_ok.mpr ⟨unit, hunit, ?_⟩
          rw [hloop, List.append_assoc]
          rfl
        · rw [pendingPieces_found hmem hlimit (hfound.mp rfl), hpieces, ← hbytes]
          rfl
    · rw [if_neg hlimit]
      exact ⟨[], startingPos, by simp, hstart, pendingPieces_stopped hmem hi (not_lt.mp hlimit)⟩

end Loop

section Payload
variable {data : List UInt8} (dPts : ℚ)

theorem splitPayload_scan_inside {body : List UInt8} (hbody : body ≠ [])
    (hlt : (startCode ++ body).length < 2 ^ 32) :
    ∃ units, splitPayloadIntoMediaSamples (startCode ++ body) (startCode ++ body).length dPts =
      .ok units ∧ unitBytes units = scan startCode body := by
  set memory := startCode ++ body with hmemory
  have hlength : memory.length = body.length + 4 := by
    rw [hmemory, List.length_append]
    exact Nat.add_comm _ _
  have hpos := List.length_pos_of_ne_nil hbody
  have hlimit : sub32 memory.length 4 = body.length := by
    rw [sub32_of_le hlt (by omega)]
    omega
  have hbegin : memory.drop 4 = body := rfl
  obtain ⟨units, endPos, hloop, hend, hpieces⟩ : ∃ units endPos,
      splitLoop memory body.length dPts body.length 4 4 [] = .ok ([] ++ units, endPos) ∧
        endPos < memory.length ∧
        pendingPieces memory 4 4 = unitBytes units ++ [memory.drop endPos] :=
    splitLoop_scan [] hlength hlt le_rfl (by omega) (by omega) (by omega)
  have hsize : sub32 memory.length endPos = memory.length - endPos := sub32_of_le hlt hend.le
  obtain ⟨final, hfinal, hbytes⟩ : ∃ final,
      storeNalUnit memory dPts endPos (memory.length - endPos) = .ok final ∧
        final.data.data = (memory.drop endPos).take (memory.length - endPos) :=
    storeNalUnit_eq hend (by omega) hlt
  have hall : (memory.drop endPos).take (memory.length - endPos) = memory.drop endPos :=
    List.take_of_length_le (by rw [List.length_drop])
  refine ⟨units ++ [final], ?_, ?_⟩
  · unfold splitPayloadIntoMediaSamples
    rw [if_neg (show memory.length ≠ 0 by omega), hlimit, hmemory, memcmp_append]
    refine bind_ok.mpr ⟨true, rfl, ?_⟩
    refine bind_ok.mpr ⟨(units, endPos), hloop, ?_⟩
    refine bind_ok.mpr ⟨final, ?_, rfl⟩
    rw [← hmemory, hsize]
    exact hfinal
  · rw [pendingPieces_self, hbegin] at hpieces
    rw [hpieces, unitBytes, List.map_append, List.map_singleton, hbytes, hall]
    rfl

/-- The header byte of a lone start code lies behind it. -/
theorem splitPayload_lone_iff (rest : List UInt8) :
    (∃ units, splitPayloadIntoMediaSamples (startCode ++ rest) startCode.length dPts =
      .ok units) ↔ rest ≠ [] := by
  cases rest with
  | nil =>
    have hfault : splitPayloadIntoMediaSamples (startCode ++ []) startCode.length dPts =
        .error .outOfBounds := rfl
    rw [hfault]
    simp
  | cons header rest =>
    have hunit : splitPayloadIntoMediaSamples (startCode ++ header :: rest) startCode.length dPts =
        .ok [{ presentationTime := dPts, data := .empty }] := rfl
    rw [hunit]
    simp

/-- A payload that begins with a start code is cut where the scan cuts, unless the lone start
code is all there is. -/
theorem splitPayload_scan (hcode : startCode <+: data) (hsize : data.length < 2 ^ 32)
    {rest : List UInt8} (hroom : data ++ rest ≠ startCode) :
    ∃ units, splitPayloadIntoMediaSamples (data ++ rest) data.length dPts = .ok units ∧
      unitBytes units = scan startCode (data.drop 4) := by
  obtain ⟨body, rfl⟩ := hcode
  have hbody : (startCode ++ body).drop 4 = body := rfl
  rw [hbody]
  cases body with
  | nil =>
    cases rest with
    | nil => simp at hroom
    | cons header rest =>
      refine ⟨[{ presentationTime := dPts, data := .empty }], rfl, ?_⟩
      rw [scan]
      rfl
  | cons x xs =>
    obtain ⟨units, hunits, hscan⟩ := splitPayload_scan_inside dPts (List.cons_ne_nil x xs) hsize
    exact ⟨units, splitPayload_extend hunits rest, hscan⟩

theorem splitPayload_returns_iff (hcode : startCode <+: data) (hsize : data.length < 2 ^ 32)
    (rest : List UInt8) :
    (∃ units, splitPayloadIntoMediaSamples (data ++ rest) data.length dPts = .ok units) ↔
      data ++ rest ≠ startCode := by
  constructor
  · rintro ⟨units, hunits⟩ heq
    have hlone := (splitPayload_lone_iff dPts []).not.mpr (by simp)
    have hdata : data = startCode := by
      have hle := congrArg List.length heq
      rw [List.length_append] at hle
      exact (hcode.eq_of_length_le (by omega)).symm
    subst hdata
    obtain rfl : rest = [] := List.append_right_eq_self.mp heq
    exact hlone ⟨units, hunits⟩
  · intro hroom
    obtain ⟨units, hunits, -⟩ := splitPayload_scan dPts hcode hsize hroom
    exact ⟨units, hunits⟩

/-- Whatever is returned are the pieces of the scan. -/
theorem splitPayload_unitBytes {dPts : ℚ} {rest : List UInt8} {units : List MediaSample}
    (hcode : startCode <+: data) (hsize : data.length < 2 ^ 32)
    (hunits : splitPayloadIntoMediaSamples (data ++ rest) data.length dPts = .ok units) :
    unitBytes units = scan startCode (data.drop 4) := by
  have hroom := (splitPayload_returns_iff dPts hcode hsize rest).mp ⟨units, hunits⟩
  obtain ⟨units', hunits', hscan⟩ := splitPayload_scan dPts hcode hsize hroom
  obtain rfl : units = units' := Except.ok.inj (hunits.symm.trans hunits')
  exact hscan

/-- Samples of one presentation time, given by their bytes. -/
theorem content_of_unitBytes {dPts : ℚ} {units : List MediaSample}
    (htime : ∀ unit ∈ units, unit.presentationTime = dPts) :
    units.map MediaSample.content = (unitBytes units).map fun bytes => (bytes, dPts) := by
  unfold unitBytes
  rw [List.map_map]
  refine List.map_congr_left fun unit hunit => ?_
  unfold MediaSample.content
  rw [htime unit hunit]
  rfl

/-- A payload of NAL units behind start codes comes apart into these NAL units. -/
theorem splitPayload_nalUnits (nalUnits : List (List UInt8)) (rest : List UInt8) (dPts : ℚ)
    (hne : nalUnits ≠ []) (hunits : ∀ nalUnit ∈ nalUnits, nalUnit ≠ [] ∧ ¬ startCode <:+: nalUnit)
    (hsize : (join startCode nalUnits).length < 2 ^ 32) :
    ∃ units, splitPayloadIntoMediaSamples (join startCode nalUnits ++ rest)
        (join startCode nalUnits).length dPts = .ok units ∧
      units.map MediaSample.content = nalUnits.map fun nalUnit => (nalUnit, dPts) := by
  obtain ⟨first, later, rfl⟩ := List.exists_cons_of_ne_nil hne
  have hfree : ∀ nalUnit ∈ first :: later, ¬ startCode <:+: nalUnit :=
    fun nalUnit hmem => (hunits nalUnit hmem).2
  have hcut : cut startCode (first ++ join startCode later) = first :: later :=
    cut_join startCode_unbordered hfree
  have hscan : scan startCode (first ++ join startCode later) = first :: later := by
    rw [(scan_eq_cut_iff startCode_unbordered _).mpr, hcut]
    rw [hcut]
    intro nalUnit hmem
    exact (hunits nalUnit (List.mem_cons_of_mem _ hmem)).1
  have hcode : startCode <+: join startCode (first :: later) := ⟨_, (join_cons _ _ _).symm⟩
  have hdrop : (join startCode (first :: later)).drop 4 = first ++ join startCode later := by
    rw [join_cons]
    rfl
  have hroom : join startCode (first :: later) ++ rest ≠ startCode := by
    intro heq
    have hlength := congrArg List.length heq
    have hpos := List.length_pos_of_ne_nil (hunits first (by simp)).1
    rw [join_cons, List.append_assoc, List.length_append, List.append_assoc,
      List.length_append] at hlength
    omega
  obtain ⟨units, hsplit, hbytes⟩ := splitPayload_scan dPts hcode hsize hroom
  refine ⟨units, hsplit, ?_⟩
  rw [content_of_unitBytes (splitPayload_presentationTime hsplit), hbytes, hdrop, hscan]

theorem splitPayload_nalUnits_two : ∃ units, splitPayloadIntoMediaSamples
      (join startCode [[0x65, 0, 0], [0x41]] ++ []) (join startCode [[0x65, 0, 0], [0x41]]).length
        2 = .ok units ∧
    units.map MediaSample.content = [[0x65, 0, 0], [0x41]].map fun nalUnit => (nalUnit, 2) :=
  splitPayload_nalUnits [[0x65, 0, 0], [0x41]] [] 2 (by decide) (by decide) (by decide)

/-- No byte of the payload is lost, duplicated or moved. The call returns unless a lone start
code is all there is. -/
theorem splitPayload_conserves (data rest : List UInt8) (dPts : ℚ) (hcode : startCode <+: data)
    (hsize : data.length < 2 ^ 32) :
    (∀ units, splitPayloadIntoMediaSamples (data ++ rest) data.length dPts = .ok units →
        join startCode (unitBytes units) = data) ∧
      ((∃ units, splitPayloadIntoMediaSamples (data ++ rest) data.length dPts = .ok units) ↔
        data ++ rest ≠ startCode) := by
  have hreturns := splitPayload_returns_iff dPts hcode hsize rest
  refine ⟨fun units hunits => ?_, hreturns⟩
  have hscan := splitPayload_unitBytes hcode hsize hunits
  obtain ⟨body, rfl⟩ := hcode
  rw [hscan, join_scan startCode_unbordered]
  rfl

theorem splitPayload_conserves_malformed :
    (∀ units, splitPayloadIntoMediaSamples (startCode ++ startCode ++ [0x65] ++ []) 9 0 =
        .ok units → join startCode (unitBytes units) = startCode ++ startCode ++ [0x65]) ∧
      ((∃ units, splitPayloadIntoMediaSamples (startCode ++ startCode ++ [0x65] ++ []) 9 0 =
        .ok units) ↔ startCode ++ startCode ++ [0x65] ++ [] ≠ startCode) :=
  splitPayload_conserves (startCode ++ startCode ++ [0x65]) [] 0 (by decide) (by decide)

/-- The payload behind its first start code, cut at every start code. -/
def referenceSplit (data : List UInt8) : List (List UInt8) := cut startCode (data.drop 4)

/-- Behind the first start code none ends the payload, and none directly follows another. -/
def Separated (data : List UInt8) : Prop :=
  ¬ startCode <:+ data.drop 4 ∧ ¬ startCode ++ startCode <:+: data.drop 4

instance (data : List UInt8) : Decidable (Separated data) := by
  unfold Separated
  infer_instance

/-- The splitter is the reference splitter for separated payloads only. -/
theorem splitPayload_reference_iff (data rest : List UInt8) (dPts : ℚ)
    (hcode : startCode <+: data) (hsize : data.length < 2 ^ 32) :
    (∃ units, splitPayloadIntoMediaSamples (data ++ rest) data.length dPts = .ok units ∧
        units.map MediaSample.content = (referenceSplit data).map (fun bytes => (bytes, dPts)) ∧
        ∀ unit ∈ units, ¬ startCode <:+: unit.data.data) ↔
      Separated data ∧ data ++ rest ≠ startCode := by
  unfold Separated
  rw [← tail_ne_nil_iff startCode_unbordered, ← scan_eq_cut_iff startCode_unbordered]
  constructor
  · rintro ⟨units, hunits, hcontent, -⟩
    have hroom := (splitPayload_returns_iff dPts hcode hsize rest).mp ⟨units, hunits⟩
    have hscan := splitPayload_unitBytes hcode hsize hunits
    refine ⟨?_, hroom⟩
    have hbytes := congrArg (List.map Prod.fst) hcontent
    rw [List.map_map, List.map_map] at hbytes
    rw [← hscan]
    exact hbytes.trans (List.map_id _)
  · rintro ⟨hsame, hroom⟩
    obtain ⟨units, hunits, hscan⟩ := splitPayload_scan dPts hcode hsize hroom
    refine ⟨units, hunits, ?_, ?_⟩
    · rw [content_of_unitBytes (splitPayload_presentationTime hunits), hscan, hsame]
      rfl
    · intro unit hunit
      obtain ⟨p, ps, hcut, -, hfree⟩ := cut_spec startCode_unbordered (data.drop 4)
      refine hfree _ ?_
      rw [← hcut, ← hsame, ← hscan]
      exact List.mem_map_of_mem hunit

theorem splitPayload_reference_two : ∃ units,
    splitPayloadIntoMediaSamples (startCode ++ [0x65] ++ startCode ++ [0x41] ++ []) 10 0 =
        .ok units ∧
      units.map MediaSample.content =
        (referenceSplit (startCode ++ [0x65] ++ startCode ++ [0x41])).map (fun bytes => (bytes, 0)) ∧
      ∀ unit ∈ units, ¬ startCode <:+: unit.data.data :=
  (splitPayload_reference_iff (startCode ++ [0x65] ++ startCode ++ [0x41]) [] 0 (by decide)
    (by decide)).mpr (by decide)

/-- Of two start codes in a row the second goes to the payload, and so does one at the end. -/
theorem startCodes_missed :
    ((splitPayloadIntoMediaSamples (startCode ++ [0x65] ++ startCode ++ startCode ++ [0x41]) 14
          0).toOption.map unitBytes = some [[0x65], startCode ++ [0x41]] ∧
        referenceSplit (startCode ++ [0x65] ++ startCode ++ startCode ++ [0x41]) =
          [[0x65], [], [0x41]]) ∧
      (splitPayloadIntoMediaSamples (startCode ++ [0x65] ++ startCode) 9 0).toOption.map unitBytes =
          some [[0x65] ++ startCode] ∧
        referenceSplit (startCode ++ [0x65] ++ startCode) = [[0x65], []] := by
  decide +kernel

/-- Every NAL unit has a header byte when the payload is more than a start code and no second
start code follows the first directly. -/
theorem splitPayload_header_iff (data rest : List UInt8) (dPts : ℚ)
    (hcode : startCode <+: data) (hsize : data.length < 2 ^ 32) :
    (∃ units, splitPayloadIntoMediaSamples (data ++ rest) data.length dPts = .ok units ∧
        ∀ unit ∈ units, unit.data.data ≠ [] ∧
          ∃ header, readByte unit.data.data 0 = .ok header) ↔
      data.drop 4 ≠ [] ∧ (startCode <+: data.drop 4 → data.drop 4 = startCode) := by
  have hheader : ∀ bytes : List UInt8, bytes ≠ [] → ∃ header, readByte bytes 0 = .ok header := by
    intro bytes hne
    obtain ⟨header, tail, rfl⟩ := List.exists_cons_of_ne_nil hne
    exact ⟨header, rfl⟩
  rw [← scan_ne_nil_iff startCode_unbordered]
  constructor
  · rintro ⟨units, hunits, hne⟩ bytes hmem
    rw [← splitPayload_unitBytes hcode hsize hunits] at hmem
    obtain ⟨unit, hunit, rfl⟩ := List.mem_map.mp hmem
    exact (hne unit hunit).1
  · intro hne
    have hbody := ((scan_ne_nil_iff startCode_unbordered _).mp hne).1
    have hroom : data ++ rest ≠ startCode := by
      intro heq
      have hlength := congrArg List.length heq
      have hfour : startCode.length = 4 := rfl
      rw [List.length_append] at hlength
      exact hbody (List.drop_eq_nil_of_le (by omega))
    obtain ⟨units, hunits, hscan⟩ := splitPayload_scan dPts hcode hsize hroom
    refine ⟨units, hunits, fun unit hunit => ?_⟩
    have hbytes : unit.data.data ≠ [] := by
      refine hne _ ?_
      rw [← hscan]
      exact List.mem_map_of_mem hunit
    exact ⟨hbytes, hheader _ hbytes⟩

theorem splitPayload_header_two : ∃ units,
    splitPayloadIntoMediaSamples (startCode ++ [0x65] ++ startCode ++ startCode ++ []) 13 0 =
        .ok units ∧
      ∀ unit ∈ units, unit.data.data ≠ [] ∧ ∃ header, readByte unit.data.data 0 = .ok header :=
  (splitPayload_header_iff (startCode ++ [0x65] ++ startCode ++ startCode) [] 0 (by decide)
    (by decide)).mpr (by decide)

/-- A second start code at once, and a start code alone: an empty NAL unit, whose header byte
lies behind it. -/
theorem empty_nalUnit_stored :
    ((splitPayloadIntoMediaSamples (startCode ++ startCode ++ [0x65]) 9 0).toOption.map unitBytes =
        some [[], [0x65]] ∧ readByte [] 0 = .error .outOfBounds) ∧
      (splitPayloadIntoMediaSamples (startCode ++ [0x65]) 4 0).toOption.map unitBytes =
          some [[]] ∧
        splitPayloadIntoMediaSamples startCode 4 0 = .error .outOfBounds := by
  decide +kernel

end Payload

end LiveMediaExt.Media
