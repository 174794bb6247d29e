import Mathlib

/-!
# The special header of AMR packets

In octet-aligned mode a packet begins with a payload header and a table of contents with an entry
for each frame, in which every entry but the last has its F bit set. The sink reserves room for
the entries of a full packet and sets the bits as if every packet became full.
-/
namespace LiveMediaExt.Sinks

def audioFramesPerRtpFrame : ℕ := 5

def specialHeaderSize : ℕ := 1 + audioFramesPerRtpFrame

/-- A packet under construction: the reserved special header, the frames behind it, their number
and the marker bit. -/
structure AmrPacket where
  specialHeader : List UInt8
  payload : List UInt8
  numFramesUsedSoFar : ℕ
  marker : Bool
  length_specialHeader : specialHeader.length = specialHeaderSize
  deriving DecidableEq

/-- A frame that the source delivers, with its header, and whether the packet has room for it
behind other frames. -/
structure AmrFrame where
  lastFrameHeader : UInt8
  data : List UInt8
  fits : Bool

namespace AmrPacket

/-- The bytes reserved for the special header are those of an earlier packet. -/
def start (stale : Vector UInt8 specialHeaderSize) : AmrPacket :=
  ⟨stale.toList, [], 0, false, stale.length_toList⟩

def isFirstFrameInPacket (packet : AmrPacket) : Bool := packet.numFramesUsedSoFar == 0

def setSpecialHeaderByte (packet : AmrPacket) (byte : UInt8) (bytePosition : ℕ) : AmrPacket :=
  { packet with
    specialHeader := packet.specialHeader.set bytePosition byte
    length_specialHeader := by rw [List.length_set, packet.length_specialHeader] }

/-- The source is looked up for the header of the frame; there may be none. -/
def doSpecialFrameHandling (isFirstPacket : Bool) (lastFrameHeader : Option UInt8)
    (packet : AmrPacket) : AmrPacket :=
  let packet :=
    if isFirstPacket && packet.isFirstFrameInPacket then { packet with marker := true }
    else packet
  let packet :=
    if packet.isFirstFrameInPacket then packet.setSpecialHeaderByte 0xF0 0 else packet
  match lastFrameHeader with
  | none => packet
  | some toc =>
    let toc :=
      if packet.numFramesUsedSoFar < audioFramesPerRtpFrame - 1 then toc ||| 0x80
      else toc &&& ~~~0x80
    packet.setSpecialHeaderByte toc (1 + packet.numFramesUsedSoFar)

def frameCanAppearAfterPacketStart (packet : AmrPacket) : Bool :=
  packet.numFramesUsedSoFar < audioFramesPerRtpFrame

/-- The base class puts the frame behind those in the packet. -/
def addFrame (isFirstPacket : Bool) (packet : AmrPacket) (frame : AmrFrame) : AmrPacket :=
  let packet := packet.doSpecialFrameHandling isFirstPacket (some frame.lastFrameHeader)
  { packet with
    payload := packet.payload ++ frame.data
    numFramesUsedSoFar := packet.numFramesUsedSoFar + 1 }

/-- A packet takes its first frame in any case, and further ones until the limit, the end of the
room or the end of the source closes it. -/
def packFrames (isFirstPacket : Bool) (packet : AmrPacket) : List AmrFrame → AmrPacket
  | [] => packet
  | frame :: rest =>
    if packet.isFirstFrameInPacket || (packet.frameCanAppearAfterPacketStart && frame.fits) then
      packFrames isFirstPacket (packet.addFrame isFirstPacket frame) rest
    else packet

def bytes (packet : AmrPacket) : List UInt8 := packet.specialHeader ++ packet.payload

end AmrPacket

/-- The F bit of an entry: another one follows. -/
def followedByAnother (toc : UInt8) : Bool := toc &&& 0x80 != 0

/-- The format's reader of the table of contents, with what lies behind it. -/
def readToc : List UInt8 → Option (List UInt8 × List UInt8)
  | [] => none
  | toc :: rest =>
    if followedByAnother toc then (readToc rest).map fun result => (toc :: result.1, result.2)
    else some ([toc], rest)

/-- The payload header, the table of contents and the speech frames. -/
def readPayload : List UInt8 → Option (UInt8 × List UInt8 × List UInt8)
  | [] => none
  | payloadHeader :: rest => (readToc rest).map fun result => (payloadHeader, result)

section Reader
variable {entries rest : List UInt8}

/-- The reader takes every entry up to the first without the bit. -/
theorem readToc_append {tocs : List UInt8} {n : ℕ} (hlength : tocs.length = n + 1)
    (hflags : ∀ i < n + 1, ∃ toc, tocs[i]? = some toc ∧ followedByAnother toc = decide (i < n))
    (rest : List UInt8) : readToc (tocs ++ rest) = some (tocs, rest) := by
  induction n generalizing tocs with
  | zero =>
    obtain ⟨toc, rfl⟩ := List.length_eq_one_iff.mp hlength
    obtain ⟨toc', htoc, hlast⟩ := hflags 0 (by omega)
    obtain rfl : toc = toc' := by simpa using htoc
    simp [readToc, hlast]
  | succ n ih =>
    obtain ⟨toc, tocs, rfl⟩ := List.exists_cons_of_length_eq_add_one hlength
    obtain ⟨toc', htoc, hmore⟩ := hflags 0 (by omega)
    obtain rfl : toc = toc' := by simpa using htoc
    have hrest : readToc (tocs ++ rest) = some (tocs, rest) := by
      apply ih (by simpa using hlength)
      intro i hi
      obtain ⟨next, hnext, hflag⟩ := hflags (i + 1) (by omega)
      exact ⟨next, by simpa using hnext, by simpa using hflag⟩
    simp [readToc, hmore, hrest]

/-- What it takes has the bit set in every entry but the last, and nothing is left out. -/
theorem readToc_entries {input : List UInt8} (h : readToc input = some (entries, rest)) :
    input = entries ++ rest ∧ ∃ init last, entries = init ++ [last] ∧
      (∀ toc ∈ init, followedByAnother toc = true) ∧ followedByAnother last = false := by
  induction input generalizing entries with
  | nil => cases h
  | cons toc input ih =>
    rw [readToc] at h
    split_ifs at h with htoc
    · obtain ⟨result, hresult, heq⟩ := Option.map_eq_some_iff.mp h
      obtain ⟨rfl, rfl⟩ := Prod.mk.inj heq
      obtain ⟨hinput, init, last, hentries, hinit, hlast⟩ := ih hresult
      refine ⟨by rw [hinput, List.cons_append], toc :: init, last, ?_, ?_, hlast⟩
      · rw [hentries, List.cons_append]
      · exact List.forall_mem_cons.mpr ⟨htoc, hinit⟩
    · obtain ⟨rfl, rfl⟩ := Prod.mk.inj (Option.some.inj h)
      exact ⟨rfl, [], toc, rfl, by simp, by simpa using htoc⟩

end Reader

namespace AmrPacket

/-- The packet reads back as the payload header, one entry for each of its frames, and the frames
right behind the entries. -/
def ReadsBack (packet : AmrPacket) : Prop :=
  ∃ entries, readPayload packet.bytes = some (0xF0, entries, packet.payload) ∧
    entries.length = packet.numFramesUsedSoFar

/-- What is written for the frames taken so far: the F bits are those of a full packet. -/
structure Filled (packet : AmrPacket) : Prop where
  count_le : packet.numFramesUsedSoFar ≤ audioFramesPerRtpFrame
  payloadHeader : 0 < packet.numFramesUsedSoFar → packet.specialHeader[0]? = some 0xF0
  toc : ∀ i < packet.numFramesUsedSoFar, ∃ toc, packet.specialHeader[1 + i]? = some toc ∧
    followedByAnother toc = decide (i < audioFramesPerRtpFrame - 1)

section Writer
variable {isFirstPacket : Bool} {packet : AmrPacket} {frame : AmrFrame}

theorem start_filled (stale : Vector UInt8 specialHeaderSize) : (start stale).Filled :=
  ⟨Nat.zero_le _, fun h => absurd h (lt_irrefl _), fun _ h => absurd h (Nat.not_lt_zero _)⟩

theorem followedByAnother_set (toc : UInt8) : followedByAnother (toc ||| 0x80) = true := by
  have hbits : ∀ b : BitVec 8, ((b ||| 0x80) &&& 0x80 != 0) = true := by decide +kernel
  have hset : (toc ||| 0x80) &&& 0x80 ≠ 0 := by
    intro hzero
    have hb := hbits toc.toBitVec
    have hvec := congrArg UInt8.toBitVec hzero
    rw [bne_iff_ne] at hb
    exact hb hvec
  exact bne_iff_ne.mpr hset

theorem followedByAnother_clear (toc : UInt8) : followedByAnother (toc &&& ~~~0x80) = false := by
  have hclear : (toc &&& ~~~0x80) &&& 0x80 = 0 := by
    rw [UInt8.and_assoc]
    simp
  simp [followedByAnother, hclear]

/-- The entry of the next frame. -/
def nextToc (packet : AmrPacket) (lastFrameHeader : UInt8) : UInt8 :=
  if packet.numFramesUsedSoFar < audioFramesPerRtpFrame - 1 then lastFrameHeader ||| 0x80
  else lastFrameHeader &&& ~~~0x80

theorem followedByAnother_nextToc (packet : AmrPacket) (lastFrameHeader : UInt8) :
    followedByAnother (packet.nextToc lastFrameHeader) =
      decide (packet.numFramesUsedSoFar < audioFramesPerRtpFrame - 1) := by
  unfold nextToc
  split_ifs with hmore
  · rw [followedByAnother_set, decide_eq_true hmore]
  · rw [followedByAnother_clear, decide_eq_false hmore]

/-- What a frame adds to the special header. -/
theorem addFrame_specialHeader (isFirstPacket : Bool) (packet : AmrPacket) (frame : AmrFrame) :
    (packet.addFrame isFirstPacket frame).specialHeader =
      (if packet.isFirstFrameInPacket then packet.specialHeader.set 0 0xF0
        else packet.specialHeader).set (1 + packet.numFramesUsedSoFar)
          (packet.nextToc frame.lastFrameHeader) := by
  unfold addFrame doSpecialFrameHandling nextToc
  cases hfirst : packet.isFirstFrameInPacket with
  | true =>
    have hzero : packet.numFramesUsedSoFar = 0 := by simpa [isFirstFrameInPacket] using hfirst
    cases isFirstPacket with
    | true => simp [isFirstFrameInPacket, setSpecialHeaderByte, hzero]
    | false => simp [hfirst, setSpecialHeaderByte]
  | false => simp [hfirst, setSpecialHeaderByte]

theorem addFrame_count (isFirstPacket : Bool) (packet : AmrPacket) (frame : AmrFrame) :
    (packet.addFrame isFirstPacket frame).numFramesUsedSoFar = packet.numFramesUsedSoFar + 1 := by
  unfold addFrame doSpecialFrameHandling setSpecialHeaderByte
  dsimp only
  split_ifs <;> rfl

theorem addFrame_filled (h : packet.Filled)
    (hlimit : packet.numFramesUsedSoFar < audioFramesPerRtpFrame) (frame : AmrFrame) :
    (packet.addFrame isFirstPacket frame).Filled := by
  have hlength := packet.length_specialHeader
  have hcount := addFrame_count isFirstPacket packet frame
  have hheader := addFrame_specialHeader isFirstPacket packet frame
  have hsize : specialHeaderSize = 1 + audioFramesPerRtpFrame := rfl
  refine ⟨by omega, fun _ => ?_, fun i hi => ?_⟩
  · rw [hheader, List.getElem?_set_ne (by omega)]
    split_ifs with hfirst
    · rw [List.getElem?_set_self (by omega)]
    · apply h.payloadHeader
      simpa [isFirstFrameInPacket, Nat.pos_iff_ne_zero] using hfirst
  · rw [hcount] at hi
    rw [hheader]
    by_cases hnew : i = packet.numFramesUsedSoFar
    · have hinside : 1 + packet.numFramesUsedSoFar < (if packet.isFirstFrameInPacket then
          packet.specialHeader.set 0 0xF0 else packet.specialHeader).length := by
        split_ifs
        · rw [List.length_set]
          omega
        · omega
      rw [hnew, List.getElem?_set_self hinside]
      exact ⟨_, rfl, followedByAnother_nextToc packet frame.lastFrameHeader⟩
    · obtain ⟨toc, htoc, hfollowed⟩ := h.toc i (by omega)
      refine ⟨toc, ?_, hfollowed⟩
      rw [List.getElem?_set_ne (by omega)]
      split_ifs
      · rw [List.getElem?_set_ne (by omega), htoc]
      · exact htoc

theorem packFrames_filled (h : packet.Filled) (isFirstPacket : Bool) (frames : List AmrFrame) :
    (packet.packFrames isFirstPacket frames).Filled := by
  induction frames generalizing packet with
  | nil => exact h
  | cons frame rest ih =>
    rw [packFrames]
    split_ifs with htaken
    · have hlimit : packet.numFramesUsedSoFar < audioFramesPerRtpFrame := by
        rcases Bool.or_eq_true_iff.mp htaken with hfirst | hmore
        · have hzero : packet.numFramesUsedSoFar = 0 := by
            simpa [isFirstFrameInPacket] using hfirst
          rw [hzero]
          decide
        · have hroom := (Bool.and_eq_true_iff.mp hmore).1
          simpa [frameCanAppearAfterPacketStart] using hroom
      exact ih (addFrame_filled h hlimit frame)
    · exact h

theorem count_le_packFrames (isFirstPacket : Bool) (packet : AmrPacket)
    (frames : List AmrFrame) :
    packet.numFramesUsedSoFar ≤ (packet.packFrames isFirstPacket frames).numFramesUsedSoFar := by
  induction frames generalizing packet with
  | nil => exact le_rfl
  | cons frame rest ih =>
    rw [packFrames]
    split_ifs
    · have hmore := ih (packet.addFrame isFirstPacket frame)
      rw [addFrame_count] at hmore
      omega
    · exact le_rfl

/-- The special header is a payload header with room for five entries. -/
theorem exists_specialHeader (packet : AmrPacket) :
    ∃ payloadHeader tocs, packet.specialHeader = payloadHeader :: tocs ∧
      tocs.length = audioFramesPerRtpFrame := by
  have hlength := packet.length_specialHeader
  cases hheader : packet.specialHeader with
  | nil =>
    rw [hheader] at hlength
    cases hlength
  | cons payloadHeader tocs =>
    rw [hheader] at hlength
    exact ⟨payloadHeader, tocs, rfl, Nat.succ_injective hlength⟩

/-- The reserved header has an entry for each of five frames, so a packet with fewer reads back
with others behind them. -/
theorem Filled.readsBack_iff (h : packet.Filled) :
    packet.ReadsBack ↔ packet.numFramesUsedSoFar = audioFramesPerRtpFrame := by
  obtain ⟨payloadHeader, tocs, hheader, hlength⟩ := packet.exists_specialHeader
  constructor
  · rintro ⟨entries, hread, hentries⟩
    rw [bytes, hheader, List.cons_append, readPayload] at hread
    obtain ⟨result, hresult, heq⟩ := Option.map_eq_some_iff.mp hread
    obtain ⟨-, rfl⟩ := Prod.mk.inj heq
    obtain ⟨hinput, -⟩ := readToc_entries hresult
    have htotal := congrArg List.length hinput
    simp only [List.length_append] at htotal
    omega
  · intro hfull
    have hfirst := h.payloadHeader (by rw [hfull]; decide)
    have htocs := h.toc
    rw [hheader] at hfirst htocs
    obtain rfl : payloadHeader = 0xF0 := by simpa using hfirst
    have hread : readToc (tocs ++ packet.payload) = some (tocs, packet.payload) := by
      apply readToc_append (n := audioFramesPerRtpFrame - 1)
      · exact hlength
      · intro i hi
        obtain ⟨toc, htoc, hflag⟩ := htocs i (by rw [hfull]; exact hi)
        exact ⟨toc, by rwa [Nat.add_comm, List.getElem?_cons_succ] at htoc, hflag⟩
    refine ⟨tocs, ?_, hlength.trans hfull.symm⟩
    rw [bytes, hheader, List.cons_append, readPayload, hread]
    rfl

end Writer

/-- Whatever the headers, what is packed holds one to five frames, and it reads back exactly when
it holds five. -/
theorem packet_readsBack_iff (isFirstPacket : Bool) (stale : Vector UInt8 specialHeaderSize)
    (first : AmrFrame) (rest : List AmrFrame) :
    0 < ((start stale).packFrames isFirstPacket (first :: rest)).numFramesUsedSoFar ∧
      ((start stale).packFrames isFirstPacket (first :: rest)).numFramesUsedSoFar ≤
        audioFramesPerRtpFrame ∧
      (((start stale).packFrames isFirstPacket (first :: rest)).ReadsBack ↔
        ((start stale).packFrames isFirstPacket (first :: rest)).numFramesUsedSoFar =
          audioFramesPerRtpFrame) := by
  have hfilled := packFrames_filled (start_filled stale) isFirstPacket (first :: rest)
  refine ⟨?_, hfilled.count_le, hfilled.readsBack_iff⟩
  have htaken : (start stale).packFrames isFirstPacket (first :: rest) =
      ((start stale).addFrame isFirstPacket first).packFrames isFirstPacket rest := by
    simp [packFrames, isFirstFrameInPacket, start]
  have hcount := count_le_packFrames isFirstPacket ((start stale).addFrame isFirstPacket first) rest
  rw [addFrame_count] at hcount
  rw [htaken]
  omega

/-- One frame of three bytes: its entry says that another one follows. -/
theorem single_frame_misread :
    readPayload ((start (.replicate specialHeaderSize 0)).packFrames true
        [⟨0x44, [1, 2, 3], true⟩]).bytes = some (0xF0, [0xC4, 0], [0, 0, 0, 1, 2, 3]) ∧
      ¬ ((start (.replicate specialHeaderSize 0)).packFrames true
        [⟨0x44, [1, 2, 3], true⟩]).ReadsBack := by
  have hread : readPayload ((start (.replicate specialHeaderSize 0)).packFrames true
      [⟨0x44, [1, 2, 3], true⟩]).bytes = some (0xF0, [0xC4, 0], [0, 0, 0, 1, 2, 3]) := by
    decide +kernel
  refine ⟨hread, ?_⟩
  rintro ⟨entries, hentries, hlength⟩
  rw [hread] at hentries
  obtain rfl : [0xC4, 0] = entries := (Prod.mk.inj (Prod.mk.inj (Option.some.inj hentries)).2).1
  revert hlength
  decide

end AmrPacket

end LiveMediaExt.Sinks
