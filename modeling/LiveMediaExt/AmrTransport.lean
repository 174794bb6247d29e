import LiveMediaExt.AmrPackets
import LiveMediaExt.AmrRetrieval

/-!
# From AMR samples to packets and back

The frames that the sink is handed are packed one after the other, and a packet is sent when it
takes no more. A receiver reads the table of contents of a packet and cuts the speech data into
frames of the sizes that the entries stand for. With one header for all samples it gets back the
samples, five by five.
-/
namespace LiveMediaExt.Sinks
open Execution Media Sources Sources.LiveDeviceSource

/-- The packets sent so far and the one under construction. -/
structure LiveAMRAudioRTPSink where
  sent : List AmrPacket
  packet : AmrPacket

namespace LiveAMRAudioRTPSink
variable (stale : ℕ → Vector UInt8 specialHeaderSize)

/-- The reserved bytes of a packet are what is left in the buffer. -/
def start : LiveAMRAudioRTPSink := ⟨[], .start (stale 0)⟩

def isFirstPacket (sink : LiveAMRAudioRTPSink) : Bool := sink.sent.isEmpty

end LiveAMRAudioRTPSink

/-- A header and the data that the tables ask for. -/
def AmrFrame.Valid (isWideband : Bool) (frame : AmrFrame) : Prop :=
  frame.lastFrameHeader &&& 0x83 = 0 ∧
    tableSize isWideband frame.lastFrameHeader ≠ ftInvalid ∧
    frame.data.length = tableSize isWideband frame.lastFrameHeader

def AmrFrame.bytes (frame : AmrFrame) : List UInt8 := frame.lastFrameHeader :: frame.data

/-- The entry of the i-th frame of a packet. -/
def tocEntry (i : ℕ) (lastFrameHeader : UInt8) : UInt8 :=
  if i < audioFramesPerRtpFrame - 1 then lastFrameHeader ||| 0x80 else lastFrameHeader &&& ~~~0x80

def tocEntries : ℕ → List AmrFrame → List UInt8
  | _, [] => []
  | i, frame :: frames => tocEntry i frame.lastFrameHeader :: tocEntries (i + 1) frames

section Entries
variable {isWideband : Bool} {header : UInt8}

theorem tocEntries_append (i : ℕ) (frames : List AmrFrame) (frame : AmrFrame) :
    tocEntries i (frames ++ [frame]) =
      tocEntries i frames ++ [tocEntry (i + frames.length) frame.lastFrameHeader] := by
  induction frames generalizing i with
  | nil => rfl
  | cons first frames ih =>
    rw [List.cons_append, tocEntries, ih, tocEntries, List.cons_append, List.length_cons,
      Nat.add_right_comm, Nat.add_assoc]

end Entries

/-- What a packet has of the frames it took. -/
structure AmrPacket.Has (packet : AmrPacket) (frames : List AmrFrame) : Prop where
  count : packet.numFramesUsedSoFar = frames.length
  payload : packet.payload = frames.flatMap AmrFrame.data
  header : frames ≠ [] →
    packet.specialHeader.take (1 + frames.length) = 0xF0 :: tocEntries 0 frames

section Packets
variable {packet : AmrPacket} {frames : List AmrFrame} {isWideband : Bool}

theorem take_set_succ {α : Type*} {l : List α} {n : ℕ} (hn : n < l.length) (a : α) :
    (l.set n a).take (n + 1) = l.take n ++ [a] := by
  rw [List.take_add_one, List.getElem?_set_self hn, List.take_set_of_le (le_refl n)]
  rfl

theorem AmrPacket.Has.addFrame (h : packet.Has frames)
    (hroom : frames.length < audioFramesPerRtpFrame) (isFirstPacket : Bool) (frame : AmrFrame) :
    (packet.addFrame isFirstPacket frame).Has (frames ++ [frame]) where
  count := by
    rw [AmrPacket.addFrame_count, h.count, List.length_append, List.length_singleton]
  payload := by
    have hpayload : (packet.addFrame isFirstPacket frame).payload = packet.payload ++ frame.data := by
      unfold AmrPacket.addFrame AmrPacket.doSpecialFrameHandling AmrPacket.setSpecialHeaderByte
      dsimp only
      split_ifs <;> rfl
    rw [hpayload, h.payload, List.flatMap_append, List.flatMap_singleton]
  header := by
    intro _
    have hlength := packet.length_specialHeader
    have hsize : specialHeaderSize = 1 + audioFramesPerRtpFrame := rfl
    have hentry : packet.nextToc frame.lastFrameHeader =
        tocEntry frames.length frame.lastFrameHeader := by
      unfold AmrPacket.nextToc tocEntry
      rw [h.count]
    rw [AmrPacket.addFrame_specialHeader, hentry, h.count, List.length_append,
      List.length_singleton, ← Nat.add_assoc, take_set_succ, tocEntries_append, Nat.zero_add,
      ← List.cons_append]
    · congr 1
      unfold AmrPacket.isFirstFrameInPacket
      rw [h.count]
      cases frames with
      | nil =>
        have hfirst := take_set_succ (l := packet.specialHeader) (n := 0) (by omega) (0xF0 : UInt8)
        simpa [tocEntries] using hfirst
      | cons first rest => exact h.header (List.cons_ne_nil _ _)
    · split_ifs
      · rw [List.length_set]
        omega
      · omega

end Packets

/-- The sink has sent the frames five by five, and holds what is left of them. -/
structure LiveAMRAudioRTPSink.Has (sink : LiveAMRAudioRTPSink) (groups : List (List AmrFrame))
    (rest : List AmrFrame) : Prop where
  sent : List.Forall₂ AmrPacket.Has sink.sent groups
  full : ∀ group ∈ groups, group.length = audioFramesPerRtpFrame
  packet : sink.packet.Has rest
  room : rest.length < audioFramesPerRtpFrame

section Packing
variable {sink : LiveAMRAudioRTPSink} {frames : List AmrFrame} {isWideband : Bool}

end Packing

/-- The destination takes frames up to the size, also when the lengths are `int`s. -/
def Roomy (size : ℕ) (fTo : List UInt8) : Prop := size ≤ fTo.length ∧ fTo.length < 2 ^ 31

/-- Every request that the sink makes in an event has room. -/
def HasRoom (size : ℕ) : AmrEvent → Prop
  | .arrival _ _ world => ∀ n request, (world n).next = some request → Roomy size request.fTo
  | .getNextFrame request world => Roomy size request.fTo ∧
    ∀ n request', (world n).next = some request' → Roomy size request'.fTo
  | .stopGettingFrames => True

section Source
variable {src t : LiveDeviceSource} {size : ℕ} {world : ℕ → Delivery} {isWideband : Bool}
  {header : UInt8}

end Source

/-- An AMR frame with the header. -/
def OfMode (isWideband : Bool) (header : UInt8) (mediaSample : MediaSample) : Prop :=
  IsAmrFrame isWideband mediaSample ∧ mediaSample.data.data.head? = some header

section Mode
variable {isWideband : Bool} {header : UInt8} {mediaSample : MediaSample}

theorem OfMode.bytes (h : OfMode isWideband header mediaSample) :
    ∃ data, mediaSample.data.data = header :: data ∧
      (AmrFrame.mk header data true).Valid isWideband := by
  obtain ⟨hframe, hhead⟩ := h
  unfold IsAmrFrame at hframe
  cases hdata : mediaSample.data.data with
  | nil =>
    rw [hdata] at hhead
    cases hhead
  | cons first data =>
    rw [hdata] at hframe hhead
    obtain rfl : first = header := Option.some.inj hhead
    exact ⟨data, rfl, hframe⟩

theorem OfMode.size (h : OfMode isWideband header mediaSample) :
    mediaSample.getMediaSize - 1 = tableSize isWideband header := by
  obtain ⟨data, hdata, -, -, hlength⟩ := h.bytes
  have hsize : mediaSample.getMediaSize = (header :: data).length := congrArg List.length hdata
  rw [hsize, List.length_cons, Nat.add_sub_cancel, hlength]

theorem tableSize_lt (isWideband : Bool) (header : UInt8) :
    tableSize isWideband header < 2 ^ 31 := by
  have htables : ∀ size ∈ Sources.frameSize ++ frameSizeWideband, size < 2 ^ 31 := by decide
  unfold tableSize
  rw [List.getD_eq_getElem?_getD]
  cases hsize : (if isWideband then frameSizeWideband else
      Sources.frameSize)[((header &&& 0x78) >>> 3).toNat]? with
  | none => decide
  | some size =>
    have hmem := List.mem_of_getElem? hsize
    apply htables
    cases isWideband with
    | true => exact List.mem_append_right _ hmem
    | false => exact List.mem_append_left _ hmem

theorem OfMode.fits (h : OfMode isWideband header mediaSample) {fTo : List UInt8}
    (hroom : Roomy (tableSize isWideband header) fTo) : Fits fTo mediaSample := by
  unfold Fits
  rw [h.size, int32_of_lt (tableSize_lt isWideband header), int32_of_lt hroom.2]
  exact Int.ofNat_le.mpr hroom.1

variable {events : List AmrEvent} {src : LiveDeviceSource} {e : AmrEvent}

end Mode

end LiveMediaExt.Sinks
