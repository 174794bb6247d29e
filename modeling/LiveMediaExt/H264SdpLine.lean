import LiveMediaExt.Base64
import LiveMediaExt.MediaSample

/-!
# The SDP line of an H.264 subsession

The strings of the two parameter sets are printed as they are, in base64, and the profile and the
level are taken from the same string as if it held the bytes of the parameter set.
-/
namespace LiveMediaExt.Subsession
open Media Base64

/-- The bytes of a text in ASCII. -/
def ascii (s : String) : List UInt8 := s.toList.map Char.toUInt8

/-- What `%s` prints of a string. -/
def cString (s : List UInt8) : List UInt8 := s.takeWhile (· ≠ 0)

/-- What `%d` prints of a number that is not negative. -/
def decimal (n : ℕ) : List UInt8 := (Nat.toDigits 10 n).map Char.toUInt8

def hexDigit (d : ℕ) : UInt8 := if d < 10 then UInt8.ofNat (48 + d) else UInt8.ofNat (55 + d)

/-- What `%0wX` prints for a width `w`. -/
def paddedHex : ℕ → ℕ → List UInt8
  | 0, n => (Nat.digits 16 n).reverse.map hexDigit
  | width + 1, n => paddedHex width (n / 16) ++ [hexDigit (n % 16)]

/-- A `char` is signed: where it is promoted to `int`, its sign is extended. -/
def promote (c : UInt8) : UInt32 := c.toInt8.toInt32.toUInt32

/-- The number computed from the SPS string, when it is long enough to be read there. -/
def profileLevelId (sps : List UInt8) : UInt32 :=
  match sps with
  | _ :: profileIdc :: constraints :: levelIdc :: _ =>
    promote profileIdc <<< 16 ||| promote constraints <<< 8 ||| promote levelIdc
  | _ => 0

/-- The format with a text in the place of the profile and level. -/
def fmtpLine (rtpPayloadType : UInt8) (profileLevelId sps pps : List UInt8) : List UInt8 :=
  ascii "a=fmtp:" ++ decimal rtpPayloadType.toNat ++ ascii " packetization-mode=1" ++
    ascii ";profile-level-id=" ++ profileLevelId ++
    ascii ";sprop-parameter-sets=" ++ cString sps ++ ascii "," ++ cString pps ++ ascii "\r\n"

def fmtpFmt : List UInt8 :=
  ascii "a=fmtp:%d packetization-mode=1" ++ ascii ";profile-level-id=%06X" ++
    ascii ";sprop-parameter-sets=%s,%s\r\n"

/-- `sprintf` writes the line and a zero into what was allocated for it. -/
def getAuxSDPLine (rtpPayloadType : UInt8) (sps pps : List UInt8) :
    Except Fault (List UInt8) :=
  let fmtpFmtSize := fmtpFmt.length + 3 + 6 + sps.length + pps.length
  let fmtp := fmtpLine rtpPayloadType (paddedHex 6 (profileLevelId sps).toNat) sps pps
  if fmtp.length + 1 ≤ fmtpFmtSize then .ok fmtp else .error .outOfBounds

def isSps (nalUnitHeader : UInt8) : Bool := nalUnitHeader &&& 0x1f == 7

/-- Two hexadecimal digits for each byte. -/
def hexBytes (bytes : List UInt8) : List UInt8 :=
  bytes.flatMap fun b => [hexDigit (b.toNat / 16), hexDigit (b.toNat % 16)]

section Line
variable {sps pps : List UInt8}

theorem length_decimal_le (b : UInt8) : (decimal b.toNat).length ≤ 3 := by
  have hlt := b.toNat_lt
  unfold decimal
  rw [List.length_map, Nat.length_toDigits_le_iff (by norm_num) (by norm_num)]
  omega

theorem length_paddedHex (width n : ℕ) :
    (paddedHex width n).length = (Nat.digits 16 (n / 16 ^ width)).length + width := by
  induction width generalizing n with
  | zero => simp [paddedHex]
  | succ width ih =>
    rw [paddedHex, List.length_append, ih, Nat.div_div_eq_div_mul, ← pow_succ']
    rfl

theorem length_paddedHex_le (n : UInt32) : (paddedHex 6 n.toNat).length ≤ 8 := by
  have hlt := n.toNat_lt
  have hhigh : (Nat.digits 16 (n.toNat / 16 ^ 6)).length ≤ 2 := by
    rw [Nat.digits_length_le_iff (by norm_num)]
    omega
  rw [length_paddedHex]
  omega

/-- The allocation holds the longest line there can be. -/
theorem getAuxSDPLine_ok (rtpPayloadType : UInt8) (sps pps : List UInt8) :
    getAuxSDPLine rtpPayloadType sps pps =
      .ok (fmtpLine rtpPayloadType (paddedHex 6 (profileLevelId sps).toNat) sps pps) := by
  have hfmt : fmtpFmt.length = 81 := by decide +kernel
  have hstart : (ascii "a=fmtp:").length = 7 := by decide +kernel
  have hmode : (ascii " packetization-mode=1").length = 21 := by decide +kernel
  have hid : (ascii ";profile-level-id=").length = 18 := by decide +kernel
  have hsets : (ascii ";sprop-parameter-sets=").length = 22 := by decide +kernel
  have hcomma : (ascii ",").length = 1 := by decide +kernel
  have hend : (ascii "\r\n").length = 2 := by decide +kernel
  have htype := length_decimal_le rtpPayloadType
  have hhex := length_paddedHex_le (profileLevelId sps)
  have hsps : (cString sps).length ≤ sps.length := (List.takeWhile_prefix _).length_le
  have hpps : (cString pps).length ≤ pps.length := (List.takeWhile_prefix _).length_le
  unfold getAuxSDPLine
  rw [if_pos]
  unfold fmtpLine
  simp only [List.length_append]
  omega

/-- Lines of the same parameter sets differ only in their profiles and levels. -/
theorem fmtpLine_inj {rtpPayloadType : UInt8} {a b : List UInt8} :
    fmtpLine rtpPayloadType a sps pps = fmtpLine rtpPayloadType b sps pps ↔ a = b := by
  simp [fmtpLine]

end Line

section Profile
variable {nal profileIdc constraints levelIdc : UInt8}

theorem hexDigit_inj {d e : ℕ} (hd : d < 16) (he : e < 16) (h : hexDigit d = hexDigit e) :
    d = e := by
  have hall : ∀ d < 16, ∀ e < 16, hexDigit d = hexDigit e → d = e := by decide +kernel
  exact hall d hd e he h

theorem hexBytes_injective : Function.Injective hexBytes := by
  intro xs ys h
  induction xs generalizing ys with
  | nil =>
    cases ys with
    | nil => rfl
    | cons y ys => simp [hexBytes] at h
  | cons x xs ih =>
    cases ys with
    | nil => simp [hexBytes] at h
    | cons y ys =>
      have hx := x.toNat_lt
      have hy := y.toNat_lt
      simp only [hexBytes, List.flatMap_cons, List.cons_append, List.nil_append,
        List.cons.injEq] at h
      obtain ⟨hhigh, hlow, hrest⟩ := h
      have hdiv := hexDigit_inj (by omega) (by omega) hhigh
      have hmod := hexDigit_inj (by omega) (by omega) hlow
      have hsame : x = y := UInt8.toNat_inj.mp (by omega)
      rw [hsame, ih hrest]

/-- The last byte of a number makes the last two digits. -/
theorem paddedHex_byte (width n : ℕ) (b : UInt8) :
    paddedHex (width + 2) (256 * n + b.toNat) = paddedHex width n ++ hexBytes [b] := by
  have hlt := b.toNat_lt
  have hhigh : (256 * n + b.toNat) / 16 / 16 = n := by omega
  have hmiddle : (256 * n + b.toNat) / 16 % 16 = b.toNat / 16 := by omega
  have hlow : (256 * n + b.toNat) % 16 = b.toNat % 16 := by omega
  rw [paddedHex, paddedHex, hhigh, hmiddle, hlow, List.append_assoc]
  rfl

/-- A number of three bytes is printed with two digits for each. -/
theorem paddedHex_bytes (a b c : UInt8) :
    paddedHex 6 (256 * (256 * a.toNat + b.toNat) + c.toNat) = hexBytes [a, b, c] := by
  have hfirst := paddedHex_byte 0 0 a
  simp only [Nat.mul_zero, Nat.zero_add] at hfirst
  rw [paddedHex_byte 4, paddedHex_byte 2, hfirst]
  simp [paddedHex, hexBytes]

/-- A printable character has no sign bit, so its promotion keeps its value. -/
theorem promote_printable {c : UInt8} (h : Printable c) : (promote c).toNat = c.toNat := by
  have hvalues : ∀ n < 127, (promote (UInt8.ofNat n)).toNat = n := by decide +kernel
  have hc := hvalues c.toNat h.2
  rwa [UInt8.ofNat_toNat] at hc

theorem profileLevelId_printable (rest : List UInt8) (hprofile : Printable profileIdc)
    (hconstraints : Printable constraints) (hlevel : Printable levelIdc) :
    (profileLevelId (nal :: profileIdc :: constraints :: levelIdc :: rest)).toNat =
      256 * (256 * profileIdc.toNat + constraints.toNat) + levelIdc.toNat := by
  have ha := profileIdc.toNat_lt
  have hb := constraints.toNat_lt
  have hc := levelIdc.toNat_lt
  have h16 : (16 : UInt32).toNat % 32 = 16 := rfl
  have h8 : (8 : UInt32).toNat % 32 = 8 := rfl
  have hhigh := Nat.two_pow_add_eq_or_of_lt (i := 16) (b := constraints.toNat * 2 ^ 8)
    (by omega) profileIdc.toNat
  have hlow := Nat.two_pow_add_eq_or_of_lt (i := 8) (b := levelIdc.toNat)
    (by omega) (profileIdc.toNat * 2 ^ 8 + constraints.toNat)
  unfold profileLevelId
  rw [UInt32.toNat_or, UInt32.toNat_or, UInt32.toNat_shiftLeft, UInt32.toNat_shiftLeft,
    promote_printable hprofile, promote_printable hconstraints, promote_printable hlevel, h16, h8,
    Nat.shiftLeft_eq, Nat.shiftLeft_eq, Nat.mod_eq_of_lt (by omega), Nat.mod_eq_of_lt (by omega)]
  have hfirst : profileIdc.toNat * 2 ^ 16 ||| constraints.toNat * 2 ^ 8 =
      2 ^ 8 * (profileIdc.toNat * 2 ^ 8 + constraints.toNat) := by
    rw [Nat.mul_comm profileIdc.toNat, ← hhigh]
    omega
  rw [hfirst, ← hlow]
  omega

/-- From the text of an SPS in base64 the codes of its second, third and fourth character are
printed. -/
theorem getAuxSDPLine_encode (rtpPayloadType : UInt8) (rest pps : List UInt8) :
    getAuxSDPLine rtpPayloadType (encode (nal :: profileIdc :: constraints :: rest))
        (encode pps) =
      .ok (fmtpLine rtpPayloadType
        (hexBytes [character (second nal profileIdc), character (third profileIdc constraints),
          character (fourth constraints)])
        (encode (nal :: profileIdc :: constraints :: rest)) (encode pps)) := by
  rw [getAuxSDPLine_ok, encode_cons_cons_cons]
  simp only [List.cons_append, List.nil_append]
  rw [profileLevelId_printable _ (character_printable _) (character_printable _)
    (character_printable _), paddedHex_bytes]

/-- The second character of an SPS in base64 is never the second byte of the SPS: six bits that
begin with two ones have a character with another high half than their low half. -/
theorem character_second_ne (hsps : isSps nal = true) :
    character (second nal profileIdc) ≠ profileIdc := by
  have hhalves : ∀ k < 16, (character (48 + k)).toNat / 16 ≠ k := by decide +kernel
  have hlt := profileIdc.toNat_lt
  have hnal : nal.toNat % 4 = 3 := by
    have hmask : nal &&& 0x1f = 7 := by simpa [isSps] using hsps
    have hlow := congrArg UInt8.toNat hmask
    have hmod : (nal &&& 0x1f).toNat = nal.toNat % 2 ^ 5 := by
      rw [UInt8.toNat_and]
      exact Nat.and_two_pow_sub_one_eq_mod _ 5
    have hseven : (7 : UInt8).toNat = 7 := rfl
    omega
  intro hsame
  apply hhalves (profileIdc.toNat / 16) (by omega)
  have hsextet : second nal profileIdc = 48 + profileIdc.toNat / 16 := by
    rw [second, hnal]
  rw [← hsextet, hsame]

end Profile

/-- Whatever the SPS and the PPS, the profile and level printed are three characters of the base64
text of the SPS, and never its three bytes. -/
theorem profileLevelId_never (rtpPayloadType nal profileIdc constraints levelIdc : UInt8)
    (rest pps : List UInt8) (hsps : isSps nal = true) :
    getAuxSDPLine rtpPayloadType
        (encode (nal :: profileIdc :: constraints :: levelIdc :: rest)) (encode pps) ≠
      .ok (fmtpLine rtpPayloadType (hexBytes [profileIdc, constraints, levelIdc])
        (encode (nal :: profileIdc :: constraints :: levelIdc :: rest)) (encode pps)) := by
  rw [getAuxSDPLine_encode]
  intro h
  have htext := hexBytes_injective (fmtpLine_inj.mp (Except.ok.inj h))
  exact character_second_ne hsps (List.cons.inj htext).1

/-- The SPS of a baseline profile, with level 3.0. -/
theorem profileLevelId_never_baseline :
    getAuxSDPLine 96 (encode [0x67, 0x42, 0xE0, 0x1E]) (encode [0x68, 0xCE]) ≠
      .ok (fmtpLine 96 (hexBytes [0x42, 0xE0, 0x1E]) (encode [0x67, 0x42, 0xE0, 0x1E])
        (encode [0x68, 0xCE])) :=
  profileLevelId_never 96 0x67 0x42 0xE0 0x1E [] [0x68, 0xCE] rfl

/-- Its line gives the codes of the characters `0`, `L` and `g` for profile and level. -/
theorem baseline_profile_misprinted :
    getAuxSDPLine 96 (encode [0x67, 0x42, 0xE0, 0x1E]) (encode [0x68, 0xCE]) =
        .ok (ascii "a=fmtp:96 packetization-mode=1;profile-level-id=304C67" ++
          ascii ";sprop-parameter-sets=Z0LgHg==,aM4=\r\n") ∧
      hexBytes [0x42, 0xE0, 0x1E] = ascii "42E01E" := by
  decide +kernel

end LiveMediaExt.Subsession
