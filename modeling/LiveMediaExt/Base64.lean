import Mathlib

/-!
# Base64

Three bytes are four characters of six bits each. A rest of one or two bytes is filled up with
zero bits, and the text with the padding character.
-/
namespace LiveMediaExt.Base64

/-- Characters with successive codes. -/
def block (code count : ℕ) : List UInt8 :=
  (List.range count).map fun i => UInt8.ofNat (code + i)

/-- The capital letters, the small ones, the digits, `+` and `/`. -/
def alphabet : List UInt8 := block 65 26 ++ block 97 26 ++ block 48 10 ++ [43, 47]

def padding : UInt8 := 61

/-- The character of six bits. -/
def character (sextet : ℕ) : UInt8 := alphabet.getD sextet padding

/-- The four sextets of three bytes. -/
def first (a : UInt8) : ℕ := a.toNat / 4
def second (a b : UInt8) : ℕ := a.toNat % 4 * 16 + b.toNat / 16
def third (b c : UInt8) : ℕ := b.toNat % 16 * 4 + c.toNat / 64
def fourth (c : UInt8) : ℕ := c.toNat % 64

def encode : List UInt8 → List UInt8
  | [] => []
  | [a] => [character (first a), character (second a 0), padding, padding]
  | [a, b] => [character (first a), character (second a b), character (third b 0), padding]
  | a :: b :: c :: rest =>
    character (first a) :: character (second a b) :: character (third b c) ::
      character (fourth c) :: encode rest

theorem encode_cons_cons_cons (a b c : UInt8) (rest : List UInt8) :
    encode (a :: b :: c :: rest) =
      [character (first a), character (second a b), character (third b c),
        character (fourth c)] ++ encode rest := rfl

/-- Every character is a printable one. -/
def Printable (c : UInt8) : Prop := 32 < c.toNat ∧ c.toNat < 127

instance (c : UInt8) : Decidable (Printable c) := inferInstanceAs (Decidable (_ ∧ _))

theorem block_printable {code count : ℕ} (hfirst : 32 < code) (hlast : code + count ≤ 127) :
    ∀ c ∈ block code count, Printable c := by
  intro c hc
  obtain ⟨i, hi, rfl⟩ := List.mem_map.mp hc
  have hlt := List.mem_range.mp hi
  unfold Printable
  rw [UInt8.toNat_ofNat']
  omega

theorem alphabet_printable : ∀ c ∈ alphabet, Printable c := by
  intro c hc
  simp only [alphabet, List.mem_append] at hc
  rcases hc with ((hc | hc) | hc) | hc
  · exact block_printable (by norm_num) (by norm_num) c hc
  · exact block_printable (by norm_num) (by norm_num) c hc
  · exact block_printable (by norm_num) (by norm_num) c hc
  · simp only [List.mem_cons, List.not_mem_nil, or_false] at hc
    rcases hc with rfl | rfl
    · decide
    · decide

theorem character_printable (sextet : ℕ) : Printable (character sextet) := by
  unfold character
  rw [List.getD_eq_getElem?_getD]
  cases h : alphabet[sextet]? with
  | none => decide
  | some c => exact alphabet_printable c (List.mem_of_getElem? h)

/-- The six bits of a character. -/
def sextet (c : UInt8) : Option ℕ := alphabet.idxOf? c

section Decoding
variable (a b c : UInt8)

end Decoding

end LiveMediaExt.Base64
