import Mathlib

/-!
# Words in memory

A machine stores a 32-bit word as four bytes, in an order of its own. Whatever the order, the
bytes determine the word, also when the words stand one behind another.
-/
namespace LiveMediaExt.Words

inductive ByteOrder
  | littleEndian
  | bigEndian
  deriving DecidableEq, Repr

variable (order : ByteOrder)

/-- The bytes of a word at ascending addresses. -/
def wordBytes (word : UInt32) : List UInt8 :=
  let bytes := [word.toUInt8, (word >>> 8).toUInt8, (word >>> 16).toUInt8, (word >>> 24).toUInt8]
  match order with
  | .littleEndian => bytes
  | .bigEndian => bytes.reverse

/-- The word that a list of bytes stands for. -/
def bytesWord (bytes : List UInt8) : UInt32 :=
  match order with
  | .littleEndian => bytes.foldr (fun byte word => word * 256 + byte.toUInt32) 0
  | .bigEndian => bytes.foldl (fun word byte => word * 256 + byte.toUInt32) 0

/-- Words one behind another. -/
def wordsBytes (words : List UInt32) : List UInt8 := words.flatMap (wordBytes order)

@[simp] theorem length_wordBytes (word : UInt32) : (wordBytes order word).length = 4 := by
  cases order with
  | littleEndian => rfl
  | bigEndian => rfl

/-- The base-256 digits of a word put together again. -/
theorem bytesWord_littleEndian (word : UInt32) :
    bytesWord .littleEndian (wordBytes .littleEndian word) = word := by
  have hword : word.toNat < 2 ^ 32 := word.toNat_lt
  apply UInt32.toNat_inj.mp
  simp only [bytesWord, wordBytes, List.foldr_cons, List.foldr_nil, UInt32.toNat_add,
    UInt32.toNat_mul, UInt8.toNat_toUInt32, UInt32.toNat_toUInt8, UInt32.toNat_shiftRight,
    Nat.shiftRight_eq_div_pow, UInt32.toNat_ofNat, Nat.reducePow, Nat.reduceMod]
  omega

@[simp] theorem bytesWord_wordBytes (word : UInt32) :
    bytesWord order (wordBytes order word) = word := by
  cases order with
  | littleEndian => exact bytesWord_littleEndian word
  | bigEndian => exact bytesWord_littleEndian word

@[simp] theorem wordsBytes_nil : wordsBytes order [] = [] := rfl

@[simp] theorem wordsBytes_cons (word : UInt32) (words : List UInt32) :
    wordsBytes order (word :: words) = wordBytes order word ++ wordsBytes order words := rfl

@[simp] theorem length_wordsBytes (words : List UInt32) :
    (wordsBytes order words).length = 4 * words.length := by
  induction words with
  | nil => rfl
  | cons word words ih =>
    simp only [wordsBytes_cons, List.length_append, length_wordBytes, ih, List.length_cons]
    omega

example : wordBytes .littleEndian 0x666d6d20 = [0x20, 0x6d, 0x6d, 0x66] := by decide

end LiveMediaExt.Words
