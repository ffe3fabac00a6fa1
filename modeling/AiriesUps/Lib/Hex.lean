import AiriesUps.Lib.Decimal
import AiriesUps.Lib.PackedBits

set_option autoImplicit false

-- Bytes as pairs of hexadecimal digits, as printf("%02x") writes them and
-- sscanf("%2x") reads them.
namespace Hex

open PackedBits (Byte)

def digitPair (byte : Byte) : List Char := [Nat.digitChar (byte.toNat / 16), Nat.digitChar (byte.toNat % 16)]

def encode (bytes : List Byte) : List Char := bytes.flatMap digitPair

def digitValue (char : Char) : Option Nat :=
  if '0' ≤ char ∧ char ≤ '9' then some (char.toNat - 48)
  else if 'a' ≤ char ∧ char ≤ 'f' then some (char.toNat - 87)
  else if 'A' ≤ char ∧ char ≤ 'F' then some (char.toNat - 55)
  else none

def value (digits : List Char) : Nat := digits.foldl (fun total char => total * 16 + (digitValue char).getD 0) 0

-- What a field of digits stands for, none where it starts with none.
def scanDigits (field : List Char) : Option Nat :=
  let digits := field.takeWhile fun char => (digitValue char).isSome
  if digits = [] then none else some (value digits)

-- sscanf(text, "%2x", &value), stored into a byte
def scanByte (text : List Char) : Option Byte :=
  match (text.dropWhile Decimal.isSpace).take 2 with
  | '-' :: rest => (scanDigits rest).map fun value => BitVec.ofInt 8 (-value)
  | '+' :: rest => (scanDigits rest).map (BitVec.ofNat 8)
  | field => (scanDigits field).map (BitVec.ofNat 8)

def decodePairs : List Char → Nat → Option (List Byte)
  | _, 0 => some []
  | text, count + 1 => (scanByte text).bind fun byte => (decodePairs (text.drop 2) count).map (byte :: ·)

-- Decoding into an array: as many pairs as the text has and the array has room for.
def decode (text : List Char) (maxLen : Nat) : Option (List Byte) := decodePairs text (min (text.length / 2) maxLen)

theorem digit_facts (digit : Nat) (inside : digit < 16) :
    digitValue (Nat.digitChar digit) = some digit ∧ Decimal.isSpace (Nat.digitChar digit) = false ∧
      Nat.digitChar digit ≠ '-' ∧ Nat.digitChar digit ≠ '+' ∧ Nat.digitChar digit ≠ '$' := by
  have every : ∀ digit : Fin 16, digitValue (Nat.digitChar digit) = some digit.val ∧
      Decimal.isSpace (Nat.digitChar digit) = false ∧ Nat.digitChar digit ≠ '-' ∧ Nat.digitChar digit ≠ '+' ∧
        Nat.digitChar digit ≠ '$' := by decide
  exact every ⟨digit, inside⟩

theorem encode_cons (byte : Byte) (bytes : List Byte) :
    encode (byte :: bytes) = Nat.digitChar (byte.toNat / 16) :: Nat.digitChar (byte.toNat % 16) :: encode bytes := rfl

@[simp] theorem length_encode (bytes : List Byte) : (encode bytes).length = 2 * bytes.length := by
  induction bytes with
  | nil => rfl
  | cons byte rest ih =>
    rw [encode_cons, List.length_cons, List.length_cons, ih, List.length_cons]
    omega

theorem encode_digits (bytes : List Byte) :
    ∀ char ∈ encode bytes, ∃ digit, digit < 16 ∧ char = Nat.digitChar digit := by
  intro char member
  obtain ⟨byte, _, digit⟩ := List.mem_flatMap.mp member
  have range := byte.isLt
  simp only [digitPair, List.mem_cons, List.not_mem_nil, or_false] at digit
  rcases digit with rfl | rfl
  · exact ⟨_, by omega, rfl⟩
  · exact ⟨_, Nat.mod_lt _ (by decide), rfl⟩

theorem scan_byte_pair (byte : Byte) (rest : List Char) :
    scanByte (Nat.digitChar (byte.toNat / 16) :: Nat.digitChar (byte.toNat % 16) :: rest) = some byte := by
  have range := byte.isLt
  obtain ⟨high, solid, notMinus, notPlus, _⟩ := digit_facts (byte.toNat / 16) (by omega)
  obtain ⟨low, _⟩ := digit_facts (byte.toNat % 16) (Nat.mod_lt _ (by decide))
  have field : scanDigits [Nat.digitChar (byte.toNat / 16), Nat.digitChar (byte.toNat % 16)] = some byte.toNat := by
    have whole : byte.toNat / 16 * 16 + byte.toNat % 16 = byte.toNat := Nat.div_add_mod' _ _
    simp [scanDigits, value, high, low, whole]
  rw [scanByte, List.dropWhile_cons_of_neg (by simp [solid])]
  split
  · rename_i same
    exact absurd (List.cons.inj same).1 notMinus
  · rename_i same
    exact absurd (List.cons.inj same).1 notPlus
  · rw [List.take_succ_cons, List.take_succ_cons, List.take_zero, field, Option.map_some, BitVec.ofNat_toNat,
      BitVec.setWidth_eq]

theorem decode_encode (bytes : List Byte) (maxLen : Nat) (room : bytes.length ≤ maxLen) :
    decode (encode bytes) maxLen = some bytes := by
  have pairs : decodePairs (encode bytes) bytes.length = some bytes := by
    clear room
    induction bytes with
    | nil => rfl
    | cons byte rest ih =>
      rw [encode_cons, List.length_cons, decodePairs, scan_byte_pair, Option.bind_some, List.drop_succ_cons,
        List.drop_succ_cons, List.drop_zero, ih, Option.map_some]
  rw [decode, length_encode, Nat.mul_div_cancel_left _ (by decide), Nat.min_eq_left room, pairs]

theorem encode_injective (first second : List Byte) (same : encode first = encode second) : first = second := by
  have lengths := congrArg List.length same
  rw [length_encode, length_encode] at lengths
  have decoded := decode_encode first first.length (Nat.le_refl _)
  rw [same, decode_encode second first.length (by omega)] at decoded
  exact (Option.some.inj decoded).symm

end Hex
