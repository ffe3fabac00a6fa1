import Mathlib.Algebra.Group.Nat.Defs
import Mathlib.Data.List.TakeWhile

set_option autoImplicit false

namespace Decimal

-- strtoul(text, NULL, 10): leading blanks, a sign, the digits up to the first other
-- character. A value beyond ULONG_MAX is clamped, a negative one wraps.
def ulongMax : Nat := 2 ^ 64 - 1

def isSpace (char : Char) : Bool := char == ' ' || (9 ≤ char.toNat && char.toNat ≤ 13)

def leadingDigits (text : List Char) : Nat := Nat.ofDigitChars 10 (text.takeWhile Char.isDigit) 0

def strtoul (text : List Char) : Nat :=
  match text.dropWhile isSpace with
  | '-' :: rest => if leadingDigits rest ≤ ulongMax then (2 ^ 64 - leadingDigits rest) % 2 ^ 64 else ulongMax
  | '+' :: rest => min (leadingDigits rest) ulongMax
  | rest => min (leadingDigits rest) ulongMax

-- The last digits of a number, as many as the width has room for.
def fixed : Nat → Nat → List Char
  | 0, _ => []
  | width + 1, value => fixed width (value / 10) ++ [Nat.digitChar (value % 10)]

theorem leading_digits_printed (value : Nat) : leadingDigits (Nat.toDigits 10 value) = value := by
  have all : (Nat.toDigits 10 value).takeWhile Char.isDigit = Nat.toDigits 10 value :=
    List.takeWhile_eq_self_iff.mpr fun char member => Nat.isDigit_of_mem_toDigits (by decide) (by decide) member
  rw [leadingDigits, all, Nat.ofDigitChars_ten_toDigits]

theorem strtoul_printed (value : Nat) (inside : value ≤ ulongMax) : strtoul (Nat.toDigits 10 value) = value := by
  have digits : ∀ char ∈ Nat.toDigits 10 value, char.isDigit = true := fun char member =>
    Nat.isDigit_of_mem_toDigits (by decide) (by decide) member
  have printed := leading_digits_printed value
  cases text : Nat.toDigits 10 value with
  | nil => exact absurd text Nat.toDigits_ne_nil
  | cons first rest =>
    rw [text] at digits printed
    have digit := digits first List.mem_cons_self
    have bounds : 48 ≤ first.toNat ∧ first.toNat ≤ 57 := by
      simpa [Char.isDigit, UInt32.le_iff_toNat_le] using digit
    have unspaced : (first :: rest).dropWhile isSpace = first :: rest := by
      have solid : isSpace first = false := by
        rw [isSpace]
        have notBlank : (first == ' ') = false := by
          rw [beq_eq_false_iff_ne]
          rintro rfl
          exact absurd bounds.1 (by decide)
        rw [notBlank, Bool.false_or, Bool.and_eq_false_iff]
        right
        rw [decide_eq_false_iff_not]
        omega
      rw [List.dropWhile_cons, solid]
      rfl
    rw [strtoul, unspaced]
    split
    · rename_i same
      cases same
      exact absurd bounds.1 (by decide)
    · rename_i same
      cases same
      exact absurd bounds.1 (by decide)
    · rw [printed]
      exact Nat.min_eq_left inside

@[simp] theorem length_fixed (width value : Nat) : (fixed width value).length = width := by
  induction width generalizing value with
  | zero => rfl
  | succ width ih => rw [fixed, List.length_append, ih, List.length_singleton]

-- A number of that many digits is printed without padding.
theorem fixed_printed (width value : Nat) (wide : 10 ^ width ≤ value) (inside : value < 10 ^ (width + 1)) :
    fixed (width + 1) value = Nat.toDigits 10 value := by
  induction width generalizing value with
  | zero =>
    have digit : value < 10 := by simpa using inside
    rw [Nat.toDigits_of_lt_base digit, fixed, fixed, Nat.mod_eq_of_lt digit, List.nil_append]
  | succ width ih =>
    have base : 10 ≤ value := by
      have power : 10 ≤ 10 ^ (width + 1) := Nat.le_self_pow (Nat.succ_ne_zero width) 10
      omega
    have shorter := ih (value / 10)
      ((Nat.le_div_iff_mul_le (by decide)).mpr (by rwa [← Nat.pow_succ]))
      (Nat.div_lt_of_lt_mul (by rwa [Nat.mul_comm, ← Nat.pow_succ]))
    rw [fixed, shorter, ← Nat.toDigits_of_base_le (by decide) base]

theorem append_lt_append {Item : Type} [LT Item] (first second : List Item) (firstTail secondTail : List Item)
    (same : first.length = second.length) (less : first < second) : first ++ firstTail < second ++ secondTail := by
  induction first generalizing second with
  | nil =>
    have empty := List.eq_nil_of_length_eq_zero same.symm
    subst empty
    exact absurd less (List.not_lt_nil _)
  | cons head rest ih =>
    cases second with
    | nil => cases same
    | cons other others =>
      rw [List.cons_append, List.cons_append]
      rcases List.cons_lt_cons_iff.mp less with smaller | ⟨equal, later⟩
      · exact List.cons_lt_cons_iff.mpr (Or.inl smaller)
      · exact List.cons_lt_cons_iff.mpr (Or.inr ⟨equal, ih others (Nat.succ.inj same) later⟩)

theorem append_lt_append_left {Item : Type} [LT Item] (front first second : List Item) (less : first < second) :
    front ++ first < front ++ second := by
  induction front with
  | nil => exact less
  | cons head rest ih => exact List.cons_lt_cons_iff.mpr (Or.inr ⟨rfl, ih⟩)

theorem digit_lt_digit (first second : Nat) (less : first < second) (inside : second < 10) :
    Nat.digitChar first < Nat.digitChar second := by
  refine UInt32.lt_iff_toNat_lt.mpr ?_
  change (Nat.digitChar first).toNat < (Nat.digitChar second).toNat
  rw [Nat.toNat_digitChar_of_lt_ten (Nat.lt_trans less inside), Nat.toNat_digitChar_of_lt_ten inside]
  exact Nat.add_lt_add_left less 48

theorem fixed_lt_fixed (width first second : Nat) (less : first < second) (inside : second < 10 ^ width) :
    fixed width first < fixed width second := by
  induction width generalizing first second with
  | zero => omega
  | succ width ih =>
    have shorter : second / 10 < 10 ^ width := Nat.div_lt_of_lt_mul (by rwa [Nat.mul_comm, ← Nat.pow_succ])
    rw [fixed, fixed]
    rcases Nat.lt_or_ge (first / 10) (second / 10) with earlier | same
    · exact append_lt_append _ _ _ _ (by rw [length_fixed, length_fixed]) (ih _ _ earlier shorter)
    · have equal : first / 10 = second / 10 := by omega
      rw [equal]
      refine append_lt_append_left _ _ _ (List.cons_lt_cons_iff.mpr (Or.inl ?_))
      exact digit_lt_digit _ _ (by omega) (Nat.mod_lt second (by decide))

end Decimal
