import AiriesUps.Lib.Decimal
import Mathlib.Algebra.Group.Int.Defs
import Mathlib.Data.List.Infix

set_option autoImplicit false

-- The string functions of the C library, on lists of characters.
namespace CString

section

variable {Item : Type} [BEq Item]

def strstr (pattern : List Item) : List Item → Option (List Item)
  | [] => if pattern.isEmpty then some [] else none
  | item :: rest => if pattern.isPrefixOf (item :: rest) then some (item :: rest) else strstr pattern rest

-- What strtok returns, call after call, for one separator: the runs of other characters.
def strtok (separator : Item) : List Item → List Item → List (List Item)
  | token, [] => if token.isEmpty then [] else [token]
  | token, item :: rest =>
    if item == separator then (if token.isEmpty then [] else [token]) ++ strtok separator [] rest
    else strtok separator (token ++ [item]) rest

theorem strstr_found_iff [LawfulBEq Item] (pattern text : List Item) :
    (strstr pattern text).isSome = true ↔ pattern <:+: text := by
  induction text with
  | nil =>
    rw [strstr, List.infix_nil]
    cases pattern <;> simp
  | cons item rest ih =>
    rw [strstr, List.infix_cons_iff, ← ih, ← List.isPrefixOf_iff_prefix]
    cases found : pattern.isPrefixOf (item :: rest) <;> simp

theorem strtok_split [LawfulBEq Item] (separator : Item) (token text : List Item) (plain : separator ∉ token) :
    strtok separator token text = ((token ++ text).splitOn separator).filter fun item => !item.isEmpty := by
  induction text generalizing token with
  | nil =>
    rw [List.append_nil, List.splitOn_eq_singleton plain, strtok]
    cases token <;> rfl
  | cons item rest ih =>
    rw [strtok]
    cases same : item == separator with
    | true =>
      obtain rfl := eq_of_beq same
      rw [if_pos rfl, ih [] List.not_mem_nil, List.splitOn_append_cons_self_of_not_mem plain, List.nil_append]
      cases token <;> rfl
    | false =>
      rw [if_neg Bool.false_ne_true, ih (token ++ [item]) ?_, List.append_assoc]
      · rfl
      · rw [List.mem_append, List.mem_singleton, not_or]
        exact ⟨plain, fun equal => by rw [equal, BEq.rfl] at same; cases same⟩

-- Every item of a list lies in its text.
theorem split_infix [LawfulBEq Item] (separator : Item) (text item : List Item) (member : item ∈ text.splitOn separator) :
    item <:+: text := by
  have inside : ∀ items : List (List Item), item ∈ items → item <:+: [separator].intercalate items := by
    intro items
    induction items with
    | nil => exact fun absent => by cases absent
    | cons first rest ih =>
      intro present
      cases rest with
      | nil => exact (List.mem_singleton.mp present) ▸ by rw [List.intercalate_singleton]
      | cons second rest =>
        rw [List.intercalate_cons_cons]
        rcases List.mem_cons.mp present with rfl | later
        · exact (List.prefix_append _ _).isInfix.trans (List.prefix_append _ _).isInfix
        · exact (ih later).trans (List.suffix_append _ _).isInfix
  have whole := inside (text.splitOn separator) member
  rwa [List.intercalate_splitOn] at whole

end

def lower (text : List Char) : List Char := text.map Char.toLower

def strtol (text : List Char) : Int :=
  match text.dropWhile Decimal.isSpace with
  | '-' :: rest => max (-(Decimal.leadingDigits rest : Int)) (-2 ^ 63)
  | '+' :: rest => min (Decimal.leadingDigits rest) (2 ^ 63 - 1)
  | rest => min (Decimal.leadingDigits rest) (2 ^ 63 - 1)

-- atoi casts what strtol returns to int.
def atoi (text : List Char) : Int := (BitVec.ofInt 32 (strtol text)).toInt

end CString
