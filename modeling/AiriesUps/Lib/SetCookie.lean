import AiriesUps.Lib.Decimal
import Mathlib.Data.List.DropRight
import Mathlib.Logic.Function.Basic

set_option autoImplicit false

-- The Set-Cookie header as a browser reads it: a pair, and attributes after semicolons.
namespace SetCookie

structure Cookie where
  name : List Char
  value : List Char
  attributes : List (List Char × List Char)
deriving DecidableEq, Repr

def isBlank (char : Char) : Bool := char == ' ' || char == '\t'

def trim (text : List Char) : List Char := (text.dropWhile isBlank).rdropWhile isBlank

def beforeEquals (text : List Char) : List Char := text.takeWhile fun char => char ≠ '='

def afterEquals (text : List Char) : List Char := (text.dropWhile fun char => char ≠ '=').drop 1

def pair (text : List Char) : List Char × List Char := (trim (beforeEquals text), trim (afterEquals text))

-- A header without a name is ignored.
def parse (header : List Char) : Option Cookie :=
  match header.splitOn ';' with
  | [] => none
  | first :: rest =>
    if '=' ∉ first ∨ (pair first).1 = [] then none
    else some { name := (pair first).1, value := (pair first).2, attributes := rest.map pair }

-- The attribute of a name, which is read without case. The last one counts.
def Cookie.attribute (cookie : Cookie) (name : List Char) : Option (List Char) :=
  (cookie.attributes.reverse.find? fun field => field.1.map Char.toLower == name).map Prod.snd

def digits (text : List Char) : Option Nat :=
  if text ≠ [] ∧ text.all Char.isDigit = true then some (Nat.ofDigitChars 10 text 0) else none

-- A Max-Age that is not a number is ignored.
def maxAge (text : List Char) : Option Int :=
  match text with
  | '-' :: rest => (digits rest).map fun value => -(value : Int)
  | _ => (digits text).map Int.ofNat

structure Stored where
  value : List Char
  expires : Option Int
  secure : Bool
deriving DecidableEq, Repr

-- The cookies a browser keeps for a site, by name.
abbrev Jar := List Char → Option Stored

def Cookie.secure (cookie : Cookie) : Bool := (cookie.attribute ['s', 'e', 'c', 'u', 'r', 'e']).isSome

def Cookie.stored (cookie : Cookie) (now : Int) : Option Stored :=
  match (cookie.attribute ['m', 'a', 'x', '-', 'a', 'g', 'e']).bind maxAge with
  | some age => if age ≤ 0 then none else some { value := cookie.value, expires := some (now + age), secure := cookie.secure }
  | none => some { value := cookie.value, expires := none, secure := cookie.secure }

def Stored.live (stored : Stored) (now : Int) : Bool := stored.expires.all fun expires => decide (now < expires)

-- tls says that the answer came over a secure connection. Over another one a Secure cookie
-- is neither taken nor replaced.
def receive (jar : Jar) (now : Int) (tls : Bool) (header : List Char) : Jar :=
  match parse header with
  | none => jar
  | some cookie =>
    if !tls && (cookie.secure || (jar cookie.name).any fun stored => stored.secure && stored.live now) then jar
    else Function.update jar cookie.name (cookie.stored now)

def send (jar : Jar) (now : Int) (tls : Bool) (name : List Char) : Option (List Char) :=
  ((jar name).filter fun stored => stored.live now && (tls || !stored.secure)).map Stored.value

def join (parts : List (List Char)) : List Char := [';'].intercalate parts

theorem trim_of_ends (text : List Char) (first : ∀ char ∈ text.head?, isBlank char = false)
    (last : ∀ char ∈ text.getLast?, isBlank char = false) : trim text = text := by
  have kept : text.dropWhile isBlank = text := by
    cases text with
    | nil => rfl
    | cons char rest => rw [List.dropWhile_cons, first char rfl, if_neg Bool.false_ne_true]
  rw [trim, kept]
  refine List.rdropWhile_eq_self_iff.mpr fun nonempty => ?_
  have ended := last (text.getLast nonempty) (List.getLast?_eq_getLast_of_ne_nil nonempty ▸ rfl)
  rw [ended]
  exact Bool.false_ne_true

-- What is joined is split again, as long as no part has a semicolon of its own.
theorem parse_join (first : List Char) (rest : List (List Char)) (firstWhole : ';' ∉ first)
    (restWhole : ∀ part ∈ rest, ';' ∉ part) :
    parse (join (first :: rest)) =
      if '=' ∉ first ∨ (pair first).1 = [] then none
      else some { name := (pair first).1, value := (pair first).2, attributes := rest.map pair } := by
  have split : (join (first :: rest)).splitOn ';' = first :: rest :=
    List.splitOn_intercalate ';' (List.forall_mem_cons.mpr ⟨firstWhole, restWhole⟩) (by simp)
  rw [parse, split]

theorem mem_join (parts : List (List Char)) (char : Char) (member : char ∈ join parts) :
    char = ';' ∨ ∃ part ∈ parts, char ∈ part := by
  induction parts with
  | nil => cases member
  | cons first rest ih =>
    cases rest with
    | nil =>
      rw [join, List.intercalate_singleton] at member
      exact Or.inr ⟨first, List.mem_cons_self, member⟩
    | cons second others =>
      rw [join, List.intercalate_cons_cons, List.mem_append, List.mem_append, List.mem_singleton] at member
      rcases member with (early | same) | later
      · exact Or.inr ⟨first, List.mem_cons_self, early⟩
      · exact Or.inl same
      · exact (ih later).imp_right fun ⟨part, inside, found⟩ => ⟨part, List.mem_cons_of_mem _ inside, found⟩

theorem pair_equals (name value : List Char) (noEquals : '=' ∉ name) :
    pair (name ++ '=' :: value) = (trim name, trim value) := by
  have clear : ∀ char ∈ name, decide (char ≠ '=') = true := fun char member =>
    decide_eq_true fun same => noEquals (same ▸ member)
  rw [pair, beforeEquals, afterEquals, List.takeWhile_append_of_pos clear, List.dropWhile_append_of_pos clear,
    List.takeWhile_cons, List.dropWhile_cons, if_neg (by simp), if_neg (by simp), List.append_nil]
  rfl

theorem digits_printed (value : Nat) : digits (Nat.toDigits 10 value) = some value := by
  have all : (Nat.toDigits 10 value).all Char.isDigit = true :=
    List.all_eq_true.mpr fun char member => Nat.isDigit_of_mem_toDigits (by decide) (by decide) member
  rw [digits, if_pos ⟨Nat.toDigits_ne_nil, all⟩, Nat.ofDigitChars_ten_toDigits]

theorem max_age_printed (value : Nat) : maxAge (Nat.toDigits 10 value) = some (value : Int) := by
  have printed := digits_printed value
  have clear : '-' ∉ Nat.toDigits 10 value := fun member =>
    absurd (Nat.isDigit_of_mem_toDigits (by decide) (by decide) member) (by decide)
  cases text : Nat.toDigits 10 value with
  | nil => exact absurd text Nat.toDigits_ne_nil
  | cons first rest =>
    rw [text] at printed clear
    rw [maxAge]
    · rw [printed]
      rfl
    · intro tail same
      exact clear (same ▸ List.mem_cons_self)

end SetCookie
