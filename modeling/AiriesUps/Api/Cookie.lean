import AiriesUps.Lib.SetCookie
import AiriesUps.Lib.Hex

set_option autoImplicit false

namespace AiriesUps.Api

open PackedBits (Byte)

def safeCookieToken (text : List Char) : Bool :=
  text.all fun char => !(char == '\r' || char == '\n' || char == ';' || char == '\"')

def secureText (secure : Bool) : List Char := if secure then "; Secure".toList else []

-- What snprintf writes into a buffer of that size and strdup copies, none where it does not fit.
def fitted (size : Nat) (text : List Char) : Option (List Char) := if text.length ≥ size then none else some text

-- An absent name or value is NULL.
def apiCookieSet (name value : Option (List Char)) (maxAge : Int) (secure : Bool) : Option (List Char) :=
  match name, value with
  | some name, some value =>
    if !safeCookieToken name || !safeCookieToken value then none
    else if maxAge > 0 then
      fitted 512 (name ++ '=' :: value ++ "; HttpOnly; SameSite=Strict; Path=/; Max-Age=".toList ++
        Nat.toDigits 10 maxAge.toNat ++ secureText secure)
    else fitted 512 (name ++ '=' :: value ++ "; HttpOnly; SameSite=Strict; Path=/".toList ++ secureText secure)
  | _, _ => none

def apiCookieClear (name : Option (List Char)) (secure : Bool) : Option (List Char) :=
  match name with
  | some name =>
    if !safeCookieToken name then none
    else fitted 256 (name ++ "=; HttpOnly; SameSite=Strict; Path=/; Max-Age=0".toList ++ secureText secure)
  | none => none

example : apiCookieSet (some "auth".toList) (some "abc123".toList) 3600 true =
    some "auth=abc123; HttpOnly; SameSite=Strict; Path=/; Max-Age=3600; Secure".toList := by decide +kernel

-- The attributes every cookie has, with the lifetime and the flag of this one.
def cookieAttributes (age : Option Nat) (secure : Bool) : List (List Char × List Char) :=
  [("HttpOnly".toList, []), ("SameSite".toList, "Strict".toList), ("Path".toList, ['/'])] ++
    age.toList.map (fun seconds => ("Max-Age".toList, Nat.toDigits 10 seconds)) ++
    if secure then [("Secure".toList, [])] else []

-- The texts between the semicolons.
def cookieParts (age : Option Nat) (secure : Bool) : List (List Char) :=
  [" HttpOnly".toList, " SameSite=Strict".toList, " Path=/".toList] ++
    age.toList.map (fun seconds => " Max-Age".toList ++ '=' :: Nat.toDigits 10 seconds) ++
    if secure then [" Secure".toList] else []

def cookieHeader (name value : List Char) (age : Option Nat) (secure : Bool) : List Char :=
  SetCookie.join ((name ++ '=' :: value) :: cookieParts age secure)

theorem safe_token (text : List Char) (safe : safeCookieToken text = true) : '\r' ∉ text ∧ '\n' ∉ text ∧ ';' ∉ text := by
  have each := List.all_eq_true.mp safe
  refine ⟨fun member => ?_, fun member => ?_, fun member => ?_⟩ <;> exact absurd (each _ member) (by decide)

theorem digit_clear (value : Nat) (char : Char) (member : char ∈ Nat.toDigits 10 value) :
    char ≠ ';' ∧ char ≠ '\r' ∧ char ≠ '\n' ∧ SetCookie.isBlank char = false := by
  have digit := Nat.isDigit_of_mem_toDigits (by decide) (by decide) member
  refine ⟨?_, ?_, ?_, ?_⟩
  · rintro rfl
    exact absurd digit (by decide)
  · rintro rfl
    exact absurd digit (by decide)
  · rintro rfl
    exact absurd digit (by decide)
  · rw [SetCookie.isBlank, Bool.or_eq_false_iff]
    constructor <;> rw [beq_eq_false_iff_ne] <;> rintro rfl <;> exact absurd digit (by decide)

theorem header_aged (name value : List Char) (seconds : Nat) (secure : Bool) :
    cookieHeader name value (some seconds) secure =
      name ++ '=' :: value ++ "; HttpOnly; SameSite=Strict; Path=/; Max-Age=".toList ++ Nat.toDigits 10 seconds ++
        secureText secure := by
  cases secure <;> simp [cookieHeader, SetCookie.join, cookieParts, secureText]

theorem header_ageless (name value : List Char) (secure : Bool) :
    cookieHeader name value none secure =
      name ++ '=' :: value ++ "; HttpOnly; SameSite=Strict; Path=/".toList ++ secureText secure := by
  cases secure <;> simp [cookieHeader, SetCookie.join, cookieParts, secureText]

theorem fitted_text (size : Nat) (text header : List Char) (fits : fitted size text = some header) : header = text := by
  rw [fitted] at fits
  split at fits
  · cases fits
  · exact (Option.some.inj fits).symm

def lifetime (maxAge : Int) : Option Nat := if maxAge > 0 then some maxAge.toNat else none

theorem set_header (name value : List Char) (maxAge : Int) (secure : Bool) (header : List Char)
    (built : apiCookieSet (some name) (some value) maxAge secure = some header) :
    safeCookieToken name = true ∧ safeCookieToken value = true ∧
      header = cookieHeader name value (lifetime maxAge) secure := by
  rw [apiCookieSet] at built
  split at built
  · cases built
  · rename_i safe
    rw [Bool.or_eq_true, not_or, Bool.not_eq_true, Bool.not_eq_true, Bool.not_eq_false', Bool.not_eq_false'] at safe
    refine ⟨safe.1, safe.2, ?_⟩
    rw [lifetime]
    split at built
    · rename_i positive
      rw [fitted_text _ _ _ built, if_pos positive, header_aged]
    · rename_i negative
      rw [fitted_text _ _ _ built, if_neg negative, header_ageless]

theorem clear_header (name : List Char) (secure : Bool) (header : List Char)
    (built : apiCookieClear (some name) secure = some header) :
    safeCookieToken name = true ∧ header = cookieHeader name [] (some 0) secure := by
  rw [apiCookieClear] at built
  split at built
  · cases built
  · rename_i safe
    rw [Bool.not_eq_true, Bool.not_eq_false'] at safe
    refine ⟨safe, ?_⟩
    rw [fitted_text _ _ _ built, header_aged]
    simp

theorem parts_attributes (age : Option Nat) (secure : Bool) :
    (cookieParts age secure).map SetCookie.pair = cookieAttributes age secure := by
  have aged : ∀ seconds, SetCookie.pair (" Max-Age".toList ++ '=' :: Nat.toDigits 10 seconds) =
      ("Max-Age".toList, Nat.toDigits 10 seconds) := by
    intro seconds
    rw [SetCookie.pair_equals _ _ (by decide), SetCookie.trim_of_ends (Nat.toDigits 10 seconds)]
    · rfl
    · exact fun char first => (digit_clear seconds char (List.mem_of_mem_head? first)).2.2.2
    · exact fun char last => (digit_clear seconds char (List.mem_of_getLast? last)).2.2.2
  have fixed : [" HttpOnly".toList, " SameSite=Strict".toList, " Path=/".toList].map SetCookie.pair =
      [("HttpOnly".toList, []), ("SameSite".toList, "Strict".toList), ("Path".toList, ['/'])] := by decide +kernel
  have flag : SetCookie.pair " Secure".toList = ("Secure".toList, []) := by decide +kernel
  have timed : (age.toList.map fun seconds => " Max-Age".toList ++ '=' :: Nat.toDigits 10 seconds).map SetCookie.pair =
      age.toList.map fun seconds => ("Max-Age".toList, Nat.toDigits 10 seconds) := by
    rw [List.map_map]
    exact List.map_congr_left fun seconds _ => aged seconds
  have flagged : (if secure then [" Secure".toList] else []).map SetCookie.pair =
      if secure then [("Secure".toList, [])] else [] := by
    cases secure with
    | true => exact congrArg (fun field => [field]) flag
    | false => rfl
  rw [cookieParts, List.map_append, List.map_append, fixed, timed, flagged, cookieAttributes]

theorem parts_clear (age : Option Nat) (secure : Bool) :
    ∀ part ∈ cookieParts age secure, ';' ∉ part ∧ '\r' ∉ part ∧ '\n' ∉ part := by
  have fixed : ∀ part ∈ [" HttpOnly".toList, " SameSite=Strict".toList, " Path=/".toList],
      ';' ∉ part ∧ '\r' ∉ part ∧ '\n' ∉ part := by decide +kernel
  have flag : ∀ part ∈ (if secure then [" Secure".toList] else []), ';' ∉ part ∧ '\r' ∉ part ∧ '\n' ∉ part := by
    cases secure <;> decide +kernel
  have front : ∀ char ∈ " Max-Age=".toList, char ≠ ';' ∧ char ≠ '\r' ∧ char ≠ '\n' := by simp
  have timed : ∀ seconds, ∀ char ∈ " Max-Age".toList ++ '=' :: Nat.toDigits 10 seconds,
      char ≠ ';' ∧ char ≠ '\r' ∧ char ≠ '\n' := by
    intro seconds char member
    have split : " Max-Age".toList ++ '=' :: Nat.toDigits 10 seconds = " Max-Age=".toList ++ Nat.toDigits 10 seconds := by simp
    rw [split] at member
    rcases List.mem_append.mp member with early | digit
    · exact front char early
    · have clear := digit_clear seconds char digit
      exact ⟨clear.1, clear.2.1, clear.2.2.1⟩
  intro part member
  rw [cookieParts, List.mem_append, List.mem_append] at member
  rcases member with (early | aged) | last
  · exact fixed part early
  · obtain ⟨seconds, _, rfl⟩ := List.mem_map.mp aged
    exact ⟨fun bad => (timed seconds _ bad).1 rfl, fun bad => (timed seconds _ bad).2.1 rfl, fun bad =>
      (timed seconds _ bad).2.2 rfl⟩
  · exact flag part last

-- One header line, and to a browser the pair it was made of with those attributes.
structure HeaderReads (header name value : List Char) (age : Option Nat) (secure : Bool) : Prop where
  oneLine : '\r' ∉ header ∧ '\n' ∉ header
  reads : SetCookie.parse header =
    some { name := SetCookie.trim name, value := SetCookie.trim value, attributes := cookieAttributes age secure }

theorem header_reads (name value : List Char) (age : Option Nat) (secure : Bool) (safeName : safeCookieToken name = true)
    (safeValue : safeCookieToken value = true) (noEquals : '=' ∉ name) (named : SetCookie.trim name ≠ []) :
    HeaderReads (cookieHeader name value age secure) name value age secure := by
  obtain ⟨nameReturn, nameLine, nameWhole⟩ := safe_token name safeName
  obtain ⟨valueReturn, valueLine, valueWhole⟩ := safe_token value safeValue
  have clear := parts_clear age secure
  have pairClear : ∀ char, char ∉ name → char ∉ value → char ≠ '=' → char ∉ name ++ '=' :: value := by
    intro char outName outValue different member
    rcases List.mem_append.mp member with inName | rest
    · exact outName inName
    · rcases List.mem_cons.mp rest with same | inValue
      · exact different same
      · exact outValue inValue
  have joined : ∀ char, char ≠ ';' → char ∉ name ++ '=' :: value → (∀ part ∈ cookieParts age secure, char ∉ part) →
      char ∉ cookieHeader name value age secure := by
    intro char different first others member
    rcases SetCookie.mem_join _ char member with same | ⟨part, inside, found⟩
    · exact different same
    · rcases List.mem_cons.mp inside with rfl | other
      · exact first found
      · exact others part other found
  constructor
  · exact ⟨joined _ (by decide) (pairClear _ nameReturn valueReturn (by decide)) fun part member => (clear part member).2.1,
      joined _ (by decide) (pairClear _ nameLine valueLine (by decide)) fun part member => (clear part member).2.2⟩
  · rw [cookieHeader, SetCookie.parse_join _ _ (pairClear _ nameWhole valueWhole (by decide)) fun part member => (clear part member).1,
      SetCookie.pair_equals _ _ noEquals, if_neg (not_or.mpr ⟨not_not.mpr (by simp), named⟩), parts_attributes]

-- Whatever the name and the value, what is emitted carries them and nothing else.
theorem cookies_read (name value : List Char) (maxAge : Int) (secure : Bool) (noEquals : '=' ∉ name)
    (named : SetCookie.trim name ≠ []) :
    (∀ header, apiCookieSet (some name) (some value) maxAge secure = some header →
        HeaderReads header name value (lifetime maxAge) secure) ∧
      ∀ header, apiCookieClear (some name) secure = some header → HeaderReads header name [] (some 0) secure := by
  constructor
  · intro header built
    obtain ⟨safeName, safeValue, rfl⟩ := set_header name value maxAge secure header built
    exact header_reads name value _ secure safeName safeValue noEquals named
  · intro header built
    obtain ⟨safeName, rfl⟩ := clear_header name secure header built
    exact header_reads name [] _ secure safeName rfl noEquals named

theorem auth_cookie_read :
    ∃ header, apiCookieSet (some "auth".toList) (some "a=b".toList) 60 true = some header ∧
      HeaderReads header "auth".toList "a=b".toList (some 60) true := by
  refine ⟨"auth=a=b; HttpOnly; SameSite=Strict; Path=/; Max-Age=60; Secure".toList, by decide +kernel, ?_⟩
  exact (cookies_read "auth".toList "a=b".toList 60 true (by decide +kernel) (by decide +kernel)).1 _ (by decide +kernel)

end AiriesUps.Api
