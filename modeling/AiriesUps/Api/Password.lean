import AiriesUps.Api.Auth
import AiriesUps.Lib.CString
import AiriesUps.Lib.Hex
import AiriesUps.Shutdown.Result

set_option autoImplicit false

namespace AiriesUps.Api

open PackedBits (Byte)

-- The two functions of the crypto library. deriveKey is PKCS5_PBKDF2_HMAC with
-- EVP_sha256: password, salt, iterations and the length of the key.
structure Crypto where
  deriveKey : String → List Byte → Int → (keyLen : Nat) → Vector Byte keyLen
  sha256 : String → Vector Byte 32

def pbkdf2Iterations : Nat := 100000

def saltBytes : Nat := 16

def keyBytes : Nat := 32

def pbkdf2Prefix : List Char := "$pbkdf2$".toList

def encodedPassword (salt key : List Byte) : List Char :=
  pbkdf2Prefix ++ (Nat.toDigits 10 pbkdf2Iterations ++ '$' :: (Hex.encode salt ++ '$' :: Hex.encode key))

-- salt is what RAND_bytes gave.
def hashPassword (crypto : Crypto) (salt : Vector Byte saltBytes) (password : String) : String :=
  let key := crypto.deriveKey password salt.toList pbkdf2Iterations keyBytes
  let total := 8 + 6 + 1 + (Hex.encode salt.toList).length + 1 + (Hex.encode key.toList).length + 1
  Shutdown.snprintf total (String.ofList (encodedPassword salt.toList key.toList))

def legacyHash (crypto : Crypto) (password : String) : String := String.ofList (Hex.encode (crypto.sha256 password).toList)

def verifySha256Legacy (crypto : Crypto) (password storedHex : String) : Bool := legacyHash crypto password == storedHex

-- The conversions of sscanf: each gives what it read and the rest of the text.
def scanLiteral (literal text : List Char) : Option (List Char) :=
  if literal.isPrefixOf text then some (text.drop literal.length) else none

-- %d
def scanInt (text : List Char) : Option (Int × List Char) :=
  let body := text.dropWhile Decimal.isSpace
  let unsigned :=
    match body with
    | '-' :: rest | '+' :: rest => rest
    | _ => body
  if unsigned.takeWhile Char.isDigit = [] then none else some (CString.atoi body, unsigned.dropWhile Char.isDigit)

-- %63[^$] and the like
def scanUntil (stop : Char) (width : Nat) (text : List Char) : Option (List Char × List Char) :=
  let field := (text.takeWhile fun char => char != stop).take width
  if field = [] then none else some (field, text.drop field.length)

-- %127s
def scanWord (width : Nat) (text : List Char) : Option (List Char) :=
  let field := ((text.dropWhile Decimal.isSpace).takeWhile fun char => !Decimal.isSpace char).take width
  if field = [] then none else some field

-- sscanf(stored, "$pbkdf2$%d$%63[^$]$%127s", ...), where all three are read
def scanStored (stored : List Char) : Option (Int × List Char × List Char) :=
  (scanLiteral pbkdf2Prefix stored).bind fun text =>
    (scanInt text).bind fun (iterations, text) =>
      (scanLiteral ['$'] text).bind fun text =>
        (scanUntil '$' 63 text).bind fun (saltHex, text) =>
          (scanLiteral ['$'] text).bind fun text =>
            (scanWord 127 text).map fun hashHex => (iterations, saltHex, hashHex)

def isLegacy (stored : String) : Bool := !pbkdf2Prefix.isPrefixOf stored.toList

-- The constant-time comparison: the differences of all pairs, collected.
def difference (derived stored : List Byte) : Byte :=
  (derived.zip stored).foldl (fun diff pair => diff ||| (pair.1 ^^^ pair.2)) 0

def verifyPbkdf2 (crypto : Crypto) (password : String) (iterations : Int) (saltHex hashHex : List Char) : Bool :=
  if iterations < 1 then false
  else
    match Hex.decode saltHex saltBytes, Hex.decode hashHex keyBytes with
    | some salt, some storedKey =>
      if salt = [] ∨ storedKey = [] then false
      else difference (crypto.deriveKey password salt iterations storedKey.length).toList storedKey == 0
    | _, _ => false

def verifyPassword (crypto : Crypto) (password stored : String) : Bool :=
  if isLegacy stored then verifySha256Legacy crypto password stored
  else
    match scanStored stored.toList with
    | none => false
    | some (iterations, saltHex, hashHex) => verifyPbkdf2 crypto password iterations saltHex hashHex

-- salt is the one an upgrade would draw; selects and upserts say whether the two
-- statements succeed.
def authVerifyPassword (crypto : Crypto) (db : AuthDb) (password : String) (salt : Vector Byte saltBytes)
    (selects upserts : Bool) : Bool × AuthDb :=
  match db.passwordHash.filter fun _ => selects with
  | none => (false, db)
  | some stored =>
    let valid := verifyPassword crypto password stored
    if valid && isLegacy stored then
      (valid, (authSetPassword db password (hashPassword crypto salt password) upserts).2)
    else (valid, db)

theorem difference_zero_iff (derived stored : List Byte) (same : derived.length = stored.length) :
    difference derived stored = 0 ↔ derived = stored := by
  have collected : ∀ (derived stored : List Byte) (start : Byte), derived.length = stored.length →
      ((derived.zip stored).foldl (fun diff pair => diff ||| (pair.1 ^^^ pair.2)) start = 0 ↔ start = 0 ∧ derived = stored) := by
    intro derived
    induction derived with
    | nil =>
      intro stored start same
      rw [List.eq_nil_of_length_eq_zero same.symm]
      simp
    | cons first rest ih =>
      intro stored start same
      cases stored with
      | nil => cases same
      | cons other others =>
        rw [List.zip_cons_cons, List.foldl_cons, ih others _ (Nat.succ.inj same)]
        simp only [BitVec.ofNat_eq_ofNat, BitVec.or_eq_zero_iff, BitVec.xor_eq_zero_iff, List.cons.injEq, and_assoc]
  exact (collected derived stored 0 same).trans (and_iff_right rfl)

theorem hash_password_text (crypto : Crypto) (salt : Vector Byte saltBytes) (password : String) :
    hashPassword crypto salt password =
      String.ofList (encodedPassword salt.toList (crypto.deriveKey password salt.toList pbkdf2Iterations keyBytes).toList) := by
  have digits : (Nat.toDigits 10 pbkdf2Iterations).length = 6 := by decide
  have marker : pbkdf2Prefix.length = 8 := by decide
  rw [hashPassword, Shutdown.snprintf, String.toList_ofList, List.take_of_length_le]
  simp only [encodedPassword, List.length_append, List.length_cons, digits, marker]
  omega

theorem hash_password_current (crypto : Crypto) (salt : Vector Byte saltBytes) (password : String) :
    isLegacy (hashPassword crypto salt password) = false := by
  rw [isLegacy, hash_password_text, String.toList_ofList, encodedPassword]
  rfl

-- The hexadecimal digits of a legacy hash do not begin as the other format does.
theorem legacy_hash_legacy (crypto : Crypto) (password : String) : isLegacy (legacyHash crypto password) = true := by
  rw [isLegacy, legacyHash, String.toList_ofList, Bool.not_eq_true', Bool.eq_false_iff, ne_eq, List.isPrefixOf_iff_prefix]
  intro begins
  obtain ⟨digit, inside, same⟩ := Hex.encode_digits (crypto.sha256 password).toList '$' (begins.subset (by decide))
  exact (Hex.digit_facts digit inside).2.2.2.2 same.symm

theorem scan_literal_append (literal rest : List Char) : scanLiteral literal (literal ++ rest) = some rest := by
  rw [scanLiteral, if_pos (by simp), List.drop_left]

theorem scan_iterations (rest : List Char) :
    scanInt (Nat.toDigits 10 pbkdf2Iterations ++ '$' :: rest) = some ((pbkdf2Iterations : Int), '$' :: rest) := by
  have printed : Nat.toDigits 10 pbkdf2Iterations = ['1', '0', '0', '0', '0', '0'] := by decide
  rw [printed]
  rfl

theorem scan_salt (bytes : List Byte) (rest : List Char) (some : bytes ≠ []) (short : bytes.length ≤ 31) :
    scanUntil '$' 63 (Hex.encode bytes ++ '$' :: rest) = .some (Hex.encode bytes, '$' :: rest) := by
  have length := Hex.length_encode bytes
  have positive := List.length_pos_iff.mpr some
  have field : (Hex.encode bytes ++ '$' :: rest).takeWhile (fun char => char != '$') = Hex.encode bytes := by
    rw [List.takeWhile_append_of_pos, List.takeWhile_cons_of_neg (by decide), List.append_nil]
    intro char member
    obtain ⟨digit, inside, rfl⟩ := Hex.encode_digits bytes char member
    exact bne_iff_ne.mpr (Hex.digit_facts digit inside).2.2.2.2
  have nonempty : Hex.encode bytes ≠ [] := by
    intro empty
    rw [empty, List.length_nil] at length
    omega
  rw [scanUntil, field, List.take_of_length_le (by omega), if_neg nonempty, List.drop_left]

theorem scan_hash (bytes : List Byte) (some : bytes ≠ []) (short : bytes.length ≤ 63) :
    scanWord 127 (Hex.encode bytes) = .some (Hex.encode bytes) := by
  have length := Hex.length_encode bytes
  have positive := List.length_pos_iff.mpr some
  have solid : ∀ char ∈ Hex.encode bytes, Decimal.isSpace char = false := by
    intro char member
    obtain ⟨digit, inside, rfl⟩ := Hex.encode_digits bytes char member
    exact (Hex.digit_facts digit inside).2.1
  cases text : Hex.encode bytes with
  | nil =>
    rw [text, List.length_nil] at length
    omega
  | cons first rest =>
    rw [text] at solid length
    rw [scanWord, List.dropWhile_cons_of_neg (by simp [solid first List.mem_cons_self]),
      List.takeWhile_eq_self_iff.mpr fun char member => by rw [solid char member]; rfl,
      List.take_of_length_le (by omega), if_neg (List.cons_ne_nil _ _)]

theorem scan_encoded (salt key : List Byte) (someSalt : salt ≠ []) (shortSalt : salt.length ≤ 31) (someKey : key ≠ [])
    (shortKey : key.length ≤ 63) :
    scanStored (encodedPassword salt key) = some ((pbkdf2Iterations : Int), Hex.encode salt, Hex.encode key) := by
  have dollar : ∀ rest, scanLiteral ['$'] ('$' :: rest) = some rest := scan_literal_append ['$']
  simp only [scanStored, encodedPassword, scan_literal_append, scan_iterations, dollar, scan_salt salt _ someSalt shortSalt,
    scan_hash key someKey shortKey, Option.bind_some, Option.map_some]

theorem verify_hashed_iff (crypto : Crypto) (salt : Vector Byte saltBytes) (password candidate : String) :
    verifyPassword crypto candidate (hashPassword crypto salt password) = true ↔
      crypto.deriveKey candidate salt.toList pbkdf2Iterations keyBytes =
        crypto.deriveKey password salt.toList pbkdf2Iterations keyBytes := by
  generalize stored : crypto.deriveKey password salt.toList pbkdf2Iterations keyBytes = key
  have saltLength : salt.toList.length = saltBytes := Vector.length_toList
  have keyLength : key.toList.length = keyBytes := Vector.length_toList
  have someSalt : salt.toList ≠ [] := List.ne_nil_of_length_pos (by rw [saltLength]; decide)
  have someKey : key.toList ≠ [] := List.ne_nil_of_length_pos (by rw [keyLength]; decide)
  have scanned := scan_encoded salt.toList key.toList someSalt (by rw [saltLength]; decide) someKey (by rw [keyLength]; decide)
  have positive : ¬(pbkdf2Iterations : Int) < 1 := by decide
  rw [verifyPassword, hash_password_current, if_neg Bool.false_ne_true, hash_password_text, String.toList_ofList, stored,
    scanned]
  dsimp only
  rw [verifyPbkdf2, if_neg positive, Hex.decode_encode _ _ saltLength.le, Hex.decode_encode _ _ keyLength.le]
  dsimp only
  rw [if_neg (not_or.mpr ⟨someSalt, someKey⟩), keyLength, beq_iff_eq,
    difference_zero_iff _ _ (Vector.length_toList.trans keyLength.symm), Vector.toList_inj]

theorem verify_legacy_iff (crypto : Crypto) (password candidate : String) :
    verifyPassword crypto candidate (legacyHash crypto password) = true ↔ crypto.sha256 candidate = crypto.sha256 password := by
  rw [verifyPassword, legacy_hash_legacy, if_pos rfl, verifySha256Legacy, beq_iff_eq, legacyHash, legacyHash,
    String.ofList_inj]
  constructor
  · intro same
    exact Vector.toList_inj.mp (Hex.encode_injective _ _ same)
  · intro same
    rw [same]

-- What a login that succeeds against a legacy hash leaves in the table: the candidate
-- under the new salt, or the old hash where the candidate is too short to be set.
theorem legacy_login (crypto : Crypto) (db : AuthDb) (password candidate : String) (salt : Vector Byte saltBytes)
    (stored : db.passwordHash = some (legacyHash crypto password)) (same : crypto.sha256 candidate = crypto.sha256 password) :
    authVerifyPassword crypto db candidate salt true true =
      (true, if candidate.utf8ByteSize < authMinPasswordLen then db
        else { db with passwordHash := some (hashPassword crypto salt candidate) }) := by
  have valid := (verify_legacy_iff crypto password candidate).mpr same
  rw [authVerifyPassword, stored, Option.filter_some, if_pos rfl]
  dsimp only
  rw [valid, legacy_hash_legacy, Bool.and_self, if_pos rfl, authSetPassword]
  split
  · rfl
  · rw [if_pos rfl]

theorem login_accepts (crypto : Crypto) (db : AuthDb) (password : String) (salt : Vector Byte saltBytes) (stored : String)
    (found : db.passwordHash = some stored) :
    (authVerifyPassword crypto db password salt true true).1 = verifyPassword crypto password stored := by
  rw [authVerifyPassword, found, Option.filter_some, if_pos rfl]
  dsimp only
  split <;> rfl

def AuthDb.withHash (db : AuthDb) (stored : String) : AuthDb := { db with passwordHash := some stored }

-- The two results of a login whose statements succeed.
def accepts (crypto : Crypto) (db : AuthDb) (salt : Vector Byte saltBytes) (candidate : String) : Bool :=
  (authVerifyPassword crypto db candidate salt true true).1

def afterLogin (crypto : Crypto) (db : AuthDb) (salt : Vector Byte saltBytes) (candidate : String) : AuthDb :=
  (authVerifyPassword crypto db candidate salt true true).2

theorem accepts_hashed_iff (crypto : Crypto) (db : AuthDb) (password candidate : String) (salt drawn : Vector Byte saltBytes) :
    accepts crypto (db.withHash (hashPassword crypto salt password)) drawn candidate = true ↔
      crypto.deriveKey candidate salt.toList pbkdf2Iterations keyBytes =
        crypto.deriveKey password salt.toList pbkdf2Iterations keyBytes := by
  rw [accepts, login_accepts crypto _ candidate drawn _ rfl]
  exact verify_hashed_iff crypto salt password candidate

theorem accepts_legacy_iff (crypto : Crypto) (db : AuthDb) (password candidate : String) (drawn : Vector Byte saltBytes) :
    accepts crypto (db.withHash (legacyHash crypto password)) drawn candidate = true ↔
      crypto.sha256 candidate = crypto.sha256 password := by
  rw [accepts, login_accepts crypto _ candidate drawn _ rfl]
  exact verify_legacy_iff crypto password candidate

theorem upgrade_accepts (crypto : Crypto) (db : AuthDb) (password candidate : String) (drawn later : Vector Byte saltBytes)
    (same : crypto.sha256 candidate = crypto.sha256 password) :
    accepts crypto (afterLogin crypto (db.withHash (legacyHash crypto password)) drawn candidate) later candidate = true := by
  rw [afterLogin, legacy_login crypto _ password candidate drawn rfl same]
  dsimp only
  split
  · exact (accepts_legacy_iff crypto db password candidate later).mpr same
  · exact (accepts_hashed_iff crypto (db.withHash _) candidate candidate drawn later).mpr rfl

theorem stored_password_accepts (crypto : Crypto) (db : AuthDb) (password candidate : String)
    (salt drawn later : Vector Byte saltBytes) :
    (accepts crypto (db.withHash (hashPassword crypto salt password)) drawn candidate = true ↔
        crypto.deriveKey candidate salt.toList pbkdf2Iterations keyBytes =
          crypto.deriveKey password salt.toList pbkdf2Iterations keyBytes) ∧
      accepts crypto (db.withHash (hashPassword crypto salt password)) drawn password = true ∧
      (accepts crypto (db.withHash (legacyHash crypto password)) drawn candidate = true ↔
        crypto.sha256 candidate = crypto.sha256 password) ∧
      (accepts crypto (db.withHash (legacyHash crypto password)) drawn candidate = true →
        accepts crypto (afterLogin crypto (db.withHash (legacyHash crypto password)) drawn candidate) later candidate = true) ∧
      accepts crypto (afterLogin crypto (db.withHash (legacyHash crypto password)) drawn password) later password = true := by
  refine ⟨accepts_hashed_iff crypto db password candidate salt drawn,
    (accepts_hashed_iff crypto db password password salt drawn).mpr rfl,
    accepts_legacy_iff crypto db password candidate drawn, ?_, upgrade_accepts crypto db password password drawn later rfl⟩
  intro accepted
  have same := (accepts_legacy_iff crypto db password candidate drawn).mp accepted
  exact upgrade_accepts crypto db password candidate drawn later same

-- Two passwords with one SHA-256: the login of the second stores its own encoding.
def collidingCrypto : Crypto where
  deriveKey password _ _ keyLen := Vector.replicate keyLen (BitVec.ofNat 8 password.utf8ByteSize)
  sha256 _ := Vector.replicate 32 0

theorem colliding_login_locks_out :
    ¬∀ (crypto : Crypto) (db : AuthDb) (password candidate : String) (drawn later : Vector Byte saltBytes),
      accepts crypto (db.withHash (legacyHash crypto password)) drawn candidate = true →
        accepts crypto (afterLogin crypto (db.withHash (legacyHash crypto password)) drawn candidate) later password = true := by
  intro kept
  let salt : Vector Byte saltBytes := Vector.replicate saltBytes 0
  let db : AuthDb := { clock := 0, passwordHash := none, sessions := fun _ => none }
  have collide : collidingCrypto.sha256 "longer one" = collidingCrypto.sha256 "owner" := rfl
  have accepted := kept collidingCrypto db "owner" "longer one" salt salt
    ((accepts_legacy_iff collidingCrypto db "owner" "longer one" salt).mpr collide)
  have long : ¬"longer one".utf8ByteSize < authMinPasswordLen := by decide
  rw [afterLogin, legacy_login collidingCrypto _ "owner" "longer one" salt rfl collide, if_neg long] at accepted
  have keys := (accepts_hashed_iff collidingCrypto (db.withHash _) "longer one" "owner" salt salt).mp accepted
  exact absurd keys (by decide)

end AiriesUps.Api
