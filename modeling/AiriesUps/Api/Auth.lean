import AiriesUps.Lib.Calendar
import Mathlib.Logic.Function.Basic

set_option autoImplicit false

namespace AiriesUps.Api

structure SessionRow where
  kind : String
  expiresAt : List Char
  revokedAt : Option (List Char)
deriving DecidableEq, Repr

structure AuthDb where
  clock : Int
  passwordHash : Option String
  sessions : String → Option SessionRow

def presentedToken : Option String → Option String
  | none => none
  | some token =>
    if token = "" then none
    else if "Bearer ".toList.isPrefixOf token.toList then some (String.ofList (token.toList.drop 7)) else some token

def setupAnswer (db : AuthDb) (succeeds : Bool) : Option Bool := if succeeds then some db.passwordHash.isSome else none

-- An error counts as set up.
def authIsSetup (db : AuthDb) (succeeds : Bool) : Bool := (setupAnswer db succeeds).getD true

def authMinPasswordLen : Nat := 4

-- hashed is what hash_password returns, which salts. The row is inserted or replaced.
def authSetPassword (db : AuthDb) (password hashed : String) (succeeds : Bool) : Bool × AuthDb :=
  if password.utf8ByteSize < authMinPasswordLen then (false, db)
  else if succeeds then (true, { db with passwordHash := some hashed })
  else (false, db)

def strftime (time : Int) : List Char := Calendar.text (Nat.toDigits 10) time

def datetimeNow (clock : Int) : List Char := Calendar.text (Decimal.fixed 4) clock

def authSessionTtlHours : Int := 90 * 24

def AuthDb.insert (db : AuthDb) (token : String) (row : SessionRow) : Option AuthDb :=
  if (db.sessions token).isSome then none else some { db with sessions := Function.update db.sessions token (some row) }

def authCreateToken (db : AuthDb) (token : String) (expireHours : Int) : Option AuthDb :=
  db.insert token { kind := "session", expiresAt := strftime (db.clock + expireHours * 3600), revokedAt := none }

-- selects and updates say whether the two statements succeed.
def authValidateToken (db : AuthDb) (token : Option String) (selects updates : Bool) : Bool × AuthDb :=
  match presentedToken token with
  | none => (false, db)
  | some tok =>
    match (db.sessions tok).filter fun row => selects && decide (datetimeNow db.clock < row.expiresAt) && row.revokedAt.isNone with
    | none => (false, db)
    | some row =>
      let slid := { row with expiresAt := strftime (db.clock + authSessionTtlHours * 3600) }
      if row.kind = "session" ∧ updates = true then (true, { db with sessions := Function.update db.sessions tok (some slid) })
      else (true, db)

def authRevokeToken (db : AuthDb) (token : Option String) : AuthDb :=
  match presentedToken token with
  | none => db
  | some tok => { db with sessions := Function.update db.sessions tok none }

def authCleanupSessions (db : AuthDb) : AuthDb :=
  { db with sessions := fun token => (db.sessions token).filter fun row => !decide (row.expiresAt < datetimeNow db.clock) }

end AiriesUps.Api
