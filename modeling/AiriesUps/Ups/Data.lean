import Mathlib.Data.Rat.Defs
import Mathlib.Data.BitVec

set_option autoImplicit false

namespace AiriesUps.Ups

-- The C double as far as the daemon compares it: every finite double is a
-- rational, and the comparisons follow IEEE 754 (a NaN compares false).
inductive Double where
  | nan
  | negInf
  | posInf
  | finite (value : Rat)
deriving DecidableEq, Repr

namespace Double

def ofInt (value : Int) : Double := .finite value

def lt : Double → Double → Bool
  | .finite left, .finite right => decide (left < right)
  | .negInf, .finite _ | .negInf, .posInf | .finite _, .posInf => true
  | _, _ => false

def eq : Double → Double → Bool
  | .finite left, .finite right => decide (left = right)
  | .negInf, .negInf | .posInf, .posInf => true
  | _, _ => false

def le (left right : Double) : Bool := lt left right || eq left right

theorem lt_irrefl (value : Double) : lt value value = false := by
  cases value <;> simp [lt]

theorem lt_number (left right : Double) (less : lt left right = true) : left ≠ .nan ∧ right ≠ .nan := by
  cases left <;> cases right <;> simp_all [lt]

theorem le_finite (left right : Rat) : le (.finite left) (.finite right) = true ↔ left ≤ right := by
  rw [le, lt, eq, Bool.or_eq_true, decide_eq_true_iff, decide_eq_true_iff, Rat.le_iff_lt_or_eq]

theorem le_trans (first second third : Double) (left : le first second = true) (right : le second third = true) :
    le first third = true := by
  cases first with
  | finite low =>
    cases second with
    | finite middle =>
      cases third with
      | finite high =>
        rw [le_finite] at *
        exact Rat.le_trans left right
      | _ => simp_all [le, lt, eq]
    | _ => cases third <;> simp_all [le, lt, eq]
  | _ => cases second <;> cases third <;> simp_all [le, lt, eq]

-- The two comparisons are complementary where neither side is a NaN.
theorem not_lt_iff_le (left right : Double) (leftNumber : left ≠ .nan) (rightNumber : right ≠ .nan) :
    lt left right = false ↔ le right left = true := by
  cases left with
  | finite low =>
    cases right with
    | finite high => rw [le_finite, lt, decide_eq_false_iff_not, Rat.not_lt]
    | _ => simp_all [le, lt, eq]
  | _ => cases right <;> simp_all [le, lt, eq]

end Double

-- cutils_config_t as its readers see it at one moment: the value stored or
-- registered for a key, or nothing. The callers supply their own defaults.
structure Config where
  str : String → Option String
  int : String → Option Int

namespace Config

def unset : Config := { str := fun _ => none, int := fun _ => none }

def getStr (config : Config) (key default : String) : String := (config.str key).getD default
def getInt (config : Config) (key : String) (default : Int) : Int := (config.int key).getD default

end Config

-- monitor_fire_event(mon, severity, category, title, message)
structure Event where
  severity : String
  category : String
  title : String
  message : String
deriving DecidableEq, Repr

abbrev Word := BitVec 32

def bit (index : Nat) : Word := 1#32 <<< index

def stOnline : Word := bit 1
def stOnBattery : Word := bit 2
def stBypass : Word := bit 3
def stOutputOff : Word := bit 4
def stFault : Word := bit 5
def stInputBad : Word := bit 6
def stTest : Word := bit 7
def stPendingOn : Word := bit 8
def stShutPending : Word := bit 9
def stCommanded : Word := bit 10
def stHeMode : Word := bit 13
def stInfoAlert : Word := bit 14
def stFaultState : Word := bit 15
def stMainsBad : Word := bit 19
def stFaultRecovery : Word := bit 20
def stOverload : Word := bit 21

-- UPS_SIG_* (ups.h); sig_status is a 16-bit register
def sigShutdownImminent : BitVec 16 := 1#16 <<< 1

def battestPassed : BitVec 16 := 1#16 <<< 2
def battestFailed : BitVec 16 := 1#16 <<< 3
def battestRefused : BitVec 16 := 1#16 <<< 4
def battestAborted : BitVec 16 := 1#16 <<< 5
def battestSrcProtocol : BitVec 16 := 1#16 <<< 6
def battestSrcLocalUi : BitVec 16 := 1#16 <<< 7
def battestSrcInternal : BitVec 16 := 1#16 <<< 8

-- (status & mask) != 0, as the code tests its registers
def has {width : Nat} (status mask : BitVec width) : Bool := status &&& mask != BitVec.ofNat width 0

theorem has_two_pow {width : Nat} (status : BitVec width) (index : Nat) (inside : index < width) :
    has status (BitVec.twoPow width index) = status.getLsbD index := by
  have nonzero : BitVec.twoPow width index ≠ BitVec.ofNat width 0 := by
    intro zero
    have value := congrArg BitVec.toNat zero
    rw [BitVec.toNat_twoPow_of_lt inside, BitVec.toNat_ofNat, Nat.zero_mod] at value
    exact absurd value (Nat.two_pow_pos index).ne'
  rw [has, BitVec.and_twoPow]
  cases status.getLsbD index with
  | true =>
    rw [if_pos rfl]
    exact bne_iff_ne.mpr nonzero
  | false =>
    rw [if_neg Bool.false_ne_true]
    exact bne_self_eq_false _

theorem has_bit (status : Word) (index : Nat) (inside : index < 32) :
    has status (bit index) = status.getLsbD index := by
  rw [bit, ← BitVec.twoPow_eq]
  exact has_two_pow status index inside

theorem has_rising (previous current : Word) (index : Nat) (inside : index < 32) :
    has ((previous ^^^ current) &&& current) (bit index) = (!has previous (bit index) && has current (bit index)) := by
  simp only [has_bit _ index inside, BitVec.getLsbD_and, BitVec.getLsbD_xor]
  cases previous.getLsbD index <;> cases current.getLsbD index <;> rfl

theorem has_falling (previous current : Word) (index : Nat) (inside : index < 32) :
    has ((previous ^^^ current) &&& previous) (bit index) = (has previous (bit index) && !has current (bit index)) := by
  simp only [has_bit _ index inside, BitVec.getLsbD_and, BitVec.getLsbD_xor]
  cases previous.getLsbD index <;> cases current.getLsbD index <;> rfl

-- UPS_EFF_* (ups.h), the reason codes of ups_eff_reason_t
def effOk : Nat := 0

-- ups_data_t, the fields the modelled code reads
structure UpsData where
  status : Word
  transferReason : BitVec 16
  sigStatus : BitVec 16
  generalError : BitVec 16
  powerSystemError : Word
  batSystemError : BitVec 16
  batTestStatus : BitVec 16
  batLifetimeStatus : BitVec 16
  runtimeSec : Nat
  chargePct : Double
  batteryVoltage : Double
  loadPct : Double
  outputCurrent : Double
  outputVoltage : Double
  outputFrequency : Double
  bypassVoltage : Double
  bypassFrequency : Double
  inputVoltage : Double
  efficiency : Double
  efficiencyReason : Nat
deriving DecidableEq, Repr

def UpsData.zero : UpsData :=
  { status := 0, transferReason := 0, sigStatus := 0, generalError := 0, powerSystemError := 0
    batSystemError := 0, batTestStatus := 0, batLifetimeStatus := 0, runtimeSec := 0
    chargePct := .finite 0, batteryVoltage := .finite 0, loadPct := .finite 0, outputCurrent := .finite 0
    outputVoltage := .finite 0, outputFrequency := .finite 0, bypassVoltage := .finite 0
    bypassFrequency := .finite 0, inputVoltage := .finite 0, efficiency := .finite 0, efficiencyReason := 0 }

end AiriesUps.Ups
