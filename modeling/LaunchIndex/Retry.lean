import LaunchIndex.Binary64.Power
import LaunchIndex.Signature
import LaunchIndex.Text.LowerCase
import LaunchIndex.Value.Number

/-! Retrying while another program writes. A policy bounds the attempts and the pause before
each retry, which doubles until it reaches a cap. Only errors that say the database is busy
are worth a retry. -/

namespace LaunchIndex

/-- The bounds of a retry. The fields are kept as they were given, beside the integers that
they stand for. -/
structure Policy where
  givenAttempts : Value
  givenInitial : Value
  givenCap : Value
  attempts : Int
  initial : Int
  cap : Int
  one_le_attempts : 1 ≤ attempts
  initial_nonneg : 0 ≤ initial
  initial_le_cap : initial ≤ cap

namespace Policy

def defaultAttempts : Int := 5

def defaultInitial : Int := 100

def defaultCap : Int := 1600

/-- A policy from fields of any kind, or the first reason against it. -/
def of (attempts initial cap : Value) : Outcome Policy := do
  let n ← attempts.toInteger
  if hn : 1 ≤ n then
    let i ← initial.toInteger
    if hi : 0 ≤ i then
      let c ← cap.toInteger
      if hc : i ≤ c then
        return ⟨attempts, initial, cap, n, i, c, hn, hi, hc⟩
      else .error .delayExceedsCap
    else .error .negativeDelay
  else .error .tooFewAttempts

instance : Inhabited Policy :=
  ⟨⟨.int defaultAttempts, .int defaultInitial, .int defaultCap, defaultAttempts, defaultInitial,
    defaultCap, by decide, by decide, by decide⟩⟩

def signature : Signature where
  operation := "RetryPolicy.__init__"
  optional := ["max_attempts", "initial_delay_ms", "max_delay_ms"]

/-- A policy from named fields; a field that is not named has its default, and no other name is
taken. -/
def ofFields (fields : List (Text × Value)) : Outcome Policy := do
  signature.check (fields.map (·.1))
  let field (name : Text) (i : Int) : Value := (Value.lookup fields name).getD (.int i)
  of (field "max_attempts" defaultAttempts) (field "initial_delay_ms" defaultInitial)
    (field "max_delay_ms" defaultCap)

/-- The pause in milliseconds before a retry, counted from zero: it doubles and is then cut off
at the cap. -/
def delay (p : Policy) (retry : Int) : Int := min (p.initial <<< retry.toNat) p.cap

/-- The pause before a retry whose number is a positive real: the pause grows between the whole
numbers too, and a cap that is not less does not cut it off. -/
def realDelay (p : Policy) (retry : Binary64) : Outcome Value :=
  match retry.twoPower?, Binary64.ofInt? p.initial with
  | none, _ => .error Fault.powerTooLarge
  | _, none => .error Fault.integerTooLargeForReal
  | some factor, some initial =>
    let pause := initial.mul factor
    if !pause.isNaN && Binary64.compareInt p.cap pause == .lt then .ok (.int p.cap)
    else .ok (.real pause)

/-- The pause before a retry whose number is of any kind. A number that is not positive counts
as zero. -/
def delayBefore (p : Policy) (retry : Value) : Outcome Value := do
  match ← retry.isPositive, retry with
  | true, .real x => p.realDelay x
  | true, v => return .int (p.delay (← v.toInteger))
  | false, _ => return .int (p.delay 0)

/-- The count of attempts as a bound of a loop; only integers and flags serve as one. -/
def rounds (p : Policy) : Outcome Nat :=
  match p.givenAttempts with
  | .int _ | .bool _ => .ok p.attempts.toNat
  | .text _ => .error .noSum
  | v => .error (.noCount v.kindName)

end Policy

namespace StoreError

/-- The phrases of messages that tell of a busy database. -/
def busyPhrases : List Text :=
  ["database is locked", "database is busy", "database table is locked",
    "database schema is locked"]

/-- Whether another writer holds the database. The low byte of the result code tells, or without
a code the message in small letters. -/
def isTransient (e : StoreError) : Outcome Bool :=
  match e.code with
  | none | some .null =>
    let message := Text.lower e.message
    .ok (busyPhrases.any fun phrase => Text.contains phrase message)
  | some code => code.toInteger.map fun n => n % 256 == 5 || n % 256 == 6

end StoreError

end LaunchIndex
