import Fieldwork.Decimal.Layout
import Fieldwork.Json.Decode

/-!
# Retry policies

How often a failed operation is repeated and how long to wait in between. The wait grows by a
factor from one retry to the next and never passes its greatest length.
-/

namespace Fieldwork

structure RetryPolicy where
  /-- The first attempt counts too. -/
  maxAttempts : UInt32 := 3
  baseDelayMs : UInt64 := 100
  backoffMultiplier : Float := 2.0
  maxDelayMs : UInt64 := 2000
  deriving DecidableEq

namespace RetryPolicy

/-- No wait between attempts. -/
def immediate (maxAttempts : UInt32) : RetryPolicy :=
  { maxAttempts, baseDelayMs := 0, backoffMultiplier := 1.0, maxDelayMs := 0 }

/-! ## Delays -/

/-- The product of `r` and `a ^ n` by repeated squaring, over `bits` binary digits of `n`. -/
def powerLoop (r a : Float) (n : Nat) : Nat → Float
  | 0 => r
  | bits + 1 =>
    let r := if n % 2 = 1 then r * a else r
    if n / 2 = 0 then r else powerLoop r (a * a) (n / 2) bits

def power (a : Float) (n : Nat) : Float :=
  powerLoop 1 a n 32

/-- The nearest integer, of two the even one. -/
def roundToEven (num den : Nat) : Nat :=
  let q := num / den
  let twice := 2 * (num % den)
  if twice < den ∨ (twice = den ∧ q % 2 = 0) then q else q + 1

/-- A number of seconds, not negative, in nanoseconds. -/
def nanoseconds (seconds : Float) : Nat :=
  let b := Decimal.binary seconds
  roundToEven (b.significand * Nat.pow 10 9 * Nat.pow 2 b.exponent.toNat)
    (Nat.pow 2 (-b.exponent).toNat)

/-- The wait before a retry, in nanoseconds; retries are counted from one. -/
def delay (p : RetryPolicy) (retry : Nat) : Nat :=
  let exponent := min (retry - 1) (Nat.pow 2 31 - 1)
  let millis := Float.ofNat p.baseDelayMs.toNat * power p.backoffMultiplier exponent
  let most := Float.ofNat p.maxDelayMs.toNat
  let bounded :=
    if millis.isNaN then most
    else if millis < 0 then 0
    else if most < millis then most
    else millis
  nanoseconds (bounded / 1000)

/-- The wait in whole milliseconds, as a word. -/
def delayMs (p : RetryPolicy) (retry : Nat) : UInt64 :=
  UInt64.ofNat (p.delay retry / Nat.pow 10 6)

/-- What is wrong with a policy that gives no delays. -/
def complaint? (p : RetryPolicy) : Option String :=
  if !p.backoffMultiplier.isFinite || p.backoffMultiplier < 0 then
    some ("backoff_multiplier must be a finite, non-negative number, got "
      ++ String.ofList (Decimal.plainLayout.text p.backoffMultiplier))
  else if p.maxAttempts = 0 then some "max_attempts must be at least 1"
  else none

/-! ## As a document -/

open Document

def ofDocument? (d : Document) : Option RetryPolicy := do
  match ← d.members? [["max_attempts"], ["base_delay_ms"], ["backoff_multiplier"],
      ["max_delay_ms"]] with
  | [maxAttempts, baseDelayMs, backoffMultiplier, maxDelayMs] =>
    let standard : RetryPolicy := {}
    let maxAttempts ← orElse standard.maxAttempts uint32? maxAttempts
    let baseDelayMs ← orElse standard.baseDelayMs uint64? baseDelayMs
    let backoffMultiplier ← orElse standard.backoffMultiplier float? backoffMultiplier
    let maxDelayMs ← orElse standard.maxDelayMs uint64? maxDelayMs
    return { maxAttempts, baseDelayMs, backoffMultiplier, maxDelayMs }
  | _ => none

def document (p : RetryPolicy) : Document :=
  .object
    [("max_attempts", ofNat p.maxAttempts.toNat), ("base_delay_ms", ofNat p.baseDelayMs.toNat),
     ("backoff_multiplier", .number (.real p.backoffMultiplier)),
     ("max_delay_ms", ofNat p.maxDelayMs.toNat)]

end RetryPolicy

end Fieldwork
