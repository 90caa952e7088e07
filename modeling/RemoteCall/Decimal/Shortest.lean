/-!
# The shortest decimal of a binary floating-point number

A finite double is `mantissa · 2 ^ exponent`. The reals that round to it form an interval, whose
ends belong to it exactly when the mantissa is even. `Binary.shortest` is the decimal with the
fewest significant digits inside that interval, and of several the one nearest to the number.

All arithmetic is on natural numbers: the number and the ends of the interval are multiples of a
quarter of the unit in the last place, scaled to a common denominator.
-/

namespace RemoteCall.Decimal

/-- A positive number `mantissa · 2 ^ exponent`. `narrow` says that the next smaller number lies
only half as far away as the next larger one. -/
structure Binary where
  mantissa : Nat
  exponent : Int
  narrow : Bool
  deriving DecidableEq

/-- The decimal number `digits · 10 ^ exponent`. -/
structure Scaled where
  digits : Nat
  exponent : Int
  deriving DecidableEq

namespace Binary

/-- The fields of a positive finite double, read from its bits. -/
def ofBits (bits : Nat) : Binary :=
  let fraction : Nat := bits % Nat.pow 2 52
  let biased : Nat := bits / Nat.pow 2 52 % Nat.pow 2 11
  if biased = 0 then ⟨fraction, -1074, false⟩
  else ⟨Nat.pow 2 52 + fraction, (biased : Int) - 1075, fraction = 0 && biased != 1⟩

/-- Quarters of the last place as a fraction of whole ones: a numerator factor and a denominator. -/
def scale (b : Binary) : Nat × Nat :=
  let e := b.exponent - 2
  if 0 ≤ e then (Nat.pow 2 e.toNat, 1) else (1, Nat.pow 2 (-e).toNat)

/-- The power of ten just above a positive fraction: the least `k` with `num / den < 10 ^ k`. -/
def magnitude (num den : Nat) : Int :=
  if den ≤ num then ((Nat.toDigits 10 (num / den)).length : Int)
  else
    Int.negOfNat (((List.range 400).find? fun j => den ≤ num * Nat.pow 10 (j + 1)).getD 0)

/-- Of two neighbours on a decimal grid, the one inside the interval, and of both the nearer. -/
def pick (low mid high : Nat) (closed : Bool) (unit : Nat) (floor : Nat) : Option Nat :=
  let inside := fun c =>
    if closed then low ≤ c * unit && c * unit ≤ high else low < c * unit && c * unit < high
  match inside floor, inside (floor + 1) with
  | false, false => none
  | true, false => some floor
  | false, true => some (floor + 1)
  | true, true =>
    let below := mid - floor * unit
    let above := (floor + 1) * unit - mid
    if below < above then some floor
    else if above < below then some (floor + 1)
    else if floor % 2 = 0 then some floor else some (floor + 1)

/-- The nearest decimal of `count` digits that still rounds to the number, if there is one. -/
def withDigits? (b : Binary) (count : Nat) : Option Scaled :=
  let (factor, den) := b.scale
  let mid := 4 * b.mantissa * factor
  let low := (4 * b.mantissa - if b.narrow then 1 else 2) * factor
  let high := (4 * b.mantissa + 2) * factor
  let step := magnitude mid den - count
  let (grow, unit) :=
    if 0 ≤ step then (1, den * Nat.pow 10 step.toNat) else (Nat.pow 10 (-step).toNat, den)
  (pick (low * grow) (mid * grow) (high * grow) (b.mantissa % 2 = 0) unit
    (mid * grow / unit)).map fun digits => ⟨digits, step⟩

/-- The shortest decimal that rounds to the number. Seventeen digits always suffice. -/
def shortest (b : Binary) : Scaled :=
  ((List.range 17).findSome? fun n => b.withDigits? (n + 1)).getD ⟨0, 0⟩

end Binary

namespace Scaled

/-- The same number without trailing zeros in its digits. -/
def trim (s : Scaled) : Scaled :=
  let digits := Nat.toDigits 10 s.digits
  let zeros := (digits.reverse.takeWhile (· = '0')).length
  if s.digits = 0 then s else ⟨s.digits / Nat.pow 10 zeros, s.exponent + zeros⟩

end Scaled

end RemoteCall.Decimal
