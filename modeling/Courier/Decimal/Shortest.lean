/-!
# Shortest decimal text of a number

The text of a floating-point number has the fewest digits that read back as that number, and is
always positional.  The search works on exact integers: a decimal `digits * 10 ^ exponent` reads
back when it lies between the midpoints to the neighbouring numbers.
-/

namespace Courier.Decimal

/-- A positive number `mantissa * 2 ^ exponent`. -/
structure Binary where
  mantissa : Nat
  exponent : Int
  /-- Whether the number below is only half as far away as the one above. -/
  closeBelow : Bool
deriving Repr

/-- A number `digits * 10 ^ exponent`. -/
structure Scaled where
  digits : Nat
  /-- The power of ten of the last digit. -/
  exponent : Int
deriving DecidableEq, Repr

/-- The larger of an exponent and zero. -/
private def positivePart (exponent : Int) : Nat := exponent.toNat

/-- A multiple of a power of ten and a multiple of a power of two, brought to one unit. -/
private def tenUnits (digits : Nat) (ten two : Int) : Nat :=
  digits * Nat.pow 10 (positivePart ten) * Nat.pow 2 (positivePart (-two))

/-- The counterpart of `tenUnits` for a multiple of a power of two. -/
private def twoUnits (quarters : Nat) (ten two : Int) : Nat :=
  quarters * Nat.pow 2 (positivePart two) * Nat.pow 10 (positivePart (-ten))

/-- The decimal with its last digit at a power of ten that reads back as the number; the nearer
one where two do. -/
def atPower? (number : Binary) (power : Int) : Option Scaled :=
  let two := number.exponent - 2
  let value := twoUnits (4 * number.mantissa) power two
  let high := twoUnits (4 * number.mantissa + 2) power two
  let low := twoUnits (4 * number.mantissa - (if number.closeBelow then 1 else 2)) power two
  let inside (digits : Nat) : Bool :=
    let point := tenUnits digits power two
    if number.mantissa % 2 == 0 then low ≤ point && point ≤ high else low < point && point < high
  let below := value / tenUnits 1 power two
  let distance (digits : Nat) : Nat :=
    let point := tenUnits digits power two
    if point ≤ value then value - point else point - value
  match below != 0 && inside below, inside (below + 1) with
  | true, true =>
    some ⟨if distance (below + 1) < distance below then below + 1 else below, power⟩
  | true, false => some ⟨below, power⟩
  | false, true => some ⟨below + 1, power⟩
  | false, false => none

/-- Looks for the largest power of ten with a decimal that reads back. -/
def search (number : Binary) : Nat → Int → Scaled
  | 0, power => ⟨number.mantissa, power⟩
  | steps + 1, power => (atPower? number power).getD (search number steps (power - 1))

/-- The decimal of fewest digits that reads back as a number. -/
def shortest (number : Binary) : Scaled := search number 700 310

/-- A positional text with at least one decimal place. -/
def Scaled.positional (scaled : Scaled) : String :=
  let digits := (toString scaled.digits).toList
  if 0 ≤ scaled.exponent then
    String.ofList (digits ++ List.replicate scaled.exponent.toNat '0') ++ ".0"
  else
    let places := (-scaled.exponent).toNat
    let padded := List.replicate (places + 1 - digits.length) '0' ++ digits
    String.ofList (padded.take (padded.length - places)) ++ "."
      ++ String.ofList (padded.drop (padded.length - places))

/-- The text of a floating-point number. -/
def text (number : Float) : String :=
  let bits : Nat := number.toBits.toNat
  let sign := if bits >>> 63 == 1 then "-" else ""
  let biased : Nat := (bits >>> 52) % 2048
  let hidden : Nat := 1 <<< 52
  let fraction : Nat := bits % hidden
  if biased == 2047 then (if fraction == 0 then sign ++ "inf" else "NaN")
  else if biased == 0 && fraction == 0 then sign ++ "0.0"
  else
    let binary : Binary :=
      if biased == 0 then ⟨fraction, -1074, false⟩
      else ⟨hidden + fraction, (biased : Int) - 1075, fraction == 0 && biased > 1⟩
    sign ++ (shortest binary).positional

end Courier.Decimal
