import ClusterWatch.Number.Binary64

/-!
# The shortest decimal of a binary number

A finite binary64 number is written with the fewest significant digits that read back as the same
number, and with those nearest to it where several of that length do. The digits are written
positionally, without an exponent, and without a fraction for a whole number.
-/

namespace ClusterWatch.Binary64

/-- The greatest `k` with `10 ^ k ≤ num / den`, for a positive ratio. -/
def decimalExponent (num den : Nat) : Int :=
  let guess : Int := (Nat.toDigits 10 num).length - (Nat.toDigits 10 den).length
  if den * Nat.pow 10 guess.toNat ≤ num * Nat.pow 10 (-guess).toNat then guess else guess - 1

/-- The digits nearest to `num / den` on the grid of multiples of `10 ^ exponent`, of those that
read back as `x`. -/
def onGrid? (x : Binary64) (num den : Nat) (exponent : Int) : Option Nat :=
  let n := num * Nat.pow 10 (-exponent).toNat
  let d := den * Nat.pow 10 exponent.toNat
  let low := n / d
  let readsBack (k : Nat) : Bool := ofDecimal false k exponent = x
  let nearest := if 2 * (n % d) ≤ d then [low, low + 1] else [low + 1, low]
  nearest.find? readsBack

/-- The shortest digits of a positive finite number, with their power of ten. -/
def shortestDigits (significand : Nat) (exponent : Int) : Nat × Int :=
  let x := Binary64.finite false significand exponent
  let (num, den) := scaleRatio significand 1 exponent
  let top := decimalExponent num den
  let found := (List.range 17).findSome? fun (k : Nat) =>
    (onGrid? x num den (top - k)).map fun digits => (digits, top - (k : Int))
  found.getD (num, 0)

/-- The text of `digits * 10 ^ exponent`, positionally and without trailing zeros
after the point. -/
def positional (digits : Nat) (exponent : Int) : String :=
  let text := Nat.toDigits 10 digits
  if 0 ≤ exponent then String.ofList (text ++ List.replicate exponent.toNat '0')
  else
    let places := (-exponent).toNat
    let padded := List.replicate (places + 1 - text.length) '0' ++ text
    let whole := padded.take (padded.length - places)
    let fraction := padded.drop (padded.length - places)
    let fraction := (fraction.reverse.dropWhile (· == '0')).reverse
    if fraction.isEmpty then String.ofList whole else String.ofList (whole ++ '.' :: fraction)

/-- The shortest decimal text of a number. -/
def toText : Binary64 → String
  | .nan => "NaN"
  | .infinite negative => if negative then "-inf" else "inf"
  | .finite negative significand exponent =>
    let sign := if negative then "-" else ""
    if significand = 0 then sign ++ "0"
    else
      let (digits, power) := shortestDigits significand exponent
      sign ++ positional digits power

end ClusterWatch.Binary64
