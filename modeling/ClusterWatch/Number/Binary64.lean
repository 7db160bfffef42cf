/-!
# Binary floating point with 53 significant bits

Exact arithmetic of the IEEE 754 format binary64. A finite number is a sign, a significand and a
power of two. Every operation first finds its exact result, as a ratio of natural numbers or a sum
on a common power of two, and then rounds it once: to the nearest representable number, and to the
even one of two that are equally near. Nothing here uses the machine's own floating point, so every
result can be reasoned about.
-/

namespace ClusterWatch

/-- A binary64 number. Numbers built by `ofRatio` are canonical: the significand is below
`2 ^ 53`, the exponent at least `-1074`, and a significand below `2 ^ 52` occurs only with that
smallest exponent. -/
inductive Binary64 where
  /-- The number `± significand * 2 ^ exponent`; zero keeps its sign. -/
  | finite (negative : Bool) (significand : Nat) (exponent : Int)
  /-- One of the two infinities. -/
  | infinite (negative : Bool)
  /-- The result of an operation without a value. -/
  | nan
  deriving DecidableEq, Repr, Inhabited

namespace Binary64

/-- The smallest exponent of a finite number. -/
def minExponent : Int := -1074

/-- The largest exponent of a finite number. -/
def maxExponent : Int := 971

/-- The value of the leading bit of a significand with all its 53 bits: `2 ^ 52`. -/
def leadingBit : Nat := Nat.pow 2 52

/-- The natural number nearest to `num / den`; a tie goes to the even one. -/
def nearestEven (num den : Nat) : Nat :=
  let q := num / den
  let r := num % den
  if 2 * r < den then q
  else if den < 2 * r then q + 1
  else if q % 2 = 0 then q else q + 1

/-- The numerator and denominator of `num / den * 2 ^ k`. -/
def scaleRatio (num den : Nat) (k : Int) : Nat × Nat :=
  (num * Nat.pow 2 k.toNat, den * Nat.pow 2 (-k).toNat)

/-- The exponent at which `num / den` has 53 bits before the binary point, if that is
not too small. -/
def exponentOf (num den : Nat) : Int :=
  let guess : Int := (num.log2 : Int) - den.log2 - 52
  let (n, d) := scaleRatio num den (-guess)
  max minExponent (if leadingBit * d ≤ n then guess else guess - 1)

/-- The binary64 number nearest to `± num / den`, for a positive `den`. -/
def ofRatio (negative : Bool) (num den : Nat) : Binary64 :=
  if num = 0 then .finite negative 0 minExponent
  else
    let e := exponentOf num den
    let (n, d) := scaleRatio num den (-e)
    let q := nearestEven n d
    let (q, e) := if q = 2 * leadingBit then (leadingBit, e + 1) else (q, e)
    if maxExponent < e then .infinite negative else .finite negative q e

/-- The number nearest to `± significand * 2 ^ exponent`. -/
def ofScaled (negative : Bool) (significand : Nat) (exponent : Int) : Binary64 :=
  let (n, d) := scaleRatio significand 1 exponent
  ofRatio negative n d

/-- The number nearest to a natural number. -/
def ofNat (n : Nat) : Binary64 := ofRatio false n 1

/-- The number nearest to `± digits * 10 ^ exponent`. -/
def ofDecimal (negative : Bool) (digits : Nat) (exponent : Int) : Binary64 :=
  ofRatio negative (digits * Nat.pow 10 exponent.toNat) (Nat.pow 10 (-exponent).toNat)

/-- Zero. -/
def zero : Binary64 := ofNat 0

/-- One. -/
def one : Binary64 := ofNat 1

/-- Whether a number lies strictly below zero. Neither zero nor `nan` does. -/
def isBelowZero : Binary64 → Bool
  | .finite negative significand _ => negative && significand != 0
  | .infinite negative => negative
  | .nan => false

/-- The number with its sign dropped. -/
def abs : Binary64 → Binary64
  | .finite _ m e => .finite false m e
  | .infinite _ => .infinite false
  | .nan => .nan

/-- The number with its sign changed. -/
def neg : Binary64 → Binary64
  | .finite s m e => .finite (!s) m e
  | .infinite s => .infinite (!s)
  | .nan => .nan

/-- The rounded product. -/
def mul : Binary64 → Binary64 → Binary64
  | .nan, _ => .nan
  | _, .nan => .nan
  | .infinite s, .infinite t => .infinite (s != t)
  | .infinite s, .finite t m _ => if m = 0 then .nan else .infinite (s != t)
  | .finite s m _, .infinite t => if m = 0 then .nan else .infinite (s != t)
  | .finite s m e, .finite t n f => ofScaled (s != t) (m * n) (e + f)

/-- The rounded quotient. -/
def div : Binary64 → Binary64 → Binary64
  | .nan, _ => .nan
  | _, .nan => .nan
  | .infinite _, .infinite _ => .nan
  | .infinite s, .finite t _ _ => .infinite (s != t)
  | .finite s _ _, .infinite t => .finite (s != t) 0 minExponent
  | .finite s m e, .finite t n f =>
    if n = 0 then
      if m = 0 then .nan else .infinite (s != t)
    else
      let (num, den) := scaleRatio m n (e - f)
      ofRatio (s != t) num den

/-- The integer `± significand * 2 ^ (exponent - base)`, for a `base` not above the exponent. -/
def alignedTo (base : Int) (negative : Bool) (significand : Nat) (exponent : Int) : Int :=
  let n : Int := (significand * Nat.pow 2 (exponent - base).toNat : Nat)
  if negative then -n else n

/-- The rounded sum. A sum that is exactly zero is negative only if both operands are. -/
def add : Binary64 → Binary64 → Binary64
  | .nan, _ => .nan
  | _, .nan => .nan
  | .infinite s, .infinite t => if s = t then .infinite s else .nan
  | .infinite s, .finite _ _ _ => .infinite s
  | .finite _ _ _, .infinite t => .infinite t
  | .finite s m e, .finite t n f =>
    let base := min e f
    let total := alignedTo base s m e + alignedTo base t n f
    if total = 0 then .finite (s && t) 0 minExponent
    else ofScaled (total < 0) total.natAbs base

/-- The rounded difference. -/
def sub (x y : Binary64) : Binary64 := x.add y.neg

/-- Whether `x ≤ y`. Nothing is comparable with `nan`. -/
def le : Binary64 → Binary64 → Bool
  | .nan, _ => false
  | _, .nan => false
  | .infinite s, .infinite t => s || !t
  | .infinite s, .finite _ _ _ => s
  | .finite _ _ _, .infinite t => !t
  | .finite s m e, .finite t n f =>
    let base := min e f
    alignedTo base s m e ≤ alignedTo base t n f

/-- The larger of two numbers; a `nan` gives way to the other. -/
def max (x y : Binary64) : Binary64 :=
  if x = .nan then y
  else if y = .nan then x
  else if x.le y then y else x

/-- The nearest integer; halves go away from zero. -/
def round : Binary64 → Binary64
  | .finite s m e =>
    let (n, d) := scaleRatio m 1 e
    ofRatio s ((2 * n + d) / (2 * d)) 1
  | x => x

/-- The smallest integer that is not below the number. -/
def ceil : Binary64 → Binary64
  | .finite s m e =>
    let (n, d) := scaleRatio m 1 e
    ofRatio s (if s then n / d else (n + d - 1) / d) 1
  | x => x

/-- The integer part as an unsigned 64-bit number: zero below zero and for `nan`, the largest number
above the range. -/
def toUInt64 : Binary64 → UInt64
  | .finite s m e =>
    let (n, d) := scaleRatio m 1 e
    if s then 0 else UInt64.ofNat (min (UInt64.size - 1) (n / d))
  | .infinite s => if s then 0 else UInt64.ofNat (UInt64.size - 1)
  | .nan => 0

/-- The product of `acc` and `base ^ n`, by repeated squaring: bits of `n` from the lowest up, with
a rounding after each multiplication. -/
def powerLoop (acc base : Binary64) (n : Nat) : Binary64 :=
  let acc := if n % 2 = 1 then acc.mul base else acc
  if n / 2 = 0 then acc else powerLoop acc (base.mul base) (n / 2)
termination_by n
decreasing_by omega

/-- An integer power by repeated squaring; a negative power is the reciprocal of the
positive one. -/
def power (base : Binary64) (n : Int) : Binary64 :=
  let r := powerLoop one base n.natAbs
  if n < 0 then one.div r else r

/-- The sign as the highest of 64 bits. -/
def signBit (negative : Bool) : Nat :=
  if negative then Nat.pow 2 63 else 0

/-- The 64 bits of the interchange format: sign, biased exponent, fraction. -/
def toBits : Binary64 → Nat
  | .finite s m e =>
    if m < leadingBit then signBit s + m
    else signBit s + (e + 1075).toNat * leadingBit + (m - leadingBit)
  | .infinite s => signBit s + 2047 * leadingBit
  | .nan => 2047 * leadingBit + leadingBit / 2

end Binary64

end ClusterWatch
