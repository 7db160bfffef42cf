import ClusterWatch.Number.Binary64

/-!
# Signs of binary64 numbers

Products, quotients and powers of numbers without a minus sign have none either, however they
are rounded. So arithmetic on such numbers never ends up below zero, not even where it overflows
or has no value.

* `IsUnsigned` — a number without a minus sign; `isBelowZero_of_isUnsigned` — it
  is not below zero.
* `isUnsigned_ofRatio`, `IsUnsigned.mul`, `IsUnsigned.div`, `IsUnsigned.power` — rounding and
  arithmetic keep it so.
-/

namespace ClusterWatch.Binary64

/-- The number bears no minus sign. What has no value bears none. -/
def IsUnsigned : Binary64 → Prop
  | .finite negative _ _ => negative = false
  | .infinite negative => negative = false
  | .nan => True

variable {x y : Binary64}

/-- A number without a minus sign is not below zero. -/
theorem isBelowZero_of_isUnsigned (h : x.IsUnsigned) : x.isBelowZero = false := by
  cases x with
  | finite negative significand exponent =>
    obtain rfl : negative = false := h
    rfl
  | infinite negative => exact h
  | nan => rfl

/-! ### Rounding -/

/-- Rounding a ratio gives it no sign. -/
theorem isUnsigned_ofRatio (num den : Nat) : (ofRatio false num den).IsUnsigned := by
  unfold ofRatio
  split
  next => rfl
  next =>
    -- whether the significand is carried over or the number overflows, the sign is passed on
    dsimp only
    generalize (if nearestEven _ _ = 2 * leadingBit then _ else _ : Nat × Int) = rounded
    split <;> rfl

/-- A number that is scaled without a sign has none. -/
theorem isUnsigned_ofScaled (significand : Nat) (exponent : Int) :
    (ofScaled false significand exponent).IsUnsigned :=
  isUnsigned_ofRatio _ _

/-- Natural numbers have no sign. -/
theorem isUnsigned_ofNat (n : Nat) : (ofNat n).IsUnsigned :=
  isUnsigned_ofRatio n 1

theorem isUnsigned_one : one.IsUnsigned :=
  isUnsigned_ofNat 1

/-- A decimal without a sign has none. -/
theorem isUnsigned_ofDecimal (digits : Nat) (exponent : Int) :
    (ofDecimal false digits exponent).IsUnsigned :=
  isUnsigned_ofRatio _ _

/-! ### Arithmetic -/

/-- Products of numbers without a sign have none. -/
theorem IsUnsigned.mul (hx : x.IsUnsigned) (hy : y.IsUnsigned) : (x.mul y).IsUnsigned := by
  cases x with
  | nan => trivial
  -- an infinite factor gives no number, or an infinite product of the sign of both
  | infinite s =>
    obtain rfl : s = false := hx
    cases y with
    | nan => trivial
    | infinite t =>
      obtain rfl : t = false := hy
      rfl
    | finite t m e =>
      obtain rfl : t = false := hy
      rw [Binary64.mul]
      split
      · trivial
      · rfl
  | finite s m e =>
    obtain rfl : s = false := hx
    cases y with
    | nan => trivial
    | infinite t =>
      obtain rfl : t = false := hy
      rw [Binary64.mul]
      split
      · trivial
      · rfl
    -- finite factors have a product that is rounded
    | finite t n f =>
      obtain rfl : t = false := hy
      exact isUnsigned_ofScaled (m * n) (e + f)

/-- Nor do their quotients. -/
theorem IsUnsigned.div (hx : x.IsUnsigned) (hy : y.IsUnsigned) : (x.div y).IsUnsigned := by
  cases x with
  | nan => trivial
  | infinite s =>
    obtain rfl : s = false := hx
    cases y with
    | nan => trivial
    -- two infinite ones have no quotient
    | infinite t => trivial
    | finite t m e =>
      obtain rfl : t = false := hy
      rfl
  | finite s m e =>
    obtain rfl : s = false := hx
    cases y with
    | nan => trivial
    | infinite t =>
      obtain rfl : t = false := hy
      rfl
    -- dividing by zero gives no number, or an infinite one
    | finite t n f =>
      obtain rfl : t = false := hy
      rw [Binary64.div]
      split
      · split
        · trivial
        · rfl
      · exact isUnsigned_ofRatio _ _

/-- Squaring over and over introduces no sign. -/
theorem IsUnsigned.powerLoop {acc base : Binary64} (hacc : acc.IsUnsigned)
    (hbase : base.IsUnsigned) (n : Nat) :
    (powerLoop acc base n).IsUnsigned := by
  fun_induction Binary64.powerLoop acc base n with
  | case1 acc base n next hlast =>
    -- the lowest bit of the exponent is all that is left of it
    have hnext : next.IsUnsigned := by grind [IsUnsigned.mul]
    exact hnext
  | case2 acc base n next hmore ih =>
    have hnext : next.IsUnsigned := by grind [IsUnsigned.mul]
    exact ih hnext (hbase.mul hbase)

/-- Nor do their powers, with any exponent. -/
theorem IsUnsigned.power (h : x.IsUnsigned) (n : Int) : (x.power n).IsUnsigned := by
  have hloop := isUnsigned_one.powerLoop h n.natAbs
  rw [Binary64.power]
  split
  · exact isUnsigned_one.div hloop
  · exact hloop

end ClusterWatch.Binary64
