import Mathlib.Order.Lattice
import ClusterWatch.Proofs.Monitor.Thresholds

/-!
# Exact breaches

A percentage is rounded down, and it is cut off at the largest 64-bit number, before it is compared
with a threshold. Neither of the two changes the outcome: a dimension is breached exactly if the
used amount reaches the first whole percentage above the threshold, taken as natural numbers. On the
way there, the product of a 64-bit number and a hundred needs more than 64 bits, and fits into 128.

* `lt_min_div_iff` — why neither the rounding nor the cut matters.
* `WideWord.percent?`, `WideWord.percent?_eq` — a percentage step by step in words of 128 bits, of
  which none fails.
* `Thresholds.checkInWords?` — the decision over such words.
* `Thresholds.Decides`, `Thresholds.decides_of_lt_max` — how a dimension is decided.
-/

namespace ClusterWatch

/-! ### Rounded percentages -/

/-- A quotient that is rounded down and cut off exceeds what lies below the cut exactly if the exact
quotient reaches the next whole number. -/
theorem lt_min_div_iff {below cut n total : Nat} (htotal : 0 < total) (hcut : below < cut) :
    below < min cut (n / total) ↔ (below + 1) * total ≤ n := by
  rw [Nat.lt_min, ← Nat.succ_le_iff (n := n / total), Nat.le_div_iff_mul_le htotal]
  exact and_iff_right hcut

/-- There is a ratio unless the total is zero: the percentage, rounded down and at most the
largest number. -/
theorem usageRatio?_eq_some_iff {used total ratio : UInt64} :
    usageRatio? used total = some ratio ↔
      total ≠ 0 ∧ ratio.toNat = min (UInt64.size - 1) (100 * used.toNat / total.toNat) := by
  have hcut : min (UInt64.size - 1) (used.toNat * 100 / total.toNat) < UInt64.size :=
    lt_of_le_of_lt (min_le_left _ _) (by decide)
  rw [usageRatio?, Option.ite_none_left_eq_some, Option.some.injEq]
  refine and_congr_right fun _ => ?_
  rw [← UInt64.toNat_inj, UInt64.toNat_ofNat_of_lt' hcut, Nat.mul_comm 100, eq_comm]

/-! ### Percentages in words -/

/-- Words of 128 bits. -/
abbrev WideWord := BitVec 128

namespace WideWord

/-- A 64-bit number as a wide word. -/
def ofWord (word : UInt64) : WideWord :=
  word.toBitVec.setWidth 128

/-- The product of two words, none if it overflows. -/
def mul? (x y : WideWord) : Option WideWord :=
  if BitVec.umulOverflow x y then none else some (x * y)

/-- The quotient of two words, none if the divisor is zero. -/
def div? (x y : WideWord) : Option WideWord :=
  if y = 0 then none else some (x / y)

/-- A word as a 64-bit number, the largest of these if it is larger. -/
def narrow (x : WideWord) : UInt64 :=
  if x.toNat < UInt64.size then UInt64.ofBitVec (x.setWidth 64) else UInt64.ofNat (UInt64.size - 1)

/-- The percentage that is used, computed in wide words; none if one of the steps fails. -/
def percent? (used total : UInt64) : Option UInt64 := do
  let scaled ← mul? (ofWord used) 100
  let quotient ← div? scaled (ofWord total)
  return narrow quotient

/-- A word keeps its number when it is widened. -/
theorem toNat_ofWord (word : UInt64) : (ofWord word).toNat = word.toNat := by
  rw [ofWord, BitVec.toNat_setWidth]
  exact Nat.mod_eq_of_lt (lt_trans word.toNat_lt_size (by decide))

/-- Only zero is widened to zero. -/
theorem ofWord_eq_zero_iff {word : UInt64} : ofWord word = 0 ↔ word = 0 := by
  rw [← BitVec.toNat_inj, toNat_ofWord, ← UInt64.toNat_inj]
  rfl

/-- A hundred times a word fits twice its width. -/
theorem mul?_hundred (word : UInt64) : mul? (ofWord word) 100 = some (ofWord word * 100) := by
  -- seven bits are enough for the hundred, so that the product has at most 71
  have hroom : (ofWord word).toNat * (100 : WideWord).toNat < 2 ^ 128 := by
    have hword := word.toNat_lt_size
    rw [toNat_ofWord]
    exact lt_trans (Nat.mul_lt_mul_of_pos_right hword (by decide)) (by decide)
  rw [mul?, BitVec.umulOverflow, if_neg]
  simpa using hroom

/-- Nothing of the product is lost. -/
theorem toNat_mul_hundred (word : UInt64) : (ofWord word * 100).toNat = 100 * word.toNat := by
  have hword := word.toNat_lt_size
  rw [BitVec.toNat_mul, toNat_ofWord, Nat.mul_comm]
  exact Nat.mod_eq_of_lt (lt_trans (Nat.mul_lt_mul_of_pos_left hword (by decide)) (by decide))

/-- What does not fit is narrowed to the largest number. -/
theorem toNat_narrow (x : WideWord) : (narrow x).toNat = min (UInt64.size - 1) x.toNat := by
  rw [narrow]
  split
  next hsmall =>
    rw [UInt64.toNat_ofBitVec, BitVec.toNat_setWidth, Nat.mod_eq_of_lt hsmall]
    exact (min_eq_right (Nat.le_sub_one_of_lt hsmall)).symm
  next hlarge =>
    rw [UInt64.toNat_ofNat_of_lt' (by decide)]
    exact (min_eq_left (by omega)).symm

/-- Where there is a total, no step fails, and the steps come to the percentage. -/
theorem percent?_eq {used total : UInt64} (htotal : total ≠ 0) :
    percent? used total = usageRatio? used total := by
  have hdivisor : ofWord total ≠ 0 := fun hzero => htotal (ofWord_eq_zero_iff.mp hzero)
  have hsteps : percent? used total = some (narrow (ofWord used * 100 / ofWord total)) := by
    rw [percent?, mul?_hundred, Option.bind_eq_bind, Option.bind_some, div?, if_neg hdivisor]
    rfl
  rw [hsteps, eq_comm, usageRatio?_eq_some_iff, toNat_narrow, BitVec.toNat_udiv,
    toNat_mul_hundred, toNat_ofWord]
  exact ⟨htotal, rfl⟩

end WideWord

/-! ### Decisions -/

namespace Thresholds

variable {thresholds : Thresholds} {dimension : Dimension} {used total : UInt64}

/-- What the check of a dimension comes to if the percentage is computed in wide words; none if one
of the steps fails. -/
def checkInWords? (thresholds : Thresholds) (dimension : Dimension) (used total : UInt64) :
    Option (Option Breach) :=
  -- nothing is computed for a dimension that is switched off or without a total
  if thresholds.get dimension = 0 ∨ total = 0 then some none
  else
    (WideWord.percent? used total).map fun ratio =>
      if thresholds.get dimension < ratio then
        some ⟨dimension, ratio, thresholds.get dimension⟩ else none

/-- The check comes to the same in words, and never overflows. -/
theorem checkInWords?_eq (thresholds : Thresholds) (dimension : Dimension) (used total : UInt64) :
    thresholds.checkInWords? dimension used total =
      some (thresholds.check? dimension used total) := by
  rw [checkInWords?]
  split
  -- where the threshold is off or nothing is there, no ratio is computed
  next hskipped =>
    rcases hskipped with hoff | hnone
    · rw [check?_of_off hoff]
    · rw [check?_of_no_total hnone]
  next hcomputed =>
    obtain ⟨hon, htotal⟩ := not_or.mp hcomputed
    rw [WideWord.percent?_eq htotal, check?, if_neg hon, usageRatio?, if_neg htotal]
    rfl

/-- How a dimension is decided, with natural numbers in place of words. -/
structure Decides (thresholds : Thresholds) (dimension : Dimension) (used total : UInt64) :
    Prop where
  /-- It is breached if its threshold is set, there is a total, and the next whole percentage above
  the threshold is used. -/
  breached_iff : (thresholds.check? dimension used total).isSome ↔
    0 < (thresholds.get dimension).toNat ∧ 0 < total.toNat ∧
      ((thresholds.get dimension).toNat + 1) * total.toNat ≤ 100 * used.toNat
  /-- A breach tells the dimension, its threshold, and the percentage rounded down, which is cut off
  at the largest 64-bit number. -/
  told : ∀ breach, thresholds.check? dimension used total = some breach →
    breach.dimension = dimension ∧ breach.threshold = thresholds.get dimension ∧
      breach.ratio.toNat = min (UInt64.size - 1) (100 * used.toNat / total.toNat)
  /-- In words of 128 bits nothing overflows and nothing is divided by zero. -/
  inWords : thresholds.checkInWords? dimension used total =
    some (thresholds.check? dimension used total)
  /-- A breach stays one when more is used, or when there is less. -/
  kept : ∀ more less : UInt64, used ≤ more → 0 < less → less ≤ total →
    (thresholds.check? dimension used total).isSome →
      (thresholds.check? dimension more less).isSome

/-- The breaches of a dimension whose threshold is not the largest 64-bit number. -/
theorem isSome_check?_iff (hmax : (thresholds.get dimension).toNat < UInt64.size - 1) :
    (thresholds.check? dimension used total).isSome ↔
      0 < (thresholds.get dimension).toNat ∧ 0 < total.toNat ∧
        ((thresholds.get dimension).toNat + 1) * total.toNat ≤ 100 * used.toNat := by
  have hpos (word : UInt64) : word ≠ 0 ↔ 0 < word.toNat := by
    rw [Nat.pos_iff_ne_zero, ne_eq, ne_eq, ← UInt64.toNat_inj]
    rfl
  simp only [Option.isSome_iff_exists, check?_eq_some_iff, usageRatio?_eq_some_iff, hpos]
  constructor
  · rintro ⟨_, hon, ratio, ⟨htotal, hratio⟩, hexceeds, -⟩
    rw [UInt64.lt_iff_toNat_lt, hratio, lt_min_div_iff htotal hmax] at hexceeds
    exact ⟨hon, htotal, hexceeds⟩
  · rintro ⟨hon, htotal, hreached⟩
    -- the percentage itself is a 64-bit number, since it is cut off there
    have hroom : min (UInt64.size - 1) (100 * used.toNat / total.toNat) < UInt64.size :=
      lt_of_le_of_lt (min_le_left _ _) (by decide)
    refine ⟨_, hon, UInt64.ofNat (min (UInt64.size - 1) (100 * used.toNat / total.toNat)),
      ⟨htotal, UInt64.toNat_ofNat_of_lt' hroom⟩, ?_, rfl⟩
    rw [UInt64.lt_iff_toNat_lt, UInt64.toNat_ofNat_of_lt' hroom]
    exact (lt_min_div_iff htotal hmax).mpr hreached

/-- Whether a dimension is breached is decided exactly, whatever is used and whatever there is, for
every threshold but the largest 64-bit number. -/
theorem decides_of_lt_max (thresholds : Thresholds) (dimension : Dimension)
    (hmax : (thresholds.get dimension).toNat < UInt64.size - 1) (used total : UInt64) :
    thresholds.Decides dimension used total where
  breached_iff := isSome_check?_iff hmax
  told breach hbreach := by
    obtain ⟨-, ratio, hratio, -, rfl⟩ := check?_eq_some_iff.mp hbreach
    exact ⟨rfl, rfl, (usageRatio?_eq_some_iff.mp hratio).2⟩
  inWords := checkInWords?_eq thresholds dimension used total
  kept more less hmore hless hle hbreach := by
    rw [isSome_check?_iff hmax] at hbreach ⊢
    obtain ⟨hon, -, hreached⟩ := hbreach
    refine ⟨hon, UInt64.lt_iff_toNat_lt.mp hless, ?_⟩
    -- a smaller total and a larger use are further above the threshold
    calc ((thresholds.get dimension).toNat + 1) * less.toNat
      _ ≤ ((thresholds.get dimension).toNat + 1) * total.toNat :=
        Nat.mul_le_mul_left _ (UInt64.le_iff_toNat_le.mp hle)
      _ ≤ 100 * used.toNat := hreached
      _ ≤ 100 * more.toNat := Nat.mul_le_mul_left _ (UInt64.le_iff_toNat_le.mp hmore)

/-- The largest threshold that can be breached is breached where the percentage is cut off, and a
percentage that only just reaches a threshold does not breach it. -/
theorem decides_at_both_ends :
    ((Thresholds.mk 18446744073709551614 1 0 0).get .cpu).toNat < UInt64.size - 1 ∧
      ((Thresholds.mk 18446744073709551614 1 0 0).check? .cpu 18446744073709551615 1).isSome ∧
      ((Thresholds.mk 18446744073709551614 1 0 0).get .memory).toNat < UInt64.size - 1 ∧
      ¬ ((Thresholds.mk 18446744073709551614 1 0 0).check? .memory 184467440737095516
        9223372036854775808).isSome := by
  refine ⟨by decide, ?_, by decide, ?_⟩
  · exact
      (decides_of_lt_max _ .cpu (by decide) 18446744073709551615 1).breached_iff.mpr (by decide)
  · exact
      (decides_of_lt_max _ .memory
        (by decide) 184467440737095516 9223372036854775808).breached_iff.not.mpr
      (by decide)

end Thresholds

end ClusterWatch
