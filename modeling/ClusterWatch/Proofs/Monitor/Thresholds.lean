import ClusterWatch.Monitor.Threshold

/-!
# Breaches of thresholds

When a dimension is breached, and what becomes of a breach under other thresholds. A threshold of
zero switches its dimension off, so it is the laxest of all.

* `Thresholds.check?_eq_some_iff` — a dimension is breached if its threshold is set and the used
  percentage exceeds it.
* `Thresholds.Laxer`, `Thresholds.Laxer.check?` — what breaches laxer thresholds breaches the
  others, with the same percentage.
* `usageRatio?_lt_hundred` — what is not used up has a percentage below a hundred.
-/

namespace ClusterWatch

namespace Thresholds

variable {thresholds lax strict : Thresholds} {dimension : Dimension} {used total : UInt64}

/-- Thresholds are laxer than others if each dimension is either switched off by them, or set at
least as high as by the others, which do not switch it off. -/
def Laxer (lax strict : Thresholds) : Prop :=
  ∀ dimension, lax.get dimension = 0 ∨
    (strict.get dimension ≠ 0 ∧ strict.get dimension ≤ lax.get dimension)

/-- A dimension is breached if its threshold is set and the used percentage exceeds it. -/
theorem check?_eq_some_iff {breach : Breach} :
    thresholds.check? dimension used total = some breach ↔
      thresholds.get dimension ≠ 0 ∧ ∃ ratio, usageRatio? used total = some ratio ∧
        thresholds.get dimension < ratio ∧
          breach = ⟨dimension, ratio, thresholds.get dimension⟩ := by
  unfold check?
  cases usageRatio? used total with
  | none => simp
  | some ratio => simp [eq_comm]

/-- A dimension that is switched off is never breached. -/
theorem check?_of_off (hoff : thresholds.get dimension = 0) :
    thresholds.check? dimension used total = none :=
  if_pos hoff

/-- Against a total of zero nothing is compared. -/
theorem check?_of_no_total (hnone : total = 0) : thresholds.check? dimension used total = none := by
  rw [check?, usageRatio?, if_pos hnone]
  exact ite_self none

/-- What breaches laxer thresholds breaches the others, with the same percentage. -/
theorem Laxer.check? (h : lax.Laxer strict) {breach : Breach}
    (hbreach : lax.check? dimension used total = some breach) :
    strict.check? dimension used total =
      some { breach with threshold := strict.get dimension } := by
  obtain ⟨hon, ratio, hratio, hexceeds, rfl⟩ := check?_eq_some_iff.mp hbreach
  obtain ⟨hstrict, hle⟩ := (h dimension).resolve_left hon
  exact check?_eq_some_iff.mpr ⟨hstrict, ratio, hratio, UInt64.lt_of_le_of_lt hle hexceeds, rfl⟩

end Thresholds

/-- Where less is used than there is, the percentage is below a hundred. -/
theorem usageRatio?_lt_hundred {used total ratio : UInt64} (hfree : used < total)
    (hratio : usageRatio? used total = some ratio) : ratio < 100 := by
  unfold usageRatio? at hratio
  split at hratio
  next => cases hratio
  next htotal =>
    obtain rfl := Option.some.inj hratio
    -- the quotient is below a hundred before it is cut to a word, which only makes it less
    have hpart : used.toNat * 100 / total.toNat < 100 := by
      rw [Nat.div_lt_iff_lt_mul
        (Nat.pos_of_ne_zero fun hzero => htotal (UInt64.toNat.inj hzero)), Nat.mul_comm]
      exact Nat.mul_lt_mul_of_pos_left hfree (by decide)
    rw [UInt64.lt_iff_toNat_lt, UInt64.toNat_ofNat']
    exact Nat.lt_of_le_of_lt (Nat.mod_le _ _) (Nat.lt_of_le_of_lt (Nat.min_le_right _ _) hpart)

end ClusterWatch
