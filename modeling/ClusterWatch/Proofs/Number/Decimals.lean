import Mathlib.Data.List.TakeWhile
import ClusterWatch.Number.Reader
import ClusterWatch.Proofs.Number.Signs

/-!
# Decimals that are read

A decimal without a sign is a run of digits with at most one point in it, before it or behind it.
These are the texts that the reader splits at the point, and what it makes of them bears no minus
sign. Behind one sign at most, they are all that it reads.

* `IsDecimal` — the texts of unsigned decimals; `isSome_splitPoint?_iff` — they are
  what can be split.
* `exists_read?` — an unsigned decimal is read as a number without a minus sign.
* `IsSignedDecimal` — the texts of decimals with or without a sign; `isSome_read?_iff` — they
  are what is read.
-/

namespace ClusterWatch.Binary64

open Text (isDigit)

/-- The texts of a decimal without a sign: digits alone, or digits with a point before, behind
or among them. -/
inductive IsDecimal : List Char → Prop
  | whole {digits : List Char} (hsome : digits ≠ [])
    (hdigits : ∀ c ∈ digits, isDigit c = true) : IsDecimal digits
  | pointed {whole fraction : List Char} (hsome : whole ≠ [] ∨ fraction ≠ [])
      (hwhole : ∀ c ∈ whole, isDigit c = true)
        (hfraction : ∀ c ∈ fraction, isDigit c = true) :
      IsDecimal (whole ++ '.' :: fraction)

/-- A decimal without a sign is made of digits and points. -/
theorem IsDecimal.of_mem {cs : List Char} (h : IsDecimal cs) {c : Char} (hc : c ∈ cs) :
    isDigit c = true ∨ c = '.' := by
  cases h with
  | whole _ hdigits => exact .inl (hdigits c hc)
  | pointed _ hwhole hfraction =>
    rcases List.mem_append.mp hc with hwholeMem | hrest
    · exact .inl (hwhole c hwholeMem)
    · rcases List.mem_cons.mp hrest with hpoint | hfractionMem
      · exact .inr hpoint
      · exact .inl (hfraction c hfractionMem)

/-- The texts that can be split at the point are the unsigned decimals. -/
theorem isSome_splitPoint?_iff {cs : List Char} :
    (splitPoint? cs).isSome = true ↔ IsDecimal cs := by
  constructor
  · intro h
    have hwhole : ∀ c ∈ cs.takeWhile isDigit, isDigit c = true :=
      fun c hc => List.mem_takeWhile_imp hc
    have hcs : cs.takeWhile isDigit ++ cs.dropWhile isDigit = cs := List.takeWhile_append_dropWhile
    unfold splitPoint? at h
    split at h
    next hrest =>
      rw [hrest, List.append_nil] at hcs
      refine .whole (fun hnil => ?_) (hcs ▸ hwhole)
      simp [hnil] at h
    next c fraction hrest =>
      simp only [Option.isSome_ite, Bool.and_eq_true, decide_eq_true_eq, List.all_eq_true,
        Bool.not_eq_true', Bool.and_eq_false_iff, List.isEmpty_eq_false_iff] at h
      obtain ⟨⟨rfl, hfraction⟩, hsome⟩ := h
      rw [← hcs, hrest]
      exact .pointed hsome hwhole hfraction
  · intro h
    unfold splitPoint?
    cases h with
    | whole hsome hdigits =>
      rw [List.dropWhile_eq_nil_iff.mpr hdigits, List.takeWhile_eq_self_iff.mpr hdigits]
      simp [hsome]
    | pointed hsome hwhole hfraction =>
      -- the point is the first character that is no digit
      rw [List.dropWhile_append_of_pos hwhole, List.takeWhile_append_of_pos hwhole]
      have hpoint : isDigit '.' = false := by decide
      rw [List.dropWhile_cons_of_neg (by simp [hpoint]),
        List.takeWhile_cons_of_neg (by simp [hpoint])]
      simpa [List.all_eq_true.mpr hfraction, Classical.or_iff_not_imp_left] using hsome

/-- An unsigned decimal is taken to be one without a sign. -/
theorem IsDecimal.splitSign_eq {cs : List Char} (h : IsDecimal cs) :
    splitSign cs = (false, cs) := by
  unfold splitSign
  split
  -- neither sign is a digit or a point
  next rest =>
    have hminus := h.of_mem List.mem_cons_self
    exact absurd hminus (by decide)
  next rest =>
    have hplus := h.of_mem List.mem_cons_self
    exact absurd hplus (by decide)
  next => rfl

/-- An unsigned decimal is read as a number without a minus sign. -/
theorem exists_read? {cs : List Char} (h : IsDecimal cs) :
    ∃ value, read? cs = some value ∧ value.IsUnsigned := by
  obtain ⟨⟨whole, fraction⟩, hsplit⟩ :=
    Option.isSome_iff_exists.mp (isSome_splitPoint?_iff.mpr h)
  refine ⟨_, ?_,
    isUnsigned_ofDecimal (Text.digitsValue (whole ++ fraction)) (-(fraction.length : Int))⟩
  rw [read?, h.splitSign_eq]
  exact congrArg (Option.map _) hsplit

/-! ### Decimals with a sign -/

/-- A decimal without a sign is made of digits and at most one point, with a digit among them. -/
theorem isDecimal_iff {cs : List Char} :
    IsDecimal cs ↔ (∀ c ∈ cs, isDigit c = true ∨ c = '.') ∧ cs.count '.' ≤ 1 ∧
      ∃ c ∈ cs, isDigit c = true := by
  have hpointless {digits : List Char} (hdigits : ∀ c ∈ digits, isDigit c = true) :
      digits.count '.' = 0 :=
    List.count_eq_zero_of_not_mem fun hpoint => absurd (hdigits '.' hpoint) (by decide)
  have hfirst {digits : List Char} (hsome : digits ≠ [])
      (hdigits : ∀ c ∈ digits, isDigit c = true) :
      ∃ c ∈ digits, isDigit c = true :=
    let ⟨c, hc⟩ := List.exists_mem_of_ne_nil digits hsome
    ⟨c, hc, hdigits c hc⟩
  constructor
  · intro h
    refine ⟨fun c hc => h.of_mem hc, ?_⟩
    cases h with
    | whole hsome hdigits => exact ⟨by simp [hpointless hdigits], hfirst hsome hdigits⟩
    | pointed hsome hwhole hfraction =>
      refine ⟨by simp [hpointless hwhole, hpointless hfraction], ?_⟩
      rcases hsome with hsome | hsome
      · obtain ⟨c, hc, hdigit⟩ := hfirst hsome hwhole
        exact ⟨c, List.mem_append_left _ hc, hdigit⟩
      · obtain ⟨c, hc, hdigit⟩ := hfirst hsome hfraction
        exact ⟨c, List.mem_append_right _ (List.mem_cons_of_mem _ hc), hdigit⟩
  · rintro ⟨hall, hcount, digit, hmem, hdigit⟩
    have hdigits {part : List Char} (hpart : ∀ c ∈ part, isDigit c = true ∨ c = '.')
        (hpoint : '.' ∉ part) :
        ∀ c ∈ part, isDigit c = true :=
      fun c hc => (hpart c hc).resolve_right fun heq => hpoint (heq ▸ hc)
    by_cases hpoint : '.' ∈ cs
    · obtain ⟨whole, fraction, rfl⟩ := List.append_of_mem hpoint
      -- the one point is where the text is split, so there is none on either side
      have hnone : whole.count '.' = 0 ∧ fraction.count '.' = 0 := by
        simp only [List.count_append, List.count_cons_self] at hcount
        omega
      rw [List.count_eq_zero, List.count_eq_zero] at hnone
      have hwhole := hdigits (fun c hc => hall c (List.mem_append_left _ hc)) hnone.1
      have hfraction :=
        hdigits (fun c hc => hall c (List.mem_append_right _ (List.mem_cons_of_mem _ hc))) hnone.2
      refine .pointed ?_ hwhole hfraction
      rcases List.mem_append.mp hmem with hleft | hright
      · exact .inl (List.ne_nil_of_mem hleft)
      · rcases List.mem_cons.mp hright with rfl | hbehind
        · exact absurd hdigit (by decide)
        · exact .inr (List.ne_nil_of_mem hbehind)
    · exact .whole (List.ne_nil_of_mem hmem) (hdigits hall hpoint)

/-- The texts of a decimal that may have a sign in front: digits and at most one point, with a
digit among them. -/
def IsSignedDecimal (cs : List Char) : Prop :=
  ∃ sign body, cs = sign ++ body ∧ (sign = [] ∨ sign = ['+'] ∨ sign = ['-']) ∧
    (∀ c ∈ body, isDigit c = true ∨ c = '.') ∧ body.count '.' ≤ 1 ∧
      ∃ c ∈ body, isDigit c = true

/-- They are an unsigned decimal behind the sign, if there is any. -/
theorem isSignedDecimal_iff {cs : List Char} :
    IsSignedDecimal cs ↔ IsDecimal (splitSign cs).2 := by
  simp only [IsSignedDecimal, ← isDecimal_iff]
  constructor
  · rintro ⟨sign, body, rfl, rfl | rfl | rfl, hbody⟩
    -- without a sign, nothing is split off
    · rw [List.nil_append, hbody.splitSign_eq]
      exact hbody
    · exact hbody
    · exact hbody
  · intro h
    unfold splitSign at h
    split at h
    next rest => exact ⟨['-'], rest, rfl, .inr (.inr rfl), h⟩
    next rest => exact ⟨['+'], rest, rfl, .inr (.inl rfl), h⟩
    next => exact ⟨[], cs, rfl, .inl rfl, h⟩

/-- What is read as a number are the texts of a decimal that may have a sign. -/
theorem isSome_read?_iff {cs : List Char} : (read? cs).isSome = true ↔ IsSignedDecimal cs := by
  rw [isSignedDecimal_iff, ← isSome_splitPoint?_iff, read?, Option.isSome_map]

-- one sign at most, one point at most, and a digit
example : (["1.", ".5", "+1"].map fun text => (read? text.toList).isSome) = [true, true, true] ∧
    (["", ".", "+-1", "1-2", "1.2.3"].map fun text => (read? text.toList).isSome) =
      [false, false, false, false, false] := by
  decide

end ClusterWatch.Binary64
