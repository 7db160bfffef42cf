import ClusterWatch.Quantity
import ClusterWatch.Proofs.Number.Decimals
import ClusterWatch.Proofs.Text.Numerals
import ClusterWatch.Proofs.Text.Trimming

/-!
# Suffixes of quantities

Behind its number, a quantity has a suffix from a table or an exponent of ten. Both may begin with
`E`: whatever follows an `E` or an `e` is taken for an exponent, so of the suffixes only the one
letter `E` stays what it is, and `Ei` is refused although the table has it. All other suffixes, and
all exponents that fit 32 bits, are taken in behind every number.

* `suffixes` — the table; `suffixFactor?_isSome_iff` — these are the suffixes that
  stand for a factor.
* `parse_eq_ok`, `parse_eq_unknownSuffix` — how a number and what stands behind it are read.
* `Accepted` — a text that counts as a quantity; `reads_suffixes` — what does behind a number.
-/

namespace ClusterWatch.Quantity

open Binary64 (IsDecimal IsUnsigned)
open Text (IsNumeral isBlank)

/-! ### The table -/

/-- The suffixes that stand for a factor. -/
def suffixes : List (List Char) :=
  [[], ['n'], ['u'], ['m'], ['k'], ['M'], ['G'], ['T'], ['P'], ['E'], ['K', 'i'], ['M', 'i'],
    ['G', 'i'], ['T', 'i'], ['P', 'i'], ['E', 'i']]

/-- The suffix of the largest binary multiple. -/
def exbi : List Char := ['E', 'i']

variable {suffix : List Char}

/-- The suffixes in the table are those that have a factor. -/
theorem suffixFactor?_isSome_iff :
    (suffixFactor? suffix).isSome = true ↔ suffix ∈ suffixes := by
  constructor
  · intro h
    unfold suffixFactor? at h
    split at h
    -- each entry of the table is one of the suffixes, and nothing else has a factor
    all_goals first | decide | cases h
  · intro h
    have hall : ∀ suffix ∈ suffixes, (suffixFactor? suffix).isSome = true := by decide
    exact hall suffix h

/-- No factor of the table has a minus sign. -/
theorem isUnsigned_of_suffixFactor? {factor : Binary64} (h : suffixFactor? suffix = some factor) :
    factor.IsUnsigned := by
  unfold suffixFactor? at h
  split at h
  all_goals cases h
  case h_1 => exact Binary64.isUnsigned_one
  case h_2 | h_3 | h_4 => exact Binary64.isUnsigned_ofDecimal _ _
  all_goals exact Binary64.isUnsigned_ofNat _

/-- A suffix of one letter, or one that begins with no `e`, is looked up in the table. -/
theorem factor?_eq_suffixFactor?
    (h : suffix.length ≤ 1 ∨ ∀ c ∈ suffix.head?, c ≠ 'e' ∧ c ≠ 'E') :
    factor? suffix = suffixFactor? suffix := by
  unfold factor?
  split
  next c d rest =>
    have hletter := h.resolve_left (by simp) c rfl
    simp [hletter]
  next => rfl

/-- All suffixes of the table but one are told from an exponent. -/
theorem factor?_of_mem_suffixes (h : suffix ∈ suffixes) (hexbi : suffix ≠ exbi) :
    factor? suffix = suffixFactor? suffix := by
  have htold : ∀ suffix ∈ suffixes, suffix ≠ exbi →
      suffix.length ≤ 1 ∨ ∀ c ∈ suffix.head?, c ≠ 'e' ∧ c ≠ 'E' := by
    simp [suffixes, exbi]
  exact factor?_eq_suffixFactor? (htold suffix h hexbi)

/-- The remaining one is taken for an exponent without digits. -/
theorem factor?_exbi : factor? exbi = none := by
  decide

/-- Whatever stands behind an `e` is read as an exponent of ten. -/
theorem factor?_cons {e : Char} (he : e = 'e' ∨ e = 'E') {exponent : List Char}
    (hsome : exponent ≠ []) :
    factor? (e :: exponent) = (Text.readInt32? exponent).map (Binary64.power (.ofNat 10)) := by
  obtain ⟨first, rest, rfl⟩ := List.exists_cons_of_ne_nil hsome
  have hletter : (decide (e = 'e') || decide (e = 'E')) = true := by simpa using he
  rw [factor?, hletter, if_pos rfl]

/-- Behind an `e`, a numeral that fits 32 bits makes an exponent of ten. -/
theorem factor?_exponent {e : Char} (he : e = 'e' ∨ e = 'E') {exponent : List Char} {n : Int}
    (hexponent : IsNumeral exponent n) (hlow : -2147483648 ≤ n) (hhigh : n ≤ 2147483647) :
    factor? (e :: exponent) = some (Binary64.power (.ofNat 10) n) := by
  have hread : Text.readInt32? exponent = some n :=
    Text.readSigned?_eq_some_iff.mpr ⟨hexponent, by simpa using hlow, by simpa using hhigh⟩
  rw [factor?_cons he hexponent.ne_nil, hread, Option.map_some]

/-! ### A number and what stands behind it -/

section Parse

variable {raw : String} {number : List Char} {value : Binary64}

/-- The number ends where what stands behind it begins. -/
theorem split_numeric (hnumber : ∀ c ∈ number, isNumeric c = true)
    (hsuffix : ∀ c ∈ suffix.head?, isNumeric c = false) :
    (number ++ suffix).takeWhile isNumeric = number ∧
      (number ++ suffix).dropWhile isNumeric = suffix := by
  -- nothing at the beginning of the suffix may be part of a number
  have hbehind : suffix.takeWhile isNumeric = [] ∧ suffix.dropWhile isNumeric = suffix := by
    cases suffix with
    | nil => exact ⟨rfl, rfl⟩
    | cons first rest =>
      have hfirst : ¬ isNumeric first = true := by simp [hsuffix first rfl]
      exact ⟨List.takeWhile_cons_of_neg hfirst, List.dropWhile_cons_of_neg hfirst⟩
  constructor
  · rw [List.takeWhile_append_of_pos hnumber, hbehind.1, List.append_nil]
  · rw [List.dropWhile_append_of_pos hnumber, hbehind.2]

/-- A text is read by its number and by what stands behind it, where the number ends and the
suffix begins. -/
theorem parse_eq (hraw : Text.trimChars raw.toList = number ++ suffix)
    (hnumber : ∀ c ∈ number, isNumeric c = true)
    (hsuffix : ∀ c ∈ suffix.head?, isNumeric c = false)
    (hvalue : Binary64.read? number = some value) :
    parse raw =
      match factor? suffix with
      | none => .error (.unknownSuffix (String.ofList (number ++ suffix)) (String.ofList suffix))
      | some factor =>
        if (value.mul factor).isBelowZero then .error (.negative (String.ofList (number ++ suffix)))
        else .ok (value.mul factor) := by
  obtain ⟨htake, hdrop⟩ := split_numeric hnumber hsuffix
  -- nothing is read of no text at all
  have hne : (number ++ suffix).isEmpty = false := by
    cases number with
    | nil => cases hvalue
    | cons first rest => rfl
  rw [parse, hraw]
  dsimp only
  rewrite [hne, htake, hdrop, hvalue, if_neg Bool.false_ne_true]
  cases factor? suffix <;> rfl

/-- A decimal with a suffix that has a factor is read as their product. -/
theorem parse_eq_ok (hraw : Text.trimChars raw.toList = number ++ suffix)
    (hnumber : ∀ c ∈ number, isNumeric c = true)
    (hsuffix : ∀ c ∈ suffix.head?, isNumeric c = false)
    (hvalue : Binary64.read? number = some value) {factor : Binary64}
    (hfactor : factor? suffix = some factor) (hunsigned : (value.mul factor).IsUnsigned) :
    parse raw = .ok (value.mul factor) := by
  rw [parse_eq hraw hnumber hsuffix hvalue, hfactor]
  simp [Binary64.isBelowZero_of_isUnsigned hunsigned]

/-- A decimal with a suffix that has none is refused, and both are quoted. -/
theorem parse_eq_unknownSuffix (hraw : Text.trimChars raw.toList = number ++ suffix)
    (hnumber : ∀ c ∈ number, isNumeric c = true)
    (hsuffix : ∀ c ∈ suffix.head?, isNumeric c = false)
    (hvalue : Binary64.read? number = some value) (hfactor : factor? suffix = none) :
    parse raw =
      .error (.unknownSuffix (String.ofList (number ++ suffix)) (String.ofList suffix)) := by
  rw [parse_eq hraw hnumber hsuffix hvalue, hfactor]

end Parse

/-! ### What is accepted -/

/-- A text counts as a quantity of some value, also where a resource list gives it. -/
def CountsAs (raw : String) (value : Binary64) : Prop :=
  parse raw = .ok value ∧ parseBytes raw = .ok (ceilSnapped value) ∧
    ∀ (resources : Resources) (key : String), resources[key]? = some raw →
      bytesOf resources key = ceilSnapped value

/-- A text counts as a quantity. -/
def Accepted (raw : String) : Prop :=
  ∃ value, CountsAs raw value

/-- A quantity that is read counts as what is read. -/
theorem countsAs_of_parse {raw : String} {value : Binary64} (h : parse raw = .ok value) :
    CountsAs raw value := by
  -- what is read in bytes is the same quantity, rounded up
  have hbytes : parseBytes raw = .ok (ceilSnapped value) := by
    rw [parseBytes, h]
    rfl
  refine ⟨h, hbytes, fun resources key hkey => ?_⟩
  rw [bytesOf, hkey]
  dsimp only
  rw [hbytes]
  rfl

/-- The text of a number and a suffix between blanks. -/
def padded (before number suffix after : List Char) : String :=
  String.ofList (before ++ (number ++ suffix) ++ after)

/-- What is read behind a number, whatever blanks there are around the two. -/
structure ReadsSuffixes (number : List Char) (value : Binary64) (before after : List Char) :
    Prop where
  /-- Every suffix of the table is accepted but the one for the largest binary multiple. -/
  suffixed : ∀ suffix, suffix ≠ [] → (suffixFactor? suffix).isSome = true →
    (Accepted (padded before number suffix after) ↔ suffix ≠ exbi)
  /-- The number is multiplied by what the suffix stands for. -/
  scaled : ∀ suffix factor, suffix ≠ exbi → suffixFactor? suffix = some factor →
    CountsAs (padded before number suffix after) (value.mul factor)
  /-- The number is multiplied by the power of ten that an exponent stands for, if it
  fits 32 bits. -/
  exponent : ∀ e exponent n, e = 'e' ∨ e = 'E' → IsNumeral exponent n →
    -2147483648 ≤ n → n ≤ 2147483647 →
    CountsAs (padded before number (e :: exponent) after) (value.mul (.power (.ofNat 10) n))

section Padded

variable {number before after : List Char} {value : Binary64}

/-- A number without a sign is numeric throughout. -/
theorem isNumeric_of_isDecimal (hnumber : IsDecimal number) :
    ∀ c ∈ number, isNumeric c = true := by
  intro c hc
  rcases hnumber.of_mem hc with hdigit | rfl
  · simp [isNumeric, hdigit]
  · rfl

theorem isBlank_of_isDecimal (hnumber : IsDecimal number) :
    ∀ c ∈ number, isBlank c = false := by
  intro c hc
  rcases hnumber.of_mem hc with hdigit | rfl
  · exact Text.isBlank_of_isDigit hdigit
  · decide

/-- Between blanks, a number and a suffix without any are what is left after trimming. -/
theorem trimChars_padded (hnumber : IsDecimal number) (hbefore : ∀ c ∈ before, isBlank c = true)
    (hsuffix : ∀ c ∈ suffix, isBlank c = false) (hafter : ∀ c ∈ after, isBlank c = true) :
    Text.trimChars (padded before number suffix after).toList = number ++ suffix := by
  rw [padded, String.toList_ofList]
  refine Text.trimChars_padded hbefore (fun c hc => ?_) hafter
  rcases List.mem_append.mp hc with hmem | hmem
  · exact isBlank_of_isDecimal hnumber c hmem
  · exact hsuffix c hmem

/-- No suffix of the table contains a blank or begins like a number. -/
theorem plain_of_mem_suffixes (h : suffix ∈ suffixes) :
    (∀ c ∈ suffix, isBlank c = false) ∧ ∀ c ∈ suffix.head?, isNumeric c = false := by
  have hall : ∀ suffix ∈ suffixes,
      (∀ c ∈ suffix, isBlank c = false) ∧ ∀ c ∈ suffix.head?, isNumeric c = false := by
    simp [suffixes, isBlank, isNumeric, Text.isDigit]
  exact hall suffix h

/-- A number and a suffix between blanks count as the number multiplied by what the
suffix stands for. -/
theorem countsAs_padded (hnumber : IsDecimal number) (hbefore : ∀ c ∈ before, isBlank c = true)
    (hafter : ∀ c ∈ after, isBlank c = true) (hplain : ∀ c ∈ suffix, isBlank c = false)
    (hbehind : ∀ c ∈ suffix.head?, isNumeric c = false)
    (hvalue : Binary64.read? number = some value) {factor : Binary64}
    (hfactor : factor? suffix = some factor) (hunsigned : (value.mul factor).IsUnsigned) :
    CountsAs (padded before number suffix after) (value.mul factor) :=
  countsAs_of_parse
    (parse_eq_ok (trimChars_padded hnumber hbefore hplain hafter) (isNumeric_of_isDecimal hnumber)
      hbehind hvalue hfactor hunsigned)

/-- Behind every number, the suffix of the largest binary multiple is refused as unknown. -/
theorem parse_padded_exbi (hnumber : IsDecimal number)
    (hbefore : ∀ c ∈ before, isBlank c = true) (hafter : ∀ c ∈ after, isBlank c = true) :
    parse (padded before number exbi after) =
      .error (.unknownSuffix (String.ofList (number ++ exbi)) (String.ofList exbi)) := by
  obtain ⟨value, hvalue, -⟩ := Binary64.exists_read? hnumber
  have hmem : exbi ∈ suffixes := by decide
  obtain ⟨hplain, hbehind⟩ := plain_of_mem_suffixes hmem
  exact parse_eq_unknownSuffix (trimChars_padded hnumber hbefore hplain hafter)
    (isNumeric_of_isDecimal hnumber)
    hbehind hvalue factor?_exbi

/-- What stands behind an `e` to make an exponent contains no blank. -/
theorem isBlank_of_isNumeral {exponent : List Char} {n : Int} (h : IsNumeral exponent n) :
    ∀ c ∈ exponent, isBlank c = false := by
  intro c hc
  rcases h.of_mem hc with hdigit | rfl | rfl
  · exact Text.isBlank_of_isDigit hdigit
  · decide
  · decide

/-- Behind every number, all suffixes of the table but `Ei` are accepted, and all exponents
that fit 32 bits. -/
theorem reads_suffixes (hnumber : IsDecimal number) (hbefore : ∀ c ∈ before, isBlank c = true)
    (hafter : ∀ c ∈ after, isBlank c = true) :
    ∃ value, Binary64.read? number = some value ∧ ReadsSuffixes number value before after := by
  obtain ⟨value, hvalue, hunsigned⟩ := Binary64.exists_read? hnumber
  have hscaled (suffix : List Char) (factor : Binary64) (hexbi : suffix ≠ exbi)
      (hfactor : suffixFactor? suffix = some factor) :
      CountsAs (padded before number suffix after) (value.mul factor) := by
    have hmem := suffixFactor?_isSome_iff.mp (Option.isSome_of_eq_some hfactor)
    obtain ⟨hplain, hbehind⟩ := plain_of_mem_suffixes hmem
    exact countsAs_padded hnumber hbefore hafter hplain hbehind hvalue
      ((factor?_of_mem_suffixes hmem hexbi).trans hfactor)
        (hunsigned.mul (isUnsigned_of_suffixFactor? hfactor))
  refine ⟨value, hvalue, ?_, hscaled, ?_⟩
  · -- of the table, only one suffix is refused
    intro suffix _ hsome
    constructor
    · rintro ⟨accepted, haccepted, -, -⟩ rfl
      rw [parse_padded_exbi hnumber hbefore hafter] at haccepted
      cases haccepted
    · intro hexbi
      obtain ⟨factor, hfactor⟩ := Option.isSome_iff_exists.mp hsome
      exact ⟨_, hscaled suffix factor hexbi hfactor⟩
  · -- an exponent is read as a power of ten
    intro e exponent n he hexponent hlow hhigh
    have hletter : isBlank e = false ∧ isNumeric e = false := by
      rcases he with rfl | rfl <;> decide
    have hplain : ∀ c ∈ e :: exponent, isBlank c = false :=
      List.forall_mem_cons.mpr ⟨hletter.1, isBlank_of_isNumeral hexponent⟩
    exact countsAs_padded hnumber hbefore hafter hplain (by simpa using hletter.2) hvalue
      (factor?_exponent he hexponent hlow hhigh)
      (hunsigned.mul (Binary64.IsUnsigned.power (Binary64.isUnsigned_ofNat 10) n))

end Padded

/-- One and a half with the suffix of a binary multiple, and with an exponent, between blanks. -/
theorem accepted_gibi_and_exponent :
    IsDecimal ['1', '.', '5'] ∧ (∀ c ∈ [' '], isBlank c = true) ∧
      (∀ c ∈ ['\n'], isBlank c = true) ∧
      Accepted (padded [' '] ['1', '.', '5'] ['G', 'i'] ['\n']) ∧
      Accepted (padded [' '] ['1', '.', '5'] ['e', '-', '3'] ['\n']) := by
  have honly {p : Char → Bool} {c : Char} (hc : p c = true) : ∀ d ∈ [c], p d = true :=
    List.forall_mem_singleton.mpr hc
  have hnumber : IsDecimal (['1'] ++ '.' :: ['5']) :=
    .pointed (by decide) (honly (by decide)) (honly (by decide))
  have hbefore : ∀ c ∈ [' '], isBlank c = true := honly (by decide)
  have hafter : ∀ c ∈ ['\n'], isBlank c = true := honly (by decide)
  have hexponent : IsNumeral ['-', '3'] (-3) := .minus (by decide) (honly (by decide))
  obtain ⟨_, -, h⟩ := reads_suffixes hnumber hbefore hafter
  refine ⟨hnumber, hbefore, hafter, ?_, ?_⟩
  · exact (h.suffixed ['G', 'i'] (by decide) (by decide)).mpr (by decide)
  · exact ⟨_, h.exponent 'e' ['-', '3'] (-3) (.inl rfl) hexponent (by decide) (by decide)⟩

/-- The table has a factor for `Ei`, but one with this suffix is no quantity. -/
theorem one_exbi_refused : (suffixFactor? ['E', 'i']).isSome = true ∧ ¬ Accepted "1Ei" := by
  refine ⟨by decide, ?_⟩
  rintro ⟨value, hvalue, -, -⟩
  have hrefused : parse "1Ei" = .error (.unknownSuffix "1Ei" "Ei") := by decide +kernel
  rw [hrefused] at hvalue
  cases hvalue

end ClusterWatch.Quantity
