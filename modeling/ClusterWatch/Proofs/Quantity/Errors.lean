import ClusterWatch.Proofs.Quantity.Suffixes

/-!
# Errors of quantities

What is wrong with a quantity is told by the first of several tests that it fails: there is nothing
left after trimming, the longest beginning of digits, points and signs is no decimal, or what stands
behind it is no suffix. So each error comes with a condition on the text, whatever the rest of the
text is like, and quotes the parts that it is about. The parts are cut off between characters, also
where the text is told apart by its bytes.

* `Parts` — the number of a text and what stands behind it.
* `KnownSuffix` — the suffixes that stand for a factor; `factor?_isSome_iff`.
* `Outcome`, `outcome_parse` — what is read is decided by the first test that fails.
* `cutAt?`, `parseByBytes?` — the same on bytes, where a cut inside a character has no outcome.
* `ErrorsClassified`, `errors_classified` — which error comes when, for all texts.
-/

namespace ClusterWatch.Quantity

open Binary64 (IsSignedDecimal)
open Text (IsNumeral)

/-! ### The parts of a text -/

/-- A trimmed text is a number and what stands behind it, where the number goes on as far as the
characters of numbers do. -/
structure Parts (raw : String) (number suffix : List Char) : Prop where
  /-- Together they are the text, but for white space at its ends. -/
  text : (Text.trim raw).toList = number ++ suffix
  /-- The number is made of digits, points and signs. -/
  numeric : ∀ c ∈ number, Text.isDigit c = true ∨ c = '.' ∨ c = '+' ∨ c = '-'
  /-- What stands behind it begins with none of them. -/
  behind : ∀ c ∈ suffix.head?, ¬ (Text.isDigit c = true ∨ c = '.' ∨ c = '+' ∨ c = '-')

/-- A number is made of digits, points and signs. -/
theorem isNumeric_iff {c : Char} :
    isNumeric c = true ↔ Text.isDigit c = true ∨ c = '.' ∨ c = '+' ∨ c = '-' := by
  simp [isNumeric, or_assoc]

variable {raw : String} {number suffix : List Char}

/-- A text is empty but for white space exactly if none of its characters is left when
it is trimmed. -/
theorem trim_eq_empty_iff : Text.trim raw = "" ↔ (Text.trimChars raw.toList).isEmpty = true := by
  rw [Text.trim, String.ofList_eq_empty_iff, List.isEmpty_iff]

/-- Every text has its parts. -/
theorem exists_parts (raw : String) : ∃ number suffix, Parts raw number suffix := by
  -- the number is the longest beginning that may be part of one
  have hsplit (text : List Char) : ∃ number suffix, text = number ++ suffix ∧
      (∀ c ∈ number, isNumeric c = true) ∧ ∀ c ∈ suffix.head?, ¬ isNumeric c = true := by
    refine ⟨text.takeWhile isNumeric, text.dropWhile isNumeric,
      List.takeWhile_append_dropWhile.symm, fun c hc => List.mem_takeWhile_imp hc, fun c hc => ?_⟩
    have hnot := List.head?_dropWhile_not isNumeric text
    rw [Option.mem_def.mp hc] at hnot
    exact Bool.eq_false_iff.mp hnot
  simp only [isNumeric_iff] at hsplit
  obtain ⟨number, suffix, htext, hnumeric, hbehind⟩ := hsplit (Text.trim raw).toList
  exact ⟨number, suffix, htext, hnumeric, hbehind⟩

/-- The parts of a text are where it is split for reading. -/
theorem Parts.split (h : Parts raw number suffix) :
    (Text.trimChars raw.toList).takeWhile isNumeric = number ∧
      (Text.trimChars raw.toList).dropWhile isNumeric = suffix := by
  have htext : Text.trimChars raw.toList = number ++ suffix := by
    rw [← h.text, Text.trim, String.toList_ofList]
  rw [htext]
  exact split_numeric (fun c hc => isNumeric_iff.mpr (h.numeric c hc))
    fun c hc => Bool.eq_false_iff.mpr fun hnumeric => h.behind c hc (isNumeric_iff.mp hnumeric)

/-- Where the number is a decimal, there is something to be read. -/
theorem Parts.trim_ne (h : Parts raw number suffix) (hnumber : IsSignedDecimal number) :
    Text.trim raw ≠ "" := by
  intro hempty
  have htext := h.text
  rw [hempty] at htext
  obtain ⟨hnil, -⟩ := List.append_eq_nil_iff.mp htext.symm
  obtain ⟨sign, body, heq, -, -, -, digit, hdigit, -⟩ := hnumber
  rw [hnil] at heq
  exact List.ne_nil_of_mem (List.mem_append_right sign hdigit) heq.symm

/-! ### Suffixes -/

/-- The suffix is an `e` with something behind it. -/
def BeginsExponent (suffix : List Char) : Prop :=
  ∃ e exponent, suffix = e :: exponent ∧ (e = 'e' ∨ e = 'E') ∧ exponent ≠ []

/-- All other suffixes are looked up in the table. -/
theorem factor?_of_not_beginsExponent (h : ¬ BeginsExponent suffix) :
    factor? suffix = suffixFactor? suffix := by
  refine factor?_eq_suffixFactor? (Classical.or_iff_not_imp_left.mpr fun hlong c hc => ?_)
  obtain ⟨rest, rfl⟩ := List.head?_eq_some_iff.mp hc
  refine not_or.mp fun hletter => h ⟨c, rest, rfl, hletter, ?_⟩
  rintro rfl
  exact hlong (Nat.le_refl 1)

/-- A suffix stands for a factor: one of the table but that for the largest binary multiple, or an
`e` with an exponent that fits 32 bits. -/
inductive KnownSuffix : List Char → Prop
  /-- A suffix of the table. -/
  | table {suffix : List Char} (hmem : suffix ∈ suffixes) (hexbi : suffix ≠ exbi) :
    KnownSuffix suffix
  /-- An exponent of ten. -/
  | exponent {e : Char} {exponent : List Char} {n : Int} (he : e = 'e' ∨ e = 'E')
      (hexponent : IsNumeral exponent n)
      (hlow : -2147483648 ≤ n) (hhigh : n ≤ 2147483647) : KnownSuffix (e :: exponent)

/-- A suffix has a factor exactly if it is known: it is in the table, or an exponent
within the bounds. -/
theorem factor?_isSome_iff : (factor? suffix).isSome = true ↔ KnownSuffix suffix := by
  constructor
  · intro h
    by_cases hbegins : BeginsExponent suffix
    · obtain ⟨e, exponent, rfl, he, hsome⟩ := hbegins
      rw [factor?_cons he hsome, Option.isSome_map] at h
      obtain ⟨n, hread⟩ := Option.isSome_iff_exists.mp h
      obtain ⟨hexponent, hlow, hhigh⟩ := Text.readSigned?_eq_some_iff.mp hread
      exact .exponent he hexponent (by simpa using hlow) (by simpa using hhigh)
    · rw [factor?_of_not_beginsExponent hbegins] at h
      -- of the table only one suffix begins like an exponent
      refine .table (suffixFactor?_isSome_iff.mp h) ?_
      rintro rfl
      exact hbegins ⟨'E', ['i'], rfl, .inr rfl, List.cons_ne_nil _ _⟩
  · intro h
    cases h with
    | table hmem hexbi =>
      rw [factor?_of_mem_suffixes hmem hexbi]
      exact suffixFactor?_isSome_iff.mpr hmem
    | exponent he hexponent hlow hhigh =>
      rw [factor?_exponent he hexponent hlow hhigh]
      rfl

/-! ### What is read -/

/-- What a text of these parts should be read as. -/
inductive Outcome (raw : String) (number suffix : List Char) :
    Except QuantityError Binary64 → Prop
  /-- There is nothing to be read. -/
  | empty (hempty : Text.trim raw = "") : Outcome raw number suffix (.error .empty)
  /-- The number is none. -/
  | invalid (hsome : Text.trim raw ≠ "") (hnumber : ¬ IsSignedDecimal number) :
      Outcome raw number suffix (.error (.invalid (Text.trim raw)))
  /-- What stands behind the number is no suffix. -/
  | unknownSuffix (hnumber : IsSignedDecimal number) (hsuffix : ¬ KnownSuffix suffix) :
      Outcome raw number suffix (.error (.unknownSuffix (Text.trim raw) (String.ofList suffix)))
  /-- Together they are below zero. -/
  | negative (hnumber : IsSignedDecimal number) (hsuffix : KnownSuffix suffix) :
      Outcome raw number suffix (.error (.negative (Text.trim raw)))
  /-- Together they are a quantity. -/
  | value {value : Binary64} (hnumber : IsSignedDecimal number) (hsuffix : KnownSuffix suffix) :
      Outcome raw number suffix (.ok value)

/-- What is read of a text is decided by its number and its suffix. -/
theorem outcome_parse (h : Parts raw number suffix) : Outcome raw number suffix (parse raw) := by
  unfold parse
  dsimp only
  rw [h.split.1, h.split.2]
  -- each test is passed on the way to the next one
  split
  next hempty => exact .empty (trim_eq_empty_iff.mpr hempty)
  next hsome =>
    have hne : Text.trim raw ≠ "" := mt trim_eq_empty_iff.mp hsome
    split
    next hread => exact .invalid hne (by simp [← Binary64.isSome_read?_iff, hread])
    next value hread =>
      have hnumber : IsSignedDecimal number :=
        Binary64.isSome_read?_iff.mp (Option.isSome_of_eq_some hread)
      split
      next hfactor => exact .unknownSuffix hnumber (by simp [← factor?_isSome_iff, hfactor])
      next factor hfactor =>
        have hsuffix : KnownSuffix suffix :=
          factor?_isSome_iff.mp (Option.isSome_of_eq_some hfactor)
        split
        · exact .negative hnumber hsuffix
        · exact .value hnumber hsuffix

/-! ### Which error comes when -/

/-- A text is reported as empty exactly if nothing is left of it when it is trimmed. -/
theorem parse_eq_empty_iff (h : Parts raw number suffix) :
    parse raw = .error .empty ↔ Text.trim raw = "" := by
  have houtcome := outcome_parse h
  -- the outcomes exclude each other, so that each error tells its own
  generalize parse raw = result at houtcome
  cases houtcome with
  | empty hempty => simp [hempty]
  | invalid hsome hnumber => simp [hsome]
  | unknownSuffix hnumber hsuffix => simp [h.trim_ne hnumber]
  | negative hnumber hsuffix => simp [h.trim_ne hnumber]
  | value hnumber hsuffix => simp [h.trim_ne hnumber]

/-- A text is reported as invalid exactly if there is something, and its number is no decimal. -/
theorem parse_eq_invalid_iff (h : Parts raw number suffix) {quoted : String} :
    parse raw = .error (.invalid quoted) ↔
      Text.trim raw ≠ "" ∧ ¬ IsSignedDecimal number ∧ quoted = Text.trim raw := by
  have houtcome := outcome_parse h
  generalize parse raw = result at houtcome
  cases houtcome with
  | empty hempty => simp [hempty]
  | invalid hsome hnumber => simp [hsome, hnumber, eq_comm]
  | unknownSuffix hnumber hsuffix => simp [hnumber]
  | negative hnumber hsuffix => simp [hnumber]
  | value hnumber hsuffix => simp [hnumber]

/-- A suffix is reported as unknown exactly if it is, after a decimal. -/
theorem parse_eq_unknownSuffix_iff (h : Parts raw number suffix) {quoted rest : String} :
    parse raw = .error (.unknownSuffix quoted rest) ↔
      IsSignedDecimal number ∧ ¬ KnownSuffix suffix ∧ quoted = Text.trim raw ∧
        rest = String.ofList suffix := by
  have houtcome := outcome_parse h
  -- a decimal is not empty
  have hnone : Text.trim raw = "" → ¬ IsSignedDecimal number :=
    fun hempty hnumber => h.trim_ne hnumber hempty
  generalize parse raw = result at houtcome
  cases houtcome with
  | empty hempty => simp [hnone hempty]
  | invalid hsome hnumber => simp [hnumber]
  | unknownSuffix hnumber hsuffix => simp [hnumber, hsuffix, eq_comm]
  | negative hnumber hsuffix => simp [hsuffix]
  | value hnumber hsuffix => simp [hsuffix]

/-- What comes through all tests is a number, or below zero. -/
theorem accepted_or_negative_iff (h : Parts raw number suffix) :
    (∃ value, parse raw = .ok value) ∨ parse raw = .error (.negative (Text.trim raw)) ↔
      IsSignedDecimal number ∧ KnownSuffix suffix := by
  have houtcome := outcome_parse h
  have hnone : Text.trim raw = "" → ¬ IsSignedDecimal number :=
    fun hempty hnumber => h.trim_ne hnumber hempty
  generalize parse raw = result at houtcome
  cases houtcome with
  | empty hempty => simp [hnone hempty]
  | invalid hsome hnumber => simp [hnumber]
  | unknownSuffix hnumber hsuffix => simp [hsuffix]
  | negative hnumber hsuffix => simp [hnumber, hsuffix]
  | value hnumber hsuffix => simp [hnumber, hsuffix]

/-! ### The same on bytes -/

/-- A text cut behind a number of bytes, if no character is cut apart there. -/
def cutAt? (text : String) (bytes : Nat) : Option (String × String) :=
  if h : (⟨bytes⟩ : String.Pos.Raw).IsValid text then
    some ((text.sliceTo (text.pos ⟨bytes⟩ h)).copy,
      (text.sliceFrom (text.pos ⟨bytes⟩ h)).copy)
  else none

/-- Behind as many bytes as its first part has, a text is cut into its parts. -/
theorem cutAt?_append (front back : String) :
    cutAt? (front ++ back) front.utf8ByteSize = some (front, back) := by
  have hvalid : (⟨front.utf8ByteSize⟩ : String.Pos.Raw).IsValid (front ++ back) :=
    String.Pos.Raw.isValid_iff_exists_append.mpr ⟨front, back, rfl, rfl⟩
  have hsplits : ((front ++ back).pos ⟨front.utf8ByteSize⟩ hvalid).Splits front back :=
    ⟨rfl, rfl⟩
  obtain ⟨hfront, hback⟩ := (String.Pos.splits _).eq hsplits
  rw [cutAt?, dif_pos hvalid, hfront, hback]

/-- The factor of a suffix, told by its bytes: one of more than one byte that begins with an `e` is
cut behind its first byte, and what stands there is an exponent. Nothing comes of it if that cuts a
character apart. -/
def factorByBytes? (suffix : String) : Option (Option Binary64) :=
  if 1 < suffix.utf8ByteSize ∧
    (suffix.toList.head? = some 'e' ∨ suffix.toList.head? = some 'E') then
    (cutAt? suffix 1).map fun (_, exponent) =>
      (Text.readInt32? exponent.toList).map (Binary64.power (.ofNat 10))
  else some (suffixFactor? suffix.toList)

/-- The number that a quantity denotes, where the text is cut by its bytes: in front of the first
byte that is no character of numbers, and in front of an exponent. Nothing comes of it if a
character is cut apart. -/
def parseByBytes? (raw : String) : Option (Except QuantityError Binary64) :=
  let quantity := Text.trim raw
  if quantity = "" then some (.error .empty)
  else
    (cutAt? quantity (String.ofList (quantity.toList.takeWhile isNumeric)).utf8ByteSize).bind
      fun (number, suffix) =>
      match Binary64.read? number.toList with
      | none => some (.error (.invalid quantity))
      | some value =>
        (factorByBytes? suffix).map fun
          | none => .error (.unknownSuffix quantity suffix)
          | some factor =>
            if (value.mul factor).isBelowZero then .error (.negative quantity)
              else .ok (value.mul factor)

/-- An `e` is one byte. -/
theorem utf8ByteSize_letter {e : Char} (he : e = 'e' ∨ e = 'E') :
    (String.singleton e).utf8ByteSize = 1 := by
  rcases he with rfl | rfl <;> rfl

/-- That a suffix has more than one byte and begins with an `e` says that something stands
behind the `e`. -/
theorem beginsExponent_iff : BeginsExponent suffix ↔
    1 < (String.ofList suffix).utf8ByteSize ∧
      (suffix.head? = some 'e' ∨ suffix.head? = some 'E') := by
  constructor
  · rintro ⟨e, exponent, rfl, he, hsome⟩
    -- what stands behind the letter takes a byte at least
    have hpos : 0 < (String.ofList exponent).utf8ByteSize := by
      rw [Nat.pos_iff_ne_zero, ne_eq, String.utf8ByteSize_eq_zero_iff, String.ofList_eq_empty_iff]
      exact hsome
    rw [String.ofList_cons, String.utf8ByteSize_append, utf8ByteSize_letter he]
    exact ⟨Nat.lt_add_of_pos_right hpos, by simpa using he⟩
  · rintro ⟨hsize, hhead⟩
    obtain ⟨e, he, hletter⟩ : ∃ e, suffix.head? = some e ∧ (e = 'e' ∨ e = 'E') :=
      hhead.elim (fun h => ⟨'e', h, .inl rfl⟩) fun h => ⟨'E', h, .inr rfl⟩
    obtain ⟨exponent, rfl⟩ := List.head?_eq_some_iff.mp he
    refine ⟨e, exponent, rfl, hletter, ?_⟩
    rintro rfl
    rw [← String.singleton_eq_ofList, utf8ByteSize_letter hletter] at hsize
    exact Nat.lt_irrefl 1 hsize

/-- The first byte of what is taken for an exponent is a whole character. -/
theorem factorByBytes?_ofList (suffix : List Char) :
    factorByBytes? (String.ofList suffix) = some (factor? suffix) := by
  rw [factorByBytes?, String.toList_ofList]
  by_cases hbegins : BeginsExponent suffix
  · rw [if_pos (beginsExponent_iff.mp hbegins)]
    obtain ⟨e, exponent, rfl, he, hsome⟩ := hbegins
    -- the letter takes exactly the byte at which the text is cut
    rw [String.ofList_cons, ← utf8ByteSize_letter he, cutAt?_append, factor?_cons he hsome,
      Option.map_some]
    dsimp only
    rw [String.toList_ofList]
  · rw [if_neg (mt beginsExponent_iff.mpr hbegins), factor?_of_not_beginsExponent hbegins]

/-- No text is cut inside a character, and what is read is the same. -/
theorem parseByBytes?_eq (raw : String) : parseByBytes? raw = some (parse raw) := by
  obtain ⟨number, suffix, h⟩ := exists_parts raw
  have htext : Text.trim raw = String.ofList number ++ String.ofList suffix := by
    rw [← String.ofList_append, ← h.text, String.ofList_toList]
  have hnumber : (Text.trim raw).toList.takeWhile isNumeric = number := by
    rw [Text.trim, String.toList_ofList, h.split.1]
  -- the number ends where a character ends, so that the text can be cut there
  have hcut : cutAt? (Text.trim raw) (String.ofList number).utf8ByteSize =
      some (String.ofList number, String.ofList suffix) := by
    rw [htext, cutAt?_append]
  unfold parseByBytes? parse
  dsimp only
  rw [hnumber, hcut, h.split.1, h.split.2]
  by_cases hempty : Text.trim raw = ""
  · rw [if_pos hempty, if_pos (trim_eq_empty_iff.mp hempty)]
  · rw [if_neg hempty, if_neg (mt trim_eq_empty_iff.mpr hempty), Option.bind_some]
    dsimp only
    rw [String.toList_ofList, factorByBytes?_ofList]
    cases Binary64.read? number with
    | none => rfl
    | some value => cases factor? suffix <;> rfl

/-! ### All texts -/

/-- Which error a text comes with, by its number and what stands behind it. -/
structure ErrorsClassified (raw : String) : Prop where
  /-- The text has a number, which may be empty, and what stands behind it. -/
  parts : ∃ number suffix, Parts raw number suffix
  /-- It is empty exactly if nothing is left after trimming. -/
  empty : parse raw = .error .empty ↔ Text.trim raw = ""
  /-- Otherwise it is invalid exactly if the number is no decimal, whatever stands behind it. -/
  invalid : ∀ number suffix, Parts raw number suffix → ∀ quoted,
    parse raw = .error (.invalid quoted) ↔
      Text.trim raw ≠ "" ∧ ¬ IsSignedDecimal number ∧ quoted = Text.trim raw
  /-- Otherwise it has an unknown suffix exactly if what stands behind the number stands for no
  factor. The error quotes the text and the suffix. -/
  unknownSuffix : ∀ number suffix, Parts raw number suffix → ∀ quoted rest,
    parse raw = .error (.unknownSuffix quoted rest) ↔
      IsSignedDecimal number ∧ ¬ KnownSuffix suffix ∧ quoted = Text.trim raw ∧
        rest = String.ofList suffix
  /-- No suffix of the table is unknown that has one character at most, nor is an empty one. -/
  short : ∀ number suffix, Parts raw number suffix → suffix ∈ suffixes →
    suffix.length ≤ 1 → ∀ quoted rest,
    parse raw ≠ .error (.unknownSuffix quoted rest)
  /-- Otherwise it is a number, or below zero. -/
  otherwise : ∀ number suffix, Parts raw number suffix →
    ((∃ value, parse raw = .ok value) ∨ parse raw = .error (.negative (Text.trim raw)) ↔
      IsSignedDecimal number ∧ KnownSuffix suffix)
  /-- The text is never cut inside a character. -/
  uncut : parseByBytes? raw = some (parse raw)

/-- Every text that is no quantity comes with the error of the first test that it fails. -/
theorem errors_classified (raw : String) : ErrorsClassified raw where
  parts := exists_parts raw
  empty :=
    let ⟨_, _, h⟩ := exists_parts raw
    parse_eq_empty_iff h
  invalid _ _ h _ := parse_eq_invalid_iff h
  unknownSuffix _ _ h _ _ := parse_eq_unknownSuffix_iff h
  -- the only suffix of the table that is refused has two characters
  short number suffix h hmem hlength quoted rest hparse := by
    refine ((parse_eq_unknownSuffix_iff h).mp hparse).2.1 (.table hmem ?_)
    rintro rfl
    exact absurd hlength (by decide)
  otherwise _ _ h := accepted_or_negative_iff h
  uncut := parseByBytes?_eq raw

end ClusterWatch.Quantity
