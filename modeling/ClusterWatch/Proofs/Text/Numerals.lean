import ClusterWatch.Text.Blank
import ClusterWatch.Text.Numeral

/-!
# Reading decimal numerals back

The decimal text of a number is a run of digits without a sign, and is read as that number. A signed
numeral is a run of digits behind an optional sign.

* `readDigits?_toDigits`, `readUnsigned?_toDigits` — the digits of a number, and with a limit
  for what is read.
* `readUnsigned?_eq_some_iff` — what is read as an unsigned numeral.
* `IsNumeral` — the texts of an integer; `IsNumeral.exists_longer` — they can be of any length.
* `readSigned?_eq_some_iff` — the texts of the integers within the limits are what is read.
-/

namespace ClusterWatch.Text

/-- The digits of numerals are the decimal ones. -/
theorem isDigit_eq (c : Char) : isDigit c = c.isDigit :=
  rfl

/-- No digit is a blank. -/
theorem isBlank_of_isDigit {c : Char} (h : isDigit c = true) : isBlank c = false := by
  have hdigit : 48 ≤ c.toNat ∧ c.toNat ≤ 57 := by
    simpa [isDigit_eq, Char.isDigit, UInt32.le_iff_toNat_le] using h
  rw [isBlank]
  simp only [Bool.or_eq_false_iff, Bool.and_eq_false_iff, decide_eq_false_iff_not,
    beq_eq_false_iff_ne]
  omega

theorem isDigit_of_mem_toDigits {n : Nat} {c : Char} (h : c ∈ Nat.toDigits 10 n) :
    isDigit c = true :=
  Nat.isDigit_of_mem_toDigits (by decide) (by decide) h

/-- The value of a run of digits is built up from the left. -/
theorem digitsValue_toDigits (n : Nat) : digitsValue (Nat.toDigits 10 n) = n := by
  calc digitsValue (Nat.toDigits 10 n)
    _ = Nat.ofDigitChars 10 (Nat.toDigits 10 n) 0 := rfl
    _ = n := Nat.ofDigitChars_ten_toDigits

/-- The digits of a number are read as the number. -/
theorem readDigits?_toDigits (n : Nat) : readDigits? (Nat.toDigits 10 n) = some n := by
  have hsome : (Nat.toDigits 10 n).isEmpty = false := by simp
  have hdigits : (Nat.toDigits 10 n).all isDigit = true :=
    List.all_eq_true.mpr fun c hc => isDigit_of_mem_toDigits hc
  rw [readDigits?, hsome, hdigits, digitsValue_toDigits]
  rfl

/-- The digits of a number within the limit are read as an unsigned numeral. -/
theorem readUnsigned?_toDigits {limit n : Nat} (h : n ≤ limit) :
    readUnsigned? limit (Nat.toDigits 10 n) = some n := by
  unfold readUnsigned?
  split
  next rest hsign =>
    -- a sign is no digit
    have hplus : '+' ∈ Nat.toDigits 10 n := hsign ▸ List.mem_cons_self
    exact absurd (isDigit_of_mem_toDigits hplus) (by decide)
  next => simp only [readDigits?_toDigits, Option.filter_some, decide_eq_true h, if_true]

/-- Digits are read exactly if there are some and nothing else. -/
theorem readDigits?_eq_some_iff {cs : List Char} {n : Nat} :
    readDigits? cs = some n ↔
      cs ≠ [] ∧ (∀ c ∈ cs, isDigit c = true) ∧ digitsValue cs = n := by
  cases cs with
  | nil => simp [readDigits?]
  | cons first rest => simp [readDigits?, and_assoc]

/-- What is read as an unsigned numeral are digits of a number within the limit, which may
follow a plus sign. -/
theorem readUnsigned?_eq_some_iff {limit : Nat} {cs : List Char} {n : Nat} :
    readUnsigned? limit cs = some n ↔
      ∃ sign digits, cs = sign ++ digits ∧ (sign = [] ∨ sign = ['+']) ∧
        readDigits? digits = some n ∧ n ≤ limit := by
  unfold readUnsigned?
  simp only [Option.filter_eq_some_iff, decide_eq_true_eq]
  split
  next rest =>
    constructor
    · exact fun hread => ⟨['+'], rest, rfl, .inr rfl, hread⟩
    · rintro ⟨sign, digits, hcs, rfl | rfl, hread, hle⟩
      · -- a sign is no digit
        obtain rfl : '+' :: rest = digits := hcs
        exact absurd ((readDigits?_eq_some_iff.mp hread).2.1 '+' List.mem_cons_self) (by decide)
      · obtain rfl := List.tail_eq_of_cons_eq hcs
        exact ⟨hread, hle⟩
  next hplus =>
    constructor
    · exact fun hread => ⟨[], cs, rfl, .inl rfl, hread⟩
    · rintro ⟨sign, digits, rfl, rfl | rfl, hread⟩
      · exact hread
      · exact absurd rfl (hplus digits)

/-! ### Signed numerals -/

/-- The texts of an integer: digits, which may follow a sign. -/
inductive IsNumeral : List Char → Int → Prop
  | unsigned {digits : List Char} (hsome : digits ≠ [])
    (hdigits : ∀ c ∈ digits, isDigit c = true) :
      IsNumeral digits (digitsValue digits)
  | plus {digits : List Char} (hsome : digits ≠ [])
    (hdigits : ∀ c ∈ digits, isDigit c = true) :
      IsNumeral ('+' :: digits) (digitsValue digits)
  | minus {digits : List Char} (hsome : digits ≠ [])
    (hdigits : ∀ c ∈ digits, isDigit c = true) :
      IsNumeral ('-' :: digits) (-(digitsValue digits : Int))

theorem IsNumeral.ne_nil {cs : List Char} {n : Int} (h : IsNumeral cs n) : cs ≠ [] := by
  cases h with
  | unsigned hsome => exact hsome
  | plus => exact List.cons_ne_nil _ _
  | minus => exact List.cons_ne_nil _ _

/-- A numeral is made of digits and signs. -/
theorem IsNumeral.of_mem {cs : List Char} {n : Int} (h : IsNumeral cs n)
    {c : Char} (hc : c ∈ cs) :
    isDigit c = true ∨ c = '+' ∨ c = '-' := by
  cases h with
  | unsigned _ hdigits => exact .inl (hdigits c hc)
  | plus _ hdigits =>
    rcases List.mem_cons.mp hc with rfl | hdigit
    · exact .inr (.inl rfl)
    · exact .inl (hdigits c hdigit)
  | minus _ hdigits =>
    rcases List.mem_cons.mp hc with rfl | hdigit
    · exact .inr (.inr rfl)
    · exact .inl (hdigits c hdigit)

/-- Zeros in front of digits add nothing. -/
theorem digitsValue_zeros_append (count : Nat) (digits : List Char) :
    digitsValue (List.replicate count '0' ++ digits) = digitsValue digits := by
  induction count with
  | zero => rfl
  | succ count ih => exact ih

/-- An integer has texts of any length, with zeros in front of the digits. -/
theorem IsNumeral.exists_longer {cs : List Char} {n : Int} (h : IsNumeral cs n) (length : Nat) :
    ∃ longer, length < longer.length ∧ IsNumeral longer n := by
  have hpadded {digits : List Char} (hdigits : ∀ c ∈ digits, isDigit c = true) :
      ∀ c ∈ List.replicate length '0' ++ digits, isDigit c = true := by
    intro c hc
    rcases List.mem_append.mp hc with hzero | hdigit
    · rw [List.eq_of_mem_replicate hzero]
      rfl
    · exact hdigits c hdigit
  have hlength {digits : List Char} (hsome : digits ≠ []) :
      length < (List.replicate length '0' ++ digits).length := by
    have hpos := List.length_pos_iff.mpr hsome
    simp only [List.length_append, List.length_replicate]
    omega
  -- the zeros stand behind the sign
  cases h with
  | unsigned hsome hdigits =>
    refine ⟨_, hlength hsome, ?_⟩
    rw [← digitsValue_zeros_append length]
    exact .unsigned (List.append_ne_nil_of_right_ne_nil _ hsome) (hpadded hdigits)
  | plus hsome hdigits =>
    refine ⟨'+' :: _, Nat.lt_succ_of_lt (hlength hsome), ?_⟩
    rw [← digitsValue_zeros_append length]
    exact .plus (List.append_ne_nil_of_right_ne_nil _ hsome) (hpadded hdigits)
  | minus hsome hdigits =>
    refine ⟨'-' :: _, Nat.lt_succ_of_lt (hlength hsome), ?_⟩
    rw [← digitsValue_zeros_append length]
    exact .minus (List.append_ne_nil_of_right_ne_nil _ hsome) (hpadded hdigits)

/-- Behind a minus sign, a numeral is the digits of the opposite. -/
theorem isNumeral_minus {digits : List Char} {n : Int} :
    IsNumeral ('-' :: digits) n ↔ ∃ m, readDigits? digits = some m ∧ -(m : Int) = n := by
  simp only [readDigits?_eq_some_iff]
  constructor
  · intro h
    cases h with
    -- a minus sign is no digit
    | unsigned _ hdigits => exact absurd (hdigits '-' List.mem_cons_self) (by decide)
    | minus hsome hdigits => exact ⟨_, ⟨hsome, hdigits, rfl⟩, rfl⟩
  · rintro ⟨_, ⟨hsome, hdigits, rfl⟩, rfl⟩
    exact .minus hsome hdigits

/-- Behind a plus sign, a numeral is the digits of the integer. -/
theorem isNumeral_plus {digits : List Char} {n : Int} :
    IsNumeral ('+' :: digits) n ↔ ∃ m, readDigits? digits = some m ∧ (m : Int) = n := by
  simp only [readDigits?_eq_some_iff]
  constructor
  · intro h
    cases h with
    -- a plus sign is no digit
    | unsigned _ hdigits => exact absurd (hdigits '+' List.mem_cons_self) (by decide)
    | plus hsome hdigits => exact ⟨_, ⟨hsome, hdigits, rfl⟩, rfl⟩
  · rintro ⟨_, ⟨hsome, hdigits, rfl⟩, rfl⟩
    exact .plus hsome hdigits

/-- Without a sign, a numeral is the digits of the integer. -/
theorem isNumeral_of_no_sign {cs : List Char} {n : Int} (hplus : ∀ rest, cs ≠ '+' :: rest)
    (hminus : ∀ rest, cs ≠ '-' :: rest) :
    IsNumeral cs n ↔ ∃ m, readDigits? cs = some m ∧ (m : Int) = n := by
  simp only [readDigits?_eq_some_iff]
  constructor
  · intro h
    cases h with
    | unsigned hsome hdigits => exact ⟨_, ⟨hsome, hdigits, rfl⟩, rfl⟩
    | plus => exact absurd rfl (hplus _)
    | minus => exact absurd rfl (hminus _)
  · rintro ⟨_, ⟨hsome, hdigits, rfl⟩, rfl⟩
    exact .unsigned hsome hdigits

/-- What is read as a signed numeral are the texts of the integers within the limits. -/
theorem readSigned?_eq_some_iff {limit : Nat} {cs : List Char} {n : Int} :
    readSigned? limit cs = some n ↔
      IsNumeral cs n ∧ -(limit + 1 : Int) ≤ n ∧ n ≤ limit := by
  -- without a minus sign, the digits may be anything up to the limit
  have hwithin (digits : List Char) :
      (∃ m, ((readDigits? digits).filter (· ≤ limit)) = some m ∧ (m : Int) = n) ↔
      (∃ m, readDigits? digits = some m ∧ (m : Int) = n) ∧ -(limit + 1 : Int) ≤ n ∧
        n ≤ limit := by
    simp only [Option.filter_eq_some_iff, decide_eq_true_eq]
    constructor
    · rintro ⟨m, ⟨hread, hle⟩, rfl⟩
      exact ⟨⟨m, hread, rfl⟩, by omega, by omega⟩
    · rintro ⟨⟨m, hread, rfl⟩, -, hle⟩
      exact ⟨m, ⟨hread, by omega⟩, rfl⟩
  unfold readSigned? readUnsigned?
  split
  next digits =>
    simp only [isNumeral_minus, Option.bind_eq_bind, Option.pure_def, Option.map_eq_some_iff,
      Option.bind_eq_some_iff, Option.some.injEq, Option.filter_eq_some_iff, decide_eq_true_eq]
    constructor
    · rintro ⟨_, ⟨m, ⟨hread, hle⟩, rfl⟩, rfl⟩
      exact ⟨⟨m, hread, rfl⟩, by omega, by omega⟩
    · rintro ⟨⟨m, hread, rfl⟩, hle, -⟩
      exact ⟨_, ⟨m, ⟨hread, by omega⟩, rfl⟩, rfl⟩
  next hminus =>
    simp only [Option.bind_eq_bind, Option.pure_def, Option.map_eq_some_iff,
      Option.bind_eq_some_iff, Option.some.injEq, exists_eq_right]
    split
    next digits => rw [isNumeral_plus, hwithin]
    next hplus => rw [isNumeral_of_no_sign hplus hminus, hwithin]

end ClusterWatch.Text
