import ClusterWatch.Proofs.Mesh.FieldForms

/-!
# Reading written fields back

Varints, keys, lengths and whole fields are written in one of their forms, and so they are read back
as they were written.

* `isVarint_writeVarint` — the varint of a number below `2 ^ 64` is a form of the number.
* `Field.bytes`, `isField_bytes` — the written form of a field is a form of it.
* `Written` — bytes that are the written forms of fields, in the order of their numbers and
  without blank numbers.
* `Written.readFields` — such bytes are read back.
-/

namespace ClusterWatch.Wire

/-! ### Varints -/

theorem toNat_ofNat {n : Nat} (h : n < 256) : (UInt8.ofNat n).toNat = n := by
  simp [Nat.mod_eq_of_lt h]

/-- With room for some bytes besides the last one, a number is written in a form that is not longer.
The tenth byte holds a single bit. -/
theorem continued_writeVarintWithin (room : Nat) {n : Nat} (hn : n < 2 * Nat.pow 128 room) :
    Continued (writeVarintWithin (room + 1) n) ∧
      (writeVarintWithin (room + 1) n).length ≤ room + 1 ∧
      sevens (writeVarintWithin (room + 1) n) = n := by
  have hlast {n room : Nat} (hsmall : n < 128) : Continued [UInt8.ofNat n] ∧
      [UInt8.ofNat n].length ≤ room + 1 ∧ sevens [UInt8.ofNat n] = n := by
    have hbyte : (UInt8.ofNat n).toNat = n := toNat_ofNat (by omega)
    exact ⟨.last (by omega), by simp, (sevens_singleton (by omega)).trans hbyte⟩
  induction room generalizing n with
  -- only one bit is left for the tenth byte
  | zero =>
    have hbit : n < 2 := hn
    rw [writeVarintWithin, if_pos (by omega)]
    exact hlast (by omega)
  | succ room ih =>
    rw [writeVarintWithin]
    split
    next hsmall => exact hlast hsmall
    next hlarge =>
      rw [two_mul_pow_succ] at hn
      obtain ⟨hcontinued, hlength, hvalue⟩ := ih (Nat.div_lt_of_lt_mul hn)
      have hbyte : (UInt8.ofNat (n % 128 + 128)).toNat = n % 128 + 128 := toNat_ofNat (by omega)
      refine ⟨.more (by omega) hcontinued, Nat.succ_le_succ hlength, ?_⟩
      rw [sevens, hbyte, hvalue]
      omega

/-- A number of 64 bits is written in a form of it. -/
theorem isVarint_writeVarint {n : Nat} (hn : n < UInt64.size) : IsVarint n (writeVarint n) := by
  obtain ⟨hcontinued, hlength, hvalue⟩ := continued_writeVarintWithin 9 hn
  exact ⟨hcontinued, hlength, hvalue, hn⟩

/-! ### Fields -/

/-- A key is written in a form of it. -/
theorem isKey_writeVarint {number : Nat} (hnumber : 0 < number) (type : WireType)
    (hkey : 8 * number + type.code < UInt32.size) :
    IsKey number type (writeVarint (8 * number + type.code)) :=
  ⟨isVarint_writeVarint (Nat.lt_trans hkey (by decide)), hnumber, hkey⟩

/-- The written form of a field with a varint or with bytes. -/
def Field.bytes (field : Field) : Bytes :=
  match field.value with
  | .varint n => varintField field.number n.toNat
  | .bytes bs => bytesField field.number bs
  | .other => []

/-- A field that is written: its number is positive and small enough to fit into one byte with a
wire type, and its value is no blank number. -/
structure Field.IsWritten (field : Field) : Prop where
  /-- The number is positive. -/
  pos : 0 < field.number
  /-- The key takes one byte. -/
  lt : field.number < 16
  /-- The value is a varint or bytes. -/
  value : field.value ≠ .other
  /-- The value is not the blank number. -/
  present : field.value ≠ .varint 0

/-- A field is written in a form of it. -/
theorem isField_bytes {depth : Nat} (hdepth : depth ≠ 0) {field : Field} (h : field.IsWritten)
    (hlength : field.bytes.length < UInt64.size) : IsField depth field field.bytes := by
  obtain ⟨depth, rfl⟩ : ∃ less, depth = less + 1 := ⟨depth - 1, by omega⟩
  obtain ⟨number, value⟩ := field
  have hlt : number < 16 := h.lt
  -- tags below sixteen leave room for the wire type in one byte
  have hkey (type : WireType) : IsKey number type (writeVarint (8 * number + type.code)) := by
    have hcode := type.code_lt
    have hbyte : 8 * number + type.code < 256 := by omega
    exact isKey_writeVarint h.pos type (Nat.lt_trans hbyte (by decide))
  cases value with
  | varint n =>
    have hform : IsField (depth + 1) _ _ :=
      .varint (hkey .varint) (isVarint_writeVarint n.toNat_lt_size)
    rw [UInt64.ofNat_toNat] at hform
    exact hform
  | bytes bs =>
    -- the bytes are part of what is written, and not longer
    have hbs : bs.length < UInt64.size := by
      refine Nat.lt_of_le_of_lt ?_ hlength
      simp only [Field.bytes, bytesField, List.length_append]
      omega
    have hform : IsField (depth + 1) _ _ := .bytes (hkey .bytes) (isVarint_writeVarint hbs)
    rw [← List.append_assoc] at hform
    exact hform
  | other => exact absurd rfl h.value

/-! ### Sequences of fields -/

/-- The bytes are the written forms of fields, in the order of their numbers, which go up to
the last one. -/
structure Written (last : Nat) (bs : Bytes) (fields : List Field) : Prop where
  /-- The written forms stand one behind the other. -/
  bytes : bs = fields.flatMap Field.bytes
  /-- Every field is of a form in which it is written. -/
  isWritten : ∀ field ∈ fields, field.IsWritten
  /-- No field has a lower number than one before it. -/
  ordered : fields.Pairwise (·.number ≤ ·.number)
  /-- No number is above the last one. -/
  le_last : ∀ field ∈ fields, field.number ≤ last

theorem written_nil : Written 0 [] [] where
  bytes := rfl
  isWritten := by simp
  ordered := .nil
  le_last := by simp

/-- What is written up to a number is written up to a greater one. -/
theorem Written.mono {last next : Nat} {bs : Bytes} {fields : List Field}
    (h : Written last bs fields) (hnext : last ≤ next) : Written next bs fields :=
  { h with le_last := fun field hfield => Nat.le_trans (h.le_last field hfield) hnext }

/-- A field of a number that is not lower may follow. -/
theorem Written.concat {last : Nat} {bs : Bytes} {fields : List Field} (h : Written last bs fields)
    {field : Field} (hfield : field.IsWritten) (hlast : last ≤ field.number) :
    Written field.number (bs ++ field.bytes) (fields ++ [field]) where
  bytes := by rw [h.bytes, List.flatMap_append, List.flatMap_singleton]
  isWritten other hother := by
    rcases List.mem_append.mp hother with hother | hother
    · exact h.isWritten other hother
    · rw [List.mem_singleton.mp hother]
      exact hfield
  ordered := by
    -- the numbers before it are at most the last one
    refine List.pairwise_append.mpr ⟨h.ordered, List.pairwise_singleton _ _, ?_⟩
    intro other hother new hnew
    rw [List.mem_singleton.mp hnew]
    exact Nat.le_trans (h.le_last other hother) hlast
  le_last other hother := by
    rcases List.mem_append.mp hother with hother | hother
    · exact Nat.le_trans (h.le_last other hother) hlast
    · exact Nat.le_of_eq (congrArg Field.number (List.mem_singleton.mp hother))

/-- Written fields are read back. -/
theorem Written.readFields {depth last : Nat} (hdepth : depth ≠ 0) {bs : Bytes}
    {fields : List Field} (h : Written last bs fields) (hlength : bs.length < UInt64.size) :
    readFields depth bs = some fields := by
  obtain rfl := h.bytes
  refine readFields_eq_some_iff.mpr ⟨fields.map fun field => (field, field.bytes), ?_, ?_, ?_⟩
  · rw [List.flatMap_map]
  · rw [List.map_map]
    exact (List.map_id fields).symm
  · simp only [List.mem_map]
    rintro _ ⟨field, hfield, rfl⟩
    refine isField_bytes hdepth (h.isWritten field hfield) ?_
    -- no field is longer than the whole
    show field.bytes.length < UInt64.size
    obtain ⟨before, after, rfl⟩ := List.append_of_mem hfield
    simp only [List.flatMap_append, List.flatMap_cons, List.length_append] at hlength
    omega

end ClusterWatch.Wire
