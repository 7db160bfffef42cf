import ClusterWatch.Mesh.Wire

/-!
# The forms of fields

What the bytes of a field may look like, told without a reader: varints need not be as short as they
could be, and a group holds fields of its own. The reader of fields takes exactly these forms off
the front of the bytes, whatever stands behind them.

* `IsVarint`, `IsKey`, `IsField` — the forms of varints, keys and fields.
* `readVarint_eq_some_iff`, `readKey_eq_some_iff`, `readField_eq_some_iff` — they
  are what is read.
* `readFields_append` — the fields at the front of the bytes are read first, and then the others.
-/

namespace ClusterWatch.Wire

/-! ### Varints -/

/-- Bytes that all have the highest bit, apart from the last one. -/
inductive Continued : Bytes → Prop where
  /-- A byte without the highest bit. -/
  | last {b : UInt8} (h : b.toNat < 128) : Continued [b]
  /-- A byte with the highest bit, and others after it. -/
  | more {b : UInt8} {form : Bytes} (h : 128 ≤ b.toNat) (hform : Continued form) :
    Continued (b :: form)

/-- The number that the lower seven bits of each byte make up, the lowest of them first. -/
def sevens : Bytes → Nat
  | [] => 0
  | b :: form => b.toNat % 128 + 128 * sevens form

/-- A form of a number as a varint, which may have more bytes than it takes. -/
structure IsVarint (n : Nat) (form : Bytes) : Prop where
  /-- The last byte shows that it is the last. -/
  continued : Continued form
  /-- There are at most ten bytes. -/
  length_le : form.length ≤ 10
  /-- The lower bits are those of the number. -/
  value : sevens form = n
  /-- The number takes 64 bits. -/
  lt : n < UInt64.size

/-- A continued form has at least its last byte. -/
theorem Continued.length_pos {form : Bytes} (h : Continued form) : 0 < form.length := by
  cases h <;> simp

/-- A varint takes at least one byte. -/
theorem IsVarint.length_pos {n : Nat} {form : Bytes} (h : IsVarint n form) : 0 < form.length :=
  h.continued.length_pos

/-- A single byte below 128 stands for itself. -/
theorem sevens_singleton {b : UInt8} (h : b.toNat < 128) : sevens [b] = b.toNat := by
  rw [sevens, sevens]
  omega

/-- One more byte has room for seven more bits. -/
theorem two_mul_pow_succ (room : Nat) :
    2 * Nat.pow 128 (room + 1) = 128 * (2 * Nat.pow 128 room) := by
  rw [Nat.mul_left_comm, Nat.mul_comm 128]
  rfl

/-- With room for some bytes besides the last one, the number is read. The tenth byte holds
a single bit. -/
theorem readVarintFrom_append {form : Bytes} (h : Continued form) (index room : Nat)
    (hroom : index + room = 9) (hlength : form.length ≤ room + 1)
    (hn : sevens form < 2 * Nat.pow 128 room) (rest : Bytes) :
    readVarintFrom index (form ++ rest) = some (sevens form, rest) := by
  induction h generalizing index room with
  | @last b hb =>
    rw [sevens_singleton hb] at hn ⊢
    rw [List.singleton_append, readVarintFrom]
    split
    next hindex =>
      obtain rfl : room = 0 := by omega
      exact if_pos hn
    next => rfl
  | @more b form hb hform ih =>
    have hpos := hform.length_pos
    have hlow : b.toNat - 128 = b.toNat % 128 := by
      have hlt := b.toNat_lt
      omega
    rw [List.length_cons] at hlength
    -- there are bytes to come, so that this is not the tenth
    obtain ⟨room, rfl⟩ : ∃ less, room = less + 1 := ⟨room - 1, by omega⟩
    have hrest : sevens form < 2 * Nat.pow 128 room := by
      rw [sevens, two_mul_pow_succ] at hn
      omega
    rw [List.cons_append, readVarintFrom, if_neg (by omega), if_neg (by omega),
      ih (index + 1) room (by omega) (by omega) hrest, Option.map_some, hlow, sevens]

/-- With room for some bytes besides the last one, what is read has the form of a varint. -/
theorem of_readVarintFrom_eq_some (index room : Nat) (hroom : index + room = 9) {bs rest : Bytes}
    {n : Nat} (h : readVarintFrom index bs = some (n, rest)) :
    ∃ form, bs = form ++ rest ∧ Continued form ∧ form.length ≤ room + 1 ∧
      sevens form = n ∧ n < 2 * Nat.pow 128 room := by
  induction bs generalizing index room n with
  | nil => cases h
  | cons b bs ih =>
    rw [readVarintFrom] at h
    split at h
    -- the tenth byte ends the varint and has one bit to add
    next hindex =>
      obtain rfl : room = 0 := by omega
      split at h <;> cases h
      next hbit =>
        have hlast : b.toNat < 128 := by omega
        exact ⟨[b], rfl, .last hlast, Nat.le_refl _, sevens_singleton hlast, hbit⟩
    next hindex =>
      -- a byte before that either ends it or adds seven bits to what follows
      obtain ⟨room, rfl⟩ : ∃ less, room = less + 1 := ⟨room - 1, by omega⟩
      have hpos : 0 < Nat.pow 128 room := Nat.pow_pos (by decide)
      rw [two_mul_pow_succ]
      split at h
      next hlast =>
        cases h
        exact ⟨[b], rfl, .last hlast, by simp, sevens_singleton hlast, by omega⟩
      next hmore =>
        obtain ⟨⟨high, left⟩, hread, hparts⟩ := Option.map_eq_some_iff.mp h
        cases hparts
        obtain ⟨form, rfl, hform, hlength, rfl, hn⟩ := ih (index + 1) room (by omega) hread
        have hlow : b.toNat - 128 = b.toNat % 128 := by
          have hlt := b.toNat_lt
          omega
        refine ⟨b :: form, rfl, .more (by omega) hform, Nat.succ_le_succ hlength, ?_, by omega⟩
        rw [sevens, hlow]

/-- A varint is read exactly from the bytes that begin with a form of it. -/
theorem readVarint_eq_some_iff {bs rest : Bytes} {n : Nat} :
    readVarint bs = some (n, rest) ↔ ∃ form, bs = form ++ rest ∧ IsVarint n form := by
  constructor
  · intro h
    obtain ⟨form, rfl, hform, hlength, hvalue, hn⟩ := of_readVarintFrom_eq_some 0 9 rfl h
    exact ⟨form, rfl, hform, hlength, hvalue, hn⟩
  · rintro ⟨form, rfl, hform, hlength, rfl, hn⟩
    exact readVarintFrom_append hform 0 9 rfl hlength hn rest

/-! ### Keys, lengths and fixed numbers of bytes -/

/-- The code of a wire type. -/
def WireType.code : WireType → Nat
  | .varint => 0
  | .fixed64 => 1
  | .bytes => 2
  | .groupStart => 3
  | .groupEnd => 4
  | .fixed32 => 5

/-- The code of a wire type stands for it. -/
theorem WireType.ofCode?_code (type : WireType) : ofCode? type.code = some type := by
  cases type <;> rfl

/-- The codes of the wire types take three bits. -/
theorem WireType.code_lt (type : WireType) : type.code < 8 := by
  cases type <;> decide

/-- A form of the key of a field. -/
structure IsKey (number : Nat) (type : WireType) (form : Bytes) : Prop where
  /-- It is a varint that holds the number and the code of the wire type. -/
  varint : IsVarint (8 * number + type.code) form
  /-- The number is positive. -/
  pos : 0 < number
  /-- The key takes 32 bits. -/
  lt : 8 * number + type.code < UInt32.size

/-- No two wire types have one code. -/
theorem WireType.ofCode?_eq_some_iff {code : Nat} {type : WireType} :
    ofCode? code = some type ↔ code = type.code := by
  constructor
  · intro h
    -- any other code stands for no type
    match code, h with
    | 0, h | 1, h | 2, h | 3, h | 4, h | 5, h =>
      cases h
      rfl
  · rintro rfl
    exact ofCode?_code type

/-- A key is read exactly from the bytes that begin with a form of it. -/
theorem readKey_eq_some_iff {bs rest : Bytes} {number : Nat} {type : WireType} :
    readKey bs = some ((number, type), rest) ↔
      ∃ form, bs = form ++ rest ∧ IsKey number type form := by
  have hcode := type.code_lt
  simp only [readKey, Option.bind_eq_bind, Option.bind_eq_some_iff, Prod.exists,
    readVarint_eq_some_iff, WireType.ofCode?_eq_some_iff]
  constructor
  · rintro ⟨key, left, ⟨form, rfl, hform⟩, other, hother, hkey⟩
    split at hkey <;> cases hkey
    next hvalid =>
      have hkey : 8 * (key / 8) + type.code = key := by omega
      exact ⟨form, rfl, hkey.symm ▸ hform, by omega, by omega⟩
  · rintro ⟨form, rfl, hform, hpos, hlt⟩
    -- the code takes three bits, so that the number is what is left of the key
    refine ⟨_, rest, ⟨form, rfl, hform⟩, type, by omega, ?_⟩
    have hnumber : (8 * number + type.code) / 8 = number := by omega
    rw [if_neg (by omega), hnumber]

/-- As many bytes are skipped as are asked for, if they are there. -/
theorem skip_eq_some_iff {n : Nat} {bs rest : Bytes} :
    skip n bs = some rest ↔ ∃ form, bs = form ++ rest ∧ form.length = n := by
  rw [skip]
  constructor
  · intro h
    split at h <;> cases h
    next hlong =>
      exact ⟨bs.take n, (List.take_append_drop n bs).symm, List.length_take_of_le (by omega)⟩
  · rintro ⟨form, rfl, rfl⟩
    rw [if_neg (by simp), List.drop_left]

/-- Bytes are read exactly from their length and themselves. -/
theorem readBytes_eq_some_iff {bs value rest : Bytes} :
    readBytes bs = some (value, rest) ↔
      ∃ size, bs = size ++ value ++ rest ∧ IsVarint value.length size := by
  simp only [readBytes, Option.bind_eq_bind, Option.bind_eq_some_iff, Prod.exists,
    readVarint_eq_some_iff]
  constructor
  · rintro ⟨length, left, ⟨size, rfl, hsize⟩, hvalue⟩
    split at hvalue <;> cases hvalue
    -- the bytes that are left suffice for the length
    next hlong =>
      refine ⟨size, by rw [List.append_assoc, List.take_append_drop], ?_⟩
      rwa [List.length_take_of_le (by omega)]
  · rintro ⟨size, rfl, hsize⟩
    refine ⟨value.length, value ++ rest, ⟨size, List.append_assoc _ _ _, hsize⟩, ?_⟩
    rw [if_neg (by simp), List.take_left, List.drop_left]

/-! ### Fields -/

/-- A form of a field, with groups nested no deeper than some levels. -/
inductive IsField : Nat → Field → Bytes → Prop where
  /-- A varint behind a key. -/
  | varint {depth number n : Nat} {key form : Bytes} (hkey : IsKey number .varint key)
    (hform : IsVarint n form) :
    IsField (depth + 1) ⟨number, .varint (UInt64.ofNat n)⟩ (key ++ form)
  /-- Eight bytes behind a key. -/
  | fixed64 {depth number : Nat} {key form : Bytes} (hkey : IsKey number .fixed64 key)
    (hform : form.length = 8) :
    IsField (depth + 1) ⟨number, .other⟩ (key ++ form)
  /-- Four bytes behind a key. -/
  | fixed32 {depth number : Nat} {key form : Bytes} (hkey : IsKey number .fixed32 key)
    (hform : form.length = 4) :
    IsField (depth + 1) ⟨number, .other⟩ (key ++ form)
  /-- A length and as many bytes behind a key. -/
  | bytes {depth number : Nat} {key size value : Bytes} (hkey : IsKey number .bytes key)
    (hsize : IsVarint value.length size) :
      IsField (depth + 1) ⟨number, .bytes value⟩ (key ++ (size ++ value))
  /-- Fields between the two keys of a group, which have the same number. -/
  | group {depth number : Nat} {key close : Bytes} {parts : List (Field × Bytes)}
    (hkey : IsKey number .groupStart key) (hparts : ∀ part ∈ parts, IsField depth part.1 part.2)
    (hclose : IsKey number .groupEnd close) :
    IsField (depth + 1) ⟨number, .other⟩ (key ++ (parts.flatMap Prod.snd ++ close))

variable {depth : Nat} {field : Field} {form : Bytes}

/-! ### Forms are read -/

/-- With fuel for each of the bytes, the key of a field is read, and then its value, whatever
stands behind it. -/
def IsRead (depth : Nat) (field : Field) (form : Bytes) : Prop :=
  ∃ type key tail, form = key ++ tail ∧ IsKey field.number type key ∧ type ≠ .groupEnd ∧
    ∀ fuel, form.length ≤ fuel →
      ∀ rest, readValue depth fuel field.number type (tail ++ rest) = some (field.value, rest)

/-- The fields of a group and the key of its end are skipped, if each of the fields is read. -/
theorem skipGroup_append {number : Nat} {parts : List (Field × Bytes)}
    (hparts : ∀ part ∈ parts, IsRead depth part.1 part.2) {close : Bytes}
    (hclose : IsKey number .groupEnd close) {fuel : Nat}
    (hfuel : (parts.flatMap Prod.snd ++ close).length ≤ fuel) (rest : Bytes) :
    skipGroup depth fuel number (parts.flatMap Prod.snd ++ close ++ rest) = some rest := by
  induction parts generalizing fuel with
  | nil =>
    have hpos := hclose.varint.length_pos
    have hlength : close.length ≤ fuel := hfuel
    obtain ⟨fuel, rfl⟩ : ∃ less, fuel = less + 1 := ⟨fuel - 1, by omega⟩
    have hread : readKey (close ++ rest) = some ((number, .groupEnd), rest) :=
      readKey_eq_some_iff.mpr ⟨close, rfl, hclose⟩
    simp [skipGroup, hread]
  | cons part parts ih =>
    obtain ⟨type, key, tail, hform, hkey, htype, hvalue⟩ := hparts part List.mem_cons_self
    have hpos := hkey.varint.length_pos
    have hclosePos := hclose.varint.length_pos
    have hlength := congrArg List.length hform
    simp only [List.flatMap_cons, List.length_append] at hfuel hlength
    obtain ⟨fuel, rfl⟩ : ∃ less, fuel = less + 1 := ⟨fuel - 1, by omega⟩
    -- a key takes a byte at least, so that the fuel that is left lasts for the other fields
    -- and for the end
    have hothers : (parts.flatMap Prod.snd ++ close).length ≤ fuel := by
      rw [List.length_append]
      omega
    have hread (others : Bytes) :
        readKey (key ++ (tail ++ others)) = some ((part.1.number, type), tail ++ others) :=
      readKey_eq_some_iff.mpr ⟨key, rfl, hkey⟩
    rw [List.flatMap_cons, hform, List.append_assoc, List.append_assoc, List.append_assoc,
      skipGroup, hread]
    simp only [if_neg htype, hvalue fuel (by omega)]
    rw [← List.append_assoc]
    exact ih (fun other hother => hparts other (List.mem_cons_of_mem part hother)) hothers

/-- A form of a field is read. -/
theorem IsField.isRead (h : IsField depth field form) : IsRead depth field form := by
  induction h with
  | @varint depth number n key form hkey hform =>
    refine ⟨_, key, form, rfl, hkey, by decide, fun fuel _ rest => ?_⟩
    have hread : readVarint (form ++ rest) = some (n, rest) :=
      readVarint_eq_some_iff.mpr ⟨form, rfl, hform⟩
    simp [readValue, hread]
  | @fixed64 depth number key form hkey hform =>
    refine ⟨_, key, form, rfl, hkey, by decide, fun fuel _ rest => ?_⟩
    have hread : skip 8 (form ++ rest) = some rest := skip_eq_some_iff.mpr ⟨form, rfl, hform⟩
    simp [readValue, hread]
  | @fixed32 depth number key form hkey hform =>
    refine ⟨_, key, form, rfl, hkey, by decide, fun fuel _ rest => ?_⟩
    have hread : skip 4 (form ++ rest) = some rest := skip_eq_some_iff.mpr ⟨form, rfl, hform⟩
    simp [readValue, hread]
  | @bytes depth number key size value hkey hsize =>
    refine ⟨_, key, size ++ value, rfl, hkey, by decide, fun fuel _ rest => ?_⟩
    have hread : readBytes (size ++ value ++ rest) = some (value, rest) :=
      readBytes_eq_some_iff.mpr ⟨size, rfl, hsize⟩
    simp only [readValue, hread, Option.map_some]
    simp
  -- the parts of a group are read one by one, up to the key that closes it
  | @group depth number key close parts hkey hparts hclose ih =>
    refine ⟨_, key, parts.flatMap Prod.snd ++ close, rfl, hkey, by decide,
      fun fuel hfuel rest => ?_⟩
    rw [List.length_append] at hfuel
    have hskip := skipGroup_append ih hclose (Nat.le_trans (Nat.le_add_left _ _) hfuel) rest
    simp only [readValue, Nat.add_sub_cancel, hskip, Option.map_some]
    simp

/-- A field takes at least one byte. -/
theorem IsField.length_pos (h : IsField depth field form) : 0 < form.length := by
  obtain ⟨type, key, tail, rfl, hkey, -⟩ := h.isRead
  rw [List.length_append]
  exact Nat.add_pos_left hkey.varint.length_pos _

/-! ### What is read is a form -/

/-- What a group consists of up to the end of it. -/
def IsGroup (depth number : Nat) (bs rest : Bytes) : Prop :=
  ∃ (parts : List (Field × Bytes)) (close : Bytes), bs =
    parts.flatMap Prod.snd ++ close ++ rest ∧
    (∀ part ∈ parts, IsField depth part.1 part.2) ∧ IsKey number .groupEnd close

/-- Behind a key, a value is read that makes up a form of a field with the key, if this is
so of a group. -/
theorem isField_of_readValue {fuel number : Nat} {type : WireType} {key bs rest : Bytes}
    {value : Value} (hkey : IsKey number type key)
    (hgroup : skipGroup (depth - 1) fuel number bs = some rest →
      IsGroup (depth - 1) number bs rest)
    (h : readValue depth fuel number type bs = some (value, rest)) :
    ∃ tail, bs = tail ++ rest ∧ IsField depth ⟨number, value⟩ (key ++ tail) := by
  rw [readValue.eq_def] at h
  split at h
  next => cases h
  next hdepth =>
    -- each wire type has its own form of a value
    obtain ⟨depth, rfl⟩ : ∃ less, depth = less + 1 := ⟨depth - 1, by omega⟩
    cases type with
    | varint =>
      obtain ⟨⟨n, left⟩, hread, hparts⟩ := Option.map_eq_some_iff.mp h
      cases hparts
      obtain ⟨form, rfl, hform⟩ := readVarint_eq_some_iff.mp hread
      exact ⟨form, rfl, .varint hkey hform⟩
    | bytes =>
      obtain ⟨⟨content, left⟩, hread, hparts⟩ := Option.map_eq_some_iff.mp h
      cases hparts
      obtain ⟨size, rfl, hsize⟩ := readBytes_eq_some_iff.mp hread
      exact ⟨size ++ content, rfl, .bytes hkey hsize⟩
    | fixed64 =>
      obtain ⟨left, hread, hparts⟩ := Option.map_eq_some_iff.mp h
      cases hparts
      obtain ⟨form, rfl, hform⟩ := skip_eq_some_iff.mp hread
      exact ⟨form, rfl, .fixed64 hkey hform⟩
    | fixed32 =>
      obtain ⟨left, hread, hparts⟩ := Option.map_eq_some_iff.mp h
      cases hparts
      obtain ⟨form, rfl, hform⟩ := skip_eq_some_iff.mp hread
      exact ⟨form, rfl, .fixed32 hkey hform⟩
    | groupStart =>
      obtain ⟨left, hread, hparts⟩ := Option.map_eq_some_iff.mp h
      cases hparts
      obtain ⟨parts, close, rfl, hparts, hclose⟩ := hgroup hread
      exact ⟨parts.flatMap Prod.snd ++ close, rfl, .group hkey hparts hclose⟩
    | groupEnd => cases h

/-- What is skipped of a group are fields and the key of its end. -/
theorem isGroup_of_skipGroup {fuel number : Nat} {bs rest : Bytes}
    (h : skipGroup depth fuel number bs = some rest) : IsGroup depth number bs rest := by
  -- the fuel counts the keys within the group and within the groups nested in it
  induction fuel generalizing depth number bs rest with
  | zero =>
    rw [skipGroup] at h
    cases h
  | succ fuel ih =>
    rw [skipGroup] at h
    split at h
    next => cases h
    next inner type left hread =>
      obtain ⟨key, rfl, hkey⟩ := readKey_eq_some_iff.mp hread
      split at h
      next htype =>
        split at h <;> cases h
        next hnumber =>
          subst htype hnumber
          exact ⟨[], key, rfl, by simp, hkey⟩
      next htype =>
        split at h
        next => cases h
        next value others hvalue =>
          obtain ⟨tail, rfl, hfield⟩ := isField_of_readValue hkey ih hvalue
          obtain ⟨parts, close, rfl, hparts, hclose⟩ := ih h
          refine ⟨(⟨inner, value⟩, key ++ tail) :: parts, close, by simp, ?_, hclose⟩
          simpa using ⟨hfield, fun field form => hparts (field, form)⟩

/-- What is read as a field is of the form of one. -/
theorem readField_eq_some_iff {bs rest : Bytes} :
    readField depth bs = some (field, rest) ↔
      ∃ form, bs = form ++ rest ∧ IsField depth field form := by
  constructor
  · intro h
    simp only [readField, Option.bind_eq_bind, Option.bind_eq_some_iff, Prod.exists] at h
    obtain ⟨number, type, left, hread, value, others, hvalue, hparts⟩ := h
    cases hparts
    obtain ⟨key, rfl, hkey⟩ := readKey_eq_some_iff.mp hread
    obtain ⟨tail, rfl, hfield⟩ := isField_of_readValue hkey isGroup_of_skipGroup hvalue
    exact ⟨key ++ tail, (List.append_assoc _ _ _).symm, hfield⟩
  · rintro ⟨form, rfl, hfield⟩
    obtain ⟨type, key, tail, rfl, hkey, -, hvalue⟩ := hfield.isRead
    have hread : readKey (key ++ tail ++ rest) = some ((field.number, type), tail ++ rest) :=
      readKey_eq_some_iff.mpr ⟨key, List.append_assoc _ _ _, hkey⟩
    -- the fuel of a group is the length of all that is left
    have hfuel : (key ++ tail).length ≤ (key ++ tail ++ rest).length := by
      simp only [List.length_append]
      omega
    simp only [readField, hread, Option.bind_eq_bind, Option.bind_some, hvalue _ hfuel]
    rfl

/-- To read a field takes at least one byte. -/
theorem length_lt_of_readField {bs rest : Bytes} (h : readField depth bs = some (field, rest)) :
    rest.length < bs.length := by
  obtain ⟨form, rfl, hfield⟩ := readField_eq_some_iff.mp h
  rw [List.length_append]
  exact Nat.lt_add_of_pos_left hfield.length_pos

/-! ### Sequences of fields -/

/-- With fuel left, there is a field at the front of the bytes. -/
theorem readFieldsWithin_cons (fuel : Nat) (b : UInt8) (bs : Bytes) :
    readFieldsWithin depth (fuel + 1) (b :: bs) =
      (readField depth (b :: bs)).bind fun (field, rest) =>
        (readFieldsWithin depth fuel rest).map (field :: ·) := by
  rw [readFieldsWithin]
  · simp only [Option.map_eq_bind]
    rfl
  · simp

/-- With fuel for each of the bytes, the fields are the same. -/
theorem readFieldsWithin_eq {fuel : Nat} {bs : Bytes} (hfuel : bs.length ≤ fuel) :
    readFieldsWithin depth fuel bs = readFields depth bs := by
  -- the rest behind a field has fuel of two sizes, so that the induction is needed for both
  induction fuel using Nat.strongRecOn generalizing bs with
  | ind fuel ih =>
    cases bs with
    | nil => cases fuel <;> rfl
    | cons b bs =>
      rw [List.length_cons] at hfuel
      obtain ⟨fuel, rfl⟩ : ∃ less, fuel = less + 1 := ⟨fuel - 1, by omega⟩
      rw [readFields, List.length_cons, readFieldsWithin_cons, readFieldsWithin_cons]
      cases hread : readField depth (b :: bs) with
      | none => rfl
      | some result =>
        obtain ⟨field, rest⟩ := result
        have hlt := length_lt_of_readField hread
        rw [List.length_cons] at hlt
        have hrest : readFieldsWithin depth fuel rest = readFieldsWithin depth bs.length rest :=
          (ih fuel (by omega) (by omega)).trans (ih bs.length (by omega) (by omega)).symm
        simp only [Option.bind_some, hrest]

/-- A field at the front of the bytes is read first, and then the others. -/
theorem readFields_append (h : IsField depth field form) (rest : Bytes) :
    readFields depth (form ++ rest) = (readFields depth rest).map (field :: ·) := by
  have hpos := h.length_pos
  have hread : readField depth (form ++ rest) = some (field, rest) :=
    readField_eq_some_iff.mpr ⟨form, rfl, h⟩
  obtain ⟨b, bs, hcons⟩ : ∃ b bs, form ++ rest = b :: bs :=
    List.exists_cons_of_ne_nil
      (List.append_ne_nil_of_left_ne_nil (List.ne_nil_of_length_pos hpos) rest)
  rw [hcons] at hread
  -- what is left is shorter, so that the fuel suffices for it
  have hlt := length_lt_of_readField hread
  rw [hcons, readFields, List.length_cons, readFieldsWithin_cons, hread, Option.bind_some]
  exact congrArg (Option.map (field :: ·)) (readFieldsWithin_eq (Nat.le_of_lt_succ hlt))

/-- Fields one after another are read first, and then what stands behind them. -/
theorem readFields_flatMap_append {parts : List (Field × Bytes)}
    (hparts : ∀ part ∈ parts, IsField depth part.1 part.2) (rest : Bytes) :
    readFields depth (parts.flatMap Prod.snd ++ rest) =
      (readFields depth rest).map (parts.map Prod.fst ++ ·) := by
  induction parts with
  | nil => simp
  | cons part parts ih =>
    rw [List.flatMap_cons, List.append_assoc, readFields_append (hparts part List.mem_cons_self),
      ih fun other hother => hparts other (List.mem_cons_of_mem part hother), Option.map_map]
    rfl

/-- The fields that are read are of the forms that the bytes consist of. -/
theorem readFields_eq_some_iff {bs : Bytes} {fields : List Field} :
    readFields depth bs = some fields ↔
      ∃ parts : List (Field × Bytes), bs = parts.flatMap Prod.snd ∧
        fields = parts.map Prod.fst ∧ ∀ part ∈ parts, IsField depth part.1 part.2 := by
  constructor
  · intro h
    induction hbs : bs.length using Nat.strongRecOn generalizing bs fields with
    | ind length ih =>
      cases bs with
      | nil =>
        cases h
        exact ⟨[], rfl, rfl, by simp⟩
      | cons b bs =>
        rw [readFields, List.length_cons, readFieldsWithin_cons] at h
        obtain ⟨⟨field, rest⟩, hread, hmap⟩ := Option.bind_eq_some_iff.mp h
        obtain ⟨others, hothers, rfl⟩ := Option.map_eq_some_iff.mp hmap
        -- the field takes bytes, so that less is left to read
        obtain ⟨form, hform, hfield⟩ := readField_eq_some_iff.mp hread
        have hlt := length_lt_of_readField hread
        rw [readFieldsWithin_eq (Nat.le_of_lt_succ hlt)] at hothers
        obtain ⟨parts, rfl, rfl, hparts⟩ := ih rest.length (hbs ▸ hlt) hothers rfl
        refine ⟨(field, form) :: parts, by simpa using hform, rfl, ?_⟩
        simpa using ⟨hfield, fun a b => hparts (a, b)⟩
  · rintro ⟨parts, rfl, rfl, hparts⟩
    have hread := readFields_flatMap_append hparts []
    rw [List.append_nil] at hread
    exact hread.trans (congrArg some (List.append_nil _))

/-- Bytes that consist of fields are read first, and then those behind them. -/
theorem readFields_append_of_eq_some {bs : Bytes} {fields : List Field}
    (h : readFields depth bs = some fields) (rest : Bytes) :
    readFields depth (bs ++ rest) = (readFields depth rest).map (fields ++ ·) := by
  obtain ⟨parts, rfl, rfl, hparts⟩ := readFields_eq_some_iff.mp h
  exact readFields_flatMap_append hparts rest

end ClusterWatch.Wire
