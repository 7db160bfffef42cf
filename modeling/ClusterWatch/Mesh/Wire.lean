import ClusterWatch.Text.Bytes

/-!
# The wire format of messages

A message is written as a sequence of fields. A field is a key, which holds its number and its wire
type, and a value: a varint, four or eight bytes, a length with as many bytes, or a group of fields
between a start and an end key. Readers take the unread bytes and return what they leave; they
refuse a field number of zero, keys beyond 32 bits, varints beyond 64 bits or ten bytes, lengths
past the end, and groups that are not closed or nested too deeply.
-/

namespace ClusterWatch.Wire

/-- The value of a field, as far as messages make use of it. -/
inductive Value where
  /-- A varint. -/
  | varint (n : UInt64)
  /-- Bytes with a length. -/
  | bytes (bs : Bytes)
  /-- Eight bytes, four bytes or a group. -/
  | other
  deriving DecidableEq, Repr

/-- A field of a message. -/
structure Field where
  /-- The field number. -/
  number : Nat
  /-- The value. -/
  value : Value
  deriving DecidableEq, Repr

/-- A varint at the front of the bytes, of which `index` have been read: seven bits a byte from the
lowest up, and one bit in the tenth. -/
def readVarintFrom (index : Nat) : Bytes → Option (Nat × Bytes)
  | [] => none
  | b :: rest =>
    if index = 9 then if b.toNat < 2 then some (b.toNat, rest) else none
    else if b.toNat < 128 then some (b.toNat, rest)
    else (readVarintFrom (index + 1) rest).map fun (n, left) => (b.toNat - 128 + 128 * n, left)

/-- A varint at the front of the bytes. -/
def readVarint (bs : Bytes) : Option (Nat × Bytes) :=
  readVarintFrom 0 bs

/-- The bytes of a varint, at most ten of them. -/
def writeVarintWithin : Nat → Nat → Bytes
  | 0, _ => []
  | room + 1, n =>
    if n < 128 then [UInt8.ofNat n]
    else UInt8.ofNat (n % 128 + 128) :: writeVarintWithin room (n / 128)

/-- The bytes of a varint below `2 ^ 64`. -/
def writeVarint (n : Nat) : Bytes :=
  writeVarintWithin 10 n

/-- The wire types. -/
inductive WireType where
  /-- A varint. -/
  | varint
  /-- Eight bytes. -/
  | fixed64
  /-- A length with as many bytes. -/
  | bytes
  /-- The start of a group. -/
  | groupStart
  /-- The end of a group. -/
  | groupEnd
  /-- Four bytes. -/
  | fixed32
  deriving DecidableEq, Repr

/-- The wire type with a code. -/
def WireType.ofCode? : Nat → Option WireType
  | 0 => some .varint
  | 1 => some .fixed64
  | 2 => some .bytes
  | 3 => some .groupStart
  | 4 => some .groupEnd
  | 5 => some .fixed32
  | _ => none

/-- The key of a field: its number and its wire type. -/
def readKey (bs : Bytes) : Option ((Nat × WireType) × Bytes) := do
  let (key, rest) ← readVarint bs
  let type ← WireType.ofCode? (key % 8)
  if UInt32.size ≤ key ∨ key / 8 = 0 then none else some ((key / 8, type), rest)

/-- The bytes after the first `n`, if there are as many. -/
def skip (n : Nat) (bs : Bytes) : Option Bytes :=
  if bs.length < n then none else some (bs.drop n)

/-- A length and as many bytes. -/
def readBytes (bs : Bytes) : Option (Bytes × Bytes) := do
  let (length, rest) ← readVarint bs
  if rest.length < length then none else some (rest.take length, rest.drop length)

mutual

/-- The value of a field after its key; `depth` is how deeply groups may still be nested, and `fuel`
bounds the number of keys. -/
def readValue (depth fuel : Nat) (number : Nat) (type : WireType) (bs : Bytes) :
    Option (Value × Bytes) :=
  if depth = 0 then none
  else
    match type with
    | .varint => (readVarint bs).map fun (n, rest) => (.varint (UInt64.ofNat n), rest)
    | .bytes => (readBytes bs).map fun (value, rest) => (.bytes value, rest)
    | .fixed64 => (skip 8 bs).map fun rest => (.other, rest)
    | .fixed32 => (skip 4 bs).map fun rest => (.other, rest)
    | .groupStart => (skipGroup (depth - 1) fuel number bs).map fun rest => (.other, rest)
    | .groupEnd => none
termination_by (fuel, 1)

/-- The bytes after the fields of a group and its end key, which must have the number
of its start. -/
def skipGroup (depth fuel : Nat) (number : Nat) (bs : Bytes) : Option Bytes :=
  match fuel with
  | 0 => none
  | fuel + 1 =>
    match readKey bs with
    | none => none
    | some ((inner, type), rest) =>
      if type = .groupEnd then if inner = number then some rest else none
      else
        match readValue depth fuel inner type rest with
        | none => none
        | some (_, rest) => skipGroup depth fuel number rest
termination_by (fuel, 0)

end

/-- A field at the front of the bytes. -/
def readField (depth : Nat) (bs : Bytes) : Option (Field × Bytes) := do
  let ((number, type), rest) ← readKey bs
  let (value, left) ← readValue depth bs.length number type rest
  return (⟨number, value⟩, left)

/-- The fields that the bytes consist of, at most `fuel` of them. -/
def readFieldsWithin (depth : Nat) : Nat → Bytes → Option (List Field)
  | _, [] => some []
  | 0, _ :: _ => none
  | fuel + 1, bs => do
    let (field, rest) ← readField depth bs
    let fields ← readFieldsWithin depth fuel rest
    return field :: fields

/-- The fields that the bytes consist of. -/
def readFields (depth : Nat) (bs : Bytes) : Option (List Field) :=
  readFieldsWithin depth bs.length bs

/-- A field with a varint. -/
def varintField (number n : Nat) : Bytes :=
  writeVarint (8 * number) ++ writeVarint n

/-- A field with bytes and their length. -/
def bytesField (number : Nat) (bs : Bytes) : Bytes :=
  writeVarint (8 * number + 2) ++ writeVarint bs.length ++ bs

end ClusterWatch.Wire
