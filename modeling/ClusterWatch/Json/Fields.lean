import Std.Data.ExtTreeMap
import ClusterWatch.Json.Basic
import ClusterWatch.Text.Numeral

/-!
# Fields of JSON values

Readers that fall back on something blank where a value is missing or has another form, and writers
of common values. Objects and arrays of the wrong form count as empty.
-/

namespace ClusterWatch.Json

/-- The items of an array, none for any other value. -/
def itemsOrNone (json : Json) : List Json :=
  json.items?.getD []

/-- The members of an object, none for any other value. -/
def membersOrNone (json : Json) : List (String × Json) :=
  json.members?.getD []

/-- The text of a string, empty for any other value. -/
def textOrEmpty (json : Json) : String :=
  json.text?.getD ""

/-- The strings in an array. -/
def texts (json : Json) : List String :=
  json.itemsOrNone.filterMap text?

/-- The strings in an object by name. -/
def textMap (json : Json) : Std.ExtTreeMap String String :=
  json.membersOrNone.foldl (fun map (name, value) =>
    match value.text? with
    | some text => map.insert name text
    | none => map) ∅

/-- A value that is there and not `null`. -/
def present? : Json → Option Json
  | .null => none
  | json => some json

/-- An integer of 32 bits, by its literal. -/
def int32? : Json → Option Int
  | .num literal => Text.readInt32? literal.toList
  | _ => none

/-- The text of a member, empty where there is none. -/
def textAt (json : Json) (name : String) : String :=
  (json.member name).textOrEmpty

/-- The number in a member, zero where there is none. -/
def natAt (json : Json) (name : String) : Nat :=
  (json.member name).nat?.getD 0

/-- The number of 64 bits in a member, zero where there is none. -/
def uint64At (json : Json) (name : String) : UInt64 :=
  UInt64.ofNat (json.natAt name)

/-- The truth value of a member, false where there is none. -/
def truthAt (json : Json) (name : String) : Bool :=
  (json.member name).bool?.getD false

/-- The items of a member, none where there is no array. -/
def itemsAt (json : Json) (name : String) : List Json :=
  (json.member name).itemsOrNone

/-- What a member holds, none where it is missing or `null`. -/
def optionAt {α : Type} (read : Json → α) (json : Json) (name : String) : Option α :=
  (json.member name).present?.map read

/-- A number of 64 bits. -/
def ofUInt64 (n : UInt64) : Json :=
  .ofNat n.toNat

/-- A value in its JSON form, or `null` for none. -/
def ofOption {α : Type} (write : α → Json) : Option α → Json
  | some value => write value
  | none => .null

/-- The values of a map as the members of an object. -/
def ofMap {α : Type} (write : α → Json) (map : Std.ExtTreeMap String α) : Json :=
  .obj (map.toList.map fun (key, value) => (key, write value))

/-- A member with a text, left out where there is none. -/
def optionalMember (name : String) (text : Option String) : List (String × Json) :=
  (text.map fun text => (name, .str text)).toList

end ClusterWatch.Json
