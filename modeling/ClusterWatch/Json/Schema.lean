import ClusterWatch.Json.Fields
import ClusterWatch.Text.Base64
import ClusterWatch.Timestamp

/-!
# Schemas

What a JSON value has to look like. A value that conforms to a schema is pruned by it: members that
a record does not know are dropped, members that are missing may be filled in, and points in time
are written in one way. A value that does not conform is refused as a whole.
-/

namespace ClusterWatch

/-- What it means that a record lacks a member. -/
inductive Presence where
  /-- The record is refused. -/
  | required
  /-- Nothing; but the member must not be `null` if it is there. -/
  | optional
  /-- Nothing, and `null` means the same. -/
  | nullable
  /-- The member stands for a value; but it must not be `null` if it is there. -/
  | assumed (value : Json)
  /-- The member stands for a value, and so does `null`. -/
  | defaulted (value : Json)

namespace Presence

/-- Whether a member that is `null` counts as missing. -/
def takesNull : Presence → Bool
  | .nullable | .defaulted _ => true
  | _ => false

/-- What a missing member of that name leaves in the record, if it may be missing. -/
def missing? (name : String) : Presence → Option (List (String × Json))
  | .required => none
  | .optional | .nullable => some []
  | .assumed value | .defaulted value => some [(name, value)]

end Presence

/-- What a JSON value has to look like. -/
inductive Schema where
  /-- Any value. -/
  | any
  /-- A text. -/
  | text
  /-- One of some texts. -/
  | word (texts : List String)
  /-- A truth value. -/
  | truth
  /-- An integer within bounds. -/
  | integer (least greatest : Int)
  /-- Bytes in base64, or `null` for none. -/
  | bytes
  /-- A point in time, written to so many decimal places of a second. -/
  | time (places : Nat)
  /-- An array. -/
  | list (item : Schema)
  /-- An object with values of one kind under any names. -/
  | map (value : Schema)
  /-- An object with known members. -/
  | record (members : List (String × Presence × Schema))

namespace Json

/-- An integer, by its literal. -/
def integer? : Json → Option Int
  | .num literal =>
    match literal.toList with
    | '-' :: digits =>
      (Text.readDigits? digits).bind fun n => if n = 0 then none else some (-(n : Int))
    | digits => (Text.readDigits? digits).map fun n => (n : Int)
  | _ => none

end Json

namespace Schema

/-- An integer of 32 bits. -/
def int32 : Schema := .integer (-2147483648) 2147483647

/-- An integer of 64 bits. -/
def int64 : Schema := .integer (-9223372036854775808) 9223372036854775807

mutual

/-- The value as the schema has it, if it conforms. -/
def prune? : Schema → Json → Option Json
  | .any, json => some json
  | .text, json => json.text?.map .str
  | .word texts, json => (json.text?.filter texts.contains).map .str
  | .truth, json => json.bool?.map .bool
  | .integer least greatest, json =>
    if (json.integer?.filter fun n => least ≤ n && n ≤ greatest).isSome then some json else none
  | .bytes, .null => some .null
  | .bytes, json => if (json.text?.bind Base64.decode?).isSome then some json else none
  | .time places, json =>
    (json.text?.bind Timestamp.ofText?).map fun timestamp => .str (timestamp.text places)
  | .list item, json => json.items?.bind fun items => (items.mapM item.prune?).map .arr
  | .map value, json =>
    json.members?.bind fun members =>
      (members.mapM fun member => (value.prune? member.2).map fun json => (member.1, json)).map .obj
  | .record members, json =>
    if json.members?.isSome then (pruneMembers? members json).map .obj else none

/-- The members of an object as the members of a record have them, if they conform. -/
def pruneMembers? : List (String × Presence × Schema) → Json → Option (List (String × Json))
  | [], _ => some []
  | (name, presence, schema) :: rest, json => do
    let value := (json.member? name).filter fun value => !(presence.takesNull && value == .null)
    let first ← match value with
      | some value => (schema.prune? value).map fun value => [(name, value)]
      | none => presence.missing? name
    let others ← pruneMembers? rest json
    return first ++ others

end

/-- Whether a value conforms. -/
def accepts (schema : Schema) (json : Json) : Bool :=
  (schema.prune? json).isSome

end Schema

end ClusterWatch
