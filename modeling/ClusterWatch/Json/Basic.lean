/-!
# JSON values

A JSON value as it stands in a text: objects keep their members in order and keep repeated names,
numbers keep their literal. A garbled value is well-formed, and of no use but to be ignored. Readers
of particular values (`nat?`, `text?`, `member?`) return nothing where the value has another form.
-/

namespace ClusterWatch

/-- A JSON value. -/
inductive Json where
  /-- The literal `null`. -/
  | null
  /-- One of the literals `true` and `false`. -/
  | bool (value : Bool)
  /-- A number, by its literal text. -/
  | num (literal : String)
  /-- A string, with its escapes resolved. -/
  | str (text : String)
  /-- An array. -/
  | arr (items : List Json)
  /-- An object, with its members in order. -/
  | obj (members : List (String × Json))
  /-- A string, or an object with a member name, that escapes half a surrogate pair and
  so is no text. -/
  | garbled
  deriving Inhabited, Repr, BEq

namespace Json

/-- The number `n`. -/
def ofNat (n : Nat) : Json := .num (toString n)

/-- An array of strings. -/
def ofTexts (texts : List String) : Json := .arr (texts.map .str)

/-- A string, or `null` for none. -/
def ofText? : Option String → Json
  | some text => .str text
  | none => .null

/-- The text of a string. -/
def text? : Json → Option String
  | .str text => some text
  | _ => none

/-- The value of a truth literal. -/
def bool? : Json → Option Bool
  | .bool value => some value
  | _ => none

/-- The value of a number whose literal is a plain run of digits. -/
def nat? : Json → Option Nat
  | .num literal => if literal.toList.all Char.isDigit then literal.toNat? else none
  | _ => none

/-- The items of an array. -/
def items? : Json → Option (List Json)
  | .arr items => some items
  | _ => none

/-- The members of an object. -/
def members? : Json → Option (List (String × Json))
  | .obj members => some members
  | _ => none

/-- The last member of that name in an object. -/
def member? (json : Json) (name : String) : Option Json :=
  json.members?.bind fun members => members.reverse.lookup name

/-- The member of that name, or `null` where there is none. -/
def member (json : Json) (name : String) : Json :=
  (json.member? name).getD .null

/-- The value at the end of a path of member names, or `null`. -/
def memberAt (json : Json) (path : List String) : Json :=
  path.foldl member json

end Json

end ClusterWatch
