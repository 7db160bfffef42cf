import ClusterWatch.Json.Basic
import ClusterWatch.Text.Bytes

/-!
# Writing JSON

The compact form: no blanks between tokens, members in the order in which they stand. In strings the
quote, the backslash and the control characters below U+0020 are escaped, the common control
characters by a letter and the others by four lower-case hexadecimal digits; every other character
stands for itself. A garbled value is written as `null`.
-/

namespace ClusterWatch.Json

/-- The escape of one character of a string. -/
def escapeChar (c : Char) : List Char :=
  if c = '"' then ['\\', '"']
  else if c = '\\' then ['\\', '\\']
  else if c = '\x08' then ['\\', 'b']
  else if c = '\x0c' then ['\\', 'f']
  else if c = '\n' then ['\\', 'n']
  else if c = '\r' then ['\\', 'r']
  else if c = '\t' then ['\\', 't']
  else if c.toNat < 0x20 then
    ['\\', 'u', '0', '0', Bytes.hexDigit (c.toNat / 16), Bytes.hexDigit (c.toNat % 16)]
  else [c]

/-- A string in quotes. -/
def quote (text : String) : List Char :=
  '"' :: text.toList.flatMap escapeChar ++ ['"']

mutual

/-- The characters of the compact form of a value. -/
def chars : Json → List Char
  | .null => "null".toList
  | .bool true => "true".toList
  | .bool false => "false".toList
  | .num literal => literal.toList
  | .str text => quote text
  | .arr items => '[' :: charsOfItems items ++ [']']
  | .obj members => '\x7b' :: charsOfMembers members ++ ['\x7d']
  | .garbled => "null".toList

/-- The items of an array, separated by commas. -/
def charsOfItems : List Json → List Char
  | [] => []
  | [item] => chars item
  | item :: next :: rest => chars item ++ ',' :: charsOfItems (next :: rest)

/-- The members of an object, separated by commas. -/
def charsOfMembers : List (String × Json) → List Char
  | [] => []
  | [(name, value)] => quote name ++ ':' :: chars value
  | (name, value) :: next :: rest =>
    quote name ++ ':' :: chars value ++ ',' :: charsOfMembers (next :: rest)

end

/-- The compact text of a value. -/
def compress (json : Json) : String :=
  String.ofList json.chars

end ClusterWatch.Json
