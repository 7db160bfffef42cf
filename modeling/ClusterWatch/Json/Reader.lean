import ClusterWatch.Json.Basic
import ClusterWatch.Text.Bytes

/-!
# Reading JSON

A reader for one JSON value with blanks around it. It returns nothing for a text that is not JSON: a
control character in a string, a number with a leading zero, a missing or a trailing comma. Half a
surrogate pair in a string only garbles the value that it belongs to. The functions take the unread
characters and return those that they leave.
-/

namespace ClusterWatch.Json

/-- The blanks that may stand between tokens. -/
def isGap (c : Char) : Bool :=
  c = ' ' || c = '\n' || c = '\t' || c = '\r'

/-- The characters after the gap at the front. -/
def skipGap (cs : List Char) : List Char :=
  cs.dropWhile isGap

/-- The code unit that four hexadecimal digits denote. -/
def unit? (a b c d : Char) : Option Nat := do
  let a ← Bytes.hexValue? a
  let b ← Bytes.hexValue? b
  let c ← Bytes.hexValue? c
  let d ← Bytes.hexValue? d
  return ((a * 16 + b) * 16 + c) * 16 + d

/-- The character of an escape by a letter. -/
def letterEscape? : Char → Option Char
  | '"' => some '"'
  | '\\' => some '\\'
  | '/' => some '/'
  | 'b' => some '\x08'
  | 'f' => some '\x0c'
  | 'n' => some '\n'
  | 'r' => some '\r'
  | 't' => some '\t'
  | _ => none

/-- Whether a code unit is the first half of a surrogate pair. -/
def isHighSurrogate (u : Nat) : Bool := 0xD800 ≤ u && u < 0xDC00

/-- Whether a code unit is the second half of a surrogate pair. -/
def isLowSurrogate (u : Nat) : Bool := 0xDC00 ≤ u && u < 0xE000

/-- The character that the two halves of a surrogate pair denote. -/
def pairedChar (high low : Nat) : Char :=
  Char.ofNat (0x10000 + (high - 0xD800) * 0x400 + (low - 0xDC00))

/-- A piece of a string. -/
inductive Piece where
  /-- A character that stands for itself or is escaped by a letter. -/
  | char (c : Char)
  /-- A code unit that is escaped by its number. -/
  | unit (u : Nat)
  deriving DecidableEq, Repr

/-- The characters that pieces denote, if every surrogate among the code units is in a pair. -/
def pairUnits? : List Piece → Option (List Char)
  | [] => some []
  | .char c :: rest => (pairUnits? rest).map (c :: ·)
  | .unit u :: .unit v :: rest =>
    if isHighSurrogate u then
      if isLowSurrogate v then (pairUnits? rest).map (pairedChar u v :: ·) else none
    else if isLowSurrogate u then none
    else (pairUnits? (.unit v :: rest)).map (Char.ofNat u :: ·)
  | .unit u :: rest =>
    if isHighSurrogate u || isLowSurrogate u then none
      else (pairUnits? rest).map (Char.ofNat u :: ·)

/-- The pieces of a string after its opening quote. -/
def readPieces : List Char → Option (List Piece × List Char)
  | [] => none
  | '"' :: rest => some ([], rest)
  | '\\' :: 'u' :: a :: b :: c :: d :: rest => do
    let u ← unit? a b c d
    let (pieces, left) ← readPieces rest
    return (.unit u :: pieces, left)
  | '\\' :: c :: rest => do
    let x ← letterEscape? c
    let (pieces, left) ← readPieces rest
    return (.char x :: pieces, left)
  | c :: rest =>
    if c = '\\' || c.toNat < 0x20 then none
    else do
      let (pieces, left) ← readPieces rest
      return (.char c :: pieces, left)

/-- The text of a string after its opening quote, if it is one. -/
def readQuoted (cs : List Char) : Option (Option String × List Char) :=
  (readPieces cs).map fun (pieces, left) => ((pairUnits? pieces).map String.ofList, left)

/-- The value that a string is. -/
def ofString : Option String → Json
  | some text => .str text
  | none => .garbled

/-- The value that the members of an object make. -/
def ofMembers (members : List (Option String × Json)) : Json :=
  match members.mapM fun (name, value) => name.map fun name => (name, value) with
  | some members => .obj members
  | none => .garbled

/-- The digits at the front, if there is at least one. -/
def readDigitRun (cs : List Char) : Option (List Char × List Char) :=
  let digits := cs.takeWhile Char.isDigit
  if digits.isEmpty then none else some (digits, cs.dropWhile Char.isDigit)

/-- The whole part of a number: a zero, or digits that do not start with one. -/
def readWhole : List Char → Option (List Char × List Char)
  | '0' :: rest => some (['0'], rest)
  | cs => readDigitRun cs

/-- The fraction of a number, if there is one. -/
def readFraction : List Char → Option (List Char × List Char)
  | '.' :: rest => (readDigitRun rest).map fun (digits, left) => ('.' :: digits, left)
  | cs => some ([], cs)

/-- The exponent of a number, if there is one. -/
def readExponent : List Char → Option (List Char × List Char)
  | c :: rest =>
    if c = 'e' || c = 'E' then
      let (sign, rest) := match rest with
        | '+' :: rest => (['+'], rest)
        | '-' :: rest => (['-'], rest)
        | _ => ([], rest)
      (readDigitRun rest).map fun (digits, left) => (c :: sign ++ digits, left)
    else some ([], c :: rest)
  | [] => some ([], [])

/-- The literal of a number. -/
def readNumber (cs : List Char) : Option (List Char × List Char) := do
  let (sign, cs) := match cs with
    | '-' :: rest => (['-'], rest)
    | _ => ([], cs)
  let (whole, cs) ← readWhole cs
  let (fraction, cs) ← readFraction cs
  let (exponent, cs) ← readExponent cs
  return (sign ++ whole ++ fraction ++ exponent, cs)

mutual

/-- One value; `fuel` bounds the number of calls. -/
def readValue (fuel : Nat) (cs : List Char) : Option (Json × List Char) :=
  match fuel with
  | 0 => none
  | fuel + 1 =>
    match skipGap cs with
    | 'n' :: 'u' :: 'l' :: 'l' :: rest => some (.null, rest)
    | 't' :: 'r' :: 'u' :: 'e' :: rest => some (.bool true, rest)
    | 'f' :: 'a' :: 'l' :: 's' :: 'e' :: rest => some (.bool false, rest)
    | '"' :: rest => (readQuoted rest).map fun (text, left) => (ofString text, left)
    | '[' :: rest =>
      match skipGap rest with
      | ']' :: left => some (.arr [], left)
      | rest => (readItems fuel rest).map fun (items, left) => (.arr items, left)
    | '\x7b' :: rest =>
      match skipGap rest with
      | '\x7d' :: left => some (.obj [], left)
      | rest => (readMembers fuel rest).map fun (members, left) => (ofMembers members, left)
    | rest => (readNumber rest).map fun (literal, left) => (.num (String.ofList literal), left)

/-- The items of an array up to its closing bracket. -/
def readItems (fuel : Nat) (cs : List Char) : Option (List Json × List Char) :=
  match fuel with
  | 0 => none
  | fuel + 1 => do
    let (item, rest) ← readValue fuel cs
    match skipGap rest with
    | ',' :: rest =>
      let (items, left) ← readItems fuel rest
      return (item :: items, left)
    | ']' :: left => return ([item], left)
    | _ => none

/-- The members of an object up to its closing brace. -/
def readMembers (fuel : Nat) (cs : List Char) :
    Option (List (Option String × Json) × List Char) :=
  match fuel with
  | 0 => none
  | fuel + 1 => do
    let '"' :: rest := skipGap cs | none
    let (name, rest) ← readQuoted rest
    let ':' :: rest := skipGap rest | none
    let (value, rest) ← readValue fuel rest
    match skipGap rest with
    | ',' :: rest =>
      let (members, left) ← readMembers fuel rest
      return ((name, value) :: members, left)
    | '\x7d' :: left => return ([(name, value)], left)
    | _ => none

end

/-- The value that a text holds, with nothing but blanks around it. -/
def read? (text : String) : Option Json :=
  let cs := text.toList
  match readValue (2 * cs.length + 2) cs with
  | some (json, left) => if (skipGap left).isEmpty then some json else none
  | none => none

end ClusterWatch.Json
