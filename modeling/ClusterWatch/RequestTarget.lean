/-!
# Request targets

What a request line asks for: a path with a query, the same behind a scheme and an authority, or an
authority alone. What follows a question mark or a hash sign does not belong to the path.
-/

namespace ClusterWatch.RequestTarget

/-- The number of bytes that a target may have. -/
def maxLength : Nat := 65534

/-- Whether a character may stand in a path. -/
def isPathChar (c : Char) : Bool :=
  ' ' < c && c ≠ '#' && c ≠ '<' && c ≠ '>' && c ≠ '?' && c.toNat ≠ 0x60

/-- Whether a character may stand in a query. -/
def isQueryChar (c : Char) : Bool :=
  ' ' < c && c ≠ '"' && c ≠ '#' && c ≠ '<' && c ≠ '>'

/-- Whether a character ends what stands before a query or a fragment. -/
def endsPath (c : Char) : Bool :=
  c = '?' || c = '#'

/-- What follows a path: nothing, a fragment, or a query whose characters may stand there. -/
def isTail : List Char → Bool
  | '?' :: query => (query.takeWhile (· ≠ '#')).all isQueryChar
  | _ => true

/-- The path in front of a query and a fragment. -/
def pathOf? (cs : List Char) : Option String :=
  let path := cs.takeWhile fun c => !endsPath c
  if path.all isPathChar && isTail (cs.dropWhile fun c => !endsPath c) then
    some (String.ofList path) else none

/-- What follows the authority, if the target begins with a scheme. -/
def afterAuthority? : List Char → Option (List Char)
  | ':' :: '/' :: '/' :: rest => some (rest.dropWhile fun c => c ≠ '/' && !endsPath c)
  | _ :: rest => afterAuthority? rest
  | [] => none

/-- The path that a target asks for. It is empty where the target is an authority alone, and where
only the path is missing it is that of the root. -/
def path? (target : String) : Option String :=
  if target.isEmpty || maxLength < target.utf8ByteSize then none
  else
    match target.toList with
    | '/' :: rest => pathOf? ('/' :: rest)
    | ['*'] => some "*"
    | cs =>
      match afterAuthority? cs with
      | none => some ""
      | some rest => (pathOf? rest).map fun path => if path.isEmpty then "/" else path

end ClusterWatch.RequestTarget
