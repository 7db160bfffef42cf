import ClusterWatch.Json.Reader
import ClusterWatch.Storage.Sample

/-!
# Replies of node agents

A node agent answers two questions in JSON: which disks its node has, and how full its mount points
are. Records are read strictly: every field must be there once and have its type. A record may also
be an array of its fields in order. Other fields of a record are ignored, and of equal names in a
map the last one counts.
-/

namespace ClusterWatch

/-- A disk of a node. -/
structure DiskInfo where
  /-- Its size in bytes. -/
  size : UInt64
  /-- Whether it is divided into partitions. -/
  parted : Bool
  /-- The file system on it. -/
  filesystem : String
  /-- The mount point of the file system. -/
  mountpoint : String
  deriving DecidableEq, Repr

/-- The disks of a node by device. -/
abbrev Disks := Std.ExtTreeMap String DiskInfo

namespace AgentReply

/-- The fields of a record in the given order: by name, each exactly once, or as an array of
as many items. -/
def fields? (names : List String) : Json → Option (List Json)
  | .arr items => if items.length = names.length then some items else none
  | .obj members => names.mapM fun name =>
    match members.filter (·.1 = name) with
    | [(_, value)] => some value
    | _ => none
  | _ => none

/-- An unsigned number of 64 bits. -/
def uint64? (json : Json) : Option UInt64 :=
  (json.nat?.filter (· < UInt64.size)).map UInt64.ofNat

/-- The record of a disk. -/
def disk? (json : Json) : Option DiskInfo := do
  let [size, parted, filesystem, mountpoint] ← fields?
      ["size", "parted", "filesystem", "mountpoint"] json
    | none
  return ⟨← uint64? size, ← parted.bool?, ← filesystem.text?, ← mountpoint.text?⟩

/-- The record of a mount point. -/
def blockUsage? (json : Json) : Option BlockUsage := do
  let [total, used] ← fields? ["total", "used"] json | none
  return ⟨← uint64? total, ← uint64? used⟩

/-- A map of records. -/
def map? {α : Type} (record? : Json → Option α) (json : Json) :
    Option (Std.ExtTreeMap String α) := do
  let members ← json.members?
  let entries ← members.mapM fun (name, value) => (record? value).map fun record => (name, record)
  return entries.foldl (fun map (name, record) => map.insert name record) ∅

/-- The value that the bytes of a reply hold. -/
def json? (body : Bytes) : Option Json :=
  (Bytes.toText? body).bind Json.read?

/-- The disks that a reply reports. -/
def disks? (body : Bytes) : Option Disks :=
  (json? body).bind (map? disk?)

/-- The mount points that a reply reports. -/
def usage? (body : Bytes) : Option UsageSample :=
  (json? body).bind (map? blockUsage?)

end AgentReply

end ClusterWatch
