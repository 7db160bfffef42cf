import ClusterWatch.Mesh.Wire

/-!
# Messages of the mesh controller

The requests and replies of the mesh controller. Reading a message merges the fields in order into a
blank one: of a text or a number the last field counts, fields of a nested message are merged into
what it holds so far, and the items of a list are appended. Fields with other numbers are ignored.
Writing a message leaves out texts and numbers that are blank.
-/

namespace ClusterWatch

open Wire

/-- Messages with a wire form. -/
class WireMessage (α : Type) where
  /-- The message without any field. -/
  blank : α
  /-- The message with one more field merged into it; `depth` is how deeply messages and groups may
  still be nested. -/
  mergeField (depth : Nat) (message : α) (field : Field) : Option α
  /-- The bytes of the message. -/
  encode : α → Bytes

namespace WireMessage

variable {α : Type} [WireMessage α]

/-- The message with all fields that the bytes hold merged into it. -/
def merge (depth : Nat) (message : α) (bs : Bytes) : Option α :=
  (readFields depth bs).bind fun fields => fields.foldlM (mergeField depth) message

/-- How deeply messages and groups may be nested. -/
def maxDepth : Nat := 100

/-- The message that the bytes hold. -/
def decode? (bs : Bytes) : Option α :=
  merge maxDepth blank bs

end WireMessage

namespace Wire.Value

/-- The text of a field. -/
def text? : Value → Option String
  | .bytes bs => Bytes.toText? bs
  | _ => none

/-- The number of a field. -/
def number? : Value → Option UInt64
  | .varint n => some n
  | _ => none

/-- The truth value of a field. -/
def truth? : Value → Option Bool
  | .varint n => some (n ≠ 0)
  | _ => none

variable {α : Type} [WireMessage α]

/-- The nested message of a field, merged into what has been read of it before. -/
def message? (depth : Nat) (before : α) : Value → Option α
  | .bytes bs => WireMessage.merge (depth - 1) before bs
  | _ => none

end Wire.Value

/-- The field of a text, left out for an empty one. -/
def textField (number : Nat) (text : String) : Bytes :=
  if text = "" then [] else bytesField number (Bytes.ofText text)

/-- The field of a number, left out for zero. -/
def numberField (number : Nat) (n : UInt64) : Bytes :=
  if n = 0 then [] else varintField number n.toNat

/-- The field of a truth value, left out for falsehood. -/
def truthField (number : Nat) (b : Bool) : Bytes :=
  if b then varintField number 1 else []

/-- The field of a nested message. -/
def messageField {α : Type} [WireMessage α] (number : Nat) (message : α) : Bytes :=
  bytesField number (WireMessage.encode message)

/-- The field of a nested message, left out where there is none. -/
def optionField {α : Type} [WireMessage α] (number : Nat) (message : Option α) : Bytes :=
  match message with
  | some message => messageField number message
  | none => []

/-- The fields of a list of nested messages. -/
def listField {α : Type} [WireMessage α] (number : Nat) (messages : List α) : Bytes :=
  messages.flatMap (messageField number)

/-- A resource of the cluster. -/
structure MeshResource where
  /-- Its namespace. -/
  ns : String
  /-- Its type. -/
  type : String
  /-- Its name. -/
  name : String
  deriving DecidableEq, Repr, Inhabited

instance : WireMessage MeshResource where
  blank := ⟨"", "", ""⟩
  mergeField _ m field := match field.number with
    | 1 => field.value.text?.map ({ m with ns := · })
    | 2 => field.value.text?.map ({ m with type := · })
    | 3 => field.value.text?.map ({ m with name := · })
    | _ => some m
  encode m := textField 1 m.ns ++ textField 2 m.type ++ textField 3 m.name

/-- A selection of resources. -/
structure ResourceSelection where
  /-- What the resources have in common. -/
  resource : Option MeshResource
  /-- The labels that they carry. -/
  labelSelector : String
  deriving DecidableEq, Repr, Inhabited

instance : WireMessage ResourceSelection where
  blank := ⟨none, ""⟩
  mergeField depth m field := match field.number with
    | 1 =>
      (field.value.message? depth (m.resource.getD WireMessage.blank)).map
        ({ m with resource := some · })
    | 2 => field.value.text?.map ({ m with labelSelector := · })
    | _ => some m
  encode m := optionField 1 m.resource ++ textField 2 m.labelSelector

/-- A failure that the mesh controller reports. -/
structure ResourceError where
  /-- The resource that it is about. -/
  resource : Option MeshResource
  /-- What went wrong. -/
  error : String
  deriving DecidableEq, Repr, Inhabited

instance : WireMessage ResourceError where
  blank := ⟨none, ""⟩
  mergeField depth m field := match field.number with
    | 1 =>
      (field.value.message? depth (m.resource.getD WireMessage.blank)).map
        ({ m with resource := some · })
    | 2 => field.value.text?.map ({ m with error := · })
    | _ => some m
  encode m := optionField 1 m.resource ++ textField 2 m.error

/-- The request for traffic statistics. -/
structure StatSummaryRequest where
  /-- The resources to report on. -/
  selector : Option ResourceSelection
  /-- The time to report on. -/
  timeWindow : String
  /-- Whether to leave out the statistics. -/
  skipStats : Bool
  /-- Whether to report on TCP too. -/
  tcpStats : Bool
  deriving DecidableEq, Repr, Inhabited

instance : WireMessage StatSummaryRequest where
  blank := ⟨none, "", false, false⟩
  mergeField depth m field := match field.number with
    | 1 =>
      (field.value.message? depth (m.selector.getD WireMessage.blank)).map
        ({ m with selector := some · })
    | 2 => field.value.text?.map ({ m with timeWindow := · })
    | 6 => field.value.truth?.map ({ m with skipStats := · })
    | 7 => field.value.truth?.map ({ m with tcpStats := · })
    | _ => some m
  encode m :=
    optionField 1 m.selector ++ textField 2 m.timeWindow ++ truthField 6 m.skipStats ++
      truthField 7 m.tcpStats

/-- Counts of requests, and latencies in milliseconds. -/
structure BasicStats where
  /-- The requests that succeeded. -/
  successCount : UInt64
  /-- The requests that failed. -/
  failureCount : UInt64
  /-- The latency that half of the requests keep. -/
  latencyMsP50 : UInt64
  /-- The latency that 95 of 100 requests keep. -/
  latencyMsP95 : UInt64
  /-- The latency that 99 of 100 requests keep. -/
  latencyMsP99 : UInt64
  deriving DecidableEq, Repr, Inhabited

instance : WireMessage BasicStats where
  blank := ⟨0, 0, 0, 0, 0⟩
  mergeField _ m field := match field.number with
    | 1 => field.value.number?.map ({ m with successCount := · })
    | 2 => field.value.number?.map ({ m with failureCount := · })
    | 3 => field.value.number?.map ({ m with latencyMsP50 := · })
    | 4 => field.value.number?.map ({ m with latencyMsP95 := · })
    | 5 => field.value.number?.map ({ m with latencyMsP99 := · })
    | _ => some m
  encode m :=
    numberField 1 m.successCount ++ numberField 2 m.failureCount ++ numberField 3 m.latencyMsP50 ++
      numberField 4 m.latencyMsP95 ++ numberField 5 m.latencyMsP99

/-- The statistics of a resource. -/
structure StatRow where
  /-- The resource. -/
  resource : Option MeshResource
  /-- The time that is reported on. -/
  timeWindow : String
  /-- The number of its pods in the mesh. -/
  meshedPodCount : UInt64
  /-- The number of its running pods. -/
  runningPodCount : UInt64
  /-- The statistics of its requests. -/
  stats : Option BasicStats
  /-- The number of its failed pods. -/
  failedPodCount : UInt64
  deriving DecidableEq, Repr, Inhabited

instance : WireMessage StatRow where
  blank := ⟨none, "", 0, 0, none, 0⟩
  mergeField depth m field := match field.number with
    | 1 =>
      (field.value.message? depth (m.resource.getD WireMessage.blank)).map
        ({ m with resource := some · })
    | 2 => field.value.text?.map ({ m with timeWindow := · })
    | 3 => field.value.number?.map ({ m with meshedPodCount := · })
    | 4 => field.value.number?.map ({ m with runningPodCount := · })
    | 5 =>
      (field.value.message? depth (m.stats.getD WireMessage.blank)).map
        ({ m with stats := some · })
    | 6 => field.value.number?.map ({ m with failedPodCount := · })
    | _ => some m
  encode m :=
    optionField 1 m.resource ++ textField 2 m.timeWindow ++ numberField 3 m.meshedPodCount ++
      numberField 4 m.runningPodCount ++ optionField 5 m.stats ++ numberField 6 m.failedPodCount

/-- The statistics of several resources. -/
structure PodGroup where
  /-- The statistics of each. -/
  rows : List StatRow
  deriving DecidableEq, Repr, Inhabited

instance : WireMessage PodGroup where
  blank := ⟨[]⟩
  mergeField depth m field := match field.number with
    | 1 => (field.value.message? depth WireMessage.blank).map fun row => ⟨m.rows ++ [row]⟩
    | _ => some m
  encode m := listField 1 m.rows

/-- A table of statistics. -/
structure StatTable where
  /-- Its rows. -/
  podGroup : Option PodGroup
  deriving DecidableEq, Repr, Inhabited

instance : WireMessage StatTable where
  blank := ⟨none⟩
  mergeField depth m field := match field.number with
    | 1 =>
      (field.value.message? depth (m.podGroup.getD WireMessage.blank)).map
        ({ m with podGroup := some · })
    | _ => some m
  encode m := optionField 1 m.podGroup

/-- The tables of statistics. -/
structure StatSummaryOk where
  /-- The tables. -/
  statTables : List StatTable
  deriving DecidableEq, Repr, Inhabited

instance : WireMessage StatSummaryOk where
  blank := ⟨[]⟩
  mergeField depth m field := match field.number with
    | 1 =>
      (field.value.message? depth WireMessage.blank).map fun table => ⟨m.statTables ++ [table]⟩
    | _ => some m
  encode m := listField 1 m.statTables

/-- The reply to a request for traffic statistics. -/
structure StatSummaryResponse where
  /-- The statistics. -/
  ok : Option StatSummaryOk
  /-- The failure. -/
  error : Option ResourceError
  deriving DecidableEq, Repr, Inhabited

instance : WireMessage StatSummaryResponse where
  blank := ⟨none, none⟩
  mergeField depth m field := match field.number with
    | 1 => (field.value.message? depth (m.ok.getD WireMessage.blank)).map ({ m with ok := some · })
    | 2 =>
      (field.value.message? depth (m.error.getD WireMessage.blank)).map
        ({ m with error := some · })
    | _ => some m
  encode m := optionField 1 m.ok ++ optionField 2 m.error

/-- The request for the connections between resources. -/
structure EdgesRequest where
  /-- The resources to report on. -/
  selector : Option ResourceSelection
  deriving DecidableEq, Repr, Inhabited

instance : WireMessage EdgesRequest where
  blank := ⟨none⟩
  mergeField depth m field := match field.number with
    | 1 =>
      (field.value.message? depth (m.selector.getD WireMessage.blank)).map
        ({ m with selector := some · })
    | _ => some m
  encode m := optionField 1 m.selector

/-- A connection between two resources. -/
structure Edge where
  /-- Where it starts. -/
  src : Option MeshResource
  /-- Where it ends. -/
  dst : Option MeshResource
  /-- The identity of the client. -/
  clientId : String
  /-- The identity of the server. -/
  serverId : String
  /-- Why there is no identity. -/
  noIdentityMsg : String
  deriving DecidableEq, Repr, Inhabited

instance : WireMessage Edge where
  blank := ⟨none, none, "", "", ""⟩
  mergeField depth m field := match field.number with
    | 1 =>
      (field.value.message? depth (m.src.getD WireMessage.blank)).map ({ m with src := some · })
    | 2 =>
      (field.value.message? depth (m.dst.getD WireMessage.blank)).map ({ m with dst := some · })
    | 3 => field.value.text?.map ({ m with clientId := · })
    | 4 => field.value.text?.map ({ m with serverId := · })
    | 5 => field.value.text?.map ({ m with noIdentityMsg := · })
    | _ => some m
  encode m :=
    optionField 1 m.src ++ optionField 2 m.dst ++ textField 3 m.clientId ++
      textField 4 m.serverId ++ textField 5 m.noIdentityMsg

/-- The connections between resources. -/
structure EdgesOk where
  /-- The connections. -/
  edges : List Edge
  deriving DecidableEq, Repr, Inhabited

instance : WireMessage EdgesOk where
  blank := ⟨[]⟩
  mergeField depth m field := match field.number with
    | 1 => (field.value.message? depth WireMessage.blank).map fun edge => ⟨m.edges ++ [edge]⟩
    | _ => some m
  encode m := listField 1 m.edges

/-- The reply to a request for the connections between resources. -/
structure EdgesResponse where
  /-- The connections. -/
  ok : Option EdgesOk
  /-- The failure. -/
  error : Option ResourceError
  deriving DecidableEq, Repr, Inhabited

instance : WireMessage EdgesResponse where
  blank := ⟨none, none⟩
  mergeField depth m field := match field.number with
    | 1 => (field.value.message? depth (m.ok.getD WireMessage.blank)).map ({ m with ok := some · })
    | 2 =>
      (field.value.message? depth (m.error.getD WireMessage.blank)).map
        ({ m with error := some · })
    | _ => some m
  encode m := optionField 1 m.ok ++ optionField 2 m.error

end ClusterWatch
