import ClusterWatch.Watch.Event
import ClusterWatch.Cluster.Metadata

/-!
# Watch sessions

How the objects of a kind are followed: they are listed once, and then watched from the version of
the listing on. A listing that fails is asked for again. A watch that ends or fails is taken up
again at the last version seen, and only when that version has expired everything is listed anew.
-/

namespace ClusterWatch

/-- A notice in the stream of a watch. -/
inductive WatchNotice (α : Type) where
  /-- An object is new or has changed. -/
  | present (object : α)
  /-- An object is gone. -/
  | gone (object : α)
  /-- Nothing has changed up to a version. -/
  | bookmark (version : String)
  /-- The version that the watch began at has expired. -/
  | expired
  /-- Another error. -/
  | failed
  deriving Repr

/-- A reply of the API server. -/
inductive WatchReply (α : Type) where
  /-- A listing with its version. -/
  | listing (objects : List α) (version : Option String)
  /-- The stream of a watch, which then ends. -/
  | stream (notices : List (WatchNotice α))
  /-- No usable reply. -/
  | failed
  deriving Repr

/-- How far a watch session has got. -/
inductive WatchSession where
  /-- The objects are to be listed. -/
  | listing
  /-- The objects are to be watched from a version on. -/
  | watching (version : String)
  deriving DecidableEq, Repr

namespace WatchSession

variable {α : Type} [ClusterObject α]

/-- The version of the objects that the next request is about: none for a listing. -/
def version? : WatchSession → Option String
  | .listing => none
  | .watching version => some version

/-- A version that can be watched from. -/
def usableVersion? (version : Option String) : Option String :=
  version.filter (· ≠ "")

/-- The stream of a watch at a version: the session at its end and the events. A notice of an object
that carries no version makes the session start over, like an expired version does. -/
def follow (version : String) : List (WatchNotice α) → WatchSession × List (WatchEvent α)
  | [] => (.watching version, [])
  | .present object :: rest =>
    match usableVersion? (ClusterObject.metadata object).resourceVersion with
    | some version =>
      let (session, events) := follow version rest
      (session, .apply object :: events)
    | none => (.listing, [])
  | .gone object :: rest =>
    match usableVersion? (ClusterObject.metadata object).resourceVersion with
    | some version =>
      let (session, events) := follow version rest
      (session, .delete object :: events)
    | none => (.listing, [])
  | .bookmark version :: rest => follow version rest
  | .expired :: _ => (.listing, [])
  | .failed :: rest => follow version rest

/-- The session after the reply to its request, and the events that the reply means. -/
def receive (session : WatchSession) (reply : WatchReply α) :
    WatchSession × List (WatchEvent α) :=
  match session, reply with
  | .listing, .listing objects version =>
    match usableVersion? version with
    | some version => (.watching version, .init :: objects.map .initApply ++ [.initDone])
    | none => (.listing, [.init])
  | .listing, _ => (.listing, [.init])
  | .watching version, .stream notices => follow version notices
  | .watching version, _ => (.watching version, [])

/-- A session from its beginning through the given replies: the versions of its requests,
and the events. -/
def run (session : WatchSession) :
    List (WatchReply α) → List (Option String) × List (WatchEvent α)
  | [] => ([], [])
  | reply :: replies =>
    let (next, events) := session.receive reply
    let (versions, later) := run next replies
    (session.version? :: versions, events ++ later)

end WatchSession

end ClusterWatch
