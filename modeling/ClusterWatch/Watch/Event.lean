import ClusterWatch.Cluster.Metadata

/-!
# Watch events and deliveries

Watching a kind of objects yields watch events: single changes, and complete listings that begin
with `init`, name every object with `initApply` and end with `initDone`. A delivery is what such
events mean to whoever follows the objects: one was created, updated or deleted.
-/

namespace ClusterWatch

/-- An event of a watch on objects of one kind. -/
inductive WatchEvent (α : Type) where
  /-- An object has come to exist or has changed. -/
  | apply (object : α)
  /-- An object has ceased to exist. -/
  | delete (object : α)
  /-- A listing begins. -/
  | init
  /-- A listing names an object. -/
  | initApply (object : α)
  /-- A listing is complete. -/
  | initDone
  deriving DecidableEq, Repr

/-- A change of one object, as its followers are told. -/
inductive Delivery (α : Type) where
  /-- An object that was not there before. -/
  | created (object : α)
  /-- A new state of an object, with the one before it. -/
  | updated (old new : α)
  /-- An object that is gone, in its last known state. -/
  | deleted (object : α)
  deriving DecidableEq, Repr

/-- The same event on objects in another form. -/
def WatchEvent.map {α β : Type} (f : α → β) : WatchEvent α → WatchEvent β
  | .apply object => .apply (f object)
  | .delete object => .delete (f object)
  | .init => .init
  | .initApply object => .initApply (f object)
  | .initDone => .initDone

namespace Delivery

variable {α β : Type}

/-- The object that a delivery is about, in its newest state. -/
def object : Delivery α → α
  | .created object => object
  | .updated _ new => new
  | .deleted object => object

/-- The state of the object after the delivery, none if it is gone. -/
def current? : Delivery α → Option α
  | .created object => some object
  | .updated _ new => some new
  | .deleted _ => none

/-- The same change seen in another form. -/
def map (f : α → β) : Delivery α → Delivery β
  | .created object => .created (f object)
  | .updated old new => .updated (f old) (f new)
  | .deleted object => .deleted (f object)

end Delivery

end ClusterWatch
