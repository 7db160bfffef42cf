import ClusterWatch.Watch.Event

/-!
# Object stores

A store caches the objects of one kind as its watch shows them. Single changes show at once; the
objects of a listing show when it is complete, and then they are the whole content of the store.
-/

namespace ClusterWatch

/-- A cache of the objects of one kind. -/
structure Store (α : Type) where
  /-- The objects that the store shows. -/
  objects : Std.ExtTreeMap ObjectId α
  /-- The objects that a listing has named so far. -/
  listed : Std.ExtTreeMap ObjectId α
  /-- Whether a listing has been completed. -/
  ready : Bool

namespace Store

variable {α : Type} [ClusterObject α]

/-- A store without objects. -/
def empty : Store α := ⟨∅, ∅, false⟩

/-- The store after an event of the watch. -/
def observe (store : Store α) : WatchEvent α → Store α
  | .apply object => { store with objects := store.objects.insert (ClusterObject.id object) object }
  | .delete object => { store with objects := store.objects.erase (ClusterObject.id object) }
  | .init => { store with listed := ∅ }
  | .initApply object =>
    { store with listed := store.listed.insert (ClusterObject.id object) object }
  | .initDone => ⟨store.listed, ∅, true⟩

/-- The object of that name in a namespace, or else the cluster-wide object of that name. -/
def get? (store : Store α) (ns name : String) : Option α :=
  store.objects[(⟨some ns, name⟩ : ObjectId)]? <|> store.objects[(⟨none, name⟩ : ObjectId)]?

/-- All objects of the store, by namespace and name. -/
def toList (store : Store α) : List α :=
  store.objects.toList.map (·.2)

/-- The objects of a namespace. -/
def within (store : Store α) (ns : String) : List α :=
  store.toList.filter fun object => (ClusterObject.metadata object).ns = some ns

end Store

end ClusterWatch
