import Std.Data.ExtTreeMap

/-!
# Object metadata

What every object of the cluster carries: its name and namespace, labels, annotations, the version
that the API server gave it, finalizers and owners. An object is identified by its namespace, which
cluster-wide objects lack, and its name.
-/

namespace ClusterWatch

/-- Texts by key, in key order. -/
abbrev TextMap := Std.ExtTreeMap String String

/-- A reference from an object to one that owns it. -/
structure OwnerReference where
  /-- The kind of the owner. -/
  kind : String
  /-- The name of the owner. -/
  name : String
  /-- Whether the owner is the one that controls the object. -/
  controller : Bool
  deriving DecidableEq, Repr, Inhabited

/-- The metadata of an object. -/
structure Metadata where
  /-- The name, which the API server may still have to choose. -/
  name : Option String
  /-- The beginning of a name that the API server is to choose. -/
  generateName : Option String
  /-- The namespace, none for a cluster-wide object. -/
  ns : Option String
  /-- The labels that selectors match. -/
  labels : TextMap
  /-- The annotations, if the object has a set of them. -/
  annotations : Option TextMap
  /-- The version that the API server gave this state of the object. -/
  resourceVersion : Option String
  /-- Whether the object is marked for deletion and only waits for its finalizers. -/
  deleting : Bool
  /-- The finalizers, in order. -/
  finalizers : List String
  /-- The owners, in order. -/
  owners : List OwnerReference
  deriving DecidableEq, Repr, Inhabited

namespace Metadata

/-- The name, or what stands in for it while it is still to be chosen. -/
def nameAny (metadata : Metadata) : String :=
  (metadata.name <|> metadata.generateName).getD ""

/-- The namespace, empty for a cluster-wide object. -/
def nsText (metadata : Metadata) : String :=
  metadata.ns.getD ""

/-- The text of an annotation. -/
def annotation? (metadata : Metadata) (key : String) : Option String :=
  metadata.annotations.bind (·[key]?)

end Metadata

/-- Objects of the cluster: whatever carries metadata. -/
class ClusterObject (α : Type) where
  /-- The metadata of an object. -/
  metadata : α → Metadata

/-- What identifies an object among those of its kind. -/
structure ObjectId where
  /-- The namespace, none for a cluster-wide object. -/
  ns : Option String
  /-- The name. -/
  name : String
  deriving DecidableEq, Repr, Inhabited

/-- By namespace and then by name. -/
instance : Ord ObjectId :=
  ⟨compareLex (compareOn ObjectId.ns) (compareOn ObjectId.name)⟩

instance : Std.TransOrd ObjectId :=
  inferInstanceAs (Std.TransCmp (compareLex (compareOn ObjectId.ns) (compareOn ObjectId.name)))

instance : Std.LawfulEqOrd ObjectId where
  eq_of_compare {x y} h := by
    have h : compareLex (compareOn ObjectId.ns) (compareOn ObjectId.name) x y = .eq := h
    rw [compareLex_eq_eq] at h
    cases x
    cases y
    simp only [compareOn, Std.LawfulEqCmp.compare_eq_iff_eq] at h
    simp [h.1, h.2]

/-- A name within a namespace. -/
structure NsName where
  /-- The namespace, empty for a cluster-wide object. -/
  ns : String
  /-- The name. -/
  name : String
  deriving DecidableEq, Repr, Inhabited

/-- By namespace and then by name. -/
instance : Ord NsName :=
  ⟨compareLex (compareOn NsName.ns) (compareOn NsName.name)⟩

instance : Std.TransOrd NsName :=
  inferInstanceAs (Std.TransCmp (compareLex (compareOn NsName.ns) (compareOn NsName.name)))

instance : Std.LawfulEqOrd NsName where
  eq_of_compare {x y} h := by
    have h : compareLex (compareOn NsName.ns) (compareOn NsName.name) x y = .eq := h
    rw [compareLex_eq_eq] at h
    cases x
    cases y
    simp only [compareOn, Std.LawfulEqCmp.compare_eq_iff_eq] at h
    simp [h.1, h.2]

namespace ClusterObject

variable {α : Type} [ClusterObject α]

/-- The identity of an object. -/
def id (object : α) : ObjectId :=
  ⟨(metadata object).ns, (metadata object).nameAny⟩

/-- The name of an object. -/
def name (object : α) : String :=
  (metadata object).nameAny

/-- The namespace of an object, empty for a cluster-wide one. -/
def ns (object : α) : String :=
  (metadata object).nsText

/-- The namespace and the name of an object, joined by a slash. -/
def key (object : α) : String :=
  ns object ++ "/" ++ name object

/-- The namespace and the name of an object. -/
def nsName (object : α) : NsName :=
  ⟨ns object, name object⟩

end ClusterObject

end ClusterWatch
