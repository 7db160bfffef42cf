/-!
# Sorting

Lists put in order by insertion. Elements that may stand in either order stay in the one
that they came in.
-/

namespace ClusterWatch

variable {α : Type}

/-- Put an element in front of the first one that it may stand before. -/
def insertSorted (le : α → α → Bool) (element : α) : List α → List α
  | [] => [element]
  | first :: rest =>
    if le element first then element :: first :: rest else first :: insertSorted le element rest

/-- The elements of a list in order. -/
def sortedBy (le : α → α → Bool) : List α → List α
  | [] => []
  | first :: rest => insertSorted le first (sortedBy le rest)

end ClusterWatch
