/-!
# Finalizer lists

Adding a finalizer to a list and removing it. Either returns nothing where the list already is as
wanted, so that no write is needed.
-/

namespace ClusterWatch

/-- The finalizer that keeps a config while workloads use it. -/
def configFinalizer : String := "cluster-agent.io/config-in-use"

namespace Finalizers

/-- The list with a finalizer appended, unless it is there already. -/
def adding? (existing : List String) (finalizer : String) : Option (List String) :=
  if existing.contains finalizer then none else some (existing ++ [finalizer])

/-- The list with every occurrence of a finalizer removed, if there is one. -/
def removing? (existing : List String) (finalizer : String) : Option (List String) :=
  if existing.contains finalizer then some (existing.filter (· ≠ finalizer)) else none

end Finalizers

end ClusterWatch
