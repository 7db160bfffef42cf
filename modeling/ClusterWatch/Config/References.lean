import Std.Data.ExtTreeSet
import ClusterWatch.Cluster.Config
import ClusterWatch.Cluster.Workload

/-!
# Referenced configs

The configs that a pod template refers to: from its volumes, and from the environments of its
containers and init containers. A reference with an empty name refers to nothing.
-/

namespace ClusterWatch

/-- The references that an optional config map name and an optional secret name make. -/
def namedRefs (configMap secret : Option String) : List ConfigRef :=
  (configMap.map fun name => ⟨.configMap, name⟩).toList ++
    (secret.map fun name => ⟨.secret, name⟩).toList

namespace Container

/-- The references that a container makes, in order and with repetitions. -/
def refs (container : Container) : List ConfigRef :=
  (container.envFrom.flatMap fun source => namedRefs source.configMap source.secret) ++
    container.env.flatMap fun entry => namedRefs entry.configMap entry.secret

end Container

namespace PodTemplate

/-- The references that a template makes, in order, with repetitions and empty names. -/
def refs (template : PodTemplate) : List ConfigRef :=
  (template.volumes.flatMap fun volume => namedRefs volume.configMap volume.secret) ++
    (template.containers ++ template.initContainers).flatMap Container.refs

/-- The configs that a template refers to. -/
def referencedConfigs (template : PodTemplate) : ConfigRefs :=
  .ofList (template.refs.filter fun ref => ref.name ≠ "")

end PodTemplate

/-- The configs that the template of a workload refers to. -/
def Workload.referencedConfigs (workload : Workload) : ConfigRefs :=
  match workload.template with
  | some template => template.referencedConfigs
  | none => ∅

end ClusterWatch
