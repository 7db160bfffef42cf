import ClusterWatch.ApiServer.Submission
import ClusterWatch.Config.Reconciler

/-!
# Writing to the cluster

How the writes of the reconciler are put to the API server. A write that would change
nothing is not sent.
-/

namespace ClusterWatch

/-- The path of the configs of a kind in a namespace. -/
def Config.collection (config : Config) : String :=
  ApiRequest.collectionPath ApiRequest.coreRoot config.ns config.kind.plural

/-- The path of the workloads of a kind in a namespace. -/
def Workload.collection (workload : Workload) : String :=
  ApiRequest.collectionPath ApiRequest.workloadRoot workload.ns workload.kind.plural

/-- The patch that sets the finalizers of an object. -/
def finalizerPatch (finalizers : List String) : Json :=
  .obj [("metadata", .obj [("finalizers", .ofTexts finalizers)])]

/-- The patch that sets the config hash on the template of a workload. -/
def configHashPatch (hash : String) : Json :=
  .obj [("spec", .obj [("template", .obj [("metadata", .obj [("annotations",
    .obj [(configHashKey, .str hash)])])])])]

namespace ConfigWrite

/-- Set the finalizers of a config, where there is a change to make. -/
def setFinalizers (config : Config) : Option (List String) → Submission
  | some finalizers => .patch config.collection config.metadata.nameAny (finalizerPatch finalizers)
  | none => .unneeded

/-- What there is to do for a write. The finalizers are set as a whole, to those of the config at
hand with the one added or removed. -/
def submission : ConfigWrite → Submission
  | .addFinalizer config finalizer =>
    setFinalizers config (Finalizers.adding? config.finalizers finalizer)
  | .removeFinalizer config finalizer =>
    setFinalizers config (Finalizers.removing? config.finalizers finalizer)
  | .setConfigHash workload hash =>
    .patch workload.collection workload.name (configHashPatch hash)

end ConfigWrite

end ClusterWatch
