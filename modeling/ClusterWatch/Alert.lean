/-!
# Alerts

An alert is about an object of the cluster: that it exceeds a threshold, or that the agent on a node
could not be reached.
-/

namespace ClusterWatch

/-- Why an alert is raised. -/
structure AlertReason where
  /-- The word for it. -/
  text : String
  deriving DecidableEq, Repr, Inhabited

namespace AlertReason

/-- A threshold is exceeded. -/
def thresholdExceeded : AlertReason := ⟨"ThresholdExceeded"⟩

/-- The agent on a node gave no usable answer. -/
def nodeAgentUnavailable : AlertReason := ⟨"NodeAgentUnavailable"⟩

end AlertReason

/-- An alert. -/
structure Alert where
  /-- The kind of the object that the alert is about. -/
  kind : String
  /-- The namespace of the object, empty for a cluster-wide one. -/
  ns : String
  /-- The name of the object. -/
  name : String
  /-- What there is to say. -/
  message : String
  /-- Why the alert is raised. -/
  reason : AlertReason
  deriving DecidableEq, Repr

/-- The text that names the object of an alert. -/
def Alert.subject (alert : Alert) : String :=
  if alert.ns = "" then alert.kind ++ " " ++ alert.name
  else alert.kind ++ " " ++ alert.ns ++ "/" ++ alert.name

end ClusterWatch
