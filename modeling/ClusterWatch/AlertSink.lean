import ClusterWatch.Alert
import ClusterWatch.ApiServer.Submission

/-!
# The alert sink

Alerts are put on record as warning events about the agent's own pod, one event for each alert in
order. An event that cannot be written is counted and does not hold up the next one.
-/

namespace ClusterWatch

/-- The pod that the events are about. -/
structure AlertSink where
  /-- The name of the agent's own pod. -/
  podName : String
  /-- The namespace of the agent's own pod. -/
  podNs : String
  deriving DecidableEq, Repr

/-- An alert with what is drawn for its event. -/
structure StampedAlert where
  /-- The alert. -/
  alert : Alert
  /-- Random numbers for the end of the name of the event, one for each character. -/
  draws : List Nat
  /-- The time of the event. -/
  time : Timestamp
  deriving Repr

namespace AlertSink

/-- The name under which the agent reports events. -/
def component : String := "cluster-agent"

/-- The name under which failed events are counted. -/
def errorComponent : String := "alert-sink"

/-- The number of characters at the end of the name of an event. -/
def suffixLength : Nat := 16

/-- The characters of which the end of the name of an event is drawn. -/
def suffixAlphabet : List Char :=
  "abcdefghijklmnopqrstuvwxyz0123456789".toList

/-- The character that a random number stands for. -/
def suffixChar (draw : Nat) : Char :=
  suffixAlphabet.getD (draw % suffixAlphabet.length) 'a'

/-- The end of the name of an event. -/
def suffix (draws : List Nat) : String :=
  String.ofList ((draws.take suffixLength).map suffixChar)

/-- The event that puts an alert on record. -/
def event (sink : AlertSink) (stamped : StampedAlert) : Json :=
  .obj [
    ("metadata", .obj [("name", .str (sink.podName ++ "." ++ suffix stamped.draws)),
      ("namespace", .str sink.podNs)]),
    ("involvedObject",
      .obj [("apiVersion", .str "v1"), ("kind", .str "Pod"), ("name", .str sink.podName),
      ("namespace", .str sink.podNs)]),
    ("type", .str "Warning"),
    ("reason", .str stamped.alert.reason.text),
    ("message", .str (stamped.alert.subject ++ ": " ++ stamped.alert.message)),
    ("source", .obj [("component", .str component)]),
    ("reportingComponent", .str component),
    ("reportingInstance", .str sink.podName),
    ("firstTimestamp", .str (stamped.time.text 0)),
    ("lastTimestamp", .str (stamped.time.text 0)),
    ("count", .ofNat 1)]

/-- What there is to do to write the event of an alert. -/
def submission (sink : AlertSink) (stamped : StampedAlert) : Submission :=
  .ofEvent sink.podNs (sink.event stamped)

/-- The requests for a run of alerts, and how many events cannot be written, given which requests
are accepted by their place. -/
def run (sink : AlertSink) (accepts : Nat → Bool) (alerts : List StampedAlert) :
    List ApiRequest × Nat :=
  let submissions := alerts.map sink.submission
  let requests := submissions.flatMap Submission.requests
  (requests,
    submissions.countP (·.requests.isEmpty) +
      (List.range requests.length).countP fun i => !accepts i)

end AlertSink

end ClusterWatch
