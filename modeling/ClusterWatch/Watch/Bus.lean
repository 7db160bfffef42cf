/-!
# The event bus

A bus passes published events on to its followers. A gated bus holds them back until it is opened;
then it passes on what it holds, in the order of publication, and from there on everything at once.
Opening it again changes nothing.
-/

namespace ClusterWatch

/-- A bus for events. -/
structure Bus (ε : Type) where
  /-- The events that a gated bus holds, in order; none once the bus is open. -/
  held : Option (List ε)
  deriving DecidableEq, Repr

namespace Bus

variable {ε : Type}

/-- A bus that passes events on at once. -/
def direct : Bus ε := ⟨none⟩

/-- A bus that holds events until it is opened. -/
def gated : Bus ε := ⟨some []⟩

/-- Publish an event: the bus afterwards, and the events that it passes on now. -/
def publish (bus : Bus ε) (event : ε) : Bus ε × List ε :=
  match bus.held with
  | some events => (⟨some (events ++ [event])⟩, [])
  | none => (bus, [event])

/-- Publish events one after another. -/
def publishAll (bus : Bus ε) (events : List ε) : Bus ε × List ε :=
  events.foldl (fun (bus, passed) event =>
    let (bus, now) := bus.publish event
    (bus, passed ++ now)) (bus, [])

/-- Open the bus: the bus afterwards, and the events that it passes on now. -/
def release (bus : Bus ε) : Bus ε × List ε :=
  (direct, bus.held.getD [])

end Bus

end ClusterWatch
