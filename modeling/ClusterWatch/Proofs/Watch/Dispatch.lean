import Mathlib.Data.List.FinRange
import Mathlib.Logic.Function.Basic
import ClusterWatch.Proofs.Collections
import ClusterWatch.Watch.ClusterEvent

/-!
# Calls to the bus by turns

Tasks publish events on a bus and open it, each one call after another, and all of them at the
same time. A call passes the gate of the bus under its lock, and it is decided there whether an
event is held back or sent. A task sends its own event only after it has given back the lock, so
the sends of several tasks mix. What the bus has held is sent by the task that opens it, which
keeps the lock until then.

* `Dispatch`, `Dispatch.turn?` — the bus, its callers and the queues of the projections between
  two turns, and what a turn does to them.
* `Dispatch.Step`, `Dispatch.step_of_turn?` — all that a turn can come to.
* `Dispatch.Reachable.induct` — what every step preserves holds whatever turns are taken.
* `Dispatch.Guarded`, `Dispatch.Recorded` — invariants: who holds the lock, and which calls have
  passed the gate.
-/

namespace ClusterWatch

/-- How many events there is room for in the queue of a projection. -/
def projectionQueueCapacity : Nat := 256

/-! ### Calls and sends -/

/-- A call to a bus. -/
inductive BusCall where
  /-- An event is published. -/
  | publish (event : ClusterEvent)
  /-- The bus is opened. -/
  | openBus

/-- An event with the task that publishes it. -/
structure Posting (m : Nat) where
  /-- The task. -/
  task : Fin m
  /-- The event. -/
  event : ClusterEvent

/-- The kinds of objects that each of some projections follows. -/
abbrev Interests (n : Nat) := Fin n → ResourceKind → Bool

/-- A projection, and what is to be put into its queue. -/
abbrev Send (m n : Nat) := Fin n × Posting m

variable {m n : Nat}

/-- What a task publishes by a call. -/
def BusCall.posting? (task : Fin m) : BusCall → Option (Posting m)
  | .publish event => some ⟨task, event⟩
  | .openBus => none

/-- What calls of several tasks publish, in their order. -/
def postings (calls : List (Fin m × BusCall)) : List (Posting m) :=
  calls.filterMap fun (task, call) => call.posting? task

/-- The postings of two logs after one another are those of the first and then those
of the second. -/
@[simp]
theorem postings_append (earlier later : List (Fin m × BusCall)) :
    postings (earlier ++ later) = postings earlier ++ postings later :=
  List.filterMap_append

namespace Interests

variable (follows : Interests n) (route : Fin n)

/-- What a projection is to get of some postings. -/
def along (postings : List (Posting m)) : List (Posting m) :=
  postings.filter fun posting => follows route posting.event.kind

@[simp]
theorem along_nil : follows.along route ([] : List (Posting m)) = [] := rfl

/-- Of a single posting, a projection is to get nothing but what its own task has published. -/
theorem filter_along_singleton (posting : Posting m) (task : Fin m) :
    (follows.along route [posting]).filter (·.task = task) =
      if posting.task = task then follows.along route [posting] else [] := by
  -- there is nothing on the route but the posting, if it is due there
  have hposted (other : Posting m) (hother : other ∈ follows.along route [posting]) :
      other = posting :=
    List.mem_singleton.mp (List.mem_filter.mp hother).1
  split_ifs with htask
  · refine List.filter_eq_self.mpr fun other hother => ?_
    rw [hposted other hother]
    exact decide_eq_true htask
  · refine List.filter_eq_nil_iff.mpr fun other hother => ?_
    rw [hposted other hother]
    simpa using htask

/-- What is due on a route of two runs of postings is what is due of the first and then
of the second. -/
@[simp]
theorem along_append (earlier later : List (Posting m)) :
    follows.along route (earlier ++ later) =
      follows.along route earlier ++ follows.along route later :=
  List.filter_append earlier later

/-- The sends of some postings: each of them goes to one projection after another. -/
def sends (follows : Interests n) (postings : List (Posting m)) : List (Send m n) :=
  postings.flatMap fun posting =>
    ((List.finRange n).filter fun route => follows route posting.event.kind).map fun route =>
      (route, posting)

end Interests

/-- What some sends put into the queue of a projection. -/
def sendsTo (route : Fin n) (sends : List (Send m n)) : List (Posting m) :=
  (sends.filter (·.1 = route)).map (·.2)

@[simp]
theorem sendsTo_nil (route : Fin n) : sendsTo route ([] : List (Send m n)) = [] := rfl

/-- A send on the route comes first on it. -/
@[simp]
theorem sendsTo_cons_self (route : Fin n) (posting : Posting m) (rest : List (Send m n)) :
    sendsTo route ((route, posting) :: rest) = posting :: sendsTo route rest := by
  simp [sendsTo]

/-- A send on another route is left out. -/
theorem sendsTo_cons_of_ne {route other : Fin n} (h : route ≠ other) (posting : Posting m)
    (rest : List (Send m n)) :
    sendsTo other ((route, posting) :: rest) = sendsTo other rest := by
  simp [sendsTo, h]

/-- The sends of some postings put into the queue of a projection what it is to get. -/
@[simp]
theorem sendsTo_sends (follows : Interests n) (route : Fin n) (postings : List (Posting m)) :
    sendsTo route (follows.sends postings) = follows.along route postings := by
  -- among all projections there is this one once
  have honce : (List.finRange n).filter (· = route) = [route] := by
    rw [List.filter_eq, List.count_finRange, List.replicate_one]
  have hposting (posting : Posting m) :
      (((List.finRange n).filter fun other => follows other posting.event.kind).map
        fun other => (other, posting)).filter (·.1 = route) =
      if follows route posting.event.kind then [(route, posting)] else [] := by
    have hroute : (fun send : Send m n => decide (send.1 = route)) ∘
        (fun route => (route, posting)) =
        fun other => decide (other = route) := rfl
    rw [List.filter_map, hroute, List.filter_comm, honce, List.filter_singleton]
    cases follows route posting.event.kind <;> rfl
  rw [sendsTo, Interests.sends, List.filter_flatMap]
  simp only [hposting]
  induction postings with
  | nil => rfl
  | cons posting rest ih =>
    rw [List.flatMap_cons, List.map_append, ih, Interests.along, Interests.along, List.filter_cons]
    split <;> rfl

/-! ### Turns -/

/-- What a task is at. -/
inductive CallPhase (m n : Nat) where
  /-- It makes no call. -/
  | idle
  /-- It holds the lock, and its call is to pass the gate. -/
  | entered (call : BusCall)
  /-- Its call has passed the gate, and these sends are left of it. -/
  | sending (sends : List (Send m n))

/-- The sends that are left of a call. -/
def CallPhase.sends : CallPhase m n → List (Send m n)
  | .idle | .entered _ => []
  | .sending sends => sends

/-- A task that calls the bus. -/
structure Caller (m n : Nat) where
  /-- The calls that it has still to begin. -/
  calls : List BusCall
  /-- What it is at. -/
  phase : CallPhase m n

/-- The calls of a task that have still to pass the gate. -/
def Caller.ahead : Caller m n → List BusCall
  | ⟨calls, .entered call⟩ => call :: calls
  | ⟨calls, .idle⟩ | ⟨calls, .sending _⟩ => calls

/-- The bus, the tasks that call it and the queues of the projections between two turns. -/
structure Dispatch (m n : Nat) where
  /-- The bus. -/
  bus : Bus (Posting m)
  /-- The task that holds the lock of the bus. -/
  lock : Option (Fin m)
  /-- The tasks. -/
  callers : Fin m → Caller m n
  /-- The calls that have passed the gate, in this order. -/
  log : List (Fin m × BusCall)
  /-- What waits in the queue of each projection. -/
  queues : Fin n → List (Posting m)
  /-- What each projection has taken out of its queue. -/
  received : Fin n → List (Posting m)

/-- What can be done in one turn. -/
inductive DispatchTurn (m n : Nat) where
  /-- A task begins its next call and takes the lock. -/
  | enter (task : Fin m)
  /-- The call of a task passes the gate. -/
  | pass (task : Fin m)
  /-- A task puts an event into a queue that has room for it. -/
  | send (task : Fin m)
  /-- The call of a task returns. -/
  | finish (task : Fin m)
  /-- A projection takes an event out of its queue. -/
  | receive (route : Fin n)

namespace Dispatch

/-- A gated bus before the first turn, with the calls that each task is to make. -/
def start (calls : Fin m → List BusCall) : Dispatch m n :=
  ⟨.gated, none, fun task => ⟨calls task, .idle⟩, [], fun _ => [], fun _ => []⟩

/-- What a call of a task makes of the bus, and what is sent then. -/
def passGate (bus : Bus (Posting m)) (task : Fin m) :
    BusCall → Bus (Posting m) × List (Posting m)
  | .publish event => bus.publish ⟨task, event⟩
  | .openBus => bus.release

/-- Who holds the lock when a call has passed the gate: to publish an event it is not
needed any more. -/
def lockAfter (lock : Option (Fin m)) : BusCall → Option (Fin m)
  | .publish _ => none
  | .openBus => lock

/-- The dispatch when a call of a task has passed the gate. -/
def passed (follows : Interests n) (dispatch : Dispatch m n) (task : Fin m) (call : BusCall)
    (calls : List BusCall) :
    Dispatch m n :=
  { dispatch with
    bus := (passGate dispatch.bus task call).1
    lock := lockAfter dispatch.lock call
    callers := Function.update dispatch.callers task
      ⟨calls, .sending (follows.sends (passGate dispatch.bus task call).2)⟩
    log := dispatch.log ++ [(task, call)] }

/-- The dispatch when a task has put an event into a queue. -/
def put (dispatch : Dispatch m n) (task : Fin m) (calls : List BusCall) (route : Fin n)
    (posting : Posting m) (rest : List (Send m n)) : Dispatch m n :=
  { dispatch with
    callers := Function.update dispatch.callers task ⟨calls, .sending rest⟩
    queues := Function.update dispatch.queues route (dispatch.queues route ++ [posting]) }

/-- The dispatch when a projection has taken an event out of its queue. -/
def taken (dispatch : Dispatch m n) (route : Fin n) (posting : Posting m)
    (rest : List (Posting m)) : Dispatch m n :=
  { dispatch with
    queues := Function.update dispatch.queues route rest
    received := Function.update dispatch.received route (dispatch.received route ++ [posting]) }

/-- The dispatch after a turn, if the turn can be taken. -/
def turn? (follows : Interests n) (dispatch : Dispatch m n) :
    DispatchTurn m n → Option (Dispatch m n)
  | .enter task =>
    match dispatch.lock, dispatch.callers task with
    | none, ⟨call :: calls, .idle⟩ =>
      some { dispatch with
        lock := some task
        callers := Function.update dispatch.callers task ⟨calls, .entered call⟩ }
    | _, _ => none
  | .pass task =>
    match dispatch.callers task with
    | ⟨calls, .entered call⟩ => some (dispatch.passed follows task call calls)
    | _ => none
  | .send task =>
    match dispatch.callers task with
    | ⟨calls, .sending ((route, posting) :: rest)⟩ =>
      if (dispatch.queues route).length < projectionQueueCapacity then
        some (dispatch.put task calls route posting rest)
      else none
    | _ => none
  | .finish task =>
    match dispatch.callers task with
    | ⟨calls, .sending []⟩ =>
      some { dispatch with
        lock := if dispatch.lock = some task then none else dispatch.lock
        callers := Function.update dispatch.callers task ⟨calls, .idle⟩ }
    | _ => none
  | .receive route =>
    match dispatch.queues route with
    | [] => none
    | posting :: rest => some (dispatch.taken route posting rest)

/-- The dispatch after several turns, if they can be taken. -/
def turns? (follows : Interests n) (dispatch : Dispatch m n) (turns : List (DispatchTurn m n)) :
    Option (Dispatch m n) :=
  turns.foldlM (turn? follows) dispatch

/-- A dispatch that some turns lead to, from a gated bus and tasks that make the given calls. -/
def Reachable (follows : Interests n) (calls : Fin m → List BusCall) (dispatch : Dispatch m n) :
    Prop :=
  ∃ turns, (start calls).turns? follows turns = some dispatch

/-- All that a turn can come to. -/
inductive Step (follows : Interests n) (dispatch : Dispatch m n) : Dispatch m n → Prop
  /-- The lock is free, and a task takes it. -/
  | entered {task : Fin m} {call : BusCall} {calls : List BusCall} (hfree : dispatch.lock = none)
      (htask : dispatch.callers task = ⟨call :: calls, .idle⟩) :
      Step follows dispatch { dispatch with
        lock := some task
        callers := Function.update dispatch.callers task ⟨calls, .entered call⟩ }
  /-- A call passes the gate. -/
  | passed {task : Fin m} {call : BusCall} {calls : List BusCall}
      (htask : dispatch.callers task = ⟨calls, .entered call⟩) :
      Step follows dispatch (dispatch.passed follows task call calls)
  /-- The next send of a task is made, into a queue that has room. -/
  | sent {task : Fin m} {calls : List BusCall} {route : Fin n} {posting : Posting m}
    {rest : List (Send m n)}
      (htask : dispatch.callers task = ⟨calls, .sending ((route, posting) :: rest)⟩)
      (hroom : (dispatch.queues route).length < projectionQueueCapacity) :
      Step follows dispatch (dispatch.put task calls route posting rest)
  /-- A call with nothing left to send returns, and gives back the lock if it still holds it. -/
  | finished {task : Fin m} {calls : List BusCall}
    (htask : dispatch.callers task = ⟨calls, .sending []⟩) :
      Step follows dispatch { dispatch with
        lock := if dispatch.lock = some task then none else dispatch.lock
        callers := Function.update dispatch.callers task ⟨calls, .idle⟩ }
  /-- A projection takes what has waited longest. -/
  | received {route : Fin n} {posting : Posting m} {rest : List (Posting m)}
      (hqueue : dispatch.queues route = posting :: rest) :
      Step follows dispatch (dispatch.taken route posting rest)

variable {follows : Interests n} {calls : Fin m → List BusCall} {dispatch next : Dispatch m n}

/-- A turn that is possible is a step, in one of five ways. -/
theorem step_of_turn? {turn : DispatchTurn m n} (h : dispatch.turn? follows turn = some next) :
    Step follows dispatch next := by
  -- the five kinds of turns: to enter, to pass, to send, to finish and to receive
  rcases turn with task | task | task | task | route
  · simp only [turn?] at h
    split at h
    next hfree htask => exact Option.some.inj h ▸ .entered hfree htask
    next => cases h
  · simp only [turn?] at h
    split at h
    next htask => exact Option.some.inj h ▸ .passed htask
    next => cases h
  · simp only [turn?] at h
    split at h
    next htask =>
      obtain ⟨hroom, hnext⟩ := Option.ite_none_right_eq_some.mp h
      exact Option.some.inj hnext ▸ .sent htask hroom
    next => cases h
  · simp only [turn?] at h
    split at h
    next htask => exact Option.some.inj h ▸ .finished htask
    next => cases h
  · simp only [turn?] at h
    split at h
    next => cases h
    next hqueue => exact Option.some.inj h ▸ .received hqueue

/-- What holds at first and is kept by every step holds whatever turns are taken. -/
theorem Reachable.induct {holds : Dispatch m n → Prop} (hstart : holds (start calls))
    (hstep : ∀ {before after : Dispatch m n},
      holds before → Step follows before after → holds after)
    (h : Reachable follows calls dispatch) : holds dispatch := by
  obtain ⟨turns, hturns⟩ := h
  exact of_foldlM_eq_some holds
    (fun _ _ _ hbefore hturn => hstep hbefore (step_of_turn? hturn)) hturns hstart

/-! ### The lock and the calls -/

/-- Who holds the lock: a task whose call is at the gate does, and one that makes no
call does not. -/
structure Guarded (dispatch : Dispatch m n) : Prop where
  /-- A call is at the gate under the lock. -/
  entered : ∀ task call, (dispatch.callers task).phase = .entered call →
    dispatch.lock = some task
  /-- Who holds the lock makes a call. -/
  busy : ∀ task, dispatch.lock = some task → (dispatch.callers task).phase ≠ .idle

/-- The calls of a task that have passed the gate. -/
def callsOf (dispatch : Dispatch m n) (task : Fin m) : List BusCall :=
  (dispatch.log.filter (·.1 = task)).map (·.2)

/-- The calls of every task pass the gate in their order. -/
def Recorded (calls : Fin m → List BusCall) (dispatch : Dispatch m n) : Prop :=
  ∀ task, dispatch.callsOf task ++ (dispatch.callers task).ahead = calls task

/-- The lock stays where it is, or a task takes it, or gives it back. -/
def PassesLock (task : Fin m) (dispatch next : Dispatch m n) : Prop :=
  next.lock = dispatch.lock ∨ (dispatch.lock = none ∧ next.lock = some task) ∨
    (dispatch.lock = some task ∧ next.lock = none)

/-- That does not concern other tasks. -/
theorem PassesLock.lock_iff {task other : Fin m} (h : PassesLock task dispatch next)
    (hne : other ≠ task) :
    next.lock = some other ↔ dispatch.lock = some other := by
  have hother : some task ≠ some other := fun heq => hne (Option.some.inj heq).symm
  rcases h with hsame | ⟨hbefore, hafter⟩ | ⟨hbefore, hafter⟩
  · rw [hsame]
  · rw [hbefore, hafter]
    exact iff_of_false hother nofun
  · rw [hbefore, hafter]
    exact iff_of_false nofun hother

/-- A task whose call passes the gate keeps the lock or gives it back. -/
theorem passesLock_passed {task : Fin m} (hlock : dispatch.lock = some task) (call : BusCall)
    (rest : List BusCall) :
    PassesLock task dispatch (dispatch.passed follows task call rest) := by
  cases call with
  | publish event => exact .inr (.inr ⟨hlock, rfl⟩)
  | openBus => exact .inl rfl

/-- A task whose call returns gives back the lock if it still holds it. -/
theorem passesLock_finished {task : Fin m}
    (hlock : next.lock = if dispatch.lock = some task then none else dispatch.lock) :
    PassesLock task dispatch next := by
  by_cases htask : dispatch.lock = some task
  · exact .inr (.inr ⟨htask, hlock.trans (if_pos htask)⟩)
  · exact .inl (hlock.trans (if_neg htask))

/-- At the start no call is at the gate, and nobody holds the lock. -/
theorem guarded_start (calls : Fin m → List BusCall) : (start calls : Dispatch m n).Guarded where
  entered := by simp [start]
  busy := by simp [start]

/-- Where one task passes the lock on, it is held by whom it should be if this is so
of that task. -/
theorem Guarded.update (h : dispatch.Guarded) {task : Fin m} {caller : Caller m n}
    (hlock : PassesLock task dispatch next)
    (hcallers : next.callers = Function.update dispatch.callers task caller)
    (hentered : ∀ call, caller.phase = .entered call → next.lock = some task)
    (hbusy : next.lock = some task → caller.phase ≠ .idle) : next.Guarded := by
  refine ⟨fun other call hother => ?_, fun other hother => ?_⟩
  · -- of the task itself it is known, and the lock is passed on by no other one
    by_cases heq : other = task
    · rw [hcallers, heq, Function.update_self] at hother
      exact heq ▸ hentered call hother
    · rw [hcallers, Function.update_of_ne heq] at hother
      exact (hlock.lock_iff heq).mpr (h.entered other call hother)
  · by_cases heq : other = task
    · rw [hcallers, heq, Function.update_self]
      exact hbusy (heq ▸ hother)
    · rw [hcallers, Function.update_of_ne heq]
      exact h.busy other ((hlock.lock_iff heq).mp hother)

/-- So it is where the task has sends left, whether it holds the lock or not. -/
theorem Guarded.sending (h : dispatch.Guarded) {task : Fin m} {rest : List BusCall}
    {sends : List (Send m n)} (hlock : PassesLock task dispatch next)
    (hcallers : next.callers = Function.update dispatch.callers task ⟨rest, .sending sends⟩) :
    next.Guarded :=
  h.update hlock hcallers (fun _ => nofun) fun _ => nofun

/-- A task that has passed the gate goes on with the sends of what the gate lets through. -/
theorem callers_passed (dispatch : Dispatch m n) (task : Fin m) (call : BusCall)
    (rest : List BusCall) :
    (dispatch.passed follows task call rest).callers = Function.update dispatch.callers task
      ⟨rest, .sending (follows.sends (passGate dispatch.bus task call).2)⟩ := rfl

/-- Every step leaves the lock with a task that makes a call. -/
theorem Guarded.step (h : dispatch.Guarded) (hstep : Step follows dispatch next) :
    next.Guarded := by
  cases hstep with
  | entered hfree htask =>
    exact h.update (.inr (.inl ⟨hfree, rfl⟩)) rfl (fun _ _ => rfl) fun _ => nofun
  | @passed task call rest htask =>
    have hlock := h.entered task call (by rw [htask])
    exact h.sending (passesLock_passed hlock call rest) (callers_passed ..)
  | sent htask => exact h.sending (.inl rfl) rfl
  | @finished task rest htask =>
    refine h.update (passesLock_finished rfl) rfl (fun _ => nofun) fun hheld => ?_
    -- the task has given back the lock
    split_ifs at hheld with hlock
    exact absurd hheld hlock
  | received hqueue => exact ⟨h.entered, h.busy⟩

/-- At the start all calls are still ahead. -/
theorem recorded_start (calls : Fin m → List BusCall) :
    (start calls : Dispatch m n).Recorded calls :=
  fun _ => rfl

/-- The log gets the call of the task that passes, and nothing of the others. -/
theorem callsOf_passed (dispatch : Dispatch m n) (task : Fin m) (call : BusCall)
    (rest : List BusCall) (other : Fin m) :
    (dispatch.passed follows task call rest).callsOf other =
      dispatch.callsOf other ++ if task = other then [call] else [] := by
  rw [callsOf, callsOf, passed, List.filter_append, List.map_append, List.filter_singleton]
  by_cases htask : task = other <;> simp [htask]

/-- A step that leaves the log as it is, and the calls that a task has ahead, leaves the calls of
all tasks recorded. -/
theorem Recorded.update (h : dispatch.Recorded calls) {task : Fin m} {caller : Caller m n}
    (hahead : caller.ahead = (dispatch.callers task).ahead) (hlog : next.log = dispatch.log)
    (hcallers : next.callers = Function.update dispatch.callers task caller) :
    next.Recorded calls := by
  intro other
  -- the other callers stay as they are
  have hother : (next.callers other).ahead = (dispatch.callers other).ahead := by
    rw [hcallers, Function.update_apply]
    split
    next heq => rw [heq, hahead]
    next => rfl
  rw [callsOf, hlog, hother]
  exact h other

/-- Every step keeps the calls of each task: those in the log, and then those ahead. -/
theorem Recorded.step (h : dispatch.Recorded calls) (hstep : Step follows dispatch next) :
    next.Recorded calls := by
  cases hstep with
  | entered hfree htask => exact h.update (by rw [htask]; rfl) rfl rfl
  | @passed task call rest htask =>
    intro other
    have hother := h other
    rw [callsOf_passed, callers_passed]
    by_cases heq : other = task
    · -- the call that was ahead is now the last of those that have passed
      subst heq
      rw [htask] at hother
      rw [Function.update_self, if_pos rfl, ← hother, List.append_assoc]
      rfl
    · rw [Function.update_of_ne heq, if_neg (Ne.symm heq), List.append_nil]
      exact hother
  | sent htask => exact h.update (by rw [htask]; rfl) rfl rfl
  | finished htask => exact h.update (by rw [htask]; rfl) rfl rfl
  | received hqueue => exact h

end Dispatch

end ClusterWatch
