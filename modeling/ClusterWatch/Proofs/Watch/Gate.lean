import ClusterWatch.Proofs.Watch.Dispatch

/-!
# Before and after the bus is opened

As long as the bus is closed it holds all that is published. The task that opens it sends that to
the projections, and publishing waits for the lock until this is done. So every projection gets what
the bus has held first, and behind it what each task has published since, in the order of that task.

* `Dispatch.Closed`, `Dispatch.Closed.step` — before the bus is opened nothing is sent.
* `Dispatch.Opened`, `Dispatch.Opened.step` — afterwards, what has been sent to a projection and
  what is left to be sent make up what it is to get.
* `Dispatch.Ordered`, `Dispatch.Reachable.ordered` — the invariants, which hold whatever
  turns are taken.
-/

namespace ClusterWatch

namespace Dispatch

variable {m n : Nat} {follows : Interests n} {calls : Fin m → List BusCall}
  {dispatch next : Dispatch m n}

/-! ### The gate -/

section Gate

variable {bus : Bus (Posting m)}

/-- A closed bus holds back what is published. -/
theorem passGate_publish_of_closed {held : List (Posting m)} (hheld : bus.held = some held)
    (task : Fin m) (event : ClusterEvent) :
    passGate bus task (.publish event) = (⟨some (held ++ [⟨task, event⟩])⟩, []) := by
  rw [passGate, Bus.publish, hheld]

/-- To open it releases what it holds. -/
theorem passGate_openBus_of_closed {held : List (Posting m)}
    (hheld : bus.held = some held) (task : Fin m) :
    passGate bus task .openBus = (.direct, held) := by
  rw [passGate, Bus.release, hheld, Option.getD_some]

/-- What is published on an open bus is sent. -/
theorem passGate_publish_of_open (hheld : bus.held = none) (task : Fin m) (event : ClusterEvent) :
    passGate bus task (.publish event) = (bus, [⟨task, event⟩]) := by
  rw [passGate, Bus.publish, hheld]

/-- To open it again has no effect. -/
theorem passGate_openBus_of_open (hheld : bus.held = none) (task : Fin m) :
    passGate bus task .openBus = (bus, []) := by
  rw [passGate, Bus.release, hheld, Option.getD_none, Bus.direct, ← hheld]

end Gate

/-! ### What is sent -/

/-- What has been sent to a projection. -/
def sent (dispatch : Dispatch m n) (route : Fin n) : List (Posting m) :=
  dispatch.received route ++ dispatch.queues route

/-- The sends that are left to a task. -/
def sends (dispatch : Dispatch m n) (task : Fin m) : List (Send m n) :=
  (dispatch.callers task).phase.sends

/-- The sends that are left to the task that holds the lock. -/
def underLock (dispatch : Dispatch m n) : List (Send m n) :=
  dispatch.lock.elim [] dispatch.sends

/-- What a task has left to send to a projection without the lock. -/
def unguarded (dispatch : Dispatch m n) (task : Fin m) (route : Fin n) : List (Posting m) :=
  if dispatch.lock = some task then [] else sendsTo route (dispatch.sends task)

/-- The sends that are left to a task are those of the call that it makes. -/
theorem sends_eq {task : Fin m} {caller : Caller m n} (htask : dispatch.callers task = caller) :
    dispatch.sends task = caller.phase.sends := by
  rw [sends, htask]

/-- A send puts its posting on the route that it is for. -/
theorem sent_put (dispatch : Dispatch m n) (task : Fin m) (rest : List BusCall) (route : Fin n)
    (posting : Posting m) (left : List (Send m n)) (other : Fin n) :
    (dispatch.put task rest route posting left).sent other =
      dispatch.sent other ++ if route = other then [posting] else [] := by
  show dispatch.received other ++
      Function.update dispatch.queues route (dispatch.queues route ++ [posting]) other = _
  rw [sent, List.append_assoc]
  by_cases hroute : route = other
  · rw [hroute, Function.update_self, if_pos rfl]
  · rw [Function.update_of_ne (Ne.symm hroute), if_neg hroute, List.append_nil]

/-- What a projection takes out of its queue has been sent to it before. -/
theorem sent_taken {route : Fin n} {posting : Posting m} {rest : List (Posting m)}
    (hqueue : dispatch.queues route = posting :: rest) (other : Fin n) :
    (dispatch.taken route posting rest).sent other = dispatch.sent other := by
  show Function.update dispatch.received route (dispatch.received route ++ [posting]) other ++
    Function.update dispatch.queues route rest other = _
  rw [sent]
  by_cases hroute : other = route
  · rw [hroute, Function.update_self, Function.update_self, hqueue, List.append_assoc]
    rfl
  · rw [Function.update_of_ne hroute, Function.update_of_ne hroute]

/-- When one task goes on, the others have left what they had. -/
theorem sends_update {task : Fin m} {caller : Caller m n}
    (hcallers : next.callers = Function.update dispatch.callers task caller) (other : Fin m) :
    next.sends other = if other = task then caller.phase.sends else dispatch.sends other := by
  rw [sends, hcallers, Function.update_apply]
  split <;> rfl

/-- A send is no longer left to the task that makes it. -/
theorem sends_put (dispatch : Dispatch m n) (task : Fin m) (rest : List BusCall) (route : Fin n)
    (posting : Posting m) (left : List (Send m n)) (other : Fin m) :
    (dispatch.put task rest route posting left).sends other =
      if other = task then left else dispatch.sends other := by
  have hcallers : (dispatch.put task rest route posting left).callers =
      Function.update dispatch.callers task ⟨rest, .sending left⟩ := rfl
  exact sends_update hcallers other

/-- To pass the gate leaves the task with the sends of what the gate lets through. -/
theorem sends_passed (follows : Interests n) (dispatch : Dispatch m n) (task : Fin m)
    (call : BusCall) (rest : List BusCall) (other : Fin m) :
    (dispatch.passed follows task call rest).sends other =
      if other = task then follows.sends (passGate dispatch.bus task call).2
        else dispatch.sends other :=
  sends_update (callers_passed dispatch task call rest) other

/-- What is to be sent under the lock is left to the task that holds it. -/
theorem underLock_of_lock {task : Fin m} (hlock : dispatch.lock = some task) :
    dispatch.underLock = dispatch.sends task := by
  rw [underLock, hlock, Option.elim_some]

/-- While nobody holds the lock, nothing is to be sent under it. -/
theorem underLock_of_free (hfree : dispatch.lock = none) : dispatch.underLock = [] := by
  rw [underLock, hfree, Option.elim_none]

/-- A task that holds the lock has nothing to send without it. -/
theorem unguarded_of_lock {task : Fin m} (hlock : dispatch.lock = some task) (route : Fin n) :
    dispatch.unguarded task route = [] := by
  rw [unguarded, if_pos hlock]

/-- What the other tasks have to send without the lock does not change when a task takes or gives
back the lock. -/
theorem PassesLock.unguarded {task other : Fin m} {caller : Caller m n}
    (hlock : PassesLock task dispatch next)
    (hcallers : next.callers = Function.update dispatch.callers task caller)
    (hne : other ≠ task) (route : Fin n) :
    next.unguarded other route = dispatch.unguarded other route := by
  rw [Dispatch.unguarded, Dispatch.unguarded, sends_update hcallers, if_neg hne]
  simp only [hlock.lock_iff hne]

/-- A task that has nothing to send, before a step and after it, leaves what is to be sent as it is,
also if it takes or gives back the lock. -/
theorem PassesLock.unsent {task : Fin m} {caller : Caller m n}
    (hlock : PassesLock task dispatch next)
    (hcallers : next.callers = Function.update dispatch.callers task caller)
    (hbefore : dispatch.sends task = []) (hafter : caller.phase.sends = []) :
    next.underLock = dispatch.underLock ∧
      ∀ other route, next.unguarded other route = dispatch.unguarded other route := by
  have hsends : next.sends = dispatch.sends := by
    funext other
    rw [sends_update hcallers]
    split
    next heq => rw [heq, hbefore, hafter]
    next => rfl
  refine ⟨?_, fun other route => ?_⟩
  · -- the lock stays where it is, is taken, or is given back
    rcases hlock with hsame | ⟨hfree, htaken⟩ | ⟨htaken, hfree⟩
    · rw [underLock, underLock, hsame, hsends]
    · rw [underLock_of_free hfree, underLock_of_lock htaken, hsends, hbefore]
    · rw [underLock_of_free hfree, underLock_of_lock htaken, hbefore]
  · by_cases hother : other = task
    · rw [hother, Dispatch.unguarded, Dispatch.unguarded, hsends, hbefore, sendsTo_nil,
        ite_self, ite_self]
    · exact hlock.unguarded hcallers hother route

/-! ### Before the bus is opened -/

/-- Before the bus is opened: it holds what has been published, and nothing is sent. -/
structure Closed (dispatch : Dispatch m n) : Prop where
  /-- No call to open the bus has passed the gate. -/
  log : ∀ entry ∈ dispatch.log, entry.2 ≠ .openBus
  /-- The bus holds all that has been published, in order. -/
  held : dispatch.bus.held = some (postings dispatch.log)
  /-- There is nothing to send. -/
  sends : ∀ task, dispatch.sends task = []
  /-- Nothing has been sent. -/
  sent : ∀ route, dispatch.sent route = []

/-- Once the bus is opened: every projection gets what the bus has held, and behind it what each
task has published since. -/
structure Opened (follows : Interests n) (before after : List (Fin m × BusCall))
    (dispatch : Dispatch m n) : Prop where
  /-- These are the calls that passed the gate before the first one to open the bus,
  and after it. -/
  log : ∃ opener, dispatch.log = before ++ (opener, .openBus) :: after
  /-- It was the first one. -/
  first : ∀ entry ∈ before, entry.2 ≠ .openBus
  /-- The bus is open. -/
  held : dispatch.bus.held = none
  /-- Until all that the bus has held is sent, nothing else is published. -/
  draining : dispatch.underLock ≠ [] → postings after = []
  /-- What has been sent to a projection and what is left to be sent to it under the lock begins
  with what the bus has held. What comes behind is of each task what it has published since, but for
  what it has still to send itself. -/
  lines : ∀ route, ∃ later,
    dispatch.sent route ++ sendsTo route dispatch.underLock =
      follows.along route (postings before) ++ later ∧
      ∀ task, later.filter (·.task = task) ++ dispatch.unguarded task route =
        (follows.along route (postings after)).filter (·.task = task)

variable {before after : List (Fin m × BusCall)}

/-- At the start the bus is not open yet, and nothing is sent. -/
theorem closed_start (calls : Fin m → List BusCall) : (start calls : Dispatch m n).Closed where
  log := by simp [start]
  held := rfl
  sends _ := rfl
  sent _ := rfl

/-- A task that has nothing to send leaves the bus closed if the bus stays as it is. -/
theorem Closed.unsent (h : dispatch.Closed) {task : Fin m} {caller : Caller m n}
    (hcallers : next.callers = Function.update dispatch.callers task caller)
    (hafter : caller.phase.sends = []) (hlog : ∀ entry ∈ next.log, entry.2 ≠ .openBus)
    (hheld : next.bus.held = some (postings next.log))
    (hsent : ∀ route, next.sent route = dispatch.sent route) : next.Closed where
  log := hlog
  held := hheld
  sends other := by
    rw [sends_update hcallers, hafter, h.sends other, ite_self]
  sent route := (hsent route).trans (h.sent route)

/-- What is published on a closed bus is held back, behind what has been published before. -/
theorem Closed.publish (h : dispatch.Closed) (task : Fin m) (event : ClusterEvent)
    (rest : List BusCall) :
    (dispatch.passed follows task (.publish event) rest).Closed := by
  have hpass := passGate_publish_of_closed h.held task event
  refine h.unsent (callers_passed ..) ?_ (fun entry hentry => ?_) ?_ fun _ => rfl
  · rw [hpass]
    rfl
  · rcases List.mem_append.mp hentry with hearlier | hlast
    · exact h.log entry hearlier
    · rw [List.mem_singleton.mp hlast]
      exact BusCall.noConfusion
  · -- the posting is held behind the others, as the log has it
    rw [passed, hpass, postings_append]
    rfl

/-- The task that opens a closed bus has all that this has held left to send. -/
theorem Closed.openBus (h : dispatch.Closed) (hguarded : dispatch.Guarded) {task : Fin m}
    {rest : List BusCall} (htask : dispatch.callers task = ⟨rest, .entered .openBus⟩) :
    (dispatch.passed follows task .openBus rest).Opened follows dispatch.log [] := by
  have hlock : (dispatch.passed follows task .openBus rest).lock = some task :=
    hguarded.entered task .openBus (by rw [htask])
  have hpass := passGate_openBus_of_closed h.held task
  refine ⟨⟨task, rfl⟩, h.log, rfl, fun _ => rfl, fun route => ⟨[], ?_, fun other => ?_⟩⟩
  · rw [underLock_of_lock hlock, sends_passed, if_pos rfl, hpass, sendsTo_sends, List.append_nil]
    exact congrArg (· ++ follows.along route (postings dispatch.log)) (h.sent route)
  · -- no other task has anything to send
    rw [unguarded, sends_passed]
    split_ifs with hopener hother
    · rfl
    · exact absurd (hlock.trans (congrArg some hother.symm)) hopener
    · rw [h.sends other]
      rfl

/-- A step keeps the bus closed, or else it opens the bus, and all that the bus has held is to
be sent then. -/
theorem Closed.step (h : dispatch.Closed) (hguarded : dispatch.Guarded)
    (hstep : Step follows dispatch next) :
    next.Closed ∨ next.Opened follows dispatch.log [] := by
  cases hstep with
  | entered hfree htask => exact .inl (h.unsent rfl rfl h.log h.held fun _ => rfl)
  | @passed task call rest htask =>
    cases call with
    | publish event => exact .inl (h.publish task event rest)
    | openBus => exact .inr (h.openBus hguarded htask)
  | @sent task rest route posting later htask hroom =>
    -- there would be something to send
    cases (sends_eq htask).symm.trans (h.sends task)
  | finished htask => exact .inl (h.unsent rfl rfl h.log h.held fun _ => rfl)
  | @received route posting rest hqueue =>
    -- something would have been sent
    have hnone := h.sent route
    rw [Dispatch.sent, hqueue] at hnone
    simp at hnone

/-! ### Afterwards -/

/-- A task that has nothing to send leaves the lines of an open bus as they are, whatever it does
with the lock. -/
theorem Opened.unsent (h : dispatch.Opened follows before after) {later : List (Fin m × BusCall)}
    {task : Fin m} {caller : Caller m n} (hlock : PassesLock task dispatch next)
    (hcallers : next.callers = Function.update dispatch.callers task caller)
    (hbefore : dispatch.sends task = []) (hafter : caller.phase.sends = [])
    (hlog : ∃ opener, next.log = before ++ (opener, .openBus) :: later)
    (hlater : postings later = postings after) (hheld : next.bus.held = none)
    (hsent : ∀ route, next.sent route = dispatch.sent route) :
    next.Opened follows before later := by
  obtain ⟨hunder, hunguarded⟩ := hlock.unsent hcallers hbefore hafter
  refine ⟨hlog, h.first, hheld, ?_, fun route => ?_⟩
  · rw [hunder, hlater]
    exact h.draining
  · simp only [hsent, hunder, hunguarded, hlater]
    exact h.lines route

/-- A task that publishes an event on an open bus has it left to send. -/
theorem Opened.publish (h : dispatch.Opened follows before after) (hguarded : dispatch.Guarded)
    {task : Fin m} {event : ClusterEvent} {rest : List BusCall}
    (htask : dispatch.callers task = ⟨rest, .entered (.publish event)⟩) :
    (dispatch.passed follows task (.publish event) rest).Opened follows before
      (after ++ [(task, .publish event)]) := by
  have hlock := hguarded.entered task (.publish event) (by rw [htask])
  have hpass := passGate_publish_of_open h.held task event
  have hunder : (dispatch.passed follows task (.publish event) rest).underLock = [] :=
    underLock_of_free rfl
  obtain ⟨opener, hlog⟩ := h.log
  refine ⟨⟨opener, ?_⟩, h.first, ?_, fun hleft => absurd hunder hleft, fun route => ?_⟩
  · rw [passed, hlog, List.append_assoc, List.cons_append]
  · rw [passed, hpass]
    exact h.held
  · obtain ⟨later, hline, htasks⟩ := h.lines route
    refine ⟨later, ?_, fun other => ?_⟩
    · -- nothing has been left to send under the lock, which the task gives back
      rw [hunder, ← hline, underLock_of_lock hlock, sends_eq htask]
      rfl
    · have hposting :
          (follows.along route (postings [(task, .publish event)])).filter (·.task = other) =
          if task = other then follows.along route [⟨task, event⟩] else [] :=
        follows.filter_along_singleton route ⟨task, event⟩ other
      rw [postings_append, Interests.along_append, List.filter_append, ← htasks other, hposting]
      split_ifs with hother
      · have hfree : (dispatch.passed follows task (.publish event) rest).lock ≠ some task :=
          (Option.some_ne_none task).symm
        rw [← hother, unguarded, if_neg hfree, sends_passed, if_pos rfl, hpass, sendsTo_sends,
          unguarded_of_lock hlock, List.append_nil]
      · rw [(passesLock_passed hlock _ rest).unguarded (callers_passed ..) (Ne.symm hother),
          List.append_nil]

/-- A send under the lock moves what the bus has held into a queue. -/
theorem Opened.put_of_lock (h : dispatch.Opened follows before after) {task : Fin m}
    {rest : List BusCall} {route : Fin n} {posting : Posting m} {left : List (Send m n)}
    (htask : dispatch.callers task = ⟨rest, .sending ((route, posting) :: left)⟩)
    (hlock : dispatch.lock = some task) :
    (dispatch.put task rest route posting left).Opened follows before after := by
  have hunder : dispatch.underLock = (route, posting) :: left :=
    (underLock_of_lock hlock).trans (sends_eq htask)
  have hstill : (dispatch.put task rest route posting left).lock = some task := hlock
  have hleft : (dispatch.put task rest route posting left).underLock = left := by
    rw [underLock_of_lock hstill, sends_put, if_pos rfl]
  refine ⟨h.log, h.first, h.held,
    fun _ => h.draining (by rw [hunder]; exact List.cons_ne_nil _ _), fun other => ?_⟩
  -- the posting moves from what is left to what has been sent, so the line stays as it is
  obtain ⟨later, hline, htasks⟩ := h.lines other
  refine ⟨later, ?_, fun own => ?_⟩
  · rw [sent_put, hleft, ← hline, hunder, List.append_assoc]
    congr 1
    split_ifs with hroute
    · rw [← hroute, sendsTo_cons_self, List.singleton_append]
    · rw [sendsTo_cons_of_ne hroute, List.nil_append]
  · rw [← htasks own]
    by_cases hown : own = task
    · rw [hown, unguarded_of_lock hlock, unguarded_of_lock hstill]
    · have hpasses : PassesLock task dispatch (dispatch.put task rest route posting left) :=
        .inl rfl
      rw [hpasses.unguarded rfl hown]

/-- As long as something is left to be sent under the lock, no task has anything to
send without it. -/
theorem Opened.underLock_eq_nil (h : dispatch.Opened follows before after) {task : Fin m}
    {route : Fin n} (hleft : dispatch.unguarded task route ≠ []) : dispatch.underLock = [] := by
  by_contra hunder
  obtain ⟨later, -, htasks⟩ := h.lines route
  have hnone := htasks task
  rw [h.draining hunder, Interests.along_nil, List.filter_nil] at hnone
  exact hleft (List.append_eq_nil_iff.mp hnone).2

/-- A send without the lock moves what the task itself has published into a queue, behind all that
the bus has held. -/
theorem Opened.put_of_not_lock (h : dispatch.Opened follows before after) {task : Fin m}
    {rest : List BusCall} {route : Fin n} {posting : Posting m} {left : List (Send m n)}
    (htask : dispatch.callers task = ⟨rest, .sending ((route, posting) :: left)⟩)
    (hlock : dispatch.lock ≠ some task) :
    (dispatch.put task rest route posting left).Opened follows before after := by
  have hown (other : Fin n) :
      dispatch.unguarded task other = sendsTo other ((route, posting) :: left) := by
    rw [unguarded, if_neg hlock, sends_eq htask]
    rfl
  have hleft (other : Fin n) :
      (dispatch.put task rest route posting left).unguarded task other = sendsTo other left := by
    have hstill : (dispatch.put task rest route posting left).lock ≠ some task := hlock
    rw [unguarded, if_neg hstill, sends_put, if_pos rfl]
  -- the task could not have anything to send if something of what the bus has held were left
  have hnone : dispatch.underLock = [] :=
    h.underLock_eq_nil (by rw [hown route, sendsTo_cons_self]; exact List.cons_ne_nil _ _)
  have hunder : (dispatch.put task rest route posting left).underLock = [] := by
    rw [← hnone]
    show dispatch.lock.elim [] _ = dispatch.lock.elim [] _
    cases hholder : dispatch.lock with
    | none => rfl
    | some holder =>
      exact (sends_put ..).trans (if_neg fun heq => hlock (hholder.trans (congrArg some heq)))
  have hposted : posting.task = task := by
    obtain ⟨later, -, htasks⟩ := h.lines route
    have hmem : posting ∈ (follows.along route (postings after)).filter (·.task = task) := by
      rw [← htasks task, hown, sendsTo_cons_self]
      simp
    exact of_decide_eq_true (List.mem_filter.mp hmem).2
  refine ⟨h.log, h.first, h.held, fun hleft => absurd hunder hleft, fun other => ?_⟩
  obtain ⟨later, hline, htasks⟩ := h.lines other
  -- the posting moves from what the task itself has left to the end of the line
  refine ⟨later ++ if route = other then [posting] else [], ?_, fun own => ?_⟩
  · rw [hnone] at hline
    rw [sent_put, hunder, sendsTo_nil, List.append_nil, ← List.append_assoc, ← hline,
      sendsTo_nil, List.append_nil]
  · rw [List.filter_append, ← htasks own, List.append_assoc]
    congr 1
    by_cases heq : own = task
    · rw [heq, hown, hleft]
      split_ifs with hroute
      · rw [← hroute, sendsTo_cons_self, List.filter_singleton, hposted, decide_eq_true rfl]
        rfl
      · rw [sendsTo_cons_of_ne hroute]
        rfl
    · have hpasses : PassesLock task dispatch (dispatch.put task rest route posting left) :=
        .inl rfl
      rw [hpasses.unguarded rfl heq]
      split_ifs with hroute
      · rw [List.filter_singleton, hposted, decide_eq_false (Ne.symm heq)]
        rfl
      · rfl

/-- A step keeps the bus open. -/
theorem Opened.step (h : dispatch.Opened follows before after) (hguarded : dispatch.Guarded)
    (hstep : Step follows dispatch next) : ∃ after, next.Opened follows before after := by
  cases hstep with
  | @entered task call rest hfree htask =>
    exact ⟨after,
      h.unsent (.inr (.inl ⟨hfree, rfl⟩)) rfl (sends_eq htask) rfl h.log rfl h.held
        fun _ => rfl⟩
  | @passed task call rest htask =>
    cases call with
    | publish event => exact ⟨_, h.publish hguarded htask⟩
    | openBus =>
      -- there is nothing left that the bus holds
      obtain ⟨opener, hlog⟩ := h.log
      refine ⟨after ++ [(task, .openBus)],
        h.unsent (.inl rfl) (callers_passed ..) (sends_eq htask) ?_ ⟨opener, ?_⟩ ?_
        rfl fun _ => rfl⟩
      · rw [passGate_openBus_of_open h.held]
        rfl
      · rw [passed, hlog, List.append_assoc, List.cons_append]
      · rw [postings_append]
        exact List.append_nil _
  | @sent task rest route posting left htask hroom =>
    by_cases hlock : dispatch.lock = some task
    · exact ⟨after, h.put_of_lock htask hlock⟩
    · exact ⟨after, h.put_of_not_lock htask hlock⟩
  | @finished task rest htask =>
    exact ⟨after,
      h.unsent (passesLock_finished rfl) rfl (sends_eq htask) rfl h.log rfl h.held fun _ => rfl⟩
  | @received route posting rest hqueue =>
    refine ⟨after, h.log, h.first, h.held, h.draining, fun other => ?_⟩
    rw [sent_taken hqueue]
    exact h.lines other

/-! ### Runs -/

/-- The invariants together. -/
structure Ordered (follows : Interests n) (calls : Fin m → List BusCall)
    (dispatch : Dispatch m n) : Prop where
  /-- The lock is held by whom it should be. -/
  guarded : dispatch.Guarded
  /-- The calls pass the gate in the order in which they are made. -/
  recorded : dispatch.Recorded calls
  /-- What has been sent is what is to have been sent by then. -/
  gate : dispatch.Closed ∨ ∃ before after, dispatch.Opened follows before after

/-- Whatever turns are taken, the invariants hold. -/
theorem Reachable.ordered (h : Reachable follows calls dispatch) :
    dispatch.Ordered follows calls := by
  refine h.induct ⟨guarded_start calls, recorded_start calls, .inl (closed_start calls)⟩ ?_
  rintro earlier later ⟨hguarded, hrecorded, hgate⟩ hstep
  refine ⟨hguarded.step hstep, hrecorded.step hstep, ?_⟩
  -- a closed gate stays closed or is opened, and an open one stays open
  rcases hgate with hclosed | ⟨before, after, hopened⟩
  · rcases hclosed.step hguarded hstep with hstill | hopened
    · exact .inl hstill
    · exact .inr ⟨_, _, hopened⟩
  · obtain ⟨after, hstill⟩ := hopened.step hguarded hstep
    exact .inr ⟨before, after, hstill⟩

end Dispatch

end ClusterWatch
