import Mathlib.Algebra.BigOperators.Fin
import ClusterWatch.Proofs.Watch.Gate

/-!
# What a gated bus does

However the tasks that publish events on a gated bus and open it take turns, every projection gets
every event that it follows once, those of each task in their order, and first of all those that
the bus has held.

* `Dispatch.Opened.filter_sent`, `Dispatch.Ordered.inOrder` — what has been sent of the
  events of a task.
* `Dispatch.Opened.heldFirst` — what the bus has held comes first.
* `Dispatch.work`, `Dispatch.Step.work_lt` — with every turn, fewer turns are left.
* `Dispatch.Guarded.hasReturned` — as long as a call has not returned, some turn can be taken.
* `Dispatch.Serves`, `Dispatch.serves` — what a gated bus does for its tasks and projections.
-/

namespace ClusterWatch

namespace Dispatch

variable {m n : Nat} {follows : Interests n} {calls : Fin m → List BusCall}
  {dispatch next : Dispatch m n}

/-! ### What has been sent -/

/-- What a task publishes by its calls. -/
def published (calls : List BusCall) (task : Fin m) : List (Posting m) :=
  calls.filterMap (BusCall.posting? task)

/-- Of all that has been published, a task has published what its own calls say. -/
theorem filter_postings (log : List (Fin m × BusCall)) (task : Fin m) :
    (postings log).filter (·.task = task) =
      published ((log.filter (·.1 = task)).map (·.2)) task := by
  rw [postings, published, List.filter_filterMap, List.filterMap_map, List.filterMap_filter]
  refine List.filterMap_congr fun ⟨own, call⟩ _ => ?_
  cases call with
  | publish event => by_cases hown : own = task <;> simp [BusCall.posting?, hown]
  | openBus => simp [BusCall.posting?]

theorem postings_opened {log before after : List (Fin m × BusCall)} {opener : Fin m}
    (hlog : log = before ++ (opener, .openBus) :: after) :
    postings log = postings before ++ postings after := by
  rw [hlog, postings_append]
  rfl

/-- Whether a call to open the bus has passed the gate. -/
def IsOpened (dispatch : Dispatch m n) : Prop :=
  ∃ entry ∈ dispatch.log, entry.2 = .openBus

/-- All calls have returned. -/
def HasReturned (dispatch : Dispatch m n) : Prop :=
  ∀ task, dispatch.callers task = ⟨[], .idle⟩

/-- Of what a task has published since the start, everything has been sent but what is
left to be sent. -/
theorem Opened.filter_sent {before after : List (Fin m × BusCall)}
    (h : dispatch.Opened follows before after) (route : Fin n) (task : Fin m) :
    (dispatch.sent route ++ sendsTo route dispatch.underLock).filter (·.task = task) ++
      dispatch.unguarded task route =
      follows.along route (published (dispatch.callsOf task) task) := by
  obtain ⟨opener, hlog⟩ := h.log
  obtain ⟨later, hline, htasks⟩ := h.lines route
  rw [hline, List.filter_append, List.append_assoc, htasks, ← List.filter_append,
    ← Interests.along_append, ← postings_opened hlog, callsOf, ← filter_postings]
  exact List.filter_comm _ _ _

/-- What has been sent of the events of a task is the beginning of what it publishes. -/
theorem Ordered.inOrder (h : dispatch.Ordered follows calls) (route : Fin n) (task : Fin m) :
    (dispatch.sent route).filter (·.task = task) <+:
      follows.along route (published (calls task) task) := by
  -- the calls that have passed are the first ones of the task
  have hbegun : follows.along route (published (dispatch.callsOf task) task) <+:
      follows.along route (published (calls task) task) := by
    rw [← h.recorded task]
    exact ((List.prefix_append _ _).filterMap _).filter _
  rcases h.gate with hclosed | ⟨before, after, hopened⟩
  · rw [hclosed.sent route]
    exact List.nil_prefix
  · refine List.IsPrefix.trans ?_ hbegun
    rw [← hopened.filter_sent, List.filter_append, List.append_assoc]
    exact List.prefix_append _ _

/-- What the bus has held comes first: nothing else is sent to a projection until all
of it has been. -/
theorem Opened.heldFirst {before after : List (Fin m × BusCall)}
    (h : dispatch.Opened follows before after) (route : Fin n) :
    dispatch.sent route <+: follows.along route (postings before) ∨
      ∃ later, dispatch.sent route = follows.along route (postings before) ++ later ∧
        ∀ task, later.filter (·.task = task) <+:
          (follows.along route (postings after)).filter (·.task = task) := by
  obtain ⟨later, hline, htasks⟩ := h.lines route
  by_cases hunder : dispatch.underLock = []
  · rw [hunder, sendsTo_nil, List.append_nil] at hline
    exact .inr ⟨later, hline, fun task => ⟨_, htasks task⟩⟩
  · -- nothing has been published since, so nothing can come behind what the bus has held
    have hlater : later = [] := by
      refine List.eq_nil_iff_forall_not_mem.mpr fun posting hposting => ?_
      have hnone := htasks posting.task
      rw [h.draining hunder, Interests.along_nil, List.filter_nil, List.append_eq_nil_iff] at hnone
      exact List.filter_eq_nil_iff.mp hnone.1 posting hposting (decide_eq_true rfl)
    rw [hlater, List.append_nil] at hline
    exact .inl ⟨_, hline⟩

theorem HasReturned.underLock (h : dispatch.HasReturned) : dispatch.underLock = [] := by
  cases hlock : dispatch.lock with
  | none => exact underLock_of_free hlock
  | some task => exact (underLock_of_lock hlock).trans (sends_eq (h task))

theorem HasReturned.unguarded (h : dispatch.HasReturned) (task : Fin m) (route : Fin n) :
    dispatch.unguarded task route = [] := by
  rw [Dispatch.unguarded, sends_eq (h task)]
  exact ite_self _

/-- Where all tasks have returned, all calls have passed the gate. -/
theorem HasReturned.callsOf (h : dispatch.HasReturned)
    (hrecorded : dispatch.Recorded calls) (task : Fin m) :
    dispatch.callsOf task = calls task := by
  rw [← hrecorded task, h task]
  exact (List.append_nil _).symm

/-- A call to open a bus that is open already has nothing to send and leaves the bus and the
queues as they are. -/
theorem Opened.turn?_pass {before after : List (Fin m × BusCall)}
    (h : dispatch.Opened follows before after) {task : Fin m} {rest : List BusCall}
    (htask : dispatch.callers task = ⟨rest, .entered .openBus⟩) :
    dispatch.turn? follows (.pass task) = some { dispatch with
      callers := Function.update dispatch.callers task ⟨rest, .sending []⟩
      log := dispatch.log ++ [(task, .openBus)] } := by
  simp only [turn?, htask, passed, passGate_openBus_of_open h.held]
  rfl

/-! ### Progress -/

/-- The turns that an event takes at most until all projections have taken it out of
their queues. -/
def postingWork (n : Nat) : Nat := 2 * n

/-- The turns that are taken for a call at most behind the gate. -/
def callWork (n : Nat) : BusCall → Nat
  | .publish _ => postingWork n
  | .openBus => 0

/-- The turns that are left at most of what a task is at, with what they put into queues. -/
def phaseWork : CallPhase m n → Nat
  | .idle => 0
  | .entered call => 2 + callWork n call
  | .sending sends => 1 + 2 * sends.length

/-- The turns that are left at most of all calls of a task. -/
def callerWork (caller : Caller m n) : Nat :=
  phaseWork caller.phase + (caller.calls.map fun call => 3 + callWork n call).sum

/-- The turns that are left at most. -/
def work (dispatch : Dispatch m n) : Nat :=
  ∑ task, callerWork (dispatch.callers task) + postingWork n *
    (dispatch.bus.held.getD []).length +
    ∑ route, (dispatch.queues route).length

/-- Where one of several numbers is replaced, the sum changes by their difference. -/
theorem sum_update {k : Nat} {α : Type} (weight : α → Nat) (elements : Fin k → α)
    (index : Fin k) (element : α) :
    ∑ other, weight (Function.update elements index element other) + weight (elements index) =
      ∑ other, weight (elements other) + weight element := by
  -- the numbers but the replaced one add up to the same
  have hupdate (element : α) : ∑ other, weight (Function.update elements index element other) =
      weight element + ∑ other ∈ Finset.univ \ {index}, weight (elements other) := by
    rw [← Finset.sum_update_of_mem (Finset.mem_univ index)]
    refine Finset.sum_congr rfl fun other _ => ?_
    exact congrFun (Function.comp_update weight elements index element) other
  have hself := hupdate (elements index)
  rw [Function.update_eq_self] at hself
  rw [hupdate, hself]
  omega

/-- There is at most one send to each projection for each of some postings. -/
theorem length_sends_le (follows : Interests n) (postings : List (Posting m)) :
    (follows.sends postings).length ≤ n * postings.length := by
  induction postings with
  | nil => simp [Interests.sends]
  | cons posting rest ih =>
    -- a posting is sent to each projection that follows its kind, once
    have hposting :
        ((List.finRange n).filter fun route => follows route posting.event.kind).length ≤ n := by
      simpa using (List.finRange n).length_filter_le _
    rw [Interests.sends, List.flatMap_cons, List.length_append, List.length_map,
      List.length_cons, Nat.mul_succ]
    exact (Nat.add_le_add hposting ih).trans_eq (Nat.add_comm _ _)

/-- What a call sends at the gate and what the bus holds then take no more turns than what the bus
has held, and the call. -/
theorem work_passGate_le (follows : Interests n) (bus : Bus (Posting m)) (task : Fin m)
    (call : BusCall) :
    2 * (follows.sends (passGate bus task call).2).length +
        postingWork n * ((passGate bus task call).1.held.getD []).length ≤
      callWork n call + postingWork n * (bus.held.getD []).length := by
  obtain ⟨held⟩ := bus
  have hsends := length_sends_le follows (passGate ⟨held⟩ task call).2
  rw [postingWork, Nat.mul_assoc, Nat.mul_assoc]
  cases call with
  | publish event =>
    rw [callWork, postingWork]
    cases held with
    -- at an open bus, the call has its own posting to send
    | none =>
      simp only [passGate, Bus.publish, Option.getD_none, List.length_nil,
        List.length_singleton] at hsends ⊢
      omega
    -- at a gated one, the posting is held for later, and nothing is to be sent
    | some postings =>
      simp only [passGate, Bus.publish, Option.getD_some, List.length_append,
        List.length_singleton] at hsends ⊢
      rw [Nat.mul_succ]
      have hnone : (follows.sends ([] : List (Posting m))).length = 0 := rfl
      omega
  -- what has been held is to be sent now
  | openBus =>
    simp only [passGate, Bus.release, Bus.direct, Option.getD_none, List.length_nil] at hsends ⊢
    rw [callWork]
    omega

/-- With every step, fewer turns are left. -/
theorem Step.work_lt (hstep : Step follows dispatch next) : next.work < dispatch.work := by
  cases hstep with
  | @entered task call rest hfree htask =>
    have hcallers := sum_update callerWork dispatch.callers task ⟨rest, .entered call⟩
    have hcaller : callerWork (dispatch.callers task) =
        callerWork (⟨rest, .entered call⟩ : Caller m n) + 1 := by
      simp only [htask, callerWork, phaseWork, List.map_cons, List.sum_cons]
      omega
    simp only [work]
    omega
  -- the sends that the call brings along are no more than it was counted for
  | @passed task call rest htask =>
    have hgate := work_passGate_le follows dispatch.bus task call
    simp only [work, Dispatch.passed]
    generalize follows.sends (passGate dispatch.bus task call).2 = sends at hgate ⊢
    have hcallers := sum_update callerWork dispatch.callers task ⟨rest, .sending sends⟩
    have hcaller : callerWork (dispatch.callers task) + 2 * sends.length =
        callerWork (⟨rest, .sending sends⟩ : Caller m n) + callWork n call + 1 := by
      simp only [htask, callerWork, phaseWork]
      omega
    omega
  -- a send is counted twice, once for the sending and once for the taking
  | @sent task rest route posting left htask hroom =>
    have hcallers := sum_update callerWork dispatch.callers task ⟨rest, .sending left⟩
    have hcaller : callerWork (dispatch.callers task) =
        callerWork (⟨rest, .sending left⟩ : Caller m n) + 2 := by
      simp only [htask, callerWork, phaseWork, List.length_cons]
      omega
    have hqueues :=
      sum_update List.length dispatch.queues route (dispatch.queues route ++ [posting])
    rw [List.length_append, List.length_singleton] at hqueues
    simp only [work, put]
    omega
  | @finished task rest htask =>
    have hcallers := sum_update callerWork dispatch.callers task ⟨rest, .idle⟩
    have hcaller : callerWork (dispatch.callers task) =
        callerWork (⟨rest, .idle⟩ : Caller m n) + 1 := by
      simp only [htask, callerWork, phaseWork, List.length_nil]
      omega
    simp only [work]
    omega
  | @received route posting rest hqueue =>
    have hqueues := sum_update List.length dispatch.queues route rest
    rw [hqueue, List.length_cons] at hqueues
    simp only [work, taken]
    omega

/-- No more turns can be taken than are left. -/
theorem length_le_work {turns : List (DispatchTurn m n)}
    (h : dispatch.turns? follows turns = some next) :
    turns.length ≤ dispatch.work := by
  induction turns generalizing dispatch with
  | nil => exact Nat.zero_le _
  | cons turn rest ih =>
    rw [turns?, List.foldlM_cons] at h
    obtain ⟨between, hturn, hrest⟩ := Option.bind_eq_some_iff.mp h
    -- the first turn takes some of the work, and the others no more than is left
    have hlt := (step_of_turn? hturn).work_lt
    have hle := ih hrest
    rw [List.length_cons]
    omega

/-- When no turn can be taken any more, all calls have returned and all queues are empty. -/
theorem Guarded.hasReturned (h : dispatch.Guarded)
    (hstuck : ∀ turn, dispatch.turn? follows turn = none) :
    dispatch.HasReturned ∧ ∀ route, dispatch.queues route = [] := by
  have hqueues (route : Fin n) : dispatch.queues route = [] := by
    have hreceive := hstuck (.receive route)
    simp only [turn?] at hreceive
    split at hreceive
    next hqueue => exact hqueue
    next => cases hreceive
  have hidle (task : Fin m) : ∃ calls, dispatch.callers task = ⟨calls, .idle⟩ := by
    -- whatever else the task is at, it can take a turn, since every queue has room
    rcases hcaller : dispatch.callers task with
      ⟨calls, _ | call | _ | ⟨⟨route, posting⟩, rest⟩⟩
    · exact ⟨calls, rfl⟩
    · have hpass := hstuck (.pass task)
      simp only [turn?, hcaller, reduceCtorEq] at hpass
    · have hfinish := hstuck (.finish task)
      simp only [turn?, hcaller, reduceCtorEq] at hfinish
    · have hsend := hstuck (.send task)
      simp only [turn?, hcaller] at hsend
      have hroom : (dispatch.queues route).length < projectionQueueCapacity := by
        rw [hqueues]
        exact Nat.succ_pos 255
      rw [if_pos hroom] at hsend
      cases hsend
  -- a task that holds the lock would not be idle, so those with calls ahead could take it
  have hfree : dispatch.lock = none := by
    refine Option.eq_none_iff_forall_ne_some.mpr fun task hlock => ?_
    obtain ⟨calls, hcaller⟩ := hidle task
    exact h.busy task hlock (by rw [hcaller])
  refine ⟨fun task => ?_, hqueues⟩
  obtain ⟨calls, hcaller⟩ := hidle task
  cases calls with
  | nil => exact hcaller
  | cons call rest =>
    have henter := hstuck (.enter task)
    simp only [turn?, hfree, hcaller, reduceCtorEq] at henter

/-! ### What a gated bus does -/

/-- What a gated bus does for projections, and for tasks with the calls that they make. -/
structure Serves (follows : Interests n) (calls : Fin m → List BusCall) : Prop where
  /-- The calls of a task pass the gate in their order, and until they have returned
  all of them do. -/
  recorded : ∀ dispatch, Reachable follows calls dispatch → ∀ task,
    dispatch.callsOf task <+: calls task ∧
      (dispatch.HasReturned → dispatch.callsOf task = calls task)
  /-- Until the bus is opened it holds all that is published, in order, and nothing is sent. -/
  silent : ∀ dispatch, Reachable follows calls dispatch → ¬ dispatch.IsOpened →
    dispatch.bus.held = some (postings dispatch.log) ∧ ∀ route, dispatch.sent route = []
  /-- Nothing that a task publishes is sent to a projection twice, out of order, or to one that does
  not follow it. -/
  inOrder : ∀ dispatch, Reachable follows calls dispatch → ∀ route task,
    (dispatch.sent route).filter (·.task = task) <+:
      follows.along route (published (calls task) task)
  /-- When all calls have returned, the bus is open if one of them opens it, and everything has
  been sent then. -/
  complete : ∀ dispatch, Reachable follows calls dispatch → dispatch.HasReturned →
    (dispatch.IsOpened ↔ ∃ task, .openBus ∈ calls task) ∧ (dispatch.IsOpened → ∀ route,
      (∀ task, (dispatch.sent route).filter (·.task = task) =
        follows.along route (published (calls task) task)) ∧
        (dispatch.sent route).Perm (follows.along route (postings dispatch.log)))
  /-- What is published before the bus is opened comes first, in order, and behind it what is
  published afterwards. -/
  heldFirst : ∀ dispatch, Reachable follows calls dispatch → dispatch.IsOpened →
    ∃ before opener after, dispatch.log = before ++ (opener, .openBus) :: after ∧
      (∀ entry ∈ before, entry.2 ≠ .openBus) ∧ ∀ route,
        dispatch.sent route <+: follows.along route (postings before) ∨
          ∃ later, dispatch.sent route = follows.along route (postings before) ++ later ∧
            ∀ task, later.filter (·.task = task) <+:
              (follows.along route (postings after)).filter (·.task = task)
  /-- To open the bus again changes neither the bus nor the queues, and there is nothing to send. -/
  reopened : ∀ dispatch, Reachable follows calls dispatch → dispatch.IsOpened → ∀ task rest,
    dispatch.callers task = ⟨rest, .entered .openBus⟩ →
      dispatch.turn? follows (.pass task) = some { dispatch with
        callers := Function.update dispatch.callers task ⟨rest, .sending []⟩
        log := dispatch.log ++ [(task, .openBus)] }
  /-- Only so many turns can be taken. -/
  bounded : ∃ bound, ∀ turns (dispatch : Dispatch m n),
    (start calls).turns? follows turns = some dispatch → turns.length ≤ bound
  /-- When no turn can be taken any more, all calls have returned, and the projections have received
  what has been sent to them. -/
  returned : ∀ dispatch, Reachable follows calls dispatch →
    (∀ turn, dispatch.turn? follows turn = none) →
    dispatch.HasReturned ∧ ∀ route, dispatch.received route = dispatch.sent route

/-- Once a call to open the bus has passed the gate, what is sent is that of an open bus. -/
theorem Ordered.exists_opened (h : dispatch.Ordered follows calls) (hopened : dispatch.IsOpened) :
    ∃ before after, dispatch.Opened follows before after := by
  obtain ⟨entry, hentry, hopen⟩ := hopened
  exact h.gate.resolve_left fun hclosed => hclosed.log entry hentry hopen

/-- Before one has, it is that of a closed bus. -/
theorem Ordered.closed (h : dispatch.Ordered follows calls) (hclosed : ¬ dispatch.IsOpened) :
    dispatch.Closed := by
  refine h.gate.resolve_right ?_
  rintro ⟨before, after, hopened⟩
  obtain ⟨opener, hlog⟩ := hopened.log
  exact hclosed ⟨(opener, .openBus), by rw [hlog]; simp, rfl⟩

/-- When all calls have returned and the bus is open, all that the tasks publish has been sent. -/
theorem Ordered.complete (h : dispatch.Ordered follows calls) (hreturned : dispatch.HasReturned)
    (hopened : dispatch.IsOpened) (route : Fin n) (task : Fin m) :
    (dispatch.sent route).filter (·.task = task) =
      follows.along route (published (calls task) task) := by
  obtain ⟨before, after, h'⟩ := h.exists_opened hopened
  rw [← hreturned.callsOf h.recorded task, ← h'.filter_sent, hreturned.underLock,
    hreturned.unguarded, sendsTo_nil, List.append_nil, List.append_nil]

/-- When all calls have returned, the bus is open if one of them opens it. -/
theorem HasReturned.isOpened_iff (h : dispatch.HasReturned) (hrecorded : dispatch.Recorded calls) :
    dispatch.IsOpened ↔ ∃ task, .openBus ∈ calls task := by
  -- the log has all calls of every task
  have hcalls (task : Fin m) : .openBus ∈ calls task ↔ (task, .openBus) ∈ dispatch.log := by
    rw [← h.callsOf hrecorded task, Dispatch.callsOf]
    simp
  simp only [hcalls]
  constructor
  · rintro ⟨⟨task, call⟩, hentry, rfl⟩
    exact ⟨task, hentry⟩
  · rintro ⟨task, hentry⟩
    exact ⟨_, hentry, rfl⟩

/-- A gated bus loses no event, sends none twice and keeps the order of each task, however its
callers and the projections take turns. -/
theorem serves (follows : Interests n) (calls : Fin m → List BusCall) : Serves follows calls where
  recorded dispatch hreachable task := by
    have h := hreachable.ordered
    exact ⟨⟨_, h.recorded task⟩, fun hreturned => hreturned.callsOf h.recorded task⟩
  silent dispatch hreachable hclosed := by
    have h := hreachable.ordered.closed hclosed
    exact ⟨h.held, h.sent⟩
  inOrder dispatch hreachable := hreachable.ordered.inOrder
  complete dispatch hreachable hreturned := by
    have h := hreachable.ordered
    refine ⟨hreturned.isOpened_iff h.recorded, fun hopened route => ?_⟩
    have hall (task : Fin m) := h.complete hreturned hopened route task
    -- task by task, what is sent is what is due
    refine ⟨hall, perm_of_filter_eq Posting.task fun task => ?_⟩
    rw [hall task, ← hreturned.callsOf h.recorded task, callsOf, ← filter_postings]
    exact List.filter_comm _ _ _
  heldFirst dispatch hreachable hopened := by
    obtain ⟨before, after, h⟩ := hreachable.ordered.exists_opened hopened
    obtain ⟨opener, hlog⟩ := h.log
    exact ⟨before, opener, after, hlog, h.first, h.heldFirst⟩
  reopened dispatch hreachable hopened task rest htask := by
    obtain ⟨before, after, h⟩ := hreachable.ordered.exists_opened hopened
    exact h.turn?_pass htask
  bounded := ⟨_, fun _ _ => length_le_work⟩
  returned dispatch hreachable hstuck := by
    obtain ⟨hreturned, hqueues⟩ := hreachable.ordered.guarded.hasReturned hstuck
    refine ⟨hreturned, fun route => ?_⟩
    rw [sent, hqueues, List.append_nil]

/-- The first task publishes an event before the third one opens the bus. What the second one
publishes in the meantime waits for the lock until that event is sent. -/
example (event other : ClusterEvent) :
    ((start ![[.publish event], [.publish other], [.openBus]] : Dispatch 3 1).turns?
      (fun _ _ => true)
        [.enter 0, .pass 0, .finish 0, .enter 2, .pass 2, .send 2, .finish 2, .enter 1,
          .pass 1, .send 1]).map
      (fun dispatch => dispatch.sent 0) = some [⟨0, event⟩, ⟨1, other⟩] := rfl

end Dispatch

end ClusterWatch
