import Mathlib.Data.List.Perm.Basic
import Mathlib.Logic.Relation
import ClusterWatch.NodeAgent.Pool

/-!
# The bounded join

The calls of a question are made side by side, a limited number of them at a time. A call is started
as soon as there is room for it, in the order of the calls, and any of those in progress may be the
next to complete. So the same calls can complete in many orders, and the one that their durations
lead to is only one of them.

* `FanOut.Join`, `FanOut.Join.Step` — the calls part way through, and what can happen next.
* `FanOut.Join.finished_or_exists_step`, `FanOut.Join.exists_not_step` — a join goes on until all
  calls are completed, and not for ever.
* `FanOut.Completes`, `FanOut.perm_of_completes` — the orders of completion, each of them an order
  of the same calls.
* `FanOut.eq_of_completes`, `FanOut.exists_completes_last` — one at a time, the calls complete in
  their own order; if there is room for two, any of them may be the last.
* `FanOut.completes_completionOrder` — the order that the durations lead to.
* `FanOut.exists_completionOrder_last` — if there is room for two, there are durations with which
  a given call is the last.
-/

namespace ClusterWatch

namespace FanOut

variable {τ : Type}

/-- The calls of a question part way through. -/
structure Join (τ : Type) where
  /-- The completed calls, in the order of their completion. -/
  completed : List (AgentCall τ)
  /-- The calls in progress. -/
  running : List (AgentCall τ)
  /-- The calls that have not been started, the next one first. -/
  waiting : List (AgentCall τ)

namespace Join

/-- Nothing has been started. -/
def start (calls : List (AgentCall τ)) : Join τ :=
  ⟨[], [], calls⟩

/-- Everything has been completed. -/
def finished (completed : List (AgentCall τ)) : Join τ :=
  ⟨completed, [], []⟩

/-- What can happen next to a join of a width. -/
inductive Step (width : Nat) : Join τ → Join τ → Prop where
  /-- There is room for the next call, and it is started. -/
  | start (completed running waiting : List (AgentCall τ)) (call : AgentCall τ)
    (hroom : running.length < width) :
      Step width ⟨completed, running, call :: waiting⟩
        ⟨completed, running ++ [call], waiting⟩
  /-- Nothing more can be started, and one of the calls in progress completes. -/
  | complete (completed before after waiting : List (AgentCall τ)) (call : AgentCall τ)
      (hfull : width ≤ (before ++ call :: after).length ∨ waiting = []) :
      Step width ⟨completed, before ++ call :: after, waiting⟩
        ⟨completed ++ [call], before ++ after, waiting⟩

/-- Some steps lead from one join to another. -/
abbrev Reaches (width : Nat) : Join τ → Join τ → Prop :=
  Relation.ReflTransGen (Step width)

/-- All calls of a join. -/
def calls (join : Join τ) : List (AgentCall τ) :=
  join.completed ++ join.running ++ join.waiting

/-- How many steps there are left. -/
def left (join : Join τ) : Nat :=
  2 * join.waiting.length + join.running.length

variable {width : Nat} {join next : Join τ}

/-! ### What a step preserves -/

/-- A step neither loses a call nor adds one. -/
theorem step_perm (h : join.Step width next) : join.calls.Perm next.calls := by
  cases h with
  | start completed running waiting call _ => simp [calls]
  | complete completed before after waiting call _ =>
    -- the call moves in front of those that stood before it
    simp only [calls, List.append_assoc, List.cons_append]
    apply List.Perm.append_left
    exact List.perm_middle

/-- Every step brings the end one step nearer. -/
theorem step_left (h : join.Step width next) : next.left + 1 = join.left := by
  cases h with
  | start => simp only [left, List.length_append, List.length_cons, List.length_nil]; omega
  | complete => simp only [left, List.length_append, List.length_cons]; omega

/-- No step has more calls in progress than the width allows. -/
theorem step_running (h : join.Step width next) (hwidth : join.running.length ≤ width) :
    next.running.length ≤ width := by
  cases h with
  | start completed running waiting call hroom => simpa using Nat.succ_le_of_lt hroom
  | complete completed before after waiting call _ =>
    simp only [List.length_append, List.length_cons] at hwidth ⊢
    omega

/-- One call at a time keeps the order of the calls. -/
theorem step_calls_of_one (h : join.Step 1 next) (hwidth : join.running.length ≤ 1) :
    next.calls = join.calls := by
  cases h with
  | start completed running waiting call _ => simp [calls]
  | complete completed before after waiting call _ =>
    -- the call that completes is the only one in progress, so that it does not overtake any other
    simp only [List.length_append, List.length_cons] at hwidth
    obtain rfl : before = [] := List.eq_nil_of_length_eq_zero (by omega)
    simp [calls]

/-! ### Runs -/

/-- No calls are lost or added on the way. -/
theorem reaches_perm (h : join.Reaches width next) : join.calls.Perm next.calls := by
  induction h with
  | refl => exact List.Perm.refl _
  | tail _ hstep ih => exact ih.trans (step_perm hstep)

/-- The width is never exceeded on the way. -/
theorem reaches_running (h : join.Reaches width next) (hwidth : join.running.length ≤ width) :
    next.running.length ≤ width := by
  induction h with
  | refl => exact hwidth
  | tail _ hstep ih => exact step_running hstep ih

/-- One call at a time, the calls keep their order all the way. -/
theorem reaches_calls_of_one (h : join.Reaches 1 next) (hwidth : join.running.length ≤ 1) :
    next.calls = join.calls := by
  induction h with
  | refl => rfl
  | tail hreaches hstep ih => rw [step_calls_of_one hstep (reaches_running hreaches hwidth), ih]

/-- As many calls as there is room for can be started at once. -/
theorem reaches_started (completed running waiting : List (AgentCall τ)) (n : Nat)
    (hroom : running.length + n ≤ width) :
    Reaches width ⟨completed, running, waiting⟩
      ⟨completed, running ++ waiting.take n, waiting.drop n⟩ := by
  induction n generalizing running waiting with
  | zero => simpa using Relation.ReflTransGen.refl
  | succ n ih =>
    -- with no calls left, there is nothing more to start
    cases waiting with
    | nil => simpa using Relation.ReflTransGen.refl
    | cons call waiting =>
      have hstep : Step width ⟨completed, running, call :: waiting⟩
          ⟨completed, running ++ [call], waiting⟩ :=
        .start _ _ _ _ (by omega)
      have hrest :=
        ih (running ++ [call]) waiting
          (by simp only [List.length_append, List.length_singleton]; omega)
      rw [List.append_assoc, List.singleton_append] at hrest
      exact hrest.head hstep

/-! ### Progress -/

/-- Unless all calls are completed, something can happen. -/
theorem finished_or_exists_step (join : Join τ) (hwidth : 0 < width) :
    (∃ completed, join = finished completed) ∨ ∃ next, join.Step width next := by
  rcases join with ⟨completed, running, waiting⟩
  cases waiting with
  | nil =>
    cases running with
    | nil => exact .inl ⟨completed, rfl⟩
    | cons call rest => exact .inr ⟨_, .complete completed [] rest [] call (.inr rfl)⟩
  | cons first waiting =>
    right
    by_cases hroom : running.length < width
    · exact ⟨_, .start completed running waiting first hroom⟩
    · -- there is no room, so that some call is in progress
      cases running with
      | nil => exact absurd hwidth hroom
      | cons call rest =>
        exact ⟨_, .complete completed [] rest _ call (.inl (Nat.le_of_not_lt hroom))⟩

/-- No run goes on for ever. -/
theorem exists_not_step (width : Nat) (run : Nat → Join τ) :
    ∃ n, ¬ (run n).Step width (run (n + 1)) := by
  by_contra hendless
  simp only [not_exists, not_not] at hendless
  -- every step takes one from what is left, and there is only so much
  have hleft (n : Nat) : (run n).left + n = (run 0).left := by
    induction n with
    | zero => rfl
    | succ n ih =>
      have hless := step_left (hendless n)
      omega
  have hover := hleft ((run 0).left + 1)
  omega

/-- If there is room for two, any call that is not completed may be the last to be. -/
theorem exists_reaches_last (hwidth : 2 ≤ width) {call : AgentCall τ}
    (hcall : call ∈ join.running ++ join.waiting) :
    ∃ earlier, join.Reaches width (finished (earlier ++ [call])) := by
  -- by induction on what is left: as long as another call can complete, it goes first
  induction hleft : join.left using Nat.strongRecOn generalizing join with
  | _ n ih =>
    have hnext {next : Join τ} (hstep : join.Step width next)
        (hkept : call ∈ next.running ++ next.waiting) :
        ∃ earlier, join.Reaches width (finished (earlier ++ [call])) := by
      have hless := step_left hstep
      obtain ⟨earlier, hearlier⟩ := ih next.left (by omega) hkept rfl
      exact ⟨earlier, hearlier.head hstep⟩
    rcases join with ⟨completed, running, waiting⟩
    by_cases hroom : running.length < width ∧ waiting ≠ []
    · obtain ⟨first, rest, rfl⟩ := List.exists_cons_of_ne_nil hroom.2
      exact hnext (.start completed running rest first hroom.1) (by simpa [or_assoc] using hcall)
    · have hfull : width ≤ running.length ∨ waiting = [] := by
        by_cases hnone : waiting = []
        · exact .inr hnone
        · exact .inl (Nat.le_of_not_lt fun hless => hroom ⟨hless, hnone⟩)
      match running with
      | [] =>
        rcases hfull with hfull | rfl
        · simp only [List.length_nil] at hfull
          omega
        · simp at hcall
      | [only] =>
        -- the only call in progress is the one that is wanted, and nothing waits
        rcases hfull with hfull | rfl
        · simp only [List.length_singleton] at hfull
          omega
        · obtain rfl : call = only := by simpa using hcall
          exact ⟨completed, .single (.complete completed [] [] [] call (.inr rfl))⟩
      | first :: second :: rest =>
        by_cases hfirst : call ∈ second :: rest ++ waiting
        · exact hnext (.complete completed [] (second :: rest) waiting first hfull) hfirst
        · obtain rfl : call = first := by
            rcases List.mem_cons.mp hcall with heq | hmem
            · exact heq
            · exact absurd hmem hfirst
          exact hnext (.complete completed [call] rest waiting second hfull) (by simp)

end Join

/-! ### Orders of completion -/

/-- Calls can complete in an order if at most `width` of them, but at least one, are
made at a time. -/
def Completes (width : Nat) (calls completed : List (AgentCall τ)) : Prop :=
  (Join.start calls).Reaches (max width 1) (.finished completed)

variable {width : Nat} {calls completed : List (AgentCall τ)}

/-- Every call completes once. -/
theorem perm_of_completes (h : Completes width calls completed) : completed.Perm calls := by
  have hperm := Join.reaches_perm h
  simp only [Join.calls, Join.start, Join.finished, List.append_nil, List.nil_append] at hperm
  exact hperm.symm

/-- With a width of at most one, the calls complete in the order in which they are made. -/
theorem eq_of_completes (hwidth : width ≤ 1) (h : Completes width calls completed) :
    completed = calls := by
  rw [Completes, Nat.max_eq_right hwidth] at h
  have heq := Join.reaches_calls_of_one h (Nat.zero_le 1)
  simpa only [Join.calls, Join.start, Join.finished, List.append_nil, List.nil_append] using heq

/-- With a width of two or more, any call may be the last one to complete. -/
theorem exists_completes_last (hwidth : 2 ≤ width) {call : AgentCall τ}
    (hcall : call ∈ calls) :
    ∃ earlier, Completes width calls (earlier ++ [call]) := by
  have hmax : 2 ≤ max width 1 := Nat.le_trans hwidth (Nat.le_max_left _ _)
  exact Join.exists_reaches_last hmax (by simpa [Join.start] using hcall)

/-! ### The order by durations -/

/-- There is a next call to complete unless no call is in progress. -/
theorem nextDone?_eq_none_iff {runs : List (Nat × AgentCall τ)} :
    nextDone? runs = none ↔ runs = [] := by
  cases runs with
  | nil => exact iff_of_true rfl rfl
  | cons run rest =>
    refine iff_of_false ?_ (List.cons_ne_nil _ _)
    unfold nextDone?
    split
    · exact Option.some_ne_none _
    · split <;> exact Option.some_ne_none _

/-- The next call to complete is one of those in progress, and the others stay in their order. -/
theorem of_nextDone?_eq_some {runs rest : List (Nat × AgentCall τ)} {hit : Nat × AgentCall τ}
    (h : nextDone? runs = some (hit, rest)) :
    ∃ before after, runs = before ++ hit :: after ∧ rest = before ++ after := by
  induction runs generalizing hit rest with
  | nil => cases h
  | cons run runs ih =>
    unfold nextDone? at h
    split at h
    next hnone =>
      cases h
      exact ⟨[], runs, rfl, rfl⟩
    -- the first call is chosen, or one of those behind it
    next other others hother =>
      split at h <;> cases h
      · exact ⟨[], runs, rfl, rfl⟩
      · obtain ⟨before, after, rfl, rfl⟩ := ih hother
        exact ⟨run :: before, after, rfl, rfl⟩

/-- No call in progress ends before the next one to complete. -/
theorem le_of_nextDone?_eq_some {runs rest : List (Nat × AgentCall τ)} {hit : Nat × AgentCall τ}
    (h : nextDone? runs = some (hit, rest)) : ∀ run ∈ runs, hit.1 ≤ run.1 := by
  induction runs generalizing hit rest with
  | nil => cases h
  | cons run runs ih =>
    unfold nextDone? at h
    rw [List.forall_mem_cons]
    split at h
    next hnone =>
      cases h
      rw [nextDone?_eq_none_iff.mp hnone]
      exact ⟨Nat.le_refl _, by simp⟩
    next other others hother =>
      -- the first call is compared with the least of those behind it
      have hleast := ih hother
      split at h <;> cases h
      next hle =>
        exact ⟨Nat.le_refl _, fun later hlater => Nat.le_trans hle (hleast later hlater)⟩
      next hlt => exact ⟨Nat.le_of_not_le hlt, hleast⟩

/-- From any point on, the order that the durations lead to is one in which the calls
can complete. -/
theorem reaches_order (hwidth : 0 < width) (fuel now : Nat) (running : List (Nat × AgentCall τ))
    (completed waiting : List (AgentCall τ)) (hrunning : running.length ≤ width)
    (hfuel : fuel = running.length + waiting.length) :
    Join.Reaches width ⟨completed, running.map (·.2), waiting⟩
      (.finished (completed ++ order width fuel now running waiting)) := by
  induction fuel generalizing now running completed waiting with
  | zero =>
    obtain rfl : running = [] := List.eq_nil_of_length_eq_zero (by omega)
    obtain rfl : waiting = [] := List.eq_nil_of_length_eq_zero (by omega)
    simpa [order, Join.finished] using Relation.ReflTransGen.refl
  | succ fuel ih =>
    have hroom : (running.map (·.2)).length + (width - running.length) ≤ width := by
      rw [List.length_map]
      omega
    have hstart :=
      Join.reaches_started completed (running.map (·.2)) waiting (width - running.length) hroom
    unfold order
    simp only
    generalize hruns : running ++
      (waiting.take (width - running.length)).map (fun call => (now + call.duration, call)) = runs
    -- without their times, the calls in progress are those that the join has after starting as
    -- many as it can
    have hcalls : running.map (·.2) ++ waiting.take (width - running.length) =
        runs.map (·.2) := by
      simp [← hruns, Function.comp_def]
    have hlength : runs.length = running.length + min (width - running.length) waiting.length := by
      simp [← hruns]
    rw [hcalls] at hstart
    cases hnext : nextDone? runs with
    | none =>
      -- there is a call left, and room for it if it is not in progress yet
      rw [nextDone?_eq_none_iff.mp hnext, List.length_nil] at hlength
      omega
    | some next =>
      rcases next with ⟨⟨time, call⟩, rest⟩
      obtain ⟨before, after, rfl, rfl⟩ := of_nextDone?_eq_some hnext
      simp only [List.length_append, List.length_cons] at hlength
      have hfull : width ≤ (before.map (·.2) ++ call :: after.map (·.2)).length ∨
          waiting.drop (width - running.length) = [] := by
        simp only [List.length_append, List.length_cons, List.length_map, List.drop_eq_nil_iff]
        omega
      have hrest :=
        ih time (before ++ after) (completed ++ [call]) (waiting.drop (width - running.length))
        (by rw [List.length_append]; omega) (by rw [List.length_append, List.length_drop]; omega)
      rw [List.map_append, List.append_assoc, List.singleton_append] at hrest
      rw [List.map_append, List.map_cons] at hstart
      exact hstart.trans (hrest.head (.complete _ _ _ _ _ hfull))

/-- The order in which the calls are done by their times is a possible order of completion. -/
theorem completes_completionOrder (width : Nat) (calls : List (AgentCall τ)) :
    Completes width calls (completionOrder width calls) := by
  have hwidth : 0 < max width 1 := Nat.lt_of_lt_of_le Nat.one_pos (Nat.le_max_right _ _)
  have h := reaches_order hwidth calls.length 0 [] [] calls (Nat.zero_le _) (by simp)
  rw [List.nil_append] at h
  exact h

/-! ### Durations with which a call is the last -/

/-- If there is room for two and only one call takes any time, it is the last to complete. -/
theorem exists_order_last (hwidth : 2 ≤ width) {time : Nat} {slow : AgentCall τ} (fuel : Nat)
    (running : List (Nat × AgentCall τ)) (waiting : List (AgentCall τ))
    (hfuel : fuel = running.length + waiting.length)
    (hslow : (running ++ waiting.map fun call => (call.duration, call)).filter (0 < ·.1) =
      [(time, slow)]) :
    ∃ earlier, order width fuel 0 running waiting = earlier ++ [slow] := by
  induction fuel generalizing running waiting with
  | zero =>
    obtain rfl : running = [] := List.eq_nil_of_length_eq_zero (by omega)
    obtain rfl : waiting = [] := List.eq_nil_of_length_eq_zero (by omega)
    cases hslow
  | succ fuel ih =>
    unfold order
    simp only [Nat.zero_add]
    generalize hroom : width - running.length = room
    generalize hruns : running ++ (waiting.take room).map (fun call => (call.duration, call)) = runs
    have hlength : runs.length = running.length + min room waiting.length := by
      rw [← hruns, List.length_append, List.length_map, List.length_take]
    have hall : running ++ waiting.map (fun call => (call.duration, call)) =
        runs ++ (waiting.drop room).map fun call => (call.duration, call) := by
      rw [← hruns, List.append_assoc, ← List.map_append, List.take_append_drop]
    rw [hall, List.filter_append] at hslow
    cases hnext : nextDone? runs with
    | none =>
      rw [nextDone?_eq_none_iff.mp hnext, List.length_nil] at hlength
      omega
    | some next =>
      rcases next with ⟨⟨first, call⟩, rest⟩
      have hleast := le_of_nextDone?_eq_some hnext
      obtain ⟨before, after, rfl, rfl⟩ := of_nextDone?_eq_some hnext
      simp only [List.length_append, List.length_cons] at hlength
      rcases Nat.eq_zero_or_pos first with rfl | hpos
      · -- another call completes at once
        obtain ⟨earlier, hearlier⟩ := ih (before ++ after) (waiting.drop room)
          (by rw [List.length_append, List.length_drop]; omega) (by simpa using hslow)
        exact ⟨call :: earlier, congrArg (List.cons call) hearlier⟩
      · -- all calls in progress take their time, so there is only one of them, and no other is
        -- left
        rw [List.filter_eq_self.mpr fun run hrun =>
          decide_eq_true (Nat.lt_of_lt_of_le hpos (hleast run hrun))] at hslow
        have hone := congrArg List.length hslow
        simp only [List.length_append, List.length_cons, List.length_nil] at hone
        obtain rfl : before = [] := List.eq_nil_of_length_eq_zero (by omega)
        obtain rfl : after = [] := List.eq_nil_of_length_eq_zero (by omega)
        obtain rfl : fuel = 0 := by omega
        have heq : (first, call) = (time, slow) := (List.cons.inj hslow).1
        exact ⟨[], congrArg (fun run => [run.2]) heq⟩

end FanOut

namespace AgentCall

variable {τ : Type}

/-- A call that takes another time. -/
def timed (delay : Nat) (call : AgentCall τ) : AgentCall τ :=
  ⟨call.node, delay, call.result.map (·.2)⟩

/-- If it is not given up, it comes to the same. -/
theorem result_timed {delay : Nat} (hdelay : delay ≤ agentTimeout) (call : AgentCall τ) :
    (call.timed delay).result = call.result := by
  have hnode : (call.result.map (·.2)).map (fun value => (call.node, value)) = call.result := by
    unfold result
    split
    next => rfl
    next => cases call.answer <;> rfl
  rw [← hnode]
  exact if_neg (Nat.not_lt.mpr hdelay)

end AgentCall

namespace FanOut

variable {τ : Type} {width : Nat} {calls : List (AgentCall τ)}

/-- If there is room for two, there are durations with which a given call is the
last to complete. -/
theorem exists_completionOrder_last (hwidth : 2 ≤ width) {call : AgentCall τ}
    (hcall : call ∈ calls) :
    ∃ others, others.map AgentCall.result = calls.map AgentCall.result ∧
      ∃ earlier last, completionOrder width others = earlier ++ [last] ∧
        last.result = call.result := by
  obtain ⟨before, after, rfl⟩ := List.append_of_mem hcall
  -- the call takes a millisecond, and the others take no time
  let others := before.map (AgentCall.timed 0) ++ call.timed 1 :: after.map (AgentCall.timed 0)
  have hresults (calls : List (AgentCall τ)) :
      (calls.map (AgentCall.timed 0)).map AgentCall.result = calls.map AgentCall.result := by
    rw [List.map_map]
    exact List.map_congr_left fun call _ => call.result_timed (Nat.zero_le _)
  have hnow (calls : List (AgentCall τ)) :
      ((calls.map (AgentCall.timed 0)).map fun call => (call.duration, call)).filter
        (0 < ·.1) = [] := by
    rw [List.filter_eq_nil_iff, List.map_map, List.forall_mem_map]
    simp [AgentCall.timed, AgentCall.duration]
  have hslow : (others.map fun call => (call.duration, call)).filter (0 < ·.1) =
      [(1, call.timed 1)] := by
    rw [List.map_append, List.map_cons, List.filter_append, hnow, List.filter_cons, hnow]
    rfl
  obtain ⟨earlier, hearlier⟩ :=
    exists_order_last hwidth others.length [] others (Nat.zero_add _).symm hslow
  refine ⟨others, ?_, earlier, call.timed 1, ?_, call.result_timed (by decide)⟩
  · simp only [others, List.map_append, List.map_cons, hresults,
      call.result_timed (show 1 ≤ agentTimeout by decide)]
  · rw [completionOrder, Nat.max_eq_left (Nat.le_of_succ_le hwidth), hearlier]

end FanOut

end ClusterWatch
