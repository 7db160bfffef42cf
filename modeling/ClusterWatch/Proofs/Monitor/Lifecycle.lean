import ClusterWatch.Proofs.Monitor.Tasks

/-!
# The lifecycle of the monitor

Between two deliveries the monitor runs exactly while the config map that sets the thresholds is
there. While it runs it has one task for each check, and their ticks find the thresholds of the last
delivery. Once it has handled the deletion of the config map, nothing is left of that start,
wherever the request to stop has met the tasks.

* `Monitoring.Stage` — what the monitor is at, with all that is known of its tasks then;
  `Stage.step` and `stage_of_reaches` say that no turn leads anywhere else.
* `Monitoring.Since` — what has been done since the monitor was stopped; `Stage.since` says
  so of every run.
* `Monitoring.lifecycle_of_reaches` — what can be relied on between two deliveries.
* `Monitoring.exists_reaches_round` — a round of the agent is one way for the tasks to take turns.
-/

namespace ClusterWatch

namespace Monitoring

variable {origin system next later : Monitoring}

/-! ### Stages -/

/-- Tasks that a start has spawned, one for each of these checks. -/
structure Crew (start : Nat) (checks : List Check) (tasks : List CheckTask) : Prop where
  /-- There is a task for each check, in order. -/
  checks_eq : tasks.map CheckTask.check = checks
  /-- All of them are of this start, and at work. -/
  members : ∀ task ∈ tasks, task.start = start ∧ task.IsAtWork

/-- Before the first check there are no tasks. -/
theorem crew_nil (start : Nat) : Crew start [] [] :=
  ⟨rfl, nofun⟩

section Crew

variable {start : Nat} {checks : List Check} {tasks : List CheckTask}

/-- All tasks of a crew are of one start. -/
theorem Crew.start_eq (h : Crew start checks tasks) : ∀ task ∈ tasks, task.start = start :=
  fun task htask => (h.members task htask).1

/-- A task that is spawned joins the crew, for the next check. -/
theorem Crew.spawn (h : Crew start checks tasks) (check : Check) :
    Crew start (checks ++ [check]) (tasks ++ [⟨check, start, false, .waiting⟩]) := by
  refine ⟨?_, fun task htask => ?_⟩
  · rw [List.map_append, h.checks_eq]
    rfl
  · rcases List.mem_append.mp htask with hbefore | hlast
    · exact h.members task hbefore
    · rw [List.mem_singleton.mp hlast]
      exact ⟨rfl, rfl, nofun⟩

/-- The crew stays together when one of its tasks makes a move. -/
theorem Crew.move (h : Crew start checks tasks) {index : Nat} {task : CheckTask}
    (htask : tasks[index]? = some task) {config : Thresholds} {move : TaskMove} {phase : TaskPhase}
    {acts : List TaskAct} (hmove : task.move? config move = some (phase, acts)) :
    Crew start checks (tasks.set index { task with phase }) := by
  refine ⟨?_, fun other hother => ?_⟩
  · -- a task keeps its check
    obtain ⟨hindex, rfl⟩ := List.getElem?_eq_some_iff.mp htask
    have hchecks : index < (tasks.map CheckTask.check).length := by rwa [List.length_map]
    have hset : (tasks.map CheckTask.check).set index tasks[index].check =
        tasks.map CheckTask.check := by
      rw [← List.getElem_map CheckTask.check (h := hchecks), List.set_getElem_self hchecks]
    rw [List.map_set, hset, h.checks_eq]
  · rcases List.mem_or_eq_of_mem_set hother with hold | rfl
    · exact h.members other hold
    · obtain ⟨hstart, hatWork⟩ := h.members task (List.mem_of_getElem? htask)
      exact ⟨hstart, hatWork.move hmove⟩

end Crew

/-- What the monitor is at, and what its tasks are like then. -/
inductive Stage (system : Monitoring) : Prop
  /-- It is stopped, without any task. -/
  | stopped (hidle : system.errand = none) (hmonitor : system.monitor = .after system.handled)
      (hoff : system.monitor.thresholds? = none) (htasks : system.tasks = [])
  /-- It runs, with a task for each check. -/
  | running (hidle : system.errand = none) (hmonitor : system.monitor = .after system.handled)
      (hconfig : system.monitor.thresholds? = some system.config)
        (hcrew : Crew system.starts Check.all system.tasks)
  /-- It is started, with tasks for the first checks. -/
  | starting (delivery : Delivery ConfigMap) (spawned rest : List Check)
      (herrand : system.errand = some (.starting delivery rest))
        (hmonitor : system.monitor = .after system.handled)
      (hconfig : (system.monitor.onConfigMap delivery).thresholds? = some system.config)
      (hchecks : spawned ++ rest = Check.all) (hcrew : Crew system.starts spawned system.tasks)
  /-- It is stopped, and tasks of the last start are left. -/
  | stopping (delivery : Delivery ConfigMap) (herrand : system.errand = some (.stopping delivery))
      (hmonitor : system.monitor = .after (system.handled ++ [delivery]))
        (hoff : system.monitor.thresholds? = none)
      (hstart : ∀ task ∈ system.tasks, task.start = system.starts)

/-- At first the monitor is stopped. -/
theorem stage_initial : initial.Stage :=
  .stopped rfl rfl rfl rfl

/-- Tasks are always of the last start. -/
theorem Stage.start_eq (h : system.Stage) :
    ∀ task ∈ system.tasks, task.start = system.starts := by
  cases h with
  | stopped hidle hmonitor hoff htasks => exact htasks ▸ nofun
  | running hidle hmonitor hconfig hcrew => exact hcrew.start_eq
  | starting delivery spawned rest herrand hmonitor hconfig hchecks hcrew => exact hcrew.start_eq
  | stopping delivery herrand hmonitor hoff hstart => exact hstart

/-- Between two deliveries the monitor is what they have made it, and has a task for each
check if it runs. -/
theorem Stage.of_idle (h : system.Stage) (hidle : system.errand = none) :
    system.monitor = .after system.handled ∧
      (system.monitor.thresholds? = none ∧ system.tasks = [] ∨
        system.monitor.thresholds? = some system.config ∧
          Crew system.starts Check.all system.tasks) := by
  cases h with
  | stopped _ hmonitor hoff htasks => exact ⟨hmonitor, .inl ⟨hoff, htasks⟩⟩
  | running _ hmonitor hconfig hcrew => exact ⟨hmonitor, .inr ⟨hconfig, hcrew⟩⟩
  | starting delivery spawned rest herrand => cases hidle.symm.trans herrand
  | stopping delivery herrand => cases hidle.symm.trans herrand

/-- A monitor that is stopped has no tasks left. -/
theorem Stage.tasks_eq_nil (h : system.Stage) (hidle : system.errand = none)
    (hoff : system.monitor.thresholds? = none) : system.tasks = [] := by
  rcases (h.of_idle hidle).2 with ⟨-, htasks⟩ | ⟨hconfig, -⟩
  · exact htasks
  · cases hoff.symm.trans hconfig

/-- A monitor that runs has a task for each check. -/
theorem Stage.crew (h : system.Stage) (hidle : system.errand = none)
    (hrunning : system.monitor.isRunning = true) :
    Crew system.starts Check.all system.tasks := by
  rcases (h.of_idle hidle).2 with ⟨hoff, -⟩ | ⟨-, hcrew⟩
  · rw [Monitor.isRunning_eq_isSome, hoff] at hrunning
    cases hrunning
  · exact hcrew

/-- Between a delivery that starts the monitor and its end, some of the checks have their tasks and
the rest is to be spawned. -/
theorem Stage.of_starting (h : system.Stage) {delivery : Delivery ConfigMap} {rest : List Check}
    (herrand : system.errand = some (.starting delivery rest)) :
    system.monitor = .after system.handled ∧
      (system.monitor.onConfigMap delivery).thresholds? = some system.config ∧
      ∃ spawned, spawned ++ rest = Check.all ∧ Crew system.starts spawned system.tasks := by
  cases h with
  | starting _ spawned _ hstarting hmonitor hconfig hchecks hcrew =>
    obtain ⟨rfl, rfl⟩ : delivery = _ ∧ rest = _ := by simpa using herrand.symm.trans hstarting
    exact ⟨hmonitor, hconfig, spawned, hchecks, hcrew⟩
  | stopped hidle => cases herrand.symm.trans hidle
  | running hidle => cases herrand.symm.trans hidle
  | stopping _ hstopping => cases herrand.symm.trans hstopping

/-- While the monitor stops its tasks, it has counted the delivery already, and is off. -/
theorem Stage.of_stopping (h : system.Stage) {delivery : Delivery ConfigMap}
    (herrand : system.errand = some (.stopping delivery)) :
    system.monitor = .after (system.handled ++ [delivery]) ∧
      system.monitor.thresholds? = none := by
  cases h with
  | stopping _ hstopping hmonitor hoff =>
    obtain rfl : delivery = _ := by simpa using herrand.symm.trans hstopping
    exact ⟨hmonitor, hoff⟩
  | stopped hidle => cases herrand.symm.trans hidle
  | running hidle => cases herrand.symm.trans hidle
  | starting _ _ _ hstarting => cases herrand.symm.trans hstarting

/-- Taking up a delivery leads to a stage. Which one it is can be told from the thresholds before
and after it. -/
theorem Stage.begin (h : system.Stage) (hidle : system.errand = none)
    (delivery : Delivery ConfigMap) :
    (system.begin delivery).Stage := by
  obtain ⟨hbefore, hstage⟩ := h.of_idle hidle
  have hmonitor : system.monitor.onConfigMap delivery = .after (system.handled ++ [delivery]) := by
    rw [Monitor.after_concat, ← hbefore]
  -- whether the monitor was on, and whether it is to be
  rcases hstage with ⟨hoff, htasks⟩ | ⟨hconfig, hcrew⟩ <;>
    cases hafter : (system.monitor.onConfigMap delivery).thresholds?
  case inl.none =>
    simp only [Monitoring.begin, hoff, hafter]
    exact .stopped hidle hmonitor hafter htasks
  case inl.some config =>
    simp only [Monitoring.begin, hoff, hafter]
    exact .starting delivery [] Check.all rfl hbefore hafter rfl (htasks ▸ crew_nil _)
  case inr.none =>
    simp only [Monitoring.begin, hconfig, hafter]
    exact .stopping delivery rfl hmonitor hafter hcrew.start_eq
  case inr.some config =>
    simp only [Monitoring.begin, hconfig, hafter]
    exact .running hidle hmonitor hafter hcrew

/-- A move of a task leaves the monitor at its stage. -/
theorem Stage.move (h : system.Stage) {index : Nat} {task : CheckTask}
    (htask : system.tasks[index]? = some task) {move : TaskMove} {phase : TaskPhase}
    {acts : List TaskAct} (hmove : task.move? system.config move = some (phase, acts))
    (log : List Deed) :
    { system with tasks := system.tasks.set index { task with phase }, log }.Stage := by
  cases h with
  | stopped hidle hmonitor hoff htasks =>
    rw [htasks] at htask
    cases htask
  | running hidle hmonitor hconfig hcrew =>
    exact .running hidle hmonitor hconfig (hcrew.move htask hmove)
  | starting delivery spawned rest herrand hmonitor hconfig hchecks hcrew =>
    exact .starting delivery spawned rest herrand hmonitor hconfig hchecks (hcrew.move htask hmove)
  | stopping delivery herrand hmonitor hoff hstart =>
    -- the task may have been asked to stop, so all that is left to know of it is its start
    refine .stopping delivery herrand hmonitor hoff fun other hother => ?_
    rcases List.mem_or_eq_of_mem_set hother with hold | rfl
    · exact hstart other hold
    · exact hstart task (List.mem_of_getElem? htask)

/-- Every turn leads from a stage to a stage. -/
theorem Stage.step (h : system.Stage) (hstep : system.Step next) : next.Stage := by
  cases hstep with
  | begin delivery hidle => exact h.begin hidle delivery
  | spawn delivery check rest herrand =>
    obtain ⟨hmonitor, hconfig, spawned, hchecks, hcrew⟩ := h.of_starting herrand
    refine .starting delivery (spawned ++ [check]) rest rfl hmonitor hconfig ?_ (hcrew.spawn check)
    rw [List.append_assoc]
    exact hchecks
  -- the task that is asked stays of its start
  | ask delivery task rest herrand htasks =>
    obtain ⟨hmonitor, hoff⟩ := h.of_stopping herrand
    refine .stopping delivery herrand hmonitor hoff fun other hother => ?_
    rcases List.mem_cons.mp hother with rfl | hrest
    · exact h.start_eq task (htasks ▸ List.mem_cons_self)
    · exact h.start_eq other (htasks ▸ List.mem_cons_of_mem _ hrest)
  | join delivery task rest herrand htasks =>
    obtain ⟨hmonitor, hoff⟩ := h.of_stopping herrand
    exact .stopping delivery herrand hmonitor hoff fun other hother =>
      h.start_eq other (htasks ▸ List.mem_cons_of_mem _ hother)
  -- all checks have been spawned, so that the crew is whole
  | started delivery herrand =>
    obtain ⟨hmonitor, hconfig, spawned, hchecks, hcrew⟩ := h.of_starting herrand
    rw [List.append_nil] at hchecks
    refine .running rfl ?_ hconfig (hchecks ▸ hcrew)
    rw [Monitor.after_concat, ← hmonitor]
  | stopped delivery herrand htasks =>
    obtain ⟨hmonitor, hoff⟩ := h.of_stopping herrand
    exact .stopped rfl hmonitor hoff htasks
  | move index task move phase acts htask hmove => exact h.move htask hmove _

/-- Every reachable system is at some stage. -/
theorem stage_of_reaches (h : initial.Reaches system) : system.Stage :=
  h.induct Stage .step stage_initial

/-! ### After a stop -/

/-- What has been done since the monitor was stopped: nothing but what tasks of later
starts have done. -/
structure Since (origin system : Monitoring) : Prop where
  /-- Whatever has been done is the deed of a later start. -/
  log_eq : ∃ deeds, system.log = origin.log ++ deeds ∧
    ∀ deed ∈ deeds, origin.starts < deed.start ∧ deed.start ≤ system.starts
  /-- There is a later start, or there are no tasks. -/
  restarted : origin.starts < system.starts ∨
    system.starts = origin.starts ∧ system.errand = none ∧ system.monitor.thresholds? = none ∧
      system.tasks = []

/-- A monitor that is stopped is so since now. -/
theorem since_refl (hidle : system.errand = none) (hoff : system.monitor.thresholds? = none)
    (htasks : system.tasks = []) : system.Since system :=
  ⟨⟨[], (List.append_nil _).symm, nofun⟩, .inr ⟨rfl, hidle, hoff, htasks⟩⟩

/-- To begin with a delivery logs nothing. -/
theorem log_begin (system : Monitoring) (delivery : Delivery ConfigMap) :
    (system.begin delivery).log = system.log := by
  simp only [Monitoring.begin]
  split <;> rfl

/-- To begin with a delivery may start the monitor once more. -/
theorem starts_le_starts_begin (system : Monitoring) (delivery : Delivery ConfigMap) :
    system.starts ≤ (system.begin delivery).starts := by
  simp only [Monitoring.begin]
  split <;> simp

/-- A monitor that is stopped stays so through a delivery, or is started. -/
theorem Since.begin (h : origin.Since system) (hidle : system.errand = none)
    (delivery : Delivery ConfigMap) :
    origin.Since (system.begin delivery) := by
  have hle := system.starts_le_starts_begin delivery
  refine ⟨?_, ?_⟩
  · -- the log stays, and the starts do not go back
    obtain ⟨deeds, hlog, hdeeds⟩ := h.log_eq
    refine ⟨deeds, (system.log_begin delivery).trans hlog, fun deed hdeed => ?_⟩
    exact ⟨(hdeeds deed hdeed).1, Nat.le_trans (hdeeds deed hdeed).2 hle⟩
  · rcases h.restarted with hlater | ⟨hstarts, -, hoff, htasks⟩
    · exact .inl (Nat.lt_of_lt_of_le hlater hle)
    -- the delivery leaves the monitor off, or starts it
    · cases hafter : (system.monitor.onConfigMap delivery).thresholds? with
      | none =>
        simp only [Monitoring.begin, hoff, hafter]
        exact .inr ⟨hstarts, hidle, trivial, htasks⟩
      | some config =>
        simp only [Monitoring.begin, hoff, hafter]
        exact .inl (hstarts ▸ Nat.lt_succ_self _)

/-- Where something is being handled, there is a later start. -/
theorem Since.lt_of_errand (h : origin.Since system) {errand : Errand}
    (herrand : system.errand = some errand) :
    origin.starts < system.starts := by
  rcases h.restarted with hlater | ⟨-, hidle, -⟩
  · exact hlater
  · cases herrand.symm.trans hidle

/-- Where there is a task, there is a later start. -/
theorem Since.lt_of_mem (h : origin.Since system) {task : CheckTask}
    (htask : task ∈ system.tasks) :
    origin.starts < system.starts := by
  rcases h.restarted with hlater | ⟨-, -, -, htasks⟩
  · exact hlater
  · rw [htasks] at htask
    cases htask

/-- No turn does anything for a start that is over. -/
theorem Since.step (h : origin.Since system) (hstage : system.Stage) (hstep : system.Step next) :
    origin.Since next := by
  cases hstep with
  | begin delivery hidle => exact h.begin hidle delivery
  | spawn delivery check rest herrand => exact ⟨h.log_eq, .inl (h.lt_of_errand herrand)⟩
  | ask delivery task rest herrand => exact ⟨h.log_eq, .inl (h.lt_of_errand herrand)⟩
  | join delivery task rest herrand => exact ⟨h.log_eq, .inl (h.lt_of_errand herrand)⟩
  | started delivery herrand => exact ⟨h.log_eq, .inl (h.lt_of_errand herrand)⟩
  | stopped delivery herrand => exact ⟨h.log_eq, .inl (h.lt_of_errand herrand)⟩
  | move index task move phase acts htask hmove =>
    have hmem : task ∈ system.tasks := List.mem_of_getElem? htask
    have hlater := h.lt_of_mem hmem
    refine ⟨?_, .inl hlater⟩
    -- the task is of the last start, and so are its deeds
    obtain ⟨deeds, hlog, hdeeds⟩ := h.log_eq
    refine ⟨deeds ++ task.deeds acts, by rw [hlog, List.append_assoc], fun deed hdeed => ?_⟩
    rcases List.mem_append.mp hdeed with hbefore | hnew
    · exact hdeeds deed hbefore
    · obtain ⟨act, -, rfl⟩ := List.mem_map.mp hnew
      show origin.starts < task.start ∧ task.start ≤ system.starts
      rw [hstage.start_eq task hmem]
      exact ⟨hlater, Nat.le_refl _⟩

/-- Once the monitor has been stopped, all that is done is the deed of a later start. -/
theorem Stage.since (h : system.Stage) (hidle : system.errand = none)
    (hoff : system.monitor.thresholds? = none) (hlater : system.Reaches later) :
    system.Since later := by
  -- that tasks are of the last start is part of what carries the induction
  have hboth : later.Stage ∧ system.Since later := by
    refine hlater.induct (fun between => between.Stage ∧ system.Since between) ?_ ?_
    · rintro between next ⟨hstage, hsince⟩ hstep
      exact ⟨hstage.step hstep, hsince.step hstage hstep⟩
    · exact ⟨h, since_refl hidle hoff (h.tasks_eq_nil hidle hoff)⟩
  exact hboth.2

/-! ### The lifecycle -/

/-- What can be relied on between two deliveries. -/
structure Lifecycle (system : Monitoring) : Prop where
  /-- The monitor runs exactly when the last delivery of the config map that sets the thresholds has
  left it there. -/
  running_iff : system.monitor.isRunning = true ↔ (Monitor.config? system.handled).isSome = true
  /-- While it runs, there is exactly one task for each check. All of them are of the last
  start, and at work. -/
  crew : system.monitor.isRunning = true → Crew system.starts Check.all system.tasks
  /-- A tick starts the check with the thresholds of the config map as it was last delivered. -/
  tick_eq : ∀ index next, system.turn? (.move index .tick) = some next →
    ∃ task config, system.tasks[index]? = some task ∧
      Monitor.config? system.handled = some config ∧ next = { system with
        tasks := system.tasks.set index { task with phase := .checking (.ofData config.data) }
        log := system.log ++ task.deeds [.ticked (.ofData config.data)] }
  /-- Once the config map is gone, there is no task, and what is done from then on is done by tasks
  of later starts. -/
  silent : Monitor.config? system.handled = none →
    system.tasks = [] ∧ ∀ later, system.Reaches later →
      (∀ task ∈ later.tasks, system.starts < task.start) ∧
      ∃ deeds, later.log = system.log ++ deeds ∧
        ∀ deed ∈ deeds, system.starts < deed.start ∧ deed.start ≤ later.starts

/-- Between two deliveries the thresholds in force are those of the config map that
has been left. -/
theorem Stage.thresholds?_eq (h : system.Stage) (hidle : system.errand = none) :
    system.monitor.thresholds? =
      (Monitor.config? system.handled).map fun config => .ofData config.data := by
  rw [(h.of_idle hidle).1]
  exact Monitor.thresholds?_after system.handled

/-- A task that ticks is of a monitor that runs, and so finds the thresholds that are in force. -/
theorem Stage.exists_of_tick (h : system.Stage) (hidle : system.errand = none) {index : Nat}
    (hturn : system.turn? (.move index .tick) = some next) :
    ∃ task config, system.tasks[index]? = some task ∧
      Monitor.config? system.handled = some config ∧ next = { system with
        tasks := system.tasks.set index { task with phase := .checking (.ofData config.data) }
        log := system.log ++ task.deeds [.ticked (.ofData config.data)] } := by
  obtain ⟨task, phase, acts, htask, hmove, rfl⟩ := turn?_move_eq_some hturn
  obtain ⟨-, -, rfl, rfl⟩ := CheckTask.move?_tick_eq_some_iff.mp hmove
  have hforce := h.thresholds?_eq hidle
  rcases (h.of_idle hidle).2 with ⟨-, htasks⟩ | ⟨hconfig, -⟩
  · -- a monitor that is off has no task to tick
    rw [htasks] at htask
    cases htask
  · rw [hconfig] at hforce
    obtain ⟨config, hleft, hdata⟩ := Option.map_eq_some_iff.mp hforce.symm
    exact ⟨task, config, htask, hleft, by rw [hdata]⟩

/-- However deliveries and the moves of the tasks follow on each other, what is being handled can be
brought to an end, and between two deliveries the monitor runs, checks and is silent as the
deliveries tell it. -/
theorem lifecycle_of_reaches (h : initial.Reaches system) :
    (∃ later, system.Reaches later ∧ later.errand = none ∧
      later.handled = system.handled ++ system.errand.toList.map Errand.delivery) ∧
    (system.errand = none → system.Lifecycle) := by
  refine ⟨exists_reaches_idle system, fun hidle => ?_⟩
  have hstage := stage_of_reaches h
  have hforce := hstage.thresholds?_eq hidle
  exact
    { running_iff := by rw [Monitor.isRunning_eq_isSome, hforce, Option.isSome_map]
      crew := hstage.crew hidle
      tick_eq := fun index next hturn => hstage.exists_of_tick hidle hturn
      silent := fun hgone => by
        have hoff : system.monitor.thresholds? = none := by rw [hforce, hgone]; rfl
        refine ⟨hstage.tasks_eq_nil hidle hoff, fun later hlater => ?_⟩
        have hsince := hstage.since hidle hoff hlater
        refine ⟨fun task htask => ?_, hsince.log_eq⟩
        -- a task is of the last start, and there is a later one where there is a task
        rw [(stage_of_reaches (h.trans hlater)).start_eq task htask]
        exact hsince.lt_of_mem htask }

/-- The config map is updated without ever having been created, updated again while a check runs,
and deleted while the checks of two tasks run, one of which has found something. When it is created
again, new tasks go on. -/
theorem lifecycle_after_restart :
    let config (cpu : String) : ConfigMap :=
      ⟨{ Metadata.basic thresholdConfig "1" with ns := some reservedNamespace },
        .ofList [("cpu", cpu)]⟩
    let alert : Alert := ⟨"Cluster", "", "cluster", "cpu", .thresholdExceeded⟩
    let stop (moves : List TaskMove) : List Turn := [.ask] ++ moves.map (.move 0) ++ [.join]
    let turns : List Turn :=
      [.handle (.updated (config "80") (config "80")), .spawn, .spawn, .spawn, .done, .move 0 .tick,
        .handle (.updated (config "80") (config "70")), .move 1 .tick,
        .handle (.deleted (config "70"))] ++
      stop [.finish fun _ => [alert], .emit, .rest, .acknowledge] ++
      stop [.finish fun _ => [], .rest, .acknowledge] ++ stop [.acknowledge] ++
      [.done, .handle (.created (config "60")), .spawn, .spawn, .spawn, .done, .move 2 .tick]
    ∃ system, initial.turns? turns = some system ∧ system.errand = none ∧
      system.log =
        [⟨1, .cluster, .ticked ⟨80, 0, 0, 0⟩⟩, ⟨1, .node, .ticked ⟨70, 0, 0, 0⟩⟩,
        ⟨1, .cluster, .emitted alert⟩, ⟨2, .perNamespace, .ticked ⟨60, 0, 0, 0⟩⟩] ∧
      system.Lifecycle := by
  intro config alert stop turns
  -- the whole run is computed, and its end is one to which the theorem applies
  have hrun : (initial.turns? turns).map (fun system => (system.errand.isNone, system.log)) =
      some (true,
        [⟨1, .cluster, .ticked ⟨80, 0, 0, 0⟩⟩, ⟨1, .node, .ticked ⟨70, 0, 0, 0⟩⟩,
        ⟨1, .cluster, .emitted alert⟩, ⟨2, .perNamespace, .ticked ⟨60, 0, 0, 0⟩⟩]) := by
    decide +kernel
  obtain ⟨system, hsystem, hend⟩ := Option.map_eq_some_iff.mp hrun
  obtain ⟨hidle, hlog⟩ := Prod.mk.inj hend
  have hnone : system.errand = none := Option.isNone_iff_eq_none.mp hidle
  exact ⟨system, hsystem, hnone, hlog, (lifecycle_of_reaches ⟨turns, hsystem⟩).2 hnone⟩

/-! ### Rounds of the agent -/

/-- The check that starts and the thresholds that it finds, if one starts. -/
def tick? (deed : Deed) : Option (Check × Thresholds) :=
  match deed.act with
  | .ticked thresholds => some (deed.check, thresholds)
  | .emitted _ => none

/-- The alert that is emitted, if one is. -/
def alert? (deed : Deed) : Option Alert :=
  match deed.act with
  | .ticked _ => none
  | .emitted alert => some alert

/-- Of the deeds of a task that runs its check, one is the tick, and the others are the alerts. -/
theorem filterMap_deeds (task : CheckTask) (thresholds : Thresholds) (alerts : List Alert) :
    (task.deeds (.ticked thresholds :: alerts.map .emitted)).filterMap tick? =
      [(task.check, thresholds)] ∧
      (task.deeds (.ticked thresholds :: alerts.map .emitted)).filterMap alert? = alerts := by
  have htick : tick? ∘ (fun act => ⟨task.start, task.check, act⟩) ∘ TaskAct.emitted =
      fun _ => none := rfl
  have halert : alert? ∘ (fun act => ⟨task.start, task.check, act⟩) ∘
      TaskAct.emitted = some := rfl
  constructor
  · simp [CheckTask.deeds, List.filterMap_map, tick?, htick]
  · simp [CheckTask.deeds, List.filterMap_cons, List.filterMap_map, alert?, halert]

/-- One after another, tasks that wait can run their checks as the agent runs them. -/
theorem exists_reaches_checked (system : Monitoring) (surroundings : Surroundings)
    (before rest : List CheckTask)
    (hrest : ∀ task ∈ rest, task.phase = .waiting ∧ task.asked = false) (log : List Deed)
    (agent : Agent) (alerts : List Alert) :
    ∃ deeds, { system with tasks := before ++ rest, log }.Reaches
        { system with tasks := before ++ rest, log := log ++ deeds } ∧
      deeds.filterMap tick? = (rest.map CheckTask.check).map (·, system.config) ∧
      ((rest.map CheckTask.check).foldl (Agent.runCheck surroundings system.config)
        (agent, alerts)).2 =
        alerts ++ deeds.filterMap alert? := by
  induction rest generalizing before log agent alerts with
  | nil =>
    refine ⟨[], ?_, rfl, (List.append_nil alerts).symm⟩
    simp only [List.append_nil]
    exact .refl _
  | cons task rest ih =>
    obtain ⟨hphase, hasked⟩ := hrest task List.mem_cons_self
    have hwaiting : { task with phase := .waiting } = task := by rw [← hphase]
    -- the task reports and emits what the agent makes of its check
    obtain ⟨answer, hanswer⟩ :
        ∃ answer, agent.check surroundings system.config task.check = answer := ⟨_, rfl⟩
    obtain ⟨htick, halert⟩ := filterMap_deeds task system.config (answer.alerts ++ answer.value)
    have hchecked := reaches_checked system before rest task log hasked answer.alerts answer.value
    simp only [withTask, hwaiting] at hchecked
    -- the others go on from there
    obtain ⟨deeds, hreaches, hticks, hfold⟩ := ih (before ++ [task])
      (fun other hother => hrest other (List.mem_cons_of_mem _ hother))
      (log ++ task.deeds (.ticked system.config :: (answer.alerts ++ answer.value).map .emitted))
      (answer.agent.countAlerts answer.value) (alerts ++ answer.alerts ++ answer.value)
    rw [List.append_assoc, List.singleton_append] at hreaches
    refine ⟨task.deeds (.ticked system.config :: (answer.alerts ++ answer.value).map .emitted) ++
      deeds, ?_, ?_, ?_⟩
    · rw [← List.append_assoc log]
      exact hchecked.trans hreaches
    · rw [List.filterMap_append, htick, hticks]
      rfl
    · rw [List.filterMap_append, halert, List.map_cons, List.foldl_cons, Agent.runCheck,
        hanswer, hfold]
      simp only [List.append_assoc]

/-- A round of the agent is one way for the tasks to take turns. From where they all wait, each
of them can start its check with the thresholds in force, so that together they emit the alerts
of the round. -/
theorem exists_reaches_round (h : initial.Reaches system) (hidle : system.errand = none)
    (hwaiting : ∀ task ∈ system.tasks, task.phase = .waiting)
    (surroundings : Surroundings) (agent : Agent) :
    ∃ deeds, system.Reaches { system with log := system.log ++ deeds } ∧
      deeds.filterMap tick? =
        system.monitor.thresholds?.toList.flatMap (fun config => Check.all.map (·, config)) ∧
      (agent.roundWith surroundings system.monitor.thresholds?).2 = deeds.filterMap alert? := by
  rcases ((stage_of_reaches h).of_idle hidle).2 with ⟨hoff, -⟩ | ⟨hconfig, hcrew⟩
  · -- a monitor that is off has no tasks, and no round
    refine ⟨[], ?_, by rw [hoff]; rfl, by rw [hoff]; rfl⟩
    rw [List.append_nil]
    exact .refl system
  · -- its tasks take one turn each, in the order of the checks
    obtain ⟨deeds, hreaches, hticks, hfold⟩ :=
      exists_reaches_checked system surroundings [] system.tasks
      (fun task htask => ⟨hwaiting task htask, (hcrew.members task htask).2.1⟩)
        system.log agent []
    rw [hcrew.checks_eq] at hticks hfold
    refine ⟨deeds, hreaches, ?_, ?_⟩
    · rw [hticks, hconfig, Option.toList_some, List.flatMap_singleton]
    · rw [hconfig]
      exact hfold

end Monitoring

end ClusterWatch
