import ClusterWatch.Agent.Query
import ClusterWatch.Proofs.Collections
import ClusterWatch.Proofs.NodeAgent.Join

/-!
# Failing node agents

A call to a node agent fails because the node has no address, because it takes too long, or because
of what the agent answers. Whichever of them fail, in whatever order the calls complete and however
many are made at a time, the answers of the others arrive under their nodes, and every failure is
told and counted once.

* `AgentContact`, `AgentContact.outcome` — an entry of the directory, and what asking it comes to.
* `FanOut.values_perm`, `FanOut.failures_perm` — the answers and the failures of the contacts.
* `FanOut.getElem?_byNode` — the answers by node.
* `Agent.asked`, `Agent.reports` — what comes of an order of completion, and what
  is counted for it.
* `Agent.IsolatesFailures`, `Agent.isolates_failures` — the result.
-/

namespace ClusterWatch

/-- What goes wrong in an exchange is told of the node that the exchange is with. -/
theorem AgentExchange.node_of_answer {τ : Type} {decode : Bytes → Option τ} {node : String}
    {exchange : AgentExchange} {error : AgentError}
    (h : exchange.answer node decode = .error error) : error.node = node := by
  unfold answer at h
  split at h
  next => cases h; rfl
  next =>
    split at h
    next => split at h <;> cases h; rfl
    next => cases h; rfl

/-- An exchange is an answer exactly if it is a reply with success, and one that can be decoded. -/
theorem AgentExchange.answer_eq_ok_iff {τ : Type} {decode : Bytes → Option τ} {node : String}
    {exchange : AgentExchange} {value : τ} :
    exchange.answer node decode = .ok value ↔
      ∃ status body, exchange = .reply status body ∧ (200 ≤ status ∧ status < 300) ∧
        decode body = some value := by
  cases exchange with
  | unreachable => simp [answer]
  | reply status body =>
    simp only [answer, reply.injEq]
    constructor
    · intro h
      split at h
      -- a status of success, and a body that is decoded or not
      next hsuccess =>
        split at h
        next hdecoded =>
          cases h
          exact ⟨status, body, ⟨rfl, rfl⟩, hsuccess, hdecoded⟩
        next => cases h
      next => cases h
    · rintro ⟨_, _, ⟨rfl, rfl⟩, hsuccess, hdecoded⟩
      rw [if_pos hsuccess, hdecoded]

/-- The node that an entry of the directory is about. -/
def entryNode : Except AgentError AgentTarget → String
  | .ok target => target.node
  | .error error => error.node

/-- An entry of the directory, with what there is to find out by calling it. -/
structure AgentContact where
  /-- The entry, of an agent that can be called or of one that cannot. -/
  entry : Except AgentError AgentTarget
  /-- How long the answer takes. -/
  delay : Nat
  /-- The answer. -/
  exchange : AgentExchange

namespace AgentContact

variable {τ : Type} (decode : Bytes → Option τ) (contact : AgentContact)

/-- The node that the entry is about. -/
def node : String :=
  entryNode contact.entry

/-- The call. -/
def call : AgentCall τ :=
  .ofTarget decode contact.delay contact.exchange contact.entry

/-- What asking comes to: there is no agent to call, it takes too long, or the agent has
answered something. -/
def outcome : Except AgentError τ :=
  match contact.entry with
  | .error error => .error error
  | .ok target =>
    if agentTimeout < contact.delay then .error (.timeout target.node (agentTimeout / 1000))
    else contact.exchange.answer target.node decode

/-- The answer under its node, if there is one. -/
def answer? : Option (String × τ) :=
  (contact.outcome decode).toOption.map fun value => (contact.node, value)

/-- The failure, if there is one. -/
def error? : Option AgentError :=
  match contact.outcome decode with
  | .ok _ => none
  | .error error => some error

/-- The agent can be called, and replies in time, with success and with something that is
decoded to a value. -/
def Replies (value : τ) : Prop :=
  ∃ target status body, contact.entry = .ok target ∧ contact.delay ≤ agentTimeout ∧
    contact.exchange = .reply status body ∧ (200 ≤ status ∧ status < 300) ∧
      decode body = some value

/-- A call comes to what asking the contact comes to, with the node of the contact. -/
theorem result_call :
    (contact.call decode).result =
      (contact.outcome decode).map fun value => (contact.node, value) := by
  rcases contact with ⟨entry, delay, exchange⟩
  cases entry with
  -- an entry that cannot be called fails at once, whatever the delay
  | error error => rfl
  | ok target =>
    have hcall : (⟨.ok target, delay, exchange⟩ : AgentContact).call decode =
        ⟨target.node, delay, exchange.answer target.node decode⟩ := rfl
    rw [hcall, AgentCall.result]
    by_cases hlate : agentTimeout < delay
    · simp only [outcome, if_pos hlate]
      rfl
    · simp only [outcome, if_neg hlate, node, entryNode]

variable {decode contact}

/-- What asking comes to is a value exactly if the agent replies with it. -/
theorem outcome_eq_ok_iff {value : τ} :
    contact.outcome decode = .ok value ↔ contact.Replies decode value := by
  rcases contact with ⟨entry, delay, exchange⟩
  -- a node without an address is not asked, and an exchange that takes too long is given up
  cases entry with
  | error cause => simp [outcome, Replies]
  | ok target =>
    simp only [outcome, Replies]
    split
    next hlate => simp [Nat.not_le.mpr hlate]
    next hintime => simp [AgentExchange.answer_eq_ok_iff, Nat.not_lt.mp hintime]

/-- There is an answer exactly if the agent replies. -/
theorem answer?_eq_some_iff {value : τ} :
    contact.answer? decode = some (contact.node, value) ↔ contact.Replies decode value := by
  rw [← outcome_eq_ok_iff, answer?]
  cases contact.outcome decode <;> simp [Except.toOption]

/-- There is a failure exactly if the agent replies with nothing. -/
theorem isSome_error?_iff :
    (contact.error? decode).isSome = true ↔ ∀ value, ¬ contact.Replies decode value := by
  simp only [← outcome_eq_ok_iff, error?]
  cases contact.outcome decode <;> simp

/-- A failure is told of the node that the entry is about. -/
theorem node_of_error? {error : AgentError} (h : contact.error? decode = some error) :
    error.node = contact.node := by
  rcases contact with ⟨entry, delay, exchange⟩
  cases entry with
  | error cause =>
    cases h
    rfl
  | ok target =>
    -- the error is the one that asking comes to
    have houtcome : outcome decode ⟨.ok target, delay, exchange⟩ = .error error := by
      unfold error? at h
      split at h
      next => cases h
      next hcause => rw [hcause, Option.some.inj h]
    simp only [outcome] at houtcome
    split at houtcome
    next =>
      cases houtcome
      rfl
    next => exact AgentExchange.node_of_answer houtcome

end AgentContact

/-- The entries of the directory are about the nodes, one about each. -/
theorem map_node_agentDirectory {port : Nat} {nodes : List Node} {contacts : List AgentContact}
    (h : contacts.map AgentContact.entry = agentDirectory port nodes) :
    contacts.map AgentContact.node = nodes.map ClusterObject.name := by
  -- whether a node can be asked or not, its entry is about it
  have hentry (node : Node) : entryNode (node.agentTarget port) = ClusterObject.name node := by
    unfold Node.agentTarget
    cases node.ip?.filter (· ≠ "") <;> rfl
  calc contacts.map AgentContact.node
    _ = (contacts.map AgentContact.entry).map entryNode := by rw [List.map_map]; rfl
    _ = (agentDirectory port nodes).map entryNode := by rw [h]
    _ = nodes.map ClusterObject.name := by
        rw [agentDirectory, List.map_map]
        exact List.map_congr_left fun node _ => hentry node

namespace FanOut

variable {τ : Type} {decode : Bytes → Option τ} {width : Nat} {contacts : List AgentContact}
  {completed : List (AgentCall τ)}

/-- The calls to all contacts. -/
def callsTo (decode : Bytes → Option τ) (contacts : List AgentContact) : List (AgentCall τ) :=
  contacts.map (·.call decode)

/-- The contacts whose agents answer. -/
def answering (decode : Bytes → Option τ) (contacts : List AgentContact) : List AgentContact :=
  contacts.filter fun contact => (contact.answer? decode).isSome

/-- The answers of all calls are those of the contacts that answer. -/
theorem values_callsTo (contacts : List AgentContact) :
    (collect (callsTo decode contacts)).values = contacts.filterMap (·.answer? decode) := by
  simp only [collect, callsTo, List.filterMap_map]
  apply List.filterMap_congr
  intro contact _
  show (contact.call decode).result.toOption = contact.answer? decode
  rw [AgentContact.result_call, AgentContact.answer?]
  cases contact.outcome decode <;> rfl

/-- The failures of all calls are those of the contacts that fail. -/
theorem failures_callsTo (contacts : List AgentContact) :
    (collect (callsTo decode contacts)).failures = contacts.filterMap (·.error? decode) := by
  simp only [collect, callsTo, List.filterMap_map]
  apply List.filterMap_congr
  intro contact _
  rw [Function.comp_apply, AgentContact.result_call, AgentContact.error?]
  cases contact.outcome decode <;> rfl

/-- In whatever order the calls complete, the answers are those of the contacts that answer. -/
theorem values_perm (h : Completes width (callsTo decode contacts) completed) :
    (collect completed).values.Perm (contacts.filterMap (·.answer? decode)) := by
  rw [← values_callsTo]
  exact (perm_of_completes h).filterMap _

/-- In whatever order the calls complete, the failures are those of the contacts that fail. -/
theorem failures_perm (h : Completes width (callsTo decode contacts) completed) :
    (collect completed).failures.Perm (contacts.filterMap (·.error? decode)) := by
  rw [← failures_callsTo]
  exact (perm_of_completes h).filterMap _

/-- Every contact that fails raises one alert, about its node. -/
theorem alerts_perm (h : Completes width (callsTo decode contacts) completed) :
    (collect completed).alerts.Perm
      (contacts.filterMap fun contact => (contact.error? decode).map fun error =>
        ⟨"Node", "", contact.node, error.message, .nodeAgentUnavailable⟩) := by
  -- the failures are those of the contacts, in the order of completion
  refine ((failures_perm h).map AgentError.alert).trans (List.Perm.of_eq ?_)
  rw [List.map_filterMap]
  apply List.filterMap_congr
  intro contact _
  cases herror : contact.error? decode with
  | none => rfl
  | some error =>
    rw [Option.map_some, Option.map_some, AgentError.alert, AgentContact.node_of_error? herror]

/-- The failures of a node are those of the contacts that are about it and fail. -/
theorem countP_failures (h : Completes width (callsTo decode contacts) completed)
    (labels : List String) :
    ((collect completed).failures.countP fun error => [error.node] = labels) =
      contacts.countP fun contact => [contact.node] = labels && (contact.error? decode).isSome := by
  rw [(failures_perm h).countP_eq, List.countP_filterMap]
  apply List.countP_congr
  intro contact _
  cases herror : contact.error? decode with
  | none => simp
  | some error => simp [AgentContact.node_of_error? herror]

/-- There are as many alerts about nodes as contacts that fail. -/
theorem countP_alerts (h : Completes width (callsTo decode contacts) completed)
    (labels : List String) :
    ((collect completed).alerts.countP fun alert => [alert.kind] = labels) =
      contacts.countP fun contact => ["Node"] = labels && (contact.error? decode).isSome := by
  rw [(alerts_perm h).countP_eq, List.countP_filterMap]
  apply List.countP_congr
  intro contact _
  cases contact.error? decode <;> simp

/-! ### Answers by node -/

/-- Answers under different names are found by them. -/
theorem getElem?_byNode_eq_some_iff {outcome : Outcome τ}
    (hdistinct : (outcome.values.map (·.1)).Nodup) {node : String} {value : τ} :
    outcome.byNode[node]? = some value ↔ (node, value) ∈ outcome.values := by
  unfold Outcome.byNode
  rw [foldl_insert_eq_insertMany]
  exact getElem?_insertMany_eq_some_iff hdistinct

/-- The answers are listed with the nodes of the contacts that answer. -/
theorem map_fst_answers (contacts : List AgentContact) :
    (contacts.filterMap (·.answer? decode)).map (·.1) =
      (answering decode contacts).map AgentContact.node := by
  induction contacts with
  | nil => rfl
  | cons contact contacts ih =>
    unfold answering at ih ⊢
    rw [List.filterMap_cons, List.filter_cons, AgentContact.answer?]
    -- a contact that does not answer is left out on both sides
    cases (contact.outcome decode).toOption with
    | none => simpa using ih
    | some value => simpa using ih

/-- Contacts of different nodes answer under different names. -/
theorem nodup_values (h : Completes width (callsTo decode contacts) completed)
    (hdistinct : (contacts.map AgentContact.node).Nodup) :
    ((collect completed).values.map (·.1)).Nodup := by
  rw [((values_perm h).map _).nodup_iff, map_fst_answers]
  exact hdistinct.sublist (List.filter_sublist.map _)

/-- Where the nodes have different names, there stands under each of them what asking
it has come to. -/
theorem getElem?_byNode (h : Completes width (callsTo decode contacts) completed)
    (hdistinct : (contacts.map AgentContact.node).Nodup) {contact : AgentContact}
    (hcontact : contact ∈ contacts) :
    (collect completed).byNode[contact.node]? = (contact.outcome decode).toOption := by
  ext value
  rw [getElem?_byNode_eq_some_iff (nodup_values h hdistinct), (values_perm h).mem_iff,
    List.mem_filterMap]
  constructor
  · -- an answer under the name of this node is an answer of its own
    rintro ⟨other, hother, hanswer⟩
    obtain ⟨found, hfound, hpair⟩ := Option.map_eq_some_iff.mp hanswer
    obtain ⟨hnode, rfl⟩ := Prod.mk.inj hpair
    rw [← List.inj_on_of_nodup_map hdistinct hother hcontact hnode, hfound]
  · intro hvalue
    exact ⟨contact, hcontact, by rw [AgentContact.answer?, hvalue, Option.map_some]⟩

/-- The answers are those of the contacts that answer, whatever the others are. -/
theorem filterMap_answering (contacts : List AgentContact) :
    (answering decode contacts).filterMap (·.answer? decode) =
      contacts.filterMap (·.answer? decode) := by
  rw [answering, List.filterMap_filter]
  apply List.filterMap_congr
  intro contact _
  cases contact.answer? decode <;> rfl

/-- The same contacts that answer yield the same answers. -/
theorem values_perm_of_answering {otherWidth : Nat} {others : List AgentContact}
    {otherCompleted : List (AgentCall τ)} (h : Completes width (callsTo decode contacts) completed)
    (hother : Completes otherWidth (callsTo decode others) otherCompleted)
    (hsame : (answering decode others).Perm (answering decode contacts)) :
    (collect otherCompleted).values.Perm (collect completed).values := by
  refine (values_perm hother).trans (.trans ?_ (values_perm h).symm)
  rw [← filterMap_answering others, ← filterMap_answering contacts]
  exact hsame.filterMap _

/-- Answers that are the same up to their order are the same by node. -/
theorem byNode_congr {outcome other : Outcome τ} (hdistinct : (outcome.values.map (·.1)).Nodup)
    (hsame : other.values.Perm outcome.values) : other.byNode = outcome.byNode := by
  have hother : (other.values.map (·.1)).Nodup := (hsame.map _).nodup_iff.mpr hdistinct
  apply Std.ExtTreeMap.ext_getElem?
  intro node
  ext value
  rw [getElem?_byNode_eq_some_iff hother, getElem?_byNode_eq_some_iff hdistinct, hsame.mem_iff]

end FanOut

namespace Metrics

/-- What no step changes of the metrics is the same after all steps. -/
theorem foldl_unchanged {ε β : Type} (part : Metrics → β) (step : Metrics → ε → Metrics)
    (hstep : ∀ metrics element, part (step metrics element) = part metrics) (elements : List ε)
    (metrics : Metrics) :
    part (elements.foldl step metrics) = part metrics := by
  induction elements generalizing metrics with
  | nil => rfl
  | cons element elements ih => rw [List.foldl_cons, ih, hstep]

/-- Failures are counted by their nodes. -/
theorem getD_foldl_nodeAgentFailure (errors : List AgentError) (metrics : Metrics)
    (labels : List String) :
    (errors.foldl (fun metrics error => metrics.nodeAgentFailure error.node)
        metrics).nodeAgentFailures[labels]?.getD 0 =
      metrics.nodeAgentFailures[labels]?.getD 0 +
        errors.countP fun error => [error.node] = labels := by
  rw [← getD_foldl_count]
  congr 2
  exact (List.foldl_hom Metrics.nodeAgentFailures fun _ _ => rfl).symm

/-- Alerts are counted by what they are about. -/
theorem getD_foldl_alertEmitted (alerts : List Alert) (metrics : Metrics) (labels : List String) :
    (alerts.foldl (fun metrics alert => metrics.alertEmitted alert.kind)
      metrics).alertsEmitted[labels]?.getD 0 =
      metrics.alertsEmitted[labels]?.getD 0 + alerts.countP fun alert => [alert.kind] = labels := by
  rw [← getD_foldl_count]
  congr 2
  exact (List.foldl_hom Metrics.alertsEmitted fun _ _ => rfl).symm

end Metrics

namespace Agent

variable {τ : Type}

/-- All node agents asked one question, where the calls complete in a given order. -/
def asked (agent : Agent) (question : AgentQuestion) (calls completed : List (AgentCall τ)) :
    Answer (FanOut.Outcome τ) :=
  let outcome := FanOut.collect completed
  ⟨(agent.countCalls question calls outcome.failures).countAlerts outcome.alerts,
    outcome.alerts, outcome⟩

theorem ask_eq (agent : Agent) (question : AgentQuestion) (calls : List (AgentCall τ)) :
    agent.ask question calls =
      agent.asked question calls (FanOut.completionOrder agent.width calls) :=
  rfl

variable {agent : Agent} {question : AgentQuestion} {calls completed : List (AgentCall τ)}

/-- Asking counts every failure once. -/
theorem getD_nodeAgentFailures_asked (labels : List String) :
    (agent.asked question calls completed).agent.metrics.nodeAgentFailures[labels]?.getD 0 =
      agent.metrics.nodeAgentFailures[labels]?.getD 0 +
        (FanOut.collect completed).failures.countP fun error => [error.node] = labels := by
  simp only [asked, countAlerts, countCalls]
  -- neither the alerts nor the durations of the calls count as failures
  rw [Metrics.foldl_unchanged Metrics.nodeAgentFailures
    (fun metrics (alert : Alert) => metrics.alertEmitted alert.kind)
      fun _ _ => rfl,
    Metrics.getD_foldl_nodeAgentFailure,
    Metrics.foldl_unchanged Metrics.nodeAgentFailures
      (fun metrics (call : AgentCall τ) => metrics.nodeAgentRequest question.name call.duration)
        fun _ _ => rfl]

/-- Asking counts every alert once. -/
theorem getD_alertsEmitted_asked (labels : List String) :
    (agent.asked question calls completed).agent.metrics.alertsEmitted[labels]?.getD 0 =
      agent.metrics.alertsEmitted[labels]?.getD 0 +
        (FanOut.collect completed).alerts.countP fun alert => [alert.kind] = labels := by
  simp only [asked, countAlerts, countCalls]
  rw [Metrics.getD_foldl_alertEmitted,
    Metrics.foldl_unchanged Metrics.alertsEmitted
      (fun metrics (error : AgentError) => metrics.nodeAgentFailure error.node) fun _ _ => rfl,
    Metrics.foldl_unchanged Metrics.alertsEmitted
      (fun metrics (call : AgentCall τ) => metrics.nodeAgentRequest question.name call.duration)
        fun _ _ => rfl]

/-- What asking all contacts comes to, where their calls complete in a given order. -/
structure Reports (agent : Agent) (question : AgentQuestion) (decode : Bytes → Option τ)
    (contacts : List AgentContact) (completed : List (AgentCall τ)) : Prop where
  /-- There is one value under its node for each agent that answers, and no other. -/
  values : (agent.asked question (FanOut.callsTo decode contacts) completed).value.values.Perm
    (contacts.filterMap (·.answer? decode))
  /-- Where the nodes have different names, what stands under each of them is what
  asking it comes to. -/
  byNode : (contacts.map AgentContact.node).Nodup → ∀ contact ∈ contacts,
    (agent.asked question (FanOut.callsTo decode contacts) completed).value.byNode[contact.node]? =
      (contact.outcome decode).toOption
  /-- There is one alert about its node for each entry that fails, and no other. -/
  alerts : (agent.asked question (FanOut.callsTo decode contacts) completed).alerts.Perm
    (contacts.filterMap fun contact => (contact.error? decode).map fun error =>
      ⟨"Node", "", contact.node, error.message, .nodeAgentUnavailable⟩)
  /-- Of each node, one failure is counted for each entry about it that fails. -/
  failures : ∀ labels : List String,
    (agent.asked question (FanOut.callsTo decode contacts)
      completed).agent.metrics.nodeAgentFailures[labels]?.getD 0 =
      agent.metrics.nodeAgentFailures[labels]?.getD 0 +
        contacts.countP fun contact => [contact.node] = labels && (contact.error? decode).isSome
  /-- One alert about nodes is counted for each entry that fails. -/
  emitted : ∀ labels : List String,
    (agent.asked question (FanOut.callsTo decode contacts)
      completed).agent.metrics.alertsEmitted[labels]?.getD 0 =
      agent.metrics.alertsEmitted[labels]?.getD 0 +
        contacts.countP fun contact => ["Node"] = labels && (contact.error? decode).isSome

/-- In every order in which the calls can complete, what answers and what fails is reported once. -/
theorem reports {decode : Bytes → Option τ} {contacts : List AgentContact}
    (h : FanOut.Completes agent.width (FanOut.callsTo decode contacts) completed) :
    agent.Reports question decode contacts completed where
  values := FanOut.values_perm h
  byNode hdistinct _ hcontact := FanOut.getElem?_byNode h hdistinct hcontact
  alerts := FanOut.alerts_perm h
  failures labels := by rw [getD_nodeAgentFailures_asked, FanOut.countP_failures h]
  emitted labels := by rw [getD_alertsEmitted_asked, FanOut.countP_alerts h]

/-- An agent asks all contacts a question, and those that fail do not affect what the
others answer. -/
structure IsolatesFailures (agent : Agent) (question : AgentQuestion) (decode : Bytes → Option τ)
    (contacts : List AgentContact) : Prop where
  /-- Until all calls are completed, there is something that can happen next. -/
  goesOn : ∀ join,
    (FanOut.Join.start (FanOut.callsTo decode contacts)).Reaches (max agent.width 1) join →
    (∃ completed, join = .finished completed) ∨ ∃ next, join.Step (max agent.width 1) next
  /-- The calls do not go on for ever. -/
  ends : ∀ run : Nat → FanOut.Join τ, ∃ n, ¬ (run n).Step (max agent.width 1) (run (n + 1))
  /-- The agent asks in one of the orders in which the calls can complete. -/
  asks : ∃ completed, FanOut.Completes agent.width (FanOut.callsTo decode contacts) completed ∧
    agent.ask question (FanOut.callsTo decode contacts) =
      agent.asked question (FanOut.callsTo decode contacts) completed
  /-- The contacts that answer are those whose agents reply in time, with success and with what
  can be decoded. -/
  answers : ∀ contact ∈ contacts, ∀ value,
    contact.answer? decode = some (contact.node, value) ↔ contact.Replies decode value
  /-- All others fail. -/
  fails : ∀ contact ∈ contacts,
    (contact.error? decode).isSome = true ↔ ∀ value, ¬ contact.Replies decode value
  /-- In every such order, what answers and what fails is reported once. -/
  reports : ∀ completed,
    FanOut.Completes agent.width (FanOut.callsTo decode contacts) completed →
    agent.Reports question decode contacts completed
  /-- The answers are the same whichever failing contacts there are besides, in whatever order the
  calls complete and however many are made at a time. -/
  unaffected : ∀ (other : Agent) (others : List AgentContact)
    (completed otherCompleted : List (AgentCall τ)),
    FanOut.Completes agent.width (FanOut.callsTo decode contacts) completed →
    FanOut.Completes other.width (FanOut.callsTo decode others) otherCompleted →
    (FanOut.answering decode others).Perm (FanOut.answering decode contacts) →
      (other.asked question (FanOut.callsTo decode others) otherCompleted).value.values.Perm
          (agent.asked question (FanOut.callsTo decode contacts) completed).value.values ∧
        ((contacts.map AgentContact.node).Nodup →
          (other.asked question (FanOut.callsTo decode others) otherCompleted).value.byNode =
            (agent.asked question (FanOut.callsTo decode contacts) completed).value.byNode)
  /-- The entries of the directory of a cluster are about its nodes. -/
  directory : ∀ (port : Nat) (nodes : List Node), contacts.map AgentContact.entry =
    agentDirectory port nodes → contacts.map AgentContact.node = nodes.map ClusterObject.name

/-- Whichever of the contacts fail, and in whatever order the calls complete, the failures
are isolated. -/
theorem isolates_failures (agent : Agent) (question : AgentQuestion) (decode : Bytes → Option τ)
    (contacts : List AgentContact) : agent.IsolatesFailures question decode contacts where
  -- at least one call may be in progress, whatever the width
  goesOn join _ :=
    join.finished_or_exists_step (Nat.lt_of_lt_of_le Nat.one_pos (Nat.le_max_right _ _))
  ends run := FanOut.Join.exists_not_step _ run
  asks := ⟨_, FanOut.completes_completionOrder agent.width _, agent.ask_eq question _⟩
  answers _ _ _ := AgentContact.answer?_eq_some_iff
  fails _ _ := AgentContact.isSome_error?_iff
  reports _ h := Agent.reports h
  unaffected other others completed otherCompleted h hother hsame := by
    have hvalues := FanOut.values_perm_of_answering h hother hsame
    exact ⟨hvalues,
      fun hdistinct => FanOut.byNode_congr (FanOut.nodup_values h hdistinct) hvalues⟩
  directory _ _ h := map_node_agentDirectory h

end Agent

end ClusterWatch
