import ClusterWatch.Agent.Step
import ClusterWatch.Proofs.Collections
import ClusterWatch.Proofs.NodeAgent.Failures

/-!
# Freshness of usage samples

Whatever is asked of the storage projection is answered from one usage sample, which comes from the
cache as long as the cache holds a good one and from the node agents otherwise. A volume that is new
drops the cached sample, so that no answer rests on a sample from before the volume.

* `StorageQuery`, `StorageQuery.replyOn` — what can be asked, and the answer that a sample gives.
* `StorageMoment`, `Agent.after` — deliveries and queries one after another, while the node agents
  change what they would report.
* `Agent.Fetches` — at a moment, the node agents are asked for a sample.
* `Agent.LastFetch` — the last fetch of a history, with no new volume since.
* `Agent.sampled_after` — the invariant: the cache holds the sample of the last fetch, or there
  was no query since the last new volume.
* `Agent.Served`, `Agent.served` — how a query is answered after any history.
-/

namespace ClusterWatch

/-! ### Queries -/

/-- What can be asked of the storage projection. -/
inductive StorageQuery where
  /-- The volumes by storage class. -/
  | classes
  /-- The storage of every class. -/
  | classTotals
  /-- The bytes that the bound volumes of a namespace use. -/
  | namespaceUsed (ns : String)
  /-- The pods of a namespace with the volumes that they mount. -/
  | volumeChains (ns : String)

/-- An answer of the storage projection. -/
inductive StorageReply where
  /-- The volumes by storage class. -/
  | classes (views : Std.ExtTreeMap String (List VolumeView))
  /-- The storage of every class. -/
  | classTotals (totals : Std.ExtTreeMap String StorageTotal)
  /-- The bytes that the bound volumes of a namespace use. -/
  | namespaceUsed (used : UInt64)
  /-- The pods of a namespace with the volumes that they mount. -/
  | volumeChains (chains : List VolumeChain)

/-- The answer to a query that an index gives with a usage sample. -/
def StorageQuery.replyOn (index : StorageIndex) (sample : UsageSample) :
    StorageQuery → StorageReply
  | .classes => .classes (index.classify sample)
  | .classTotals => .classTotals (index.classTotals sample)
  | .namespaceUsed ns => .namespaceUsed (index.namespaceUsed sample ns)
  | .volumeChains ns => .volumeChains (index.volumeChains sample ns)

/-- What the node agents would report together if they were asked now, by as many
calls at a time. -/
def Surroundings.usage (surroundings : Surroundings) (width : Nat) : UsageSample :=
  (FanOut.run width surroundings.usageCalls).sample

/-- What the storage projection has to do with at a moment. -/
inductive StorageTask where
  /-- It is told of an event. -/
  | told (event : ClusterEvent)
  /-- It is asked something. -/
  | asked (query : StorageQuery)

/-- A moment in the life of the storage projection. -/
structure StorageMoment where
  /-- What the agent finds outside of itself, the reports of the node agents among it. -/
  surroundings : Surroundings
  /-- What there is to do. -/
  task : StorageTask

namespace StorageMoment

/-- A volume is delivered as a new one. -/
def CreatesVolume (moment : StorageMoment) : Prop :=
  ∃ volume, moment.task = .told (.persistentVolumes (.created volume))

/-- Something is asked. -/
def IsQuery (moment : StorageMoment) : Prop :=
  ∃ query, moment.task = .asked query

/-- The times of the moments are so close together that a sample stays good from any of them
to any other. -/
def NeverExpires (ttl : Nat) (moments : List StorageMoment) : Prop :=
  ∀ earlier ∈ moments, ∀ later ∈ moments,
    later.surroundings.now - earlier.surroundings.now < ttl

/-- No query has come since the beginning or since the last new volume: after every query, there
was a new one. -/
def Unsampled (history : List StorageMoment) : Prop :=
  ∀ earlier moment later, history = earlier ++ moment :: later → moment.IsQuery →
    ∃ creation ∈ later, creation.CreatesVolume

end StorageMoment

namespace Agent

variable {agent : Agent} {surroundings : Surroundings} {event : ClusterEvent} {query : StorageQuery}

/-- The answer to a query. -/
def respond (agent : Agent) (surroundings : Surroundings) : StorageQuery → Answer StorageReply
  | .classes => (agent.classes surroundings).map .classes
  | .classTotals => (agent.classTotals surroundings).map .classTotals
  | .namespaceUsed ns => (agent.namespaceUsed surroundings ns).map .namespaceUsed
  | .volumeChains ns => (agent.volumeChains surroundings ns).map .volumeChains

/-- The agent after a moment. -/
def next (agent : Agent) (moment : StorageMoment) : Agent :=
  match moment.task with
  | .told event => (agent.tell moment.surroundings event .storage).1
  | .asked query => (agent.respond moment.surroundings query).agent

/-- The agent after a history. -/
def after (agent : Agent) (history : List StorageMoment) : Agent :=
  history.foldl next agent

/-- At a moment the agent asks the node agents for one more usage sample. -/
def Fetches (agent : Agent) (moment : StorageMoment) : Prop :=
  (agent.next moment).metrics.cacheRefreshes = agent.metrics.cacheRefreshes + 1

/-- The agent after a further moment is what that moment makes of it. -/
theorem after_concat (agent : Agent) (history : List StorageMoment) (moment : StorageMoment) :
    agent.after (history ++ [moment]) = (agent.after history).next moment := by
  rw [after, List.foldl_append]
  rfl

/-! ### One moment -/

/-- Every query reads the cache once, and is answered from what it reads. -/
theorem respond_eq (agent : Agent) (surroundings : Surroundings) (query : StorageQuery) :
    agent.respond surroundings query =
      (agent.sample surroundings).map (query.replyOn agent.storage) := by
  cases query <;> rfl

/-- Asking the node agents is no refresh of the cache. -/
theorem cacheRefreshes_ask {τ : Type} (agent : Agent) (question : AgentQuestion)
    (calls : List (AgentCall τ)) :
    (agent.ask question calls).agent.metrics.cacheRefreshes = agent.metrics.cacheRefreshes := by
  simp only [ask, countAlerts, countCalls]
  -- the alerts, the failures and the requests count in metrics of their own
  rw [Metrics.foldl_unchanged Metrics.cacheRefreshes
    (fun metrics (alert : Alert) => metrics.alertEmitted alert.kind)
      fun _ _ => rfl,
    Metrics.foldl_unchanged Metrics.cacheRefreshes
      (fun metrics (error : AgentError) => metrics.nodeAgentFailure error.node) fun _ _ => rfl,
    Metrics.foldl_unchanged Metrics.cacheRefreshes
      (fun metrics (call : AgentCall τ) => metrics.nodeAgentRequest question.name call.duration)
        fun _ _ => rfl]

/-- A good sample is used as it is. -/
theorem sample_of_fresh? {sample : UsageSample}
    (h : agent.cache.fresh? surroundings.now = some sample) :
    agent.sample surroundings = ⟨agent, [], sample⟩ := by
  rw [Agent.sample, h]

/-- Where there is no good sample, what the node agents report is used and cached. -/
theorem sample_of_not_fresh? (h : agent.cache.fresh? surroundings.now = none) :
    (agent.sample surroundings).value = surroundings.usage agent.width ∧
      (agent.sample surroundings).agent.cache =
        { agent.cache with sample := some (surroundings.now, surroundings.usage agent.width) } := by
  simp only [Agent.sample, MountpointCache.read, h]
  exact ⟨rfl, rfl⟩

/-- A refresh is counted exactly where there is no good sample. -/
theorem cacheRefreshes_sample (agent : Agent) (surroundings : Surroundings) :
    (agent.sample surroundings).agent.metrics.cacheRefreshes =
      agent.metrics.cacheRefreshes +
        if agent.cache.fresh? surroundings.now = none then 1 else 0 := by
  cases h : agent.cache.fresh? surroundings.now with
  | some sample => rw [sample_of_fresh? h, if_neg (Option.some_ne_none sample), Nat.add_zero]
  | none =>
    rw [if_pos rfl, ← cacheRefreshes_ask agent .usage surroundings.usageCalls]
    simp only [Agent.sample, h]
    rfl

/-- Reading the cache leaves how many node agents are asked at a time, and the time for which
samples are good. -/
theorem sample_keeps (agent : Agent) (surroundings : Surroundings) :
    (agent.sample surroundings).agent.width = agent.width ∧
      (agent.sample surroundings).agent.cache.ttl = agent.cache.ttl := by
  -- whether or not a fetch takes place
  cases h : agent.cache.fresh? surroundings.now with
  | some sample =>
    rw [sample_of_fresh? h]
    exact ⟨rfl, rfl⟩
  | none =>
    rw [(sample_of_not_fresh? h).2]
    simp only [Agent.sample, h]
    exact ⟨rfl, trivial⟩

/-- A query leaves the agent with the sample that answers it. -/
theorem next_asked (agent : Agent) (surroundings : Surroundings) (query : StorageQuery) :
    agent.next ⟨surroundings, .asked query⟩ = (agent.sample surroundings).agent := by
  change (agent.respond surroundings query).agent = _
  rw [respond_eq]
  rfl

/-- A query fetches a sample exactly where there is no good one. -/
theorem fetches_asked_iff : agent.Fetches ⟨surroundings, .asked query⟩ ↔
    agent.cache.fresh? surroundings.now = none := by
  rw [Fetches, next_asked, cacheRefreshes_sample]
  split <;> simp_all

/-- A query that finds a fresh sample does not ask the nodes. -/
theorem not_fetches_of_fresh? {sample : UsageSample}
    (h : agent.cache.fresh? surroundings.now = some sample) :
    ¬ agent.Fetches ⟨surroundings, .asked query⟩ := by
  rw [fetches_asked_iff, h]
  exact Option.some_ne_none sample

/-- An event does not count as a refresh. -/
theorem cacheRefreshes_told (agent : Agent) (surroundings : Surroundings) (event : ClusterEvent) :
    (agent.next ⟨surroundings, .told event⟩).metrics.cacheRefreshes =
      agent.metrics.cacheRefreshes :=
  rfl

/-- An event does not ask the nodes. -/
theorem not_fetches_told : ¬ agent.Fetches ⟨surroundings, .told event⟩ := by
  rw [Fetches, cacheRefreshes_told]
  omega

end Agent

/-- A query creates no volume. -/
theorem StorageMoment.not_createsVolume_asked {surroundings : Surroundings} {query : StorageQuery} :
    ¬ (⟨surroundings, .asked query⟩ : StorageMoment).CreatesVolume := by
  rintro ⟨volume, hvolume⟩
  cases hvolume

/-- The events that create a volume are those that outdate the sample. -/
theorem StorageMoment.createsVolume_told_iff {surroundings : Surroundings} {event : ClusterEvent} :
    (⟨surroundings, .told event⟩ : StorageMoment).CreatesVolume ↔
      StorageIndex.outdatesSample event = true := by
  unfold CreatesVolume StorageIndex.outdatesSample
  constructor
  · rintro ⟨volume, hevent⟩
    cases hevent
    rfl
  · intro houtdates
    split at houtdates
    next volume => exact ⟨volume, rfl⟩
    next => cases houtdates

namespace Agent

variable {start : Agent} {history : List StorageMoment} {moment fetch : StorageMoment}

/-- Of all deliveries, only that of a new volume drops the sample, and none changes it otherwise. -/
theorem cache_told (agent : Agent) (surroundings : Surroundings) (event : ClusterEvent) :
    (agent.next ⟨surroundings, .told event⟩).cache =
      if StorageIndex.outdatesSample event then { agent.cache with sample := none }
        else agent.cache :=
  rfl

/-! ### The last fetch of a history -/

/-- The node agents were last asked for a sample at a moment, and since then no volume was new. -/
def LastFetch (start : Agent) (history : List StorageMoment) (fetch : StorageMoment) : Prop :=
  ∃ earlier later, history = earlier ++ fetch :: later ∧ (start.after earlier).Fetches fetch ∧
    ∀ between moment rest, later = between ++ moment :: rest →
      ¬ moment.CreatesVolume ∧ ¬ (start.after (earlier ++ fetch :: between)).Fetches moment

/-- A moment that fetches is the last one that does. -/
theorem LastFetch.of_fetches (h : (start.after history).Fetches moment) :
    start.LastFetch (history ++ [moment]) moment :=
  ⟨history, [], rfl, h, fun _ _ _ hnil => by simp at hnil⟩

/-- The last fetch stays the last one through what neither fetches nor brings a new volume. -/
theorem LastFetch.concat (h : start.LastFetch history fetch) (hcreates : ¬ moment.CreatesVolume)
    (hfetches : ¬ (start.after history).Fetches moment) :
    start.LastFetch (history ++ [moment]) fetch := by
  obtain ⟨earlier, later, rfl, hfetch, hlater⟩ := h
  refine ⟨earlier, later ++ [moment], by simp, hfetch, fun between next rest hsplit => ?_⟩
  -- what stands behind the fetch now is the moment itself, or stood there before
  rcases concat_eq_append_cons hsplit with ⟨-, rfl, rfl⟩ | ⟨rest, -, rfl⟩
  · exact ⟨hcreates, hfetches⟩
  · exact hlater between next rest rfl

/-- A query that finds a good sample leaves the last fetch the last one. -/
theorem LastFetch.concat_asked (h : start.LastFetch history fetch) {surroundings : Surroundings}
    {sample : UsageSample}
    (hfresh : (start.after history).cache.fresh? surroundings.now = some sample)
    (query : StorageQuery) :
    start.LastFetch (history ++ [⟨surroundings, .asked query⟩]) fetch :=
  h.concat StorageMoment.not_createsVolume_asked (not_fetches_of_fresh? hfresh)

/-- The last fetch is part of the history. -/
theorem LastFetch.mem (h : start.LastFetch history fetch) : fetch ∈ history := by
  obtain ⟨earlier, later, rfl, -⟩ := h
  exact List.mem_append_right _ List.mem_cons_self

/-- Only a query fetches. -/
theorem Fetches.isQuery {agent : Agent} (h : agent.Fetches moment) : moment.IsQuery := by
  obtain ⟨surroundings, task⟩ := moment
  cases task with
  | told event => exact absurd h not_fetches_told
  | asked query => exact ⟨query, rfl⟩

/-- Where there was a fetch and no new volume since, there was a query and no new volume since. -/
theorem LastFetch.not_unsampled (h : start.LastFetch history fetch) :
    ¬ StorageMoment.Unsampled history := by
  obtain ⟨earlier, later, rfl, hfetch, hlater⟩ := h
  intro hunsampled
  obtain ⟨creation, hmem, hcreates⟩ := hunsampled earlier fetch later rfl hfetch.isQuery
  obtain ⟨between, rest, rfl⟩ := List.append_of_mem hmem
  exact (hlater between creation rest rfl).1 hcreates

end Agent

namespace StorageMoment

variable {history : List StorageMoment} {moment : StorageMoment}

/-- A new volume makes a history one without a sample. -/
theorem CreatesVolume.unsampled (h : moment.CreatesVolume) : Unsampled (history ++ [moment]) := by
  intro earlier query later hsplit hquery
  rcases concat_eq_append_cons hsplit with ⟨rfl, rfl, rfl⟩ | ⟨rest, rfl, -⟩
  · -- the new volume is no query itself
    obtain ⟨volume, hvolume⟩ := h
    obtain ⟨query, hquery⟩ := hquery
    rw [hvolume] at hquery
    cases hquery
  · exact ⟨moment, List.mem_append_right _ List.mem_cons_self, h⟩

/-- What is no query leaves a history without a sample. -/
theorem Unsampled.concat (h : Unsampled history) (hquery : ¬ moment.IsQuery) :
    Unsampled (history ++ [moment]) := by
  intro earlier query later hsplit hasked
  rcases concat_eq_append_cons hsplit with ⟨rfl, rfl, rfl⟩ | ⟨rest, rfl, hearlier⟩
  · exact absurd hasked hquery
  · obtain ⟨creation, hmem, hcreates⟩ := h earlier query rest hearlier hasked
    exact ⟨creation, List.mem_append_left _ hmem, hcreates⟩

end StorageMoment

/-! ### The invariant of the cache -/

namespace Agent

variable {start : Agent} {history : List StorageMoment}

/-- What the cache holds after a history that an agent with an empty cache has gone through. -/
structure Sampled (start : Agent) (history : List StorageMoment) : Prop where
  /-- The time for which a sample is good is that of the beginning. -/
  ttl : (start.after history).cache.ttl = start.cache.ttl
  /-- As many node agents are asked at a time as in the beginning. -/
  width : (start.after history).width = start.width
  /-- A sample in the cache is that of the last fetch, and no volume is newer. -/
  held : ∀ taken sample, (start.after history).cache.sample = some (taken, sample) →
    ∃ fetch, start.LastFetch history fetch ∧ fetch.surroundings.now = taken ∧
      fetch.surroundings.usage start.width = sample
  /-- Without a sample in the cache there was no query, or a new volume after every query. -/
  dropped : (start.after history).cache.sample = none → StorageMoment.Unsampled history

/-- A sample that is still good is that of the last fetch. -/
theorem Sampled.of_fresh? (h : start.Sampled history) {now : Nat} {sample : UsageSample}
    (hfresh : (start.after history).cache.fresh? now = some sample) :
    ∃ fetch, start.LastFetch history fetch ∧ fetch.surroundings.usage start.width = sample := by
  rw [MountpointCache.fresh?] at hfresh
  -- the cache holds a sample, and that sample is still good
  split at hfresh
  next taken held hheld =>
    split at hfresh
    next =>
      cases hfresh
      obtain ⟨fetch, hlast, -, husage⟩ := h.held _ _ hheld
      exact ⟨fetch, hlast, husage⟩
    next => cases hfresh
  next => cases hfresh

/-- A delivery preserves what the cache holds, or makes it outdated and drops it. -/
theorem Sampled.told (h : start.Sampled history) (surroundings : Surroundings)
    (event : ClusterEvent) :
    start.Sampled (history ++ [⟨surroundings, .told event⟩]) := by
  have hcache := cache_told (start.after history) surroundings event
  by_cases houtdates : StorageIndex.outdatesSample event = true
  · -- behind a new volume there is neither a sample nor a query
    rw [if_pos houtdates] at hcache
    refine ⟨?_, ?_, ?_, ?_⟩ <;> rw [after_concat]
    · rw [hcache]
      exact h.ttl
    · exact h.width
    · rw [hcache]
      nofun
    · exact fun _ => (StorageMoment.createsVolume_told_iff.mpr houtdates).unsampled
  · -- any other delivery leaves the cache, and the last fetch the last one
    rw [if_neg houtdates] at hcache
    have hcreates : ¬ (⟨surroundings, .told event⟩ : StorageMoment).CreatesVolume := by
      rwa [StorageMoment.createsVolume_told_iff]
    refine ⟨?_, ?_, ?_, ?_⟩ <;> rw [after_concat]
    · rw [hcache]
      exact h.ttl
    · exact h.width
    · rw [hcache]
      intro taken sample hheld
      obtain ⟨fetch, hlast, htaken, husage⟩ := h.held taken sample hheld
      exact ⟨fetch, hlast.concat hcreates not_fetches_told, htaken, husage⟩
    · rw [hcache]
      refine fun hnone => (h.dropped hnone).concat ?_
      rintro ⟨query, hquery⟩
      cases hquery

/-- A query leaves the sample of the last fetch in the cache, which may be its own. -/
theorem Sampled.asked (h : start.Sampled history) (surroundings : Surroundings)
    (query : StorageQuery) :
    start.Sampled (history ++ [⟨surroundings, .asked query⟩]) := by
  have hnext := next_asked (start.after history) surroundings query
  obtain ⟨hwidth, httl⟩ := sample_keeps (start.after history) surroundings
  refine ⟨?_, ?_, ?_, ?_⟩ <;> rw [after_concat, hnext]
  · rw [httl, h.ttl]
  · rw [hwidth, h.width]
  · cases hfresh : (start.after history).cache.fresh? surroundings.now with
    | some sample =>
      rw [sample_of_fresh? hfresh]
      intro taken held hheld
      obtain ⟨fetch, hlast, htaken, husage⟩ := h.held taken held hheld
      exact ⟨fetch, hlast.concat_asked hfresh query, htaken, husage⟩
    | none =>
      -- the query is the last fetch itself
      rw [(sample_of_not_fresh? hfresh).2, h.width]
      rintro taken sample ⟨⟩
      exact ⟨_, .of_fetches (fetches_asked_iff.mpr hfresh), rfl, rfl⟩
  · -- there is a sample in the cache after a query, so nothing is to be shown
    cases hfresh : (start.after history).cache.fresh? surroundings.now with
    | some sample =>
      rw [sample_of_fresh? hfresh]
      intro hnone
      rw [MountpointCache.fresh?, hnone] at hfresh
      cases hfresh
    | none =>
      rw [(sample_of_not_fresh? hfresh).2]
      nofun

/-- Through any history, the cache holds the sample of the last fetch, or there is no query since
the last new volume. -/
theorem sampled_after (hempty : start.cache.sample = none) (history : List StorageMoment) :
    start.Sampled history := by
  induction history using List.reverseRecOn with
  -- a new agent has neither sampled nor been asked
  | nil =>
    refine ⟨rfl, rfl, fun taken sample hheld => ?_, fun _ earlier moment later hnil => ?_⟩
    · rw [after, List.foldl_nil, hempty] at hheld
      cases hheld
    · simp at hnil
  | append_singleton history moment ih =>
    obtain ⟨surroundings, task⟩ := moment
    cases task with
    | told event => exact ih.told surroundings event
    | asked query => exact ih.asked surroundings query

/-! ### How queries are answered -/

/-- How a query is answered after a history, and what a delivery in its place does to the sample. -/
structure Served (start : Agent) (history : List StorageMoment) (surroundings : Surroundings)
    (query : StorageQuery) : Prop where
  /-- The answer rests on what the node agents reported at the last fetch, which may be that of the
  query itself. It is later than the last new volume. -/
  latest : ∃ fetch, start.LastFetch (history ++ [⟨surroundings, .asked query⟩]) fetch ∧
    ((start.after history).respond surroundings query).value =
      query.replyOn (start.after history).storage (fetch.surroundings.usage start.width)
  /-- If no sample is good for any time, the query fetches one. -/
  always : start.cache.ttl = 0 → (start.after history).Fetches ⟨surroundings, .asked query⟩
  /-- If every sample stays good, the query fetches one exactly where it is the first since the
  beginning or since the last new volume. -/
  first :
    StorageMoment.NeverExpires start.cache.ttl (history ++ [⟨surroundings, .asked query⟩]) →
    ((start.after history).Fetches ⟨surroundings, .asked query⟩ ↔
      StorageMoment.Unsampled history)
  /-- A query that does not fetch changes nothing, so that no node agent is asked. -/
  quiet : ¬ (start.after history).Fetches ⟨surroundings, .asked query⟩ →
    (start.after history).next ⟨surroundings, .asked query⟩ = start.after history
  /-- No delivery fetches, and none but that of a new volume changes what the cache holds. -/
  kept :
    ∀ event, ((start.after history).next ⟨surroundings, .told event⟩).metrics.cacheRefreshes =
      (start.after history).metrics.cacheRefreshes ∧
    (¬ (⟨surroundings, .told event⟩ : StorageMoment).CreatesVolume →
      ((start.after history).next ⟨surroundings, .told event⟩).cache =
        (start.after history).cache)

/-- Every query is answered from the sample of the last fetch. -/
theorem Sampled.latest (h : start.Sampled history) (surroundings : Surroundings)
    (query : StorageQuery) :
    ∃ fetch, start.LastFetch (history ++ [⟨surroundings, .asked query⟩]) fetch ∧
      ((start.after history).respond surroundings query).value =
        query.replyOn (start.after history).storage (fetch.surroundings.usage start.width) := by
  rw [respond_eq]
  -- either the sample that is held is good, or the query fetches one itself
  cases hfresh : (start.after history).cache.fresh? surroundings.now with
  | some sample =>
    obtain ⟨fetch, hlast, rfl⟩ := h.of_fresh? hfresh
    refine ⟨fetch, hlast.concat_asked hfresh query, ?_⟩
    rw [sample_of_fresh? hfresh]
    rfl
  | none =>
    refine ⟨_, .of_fetches (fetches_asked_iff.mpr hfresh), ?_⟩
    rw [← h.width, ← (sample_of_not_fresh? hfresh).1]
    rfl

/-- Where every sample stays good, a query fetches exactly if the cache holds no sample. -/
theorem Sampled.fetches_iff (h : start.Sampled history) {surroundings : Surroundings}
    {query : StorageQuery}
    (hexpires :
      StorageMoment.NeverExpires start.cache.ttl (history ++ [⟨surroundings, .asked query⟩])) :
    (start.after history).Fetches ⟨surroundings, .asked query⟩ ↔
      StorageMoment.Unsampled history := by
  rw [fetches_asked_iff, MountpointCache.fresh?]
  cases hheld : (start.after history).cache.sample with
  | none => exact iff_of_true rfl (h.dropped hheld)
  | some held =>
    obtain ⟨taken, sample⟩ := held
    obtain ⟨fetch, hlast, htaken, -⟩ := h.held taken sample hheld
    -- the sample was taken at a moment of the history, so it is still good
    have hgood : surroundings.now - taken < (start.after history).cache.ttl := by
      rw [h.ttl, ← htaken]
      exact hexpires fetch (List.mem_append_left _ hlast.mem) _
        (List.mem_append_right _ List.mem_cons_self)
    refine iff_of_false ?_ hlast.not_unsampled
    simp only [if_pos hgood]
    exact Option.some_ne_none sample

/-- After any history of an agent, every query is answered from a sample that is newer than the
newest volume. -/
theorem served (subscribed : List Projection) (width ttl : Nat) (bus : Bus ClusterEvent)
    (history : List StorageMoment) (surroundings : Surroundings) (query : StorageQuery) :
    Served (.start subscribed width ttl bus) history surroundings query := by
  have h : Sampled (.start subscribed width ttl bus) history := sampled_after rfl history
  refine ⟨h.latest surroundings query, fun httl => ?_, h.fetches_iff, fun hfetches => ?_,
    fun event => ⟨rfl, ?_⟩⟩
  · -- with no time to live, no sample is good
    rw [fetches_asked_iff, MountpointCache.fresh?, h.ttl, httl]
    cases ((start subscribed width ttl bus).after history).cache.sample <;> rfl
  · obtain ⟨sample, hfresh⟩ :=
      Option.ne_none_iff_exists'.mp (mt fetches_asked_iff.mpr hfetches)
    rw [next_asked, sample_of_fresh? hfresh]
  · rw [StorageMoment.createsVolume_told_iff]
    intro houtdates
    rw [cache_told, if_neg houtdates]

end Agent

end ClusterWatch
