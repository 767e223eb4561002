import Mathlib.Data.List.Forall2
import PerfKit.Python.Dict
import PerfKit.Aerospike.Execution

/-!
# The samples of the aerospike `Run`

After the groups of an iteration and the pull of its result files, `Run` makes the iteration's
samples: the samples of the runs' stdout, as they are when one client VM runs one server process
and aggregated otherwise, turned into time series, and, when either publishing flag is set, the
detailed samples and the samples of the histograms pulled after them. It then updates its metadata
dict, one dict for the whole sweep, with the iteration's values, and every sample's metadata with
that dict.

How `aerospike_client` parses and aggregates is outside the sources: it is the fields of
`AsbenchClient`, and the results hold for any.

* `Dict` is a dict with string keys, its items in insertion order and its keys distinct;
  `Dict.get_set` and `Dict.get_update` say what `d[k] = v` and `d.update(...)` leave at each key;
* `get_iterationMetadata_of_keysSet`: the dict `Run` carries over the sweep holds, after the
  updates of an iteration, that iteration's values only, since each iteration sets every key it
  holds (`keysSet_iterationMetadata`);
* `runSamples_metadata`: the samples `Run` returns are, one for one and in order, the samples its
  parsers make in each iteration, with the iteration's metadata over the parser's own;
* `runSamples_clientThreads`: whatever the interleaving of the runs, the iterations are those of
  the sweep, in order, and every sample, one for one with the samples the parsers make in each
  iteration, carries as `client_threads` the thread count of its own iteration.
-/

namespace PerfKit.Aerospike

open Python

/-! ## Dicts -/

/-- A value of the samples' metadata: an `int`, a `bool`, a `str`, a list of `str`, or `None`. -/
inductive MetaValue
  | int (n : Int)
  | bool (b : Bool)
  | str (s : String)
  | strs (l : List String)
  | none
  deriving DecidableEq

/-- A Python `dict` with `str` keys: its items in insertion order, no key twice. -/
structure Dict where
  items : List (String × MetaValue)
  nodup : (items.map Prod.fst).Nodup

namespace Dict

/-- `{}`. -/
def empty : Dict := ⟨[], List.nodup_nil⟩

/-- `d.get(k)`. -/
def get (d : Dict) (k : String) : Option MetaValue := d.items.lookup k

/-- `d[k] = v`. -/
def set (d : Dict) (k : String) (v : MetaValue) : Dict :=
  ⟨setItems d.items k v, nodup_setItems d.nodup k v⟩

/-- `d.update(u)`, for the items of `u` in order. -/
def update (d : Dict) (u : List (String × MetaValue)) : Dict :=
  u.foldl (fun d kv => d.set kv.1 kv.2) d

@[simp] theorem get_empty (k : String) : empty.get k = none := rfl

@[simp] theorem get_set (d : Dict) (k k' : String) (v : MetaValue) :
    (d.set k v).get k' = if k' = k then some v else d.get k' :=
  lookup_setItems d.items k k' v

/-- After `d.update(u)` a key holds its last value in `u`, or else its value in `d`. -/
theorem get_update (d : Dict) (u : List (String × MetaValue)) (k : String) :
    (d.update u).get k = (u.reverse.lookup k).or (d.get k) := by
  induction u generalizing d with
  | nil => rfl
  | cons kv u ih =>
    rw [update, List.foldl_cons, ← update, ih, List.reverse_cons, List.lookup_append,
      Option.or_assoc, get_set]
    by_cases hk : k = kv.1 <;> simp [hk]

/-- `d.update(m)` for a dict `m`: a key holds its value in `m`, or else its value in `d`. -/
theorem get_update_items (d m : Dict) (k : String) :
    (d.update m.items).get k = (m.get k).or (d.get k) := by
  rw [get_update, lookup_reverse_of_nodup m.nodup]
  rfl

example : ((empty.update [("a", .int 1), ("b", .int 2)]).update [("a", .int 3)]).items =
    [("a", .int 3), ("b", .int 2)] := by decide

end Dict

/-! ## The metadata dict -/

/-- The flags of `aerospike_server`, and the memory of the first server, that `Run` records:
`memorySize` is `int(servers[0].total_memory_kb * 0.8)`, and `isEnterprise` whether
`aerospike_edition` is `ENTERPRISE`. -/
structure ServerFlags where
  storageType : MetaValue
  memorySize : Int
  serviceThreads : MetaValue
  replicationFactor : MetaValue
  edition : MetaValue
  isEnterprise : Bool
  enterpriseVersion : MetaValue

/-- The dict of `Run`'s first `metadata.update` in the iteration for `threads`, `numServers` the
number of server VMs. -/
def runMetadata (flags : Flags) (server : ServerFlags) (numServers : Nat) (threads : Int) :
    List (String × MetaValue) :=
  [("num_clients_vms", .int flags.clientVms),
   ("num_aerospike_vms", .int numServers),
   ("num_aerospike_instances", .int flags.instances),
   ("storage_type", server.storageType),
   ("memory_size", .int server.memorySize),
   ("service_threads", server.serviceThreads),
   ("replication_factor", server.replicationFactor),
   ("client_threads", .int threads),
   ("read_percent", .int flags.readPercent),
   ("aerospike_edition", server.edition),
   ("aerospike_enable_strong_consistency", .bool flags.enableStrongConsistency),
   ("aerospike_test_workload_types", .str flags.testWorkloadTypes),
   ("aerospike_test_workload_extra_args",
     if flags.testWorkloadExtraArgs = [] then .none else .strs flags.testWorkloadExtraArgs),
   ("aerospike_skip_db_prepopulation", .bool flags.skipDbPrepopulation),
   ("aerospike_test_workload_object_spec", .str flags.testWorkloadObjectSpec)]

section Metadata

variable (flags : Flags) (server : ServerFlags) (numServers : Nat)

/-- The metadata dict after the updates of the iteration for `threads`. -/
def iterationMetadata (metadata : Dict) (threads : Int) : Dict :=
  let metadata := metadata.update (runMetadata flags server numServers threads)
  if server.isEnterprise then metadata.update [("aerospike_version", server.enterpriseVersion)]
  else metadata

/-- The updates of an iteration put their values over what the dict held. -/
theorem get_iterationMetadata (metadata : Dict) (threads : Int) (k : String) :
    (iterationMetadata flags server numServers metadata threads).get k =
      ((iterationMetadata flags server numServers .empty threads).get k).or (metadata.get k) := by
  unfold iterationMetadata
  split <;> simp [Dict.get_update, Option.or_assoc]

/-- The keys the updates of an iteration set do not depend on its thread count. -/
theorem get_iterationMetadata_empty_eq_none {threads : Int} {k : String}
    (h : (iterationMetadata flags server numServers .empty threads).get k = none)
    (threads' : Int) :
    (iterationMetadata flags server numServers .empty threads').get k = none := by
  have hkeys : (runMetadata flags server numServers threads').map Prod.fst =
      (runMetadata flags server numServers threads).map Prod.fst := rfl
  unfold iterationMetadata at h ⊢
  cases hE : server.isEnterprise <;>
    simpa only [hE, if_true, Bool.false_eq_true, if_false, Dict.get_update, Dict.get_empty,
      Option.or_eq_none, lookup_eq_none_iff_not_mem, List.map_reverse, List.mem_reverse,
      hkeys] using h

theorem get_iterationMetadata_clientThreads (threads : Int) :
    (iterationMetadata flags server numServers .empty threads).get "client_threads" =
      some (.int threads) := by
  cases hE : server.isEnterprise <;> simp [iterationMetadata, hE, Dict.get_update, runMetadata]

/-- Every key of `metadata` is one that the updates of each iteration set. -/
def KeysSet (metadata : Dict) : Prop :=
  ∀ threads k, (iterationMetadata flags server numServers .empty threads).get k = none →
    metadata.get k = none

theorem keysSet_empty : KeysSet flags server numServers .empty := fun _ _ _ => rfl

theorem keysSet_iterationMetadata {metadata : Dict} (h : KeysSet flags server numServers metadata)
    (threads : Int) : KeysSet flags server numServers
      (iterationMetadata flags server numServers metadata threads) := fun threads' k hk => by
  rw [get_iterationMetadata,
    get_iterationMetadata_empty_eq_none flags server numServers hk threads, h threads' k hk]
  rfl

/-- **The dict `Run` carries over the sweep holds, after an iteration's updates, that iteration's
values only.** -/
theorem get_iterationMetadata_of_keysSet {metadata : Dict}
    (h : KeysSet flags server numServers metadata) (threads : Int) (k : String) :
    (iterationMetadata flags server numServers metadata threads).get k =
      (iterationMetadata flags server numServers .empty threads).get k := by
  rw [get_iterationMetadata]
  cases hk : (iterationMetadata flags server numServers .empty threads).get k with
  | none => exact h threads k hk
  | some v => rfl

end Metadata

/-! ## The samples -/

/-- The parsing and aggregation of `aerospike_client` that `Run` calls. -/
structure AsbenchClient where
  /-- `ParseAsbenchStdout` of the stdout of a run. -/
  parseAsbenchStdout : RunCall → List (Sample Dict)
  /-- `AggregateAsbenchSamples`. -/
  aggregateAsbenchSamples : List (Sample Dict) → List (Sample Dict)
  /-- `CreateTimeSeriesSample`. -/
  createTimeSeriesSample : List (Sample Dict) → List (Sample Dict)
  /-- `ParseAsbenchHistogram` of the result files, given by the histograms each holds, in the order
  they were appended. -/
  parseAsbenchHistogram : List (List RunCall) → List (Sample Dict)

section Samples

variable (client : AsbenchClient) (flags : Flags) (server : ServerFlags)
  (numClients numServers : Nat)

/-- The `temp_samples` of an iteration, before their metadata is updated. -/
def iterationSamples (o : IterationOutput) : List (Sample Dict) :=
  let stdoutSamples := o.stdoutRuns.flatMap client.parseAsbenchStdout
  let detailedSamples := if (numClients : Int) * flags.instances = 1 then stdoutSamples
    else client.aggregateAsbenchSamples stdoutSamples
  let tempSamples := client.createTimeSeriesSample detailedSamples
  if flags.publishDetailedSamples || flags.publishPercentileTimeSeries then
    tempSamples ++ (detailedSamples ++ client.parseAsbenchHistogram o.pulled)
  else tempSamples

/-- The samples `Run` returns from its iterations, `metadata` the dict it carries. -/
def runSamples : Dict → List IterationOutput → List (Sample Dict)
  | _, [] => []
  | metadata, o :: outs =>
    let metadata := iterationMetadata flags server numServers metadata o.threads
    (iterationSamples client flags numClients o).map
        (fun s => s.withMetadata (s.metadata.update metadata.items)) ++
      runSamples metadata outs

/-- `s` is the sample `s₀` of the iteration `o` as `Run` returns it: the same measurement, with the
iteration's metadata over the sample's own. -/
def MetadataUpdated (s : Sample Dict) (os₀ : IterationOutput × Sample Dict) : Prop :=
  ∃ md : Dict, s = os₀.2.withMetadata md ∧ ∀ k, md.get k =
    ((iterationMetadata flags server numServers .empty os₀.1.threads).get k).or
      (os₀.2.metadata.get k)

theorem forall₂_runSamples_of_keysSet {metadata : Dict}
    (h : KeysSet flags server numServers metadata) (outs : List IterationOutput) :
    List.Forall₂ (MetadataUpdated flags server numServers)
      (runSamples client flags server numClients numServers metadata outs)
      (outs.flatMap fun o =>
        (iterationSamples client flags numClients o).map fun s₀ => (o, s₀)) := by
  induction outs generalizing metadata with
  | nil => exact .nil
  | cons o outs ih =>
    rw [runSamples, List.flatMap_cons]
    refine List.rel_append ?_ (ih (keysSet_iterationMetadata flags server numServers h o.threads))
    rw [List.forall₂_map_left_iff, List.forall₂_map_right_iff, List.forall₂_same]
    exact fun s₀ _ => ⟨_, rfl, fun k => by
      rw [Dict.get_update_items, get_iterationMetadata_of_keysSet flags server numServers h]⟩

/-- **The samples `Run` returns are, one for one and in order, the samples its parsers make in each
iteration, each with the metadata of its iteration over its own**: none is lost, repeated or moved,
and nothing of an earlier iteration is left in the metadata. -/
theorem runSamples_metadata (outs : List IterationOutput) :
    List.Forall₂ (MetadataUpdated flags server numServers)
      (runSamples client flags server numClients numServers .empty outs)
      (outs.flatMap fun o => (iterationSamples client flags numClients o).map fun s₀ => (o, s₀)) :=
  forall₂_runSamples_of_keysSet client flags server numClients numServers
    (keysSet_empty flags server numServers) outs

/-- **Whatever the interleaving of the runs, the iterations of `Run` are those of the sweep, in
order, and every sample it returns is a sample its parsers make in an iteration, one for one and in
order, with the thread count of that iteration as `client_threads`.** -/
theorem runSamples_clientThreads (seedIps : String) {plan : List (Int × List (List RunCall))}
    (hplan : run flags numClients = .ok plan) {st st' : RunState} {outs : List IterationOutput}
    (h : RunsPlan flags numClients seedIps st plan outs st') :
    outs.map (·.threads) = sweep flags ∧
    List.Forall₂ (fun s ts => ∃ md : Dict, s = ts.2.withMetadata md ∧
        md.get "client_threads" = some (.int ts.1))
      (runSamples client flags server numClients numServers .empty outs)
      (outs.flatMap fun o => (iterationSamples client flags numClients o).map fun s₀ =>
        (o.threads, s₀)) := by
  refine ⟨(map_threads_runsPlan h).trans (map_fst_run hplan), ?_⟩
  have hpairs : (outs.flatMap fun o => (iterationSamples client flags numClients o).map fun s₀ =>
      (o.threads, s₀)) = (outs.flatMap fun o =>
        (iterationSamples client flags numClients o).map fun s₀ => (o, s₀)).map
          fun os₀ => (os₀.1.threads, os₀.2) := by
    simp only [List.map_flatMap, List.map_map]
    rfl
  rw [hpairs, List.forall₂_map_right_iff]
  exact (forall₂_runSamples_of_keysSet client flags server numClients numServers
    (keysSet_empty flags server numServers) outs).imp
    fun s os₀ ⟨md, hs, hmd⟩ => ⟨md, hs, by rw [hmd, get_iterationMetadata_clientThreads]; rfl⟩

end Samples

/-- The default flags on one client VM and one server VM, a parser that makes one sample of each
run's stdout, from VMs with no files. -/
theorem runSamples_clientThreads_defaults :
    ∃ plan outs st', run {} 1 = .ok plan ∧
      RunsPlan {} 1 "10.0.0.1" ⟨fun _ => [], [], []⟩ plan outs st' ∧
      outs.map (·.threads) = sweep {} ∧
      List.Forall₂ (fun s ts => ∃ md : Dict, s = ts.2.withMetadata md ∧
          md.get "client_threads" = some (.int ts.1))
        (runSamples ⟨fun _ => [⟨"Throughput", 0, "ops/s", .empty⟩], id, id, fun _ => []⟩ {}
          ⟨.str "memory", 0, .int 4, .int 1, .str "community", false, .none⟩ 1 1 .empty outs)
        (outs.flatMap fun o => (iterationSamples
          ⟨fun _ => [⟨"Throughput", 0, "ops/s", .empty⟩], id, id, fun _ => []⟩ {} 1 o).map
            fun s₀ => (o.threads, s₀)) := by
  have hrun := run_eq_ok (show workloads {} = .ok [("RU, 75", none)] by decide) 1
  obtain ⟨outs, st', h⟩ := runsPlan_exists {} 1 "10.0.0.1" ⟨fun _ => [], [], []⟩ _
  exact ⟨_, outs, st', hrun, h, runSamples_clientThreads _ {} _ 1 1 "10.0.0.1" hrun h⟩

end PerfKit.Aerospike
