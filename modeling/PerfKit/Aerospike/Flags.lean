import PerfKit.Python.Basic
import PerfKit.Python.Str

/-!
# The flags of the aerospike benchmark

The flags `Prepare` and `Run` read, with their defaults, and the loops over the client VMs and
the server processes that both share. The four thread-count flags have `lower_bound=1`, which absl
checks when the flags are parsed: `ValidFlags` carries those bounds, so the client-thread sweep of
`Run` has a positive step.

* `clientProcesses k n` lists `(client_idx, process_idx)` as the two nested loops do, client by
  client (`mem_clientProcesses`, `nodup_clientProcesses`);
* `asbenchPort p` is the `{3 + process_idx}000` of the asbench commands.
-/

namespace PerfKit.Aerospike

open Python

/-- The flags of the benchmark that `Prepare` and `Run` read, each with its default. An unset
`aerospike_test_workload_extra_args` (`None`) is the empty list: both are falsy, the modelled
functions read the flag through its truth and its elements, and the metadata of `Run` records the
empty list as `None`. -/
structure Flags where
  clientVms : Int := 1
  clientThreadsForLoadPhase : Int := 8
  minClientThreads : Int := 8
  maxClientThreads : Int := 128
  clientThreadsStepSize : Int := 8
  readPercent : Int := 90
  numKeys : Int := 1000000
  benchmarkDuration : Int := 60
  instances : Int := 1
  namespaces : List String := ["test"]
  enableStrongConsistency : Bool := false
  testWorkloadTypes : String := "RU, 75"
  testWorkloadExtraArgs : List String := []
  skipDbPrepopulation : Bool := false
  testWorkloadObjectSpec : String := "B1000"
  publishDetailedSamples : Bool := false
  publishPercentileTimeSeries : Bool := true
  deriving DecidableEq

/-- Flags that passed absl's parsing: the thread counts are at least their `lower_bound` of 1. -/
structure ValidFlags extends Flags where
  clientThreadsForLoadPhase_pos : 1 ≤ clientThreadsForLoadPhase
  minClientThreads_pos : 1 ≤ minClientThreads
  maxClientThreads_pos : 1 ≤ maxClientThreads
  clientThreadsStepSize_pos : 1 ≤ clientThreadsStepSize

/-- The default flags, which absl accepts. -/
def ValidFlags.default : ValidFlags :=
  ⟨{}, by decide, by decide, by decide, by decide⟩

/-- The `(client_idx, process_idx)` pairs of `for client_idx in range(k): for process_idx in
range(instances)`, in the order of the loops. -/
def clientProcesses (numClients : Nat) (instances : Int) : List (Nat × Nat) :=
  (List.range numClients).flatMap fun c => (List.range instances.toNat).map fun p => (c, p)

@[simp] theorem mem_clientProcesses {numClients : Nat} {instances : Int} {c p : Nat} :
    (c, p) ∈ clientProcesses numClients instances ↔ c < numClients ∧ (p : Int) < instances := by
  simp only [clientProcesses, List.mem_flatMap, List.mem_range, List.mem_map, Prod.mk.injEq]
  constructor
  · rintro ⟨c, hc, p, hp, rfl, rfl⟩
    exact ⟨hc, by omega⟩
  · rintro ⟨hc, hp⟩
    exact ⟨c, hc, p, by omega, rfl, rfl⟩

theorem nodup_clientProcesses (numClients : Nat) (instances : Int) :
    (clientProcesses numClients instances).Nodup := by
  refine List.nodup_flatMap.2
    ⟨fun c _ => (List.nodup_range _).map fun _ _ h => by simpa using h, ?_⟩
  refine (List.nodup_range _).pairwise_of_forall_ne fun c _ c' _ hne => ?_
  simp only [Function.onFun, List.disjoint_left, List.mem_map]
  rintro _ ⟨p, -, rfl⟩ ⟨p', -, h⟩
  exact hne (Prod.mk.inj h).1.symm

/-- `{3 + process_idx}000`: the port of the `process_idx`-th server process. -/
def asbenchPort (processIdx : Nat) : String := toString (3 + processIdx) ++ "000"

end PerfKit.Aerospike
