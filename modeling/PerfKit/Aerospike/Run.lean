import PerfKit.Aerospike.Flags

/-!
# The asbench runs of the aerospike `Run`

`Run` sweeps the client-thread count `threads` over
`range(min_client_threads, max_client_threads + 1, step)`. For each count, it zips the `;`-separated
workload types with their extra args, and for each workload and each namespace runs one asbench
command per client VM and server process, the whole group together (`RunThreaded`). Each run
writes its latency histogram to `--output-file result.{client_idx}.{process_idx}.{threads}` on its
client VM; after the groups, `Run` pulls these files.

The plan of `Run`, deterministic, is the list of its groups for each thread count (`run`); how the
runs of a group interleave is left to `Execution`.

* `run_eq_error_iff`: `Run` raises its `ValueError` exactly when the extra args are set with
  another length than the workload types, and the sweep is not empty; otherwise its plan is each
  workload on each namespace for each thread count;
* `map_fst_run`: the plan has one entry per thread count of the sweep, in order, each between the
  bounds (`mem_sweep`) and none twice (`nodup_sweep`);
* `RunCall.key_inj`: a run's file is named by its client VM, server process and thread count only,
  so that the runs of every workload and namespace on one client VM and server process share it;
  `nodup_groupCalls_key`: within a group, no two runs write the same file of the same VM.
-/

namespace PerfKit.Aerospike

open Python

/-- The values an asbench run command is made of: the namespace, the client VM and server
process, the workload `op` with its extra arg, and the client-thread count. -/
structure RunCall where
  ns : String
  clientIdx : Nat
  processIdx : Nat
  op : String
  extraArg : Option String
  threads : Int
  deriving DecidableEq

/-- `result.{client_idx}.{process_idx}.{threads}`, the run's `--output-file`. -/
def RunCall.outputFile (r : RunCall) : String :=
  "result." ++ toString r.clientIdx ++ "." ++ toString r.processIdx ++ "." ++ toString r.threads

/-- The file a run writes: its client VM and its output file. -/
def RunCall.key (r : RunCall) : Nat × String := (r.clientIdx, r.outputFile)

/-- The `extra_arg_str` of `_Run`: the extra arg and a space, if it is set and not empty. -/
def RunCall.extraArgStr (r : RunCall) : String :=
  match r.extraArg with
  | some e => if e ≠ "" then e ++ " " else ""
  | none => ""

/-- The `run_command` of `_Run`, `seedIps` the servers' IPs joined by commas. -/
def RunCall.command (flags : Flags) (seedIps : String) (r : RunCall) : String :=
  "asbench " ++ "--threads " ++ toString r.threads ++ " --namespace " ++ r.ns ++ " " ++
    "--workload \"" ++ r.op ++ "\" " ++ r.extraArgStr ++ " " ++
    "--object-spec " ++ flags.testWorkloadObjectSpec ++ " " ++
    "--keys " ++ toString flags.numKeys ++ " " ++
    "--hosts " ++ seedIps ++ " --port " ++ asbenchPort r.processIdx ++ " " ++
    "--duration " ++ toString flags.benchmarkDuration ++ " " ++
    "--latency --percentiles 50,90,99,99.9,99.99 " ++ "--output-file " ++ r.outputFile ++ " "

/-- The error `Run` raises when the extra args do not match the workload types. -/
def extraArgsLengthError : PyError :=
  .valueError
    "aerospike_test_workload_extra_args must be the same length as aerospike_test_workload_types"

/-- The workload types of an iteration zipped with their extra args, or the `ValueError`. -/
def workloads (flags : Flags) : Except PyError (List (String × Option String)) :=
  let workloadTypes := splitSep flags.testWorkloadTypes ';'
  let extraArgs := if flags.testWorkloadExtraArgs ≠ [] then flags.testWorkloadExtraArgs.map some
    else List.replicate workloadTypes.length none
  if extraArgs.length ≠ workloadTypes.length then .error extraArgsLengthError
  else .ok (workloadTypes.zip extraArgs)

/-- The `run_params` of one group: the workload `w` on namespace `ns`, for each client VM and
server process. -/
def groupCalls (flags : Flags) (numClients : Nat) (threads : Int) (w : String × Option String)
    (ns : String) : List RunCall :=
  (clientProcesses numClients flags.instances).map fun cp => ⟨ns, cp.1, cp.2, w.1, w.2, threads⟩

/-- The groups of the iteration for `threads`: each workload, then each namespace. -/
def iterationGroups (flags : Flags) (numClients : Nat) (threads : Int) :
    Except PyError (List (List RunCall)) := do
  let ws ← workloads flags
  pure (ws.flatMap fun w => flags.namespaces.map (groupCalls flags numClients threads w))

/-- The thread counts of the sweep. -/
def sweep (flags : Flags) : List Int :=
  pyRange flags.minClientThreads (flags.maxClientThreads + 1) flags.clientThreadsStepSize

/-- The plan of `Run`: for each thread count, the groups of its iteration. -/
def run (flags : Flags) (numClients : Nat) : Except PyError (List (Int × List (List RunCall))) :=
  (sweep flags).mapM fun t => do
    let groups ← iterationGroups flags numClients t
    pure (t, groups)

/-- The files `Run` pulls after the iteration for `threads`, with the VM each is on. -/
def resultFiles (flags : Flags) (numClients : Nat) (threads : Int) : List (Nat × String) :=
  (clientProcesses numClients flags.instances).map fun cp =>
    (cp.1, "result." ++ toString cp.1 ++ "." ++ toString cp.2 ++ "." ++ toString threads)

/-! ## The plan -/

/-- With the extra args unset or as many as the workload types, the workloads are the types zipped
with their extra args. -/
theorem workloads_eq_ok (flags : Flags) (hargs : flags.testWorkloadExtraArgs = [] ∨
      flags.testWorkloadExtraArgs.length = (splitSep flags.testWorkloadTypes ';').length) :
    workloads flags = .ok ((splitSep flags.testWorkloadTypes ';').zip
      (if flags.testWorkloadExtraArgs ≠ [] then flags.testWorkloadExtraArgs.map some
        else List.replicate (splitSep flags.testWorkloadTypes ';').length none)) := by
  unfold workloads
  by_cases ha : flags.testWorkloadExtraArgs = []
  · simp [ha]
  · simp [ha, hargs.resolve_left ha]

theorem workloads_eq_error_iff (flags : Flags) (e : PyError) :
    workloads flags = .error e ↔ (flags.testWorkloadExtraArgs ≠ [] ∧
      flags.testWorkloadExtraArgs.length ≠ (splitSep flags.testWorkloadTypes ';').length) ∧
      e = extraArgsLengthError := by
  unfold workloads
  by_cases ha : flags.testWorkloadExtraArgs = [] <;> by_cases hl :
    flags.testWorkloadExtraArgs.length = (splitSep flags.testWorkloadTypes ';').length <;>
    simp [ha, hl, eq_comm]

/-- With workloads that pass the length check, `Run`'s plan is, for each thread count of the
sweep, each workload on each namespace. -/
theorem run_eq_ok {flags : Flags} {ws : List (String × Option String)}
    (h : workloads flags = .ok ws) (numClients : Nat) :
    run flags numClients = .ok ((sweep flags).map fun t =>
      (t, ws.flatMap fun w => flags.namespaces.map (groupCalls flags numClients t w))) :=
  mapM_except_eq_ok _ _ fun t _ => by simp [iterationGroups, h]

/-- The workload types of a flag written as types joined by `;`, none holding `;`, are those types,
each with its extra arg, when the extra args are unset or as many. -/
theorem workloads_of_intercalate (flags : Flags) {ops : List String} (hne : ops ≠ [])
    (hsemi : ∀ op ∈ ops, ';' ∉ op.data)
    (htypes : flags.testWorkloadTypes = String.mk ([';'].intercalate (ops.map String.data)))
    (hargs : flags.testWorkloadExtraArgs = [] ∨ flags.testWorkloadExtraArgs.length = ops.length) :
    workloads flags = .ok (ops.zip (if flags.testWorkloadExtraArgs ≠ [] then
      flags.testWorkloadExtraArgs.map some else List.replicate ops.length none)) := by
  have h := workloads_eq_ok flags (by rwa [htypes, splitSep_intercalate ';' hne hsemi])
  rwa [htypes, splitSep_intercalate ';' hne hsemi] at h

/-- **`Run`'s plan follows the `;`-separated workload types**: for each thread count of the sweep,
the types in the order they are written, each with its extra arg, each on every namespace. -/
theorem run_of_workloadTypes (flags : ValidFlags) (numClients : Nat) {ops : List String}
    (hne : ops ≠ []) (hsemi : ∀ op ∈ ops, ';' ∉ op.data)
    (htypes : flags.testWorkloadTypes = String.mk ([';'].intercalate (ops.map String.data)))
    (hargs : flags.testWorkloadExtraArgs = [] ∨ flags.testWorkloadExtraArgs.length = ops.length) :
    run flags.toFlags numClients = .ok ((sweep flags.toFlags).map fun t =>
      (t, (ops.zip (if flags.testWorkloadExtraArgs ≠ [] then flags.testWorkloadExtraArgs.map some
        else List.replicate ops.length none)).flatMap fun w =>
          flags.namespaces.map (groupCalls flags.toFlags numClients t w))) :=
  run_eq_ok (workloads_of_intercalate flags.toFlags hne hsemi htypes hargs) numClients

/-- The two workload types of `'RU, 75;RU, 50'`, no extra args, the other flags at their
defaults. -/
theorem run_of_workloadTypes_twoTypes :
    ["RU, 75", "RU, 50"] ≠ [] ∧ (∀ op ∈ ["RU, 75", "RU, 50"], ';' ∉ op.data) ∧
    run { ValidFlags.default with testWorkloadTypes := "RU, 75;RU, 50" }.toFlags 1 =
      .ok ((sweep ValidFlags.default.toFlags).map fun t =>
        (t, ((["RU, 75", "RU, 50"] : List String).zip (List.replicate 2 none)).flatMap fun w =>
          ["test"].map (groupCalls { testWorkloadTypes := "RU, 75;RU, 50" } 1 t w))) :=
  ⟨by decide, by decide, @run_of_workloadTypes
    { ValidFlags.default with testWorkloadTypes := "RU, 75;RU, 50" } 1 ["RU, 75", "RU, 50"]
    (by decide) (by decide) rfl (.inl rfl)⟩

/-- **`Run` raises its `ValueError` exactly when the extra args are set with another length than
the workload types and the sweep has a thread count; otherwise its plan is, for each thread count
of the sweep, each workload type with its extra arg on each namespace.** -/
theorem run_eq_error_iff (flags : ValidFlags) (numClients : Nat) :
    (∀ e, run flags.toFlags numClients = .error e ↔ sweep flags.toFlags ≠ [] ∧
      (flags.testWorkloadExtraArgs ≠ [] ∧
        flags.testWorkloadExtraArgs.length ≠ (splitSep flags.testWorkloadTypes ';').length) ∧
      e = extraArgsLengthError) ∧
    (flags.testWorkloadExtraArgs = [] ∨
        flags.testWorkloadExtraArgs.length = (splitSep flags.testWorkloadTypes ';').length →
      run flags.toFlags numClients = .ok ((sweep flags.toFlags).map fun t =>
        (t, ((splitSep flags.testWorkloadTypes ';').zip (if flags.testWorkloadExtraArgs ≠ [] then
            flags.testWorkloadExtraArgs.map some
          else List.replicate (splitSep flags.testWorkloadTypes ';').length none)).flatMap fun w =>
            flags.namespaces.map (groupCalls flags.toFlags numClients t w)))) := by
  refine ⟨fun e => ?_, fun hargs => run_eq_ok (workloads_eq_ok flags.toFlags hargs) numClients⟩
  rw [← workloads_eq_error_iff]
  cases hw : workloads flags.toFlags with
  | ok ws => simp [run_eq_ok hw]
  | error e' =>
    cases hs : sweep flags.toFlags with
    | nil =>
      rw [run, hs, List.mapM_nil]
      simp
    | cons t ts =>
      rw [run, hs, List.mapM_cons, iterationGroups, hw]
      simp

/-- The default flags pass the length check: `Run` makes its plan. -/
theorem run_eq_error_iff_defaults : ∃ plan, run ValidFlags.default.toFlags 1 = .ok plan :=
  ⟨_, (run_eq_error_iff ValidFlags.default 1).2 (.inl rfl)⟩

/-- Whenever `Run` makes its plan, the plan is each workload on each namespace for each thread
count, for workloads that pass the length check, or there is no thread count. -/
theorem exists_workloads_of_run_eq_ok {flags : Flags} {numClients : Nat}
    {plan : List (Int × List (List RunCall))} (h : run flags numClients = .ok plan) :
    ∃ ws : List (String × Option String), plan = (sweep flags).map fun t =>
      (t, ws.flatMap fun w => flags.namespaces.map (groupCalls flags numClients t w)) := by
  cases hw : workloads flags with
  | ok ws =>
    rw [run_eq_ok hw] at h
    exact ⟨ws, (Except.ok.inj h).symm⟩
  | error e =>
    cases hs : sweep flags with
    | nil =>
      rw [run, hs, List.mapM_nil] at h
      exact ⟨[], (Except.ok.inj h).symm⟩
    | cons t ts =>
      rw [run, hs, List.mapM_cons, iterationGroups, hw] at h
      cases h

theorem map_fst_run {flags : Flags} {numClients : Nat} {plan : List (Int × List (List RunCall))}
    (h : run flags numClients = .ok plan) : plan.map (·.1) = sweep flags := by
  obtain ⟨ws, rfl⟩ := exists_workloads_of_run_eq_ok h
  simp [Function.comp_def]

/-- The thread counts of the sweep lie between the bounds, `step` apart from the least. -/
theorem mem_sweep (flags : ValidFlags) (t : Int) :
    t ∈ sweep flags.toFlags ↔ flags.minClientThreads ≤ t ∧ t ≤ flags.maxClientThreads ∧
      ∃ i : Nat, t = flags.minClientThreads + i * flags.clientThreadsStepSize := by
  rw [sweep, mem_pyRange (by have := flags.clientThreadsStepSize_pos; omega)]
  constructor <;> rintro ⟨h1, h2, h3⟩ <;> exact ⟨h1, by omega, h3⟩

theorem nodup_sweep (flags : ValidFlags) : (sweep flags.toFlags).Nodup :=
  nodup_pyRange (by have := flags.clientThreadsStepSize_pos; omega) _ _

/-! ## The files of a group -/

/-- **Two runs write the same file of the same VM exactly when they have the same client VM,
server process and thread count**: the name `result.{client_idx}.{process_idx}.{threads}` holds
neither the workload nor the namespace. -/
theorem RunCall.key_inj {r r' : RunCall} (h : r.key = r'.key) :
    r.clientIdx = r'.clientIdx ∧ r.processIdx = r'.processIdx ∧ r.threads = r'.threads := by
  simp only [RunCall.key, RunCall.outputFile, Prod.mk.injEq] at h
  have h₁ := @dotted_inj "result." r.clientIdx r'.clientIdx
    (toString r.processIdx ++ "." ++ toString r.threads)
    (toString r'.processIdx ++ "." ++ toString r'.threads)
    (by simpa only [String.append_assoc] using h.2)
  have h₂ := @dotted_inj "" r.processIdx r'.processIdx (toString r.threads) (toString r'.threads)
    (by simpa only [String.empty_append] using h₁.2)
  exact ⟨h.1, h₂.1, toString_int_inj h₂.2⟩

/-- **No two runs of a group write the same file of the same VM.** -/
theorem nodup_groupCalls_key (flags : Flags) (numClients : Nat) (threads : Int)
    (w : String × Option String) (ns : String) :
    ((groupCalls flags numClients threads w ns).map RunCall.key).Nodup := by
  rw [groupCalls, List.map_map]
  refine (nodup_clientProcesses numClients flags.instances).map fun cp cp' h => ?_
  have := @RunCall.key_inj ⟨ns, cp.1, cp.2, w.1, w.2, threads⟩
    ⟨ns, cp'.1, cp'.2, w.1, w.2, threads⟩ h
  exact Prod.ext this.1 this.2.1

/-- **Every iteration of `Run` has a thread count between the bounds**, with validated flags. -/
theorem run_threads_between (flags : ValidFlags) (numClients : Nat)
    {plan : List (Int × List (List RunCall))} (h : run flags.toFlags numClients = .ok plan) :
    ∀ tg ∈ plan, flags.minClientThreads ≤ tg.1 ∧ tg.1 ≤ flags.maxClientThreads := by
  intro tg htg
  have hmem : tg.1 ∈ sweep flags.toFlags := map_fst_run h ▸ List.mem_map_of_mem _ htg
  obtain ⟨h1, h2, -⟩ := (mem_sweep flags tg.1).1 hmem
  exact ⟨h1, h2⟩

/-- The default flags and one client VM: the sixteen thread counts from 8 to 128. -/
theorem run_threads_between_defaults :
    ∃ plan, run ValidFlags.default.toFlags 1 = .ok plan ∧ ∀ tg ∈ plan,
      ValidFlags.default.minClientThreads ≤ tg.1 ∧ tg.1 ≤ ValidFlags.default.maxClientThreads := by
  have hrun := run_eq_ok (show workloads {} = .ok [("RU, 75", none)] by decide) 1
  exact ⟨_, hrun, run_threads_between ValidFlags.default 1 hrun⟩

end PerfKit.Aerospike
