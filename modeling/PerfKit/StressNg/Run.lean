import PerfKit.StressNg.Workload

/-!
# The stress-ng benchmark run

`Run` runs `_RunWorkload` once per thread workload, in the flag's order, on the one VM, and
concatenates the samples. The workload fixes the `num_threads` it passes (`workloadThreads`): `1`
for `small`, the VM's CPU count for `large`, and for `medium` the CPU count divided by two with `/`,
Python's true division, which gives a `float`.

* `run_log`: on outputs none of which raises, `Run` returns, and the VM's log holds, workload by
  workload, the commands of `_RunWorkload` at the workload's thread count;
* `run_threads`: every sample of a run carries, as `threads`, the thread count of one of the flag's
  workloads; with validated flags it is `1`, the CPU count, or the `float` half of it
  (`run_threads_of_valid`);
* `run_medium_three_cpus`: on three CPUs the `medium` workload passes `1.5`, which is no positive
  integer: the commands read `--bsearch 1.5` and the samples carry `threads` `1.5`.
-/

namespace PerfKit.StressNg

open Python

/-- The `num_threads` that `Run` passes for a workload on a VM with `numCpus` CPUs, `none` for a
name that is none of the three. -/
def workloadThreads (numCpus : Int) (workload : String) : Option PyNum :=
  if workload = "small" then some (.int 1)
  else if workload = "medium" then some (.half numCpus)
  else if workload = "large" then some (.int numCpus)
  else none

/-- The workloads of `ALL_WORKLOADS` pass `1`, half the CPU count, or the CPU count. -/
theorem workloadThreads_of_mem_allWorkloads (numCpus : Int) {w : String} (hw : w ∈ allWorkloads) :
    workloadThreads numCpus w = some (.int 1) ∨ workloadThreads numCpus w = some (.half numCpus) ∨
      workloadThreads numCpus w = some (.int numCpus) := by
  simp only [allWorkloads, List.mem_cons, List.not_mem_nil, or_false] at hw
  rcases hw with rfl | rfl | rfl <;> simp [workloadThreads]

section Run

variable (pyFloat : String → Except PyError Float) (iterCpuMethods : List String) (flags : Flags)
  (out : Nat → String)

/-- One pass of `Run`'s loop, on the VM's log and the samples so far:
`samples.extend(_RunWorkload(vm, num_threads))` for a known workload, nothing for another name. -/
def runStep (numCpus : Int) (acc : List String × List (Sample Metadata)) (workload : String) :
    Except PyError (List String × List (Sample Metadata)) :=
  match workloadThreads numCpus workload with
  | some numThreads => do
    let r ← runWorkload pyFloat iterCpuMethods flags out acc.1 numThreads
    pure (r.1, acc.2 ++ r.2)
  | none => pure acc

/-- `Run` on a VM whose `NumCpusForBenchmark()` is `numCpus`: the VM's log and the samples. -/
def run (numCpus : Int) : Except PyError (List String × List (Sample Metadata)) :=
  flags.stressNgThreadWorkloads.foldlM (runStep pyFloat iterCpuMethods flags out numCpus) ([], [])

/-! ## The log -/

theorem foldlM_runStep_eq_ok (numCpus : Int)
    (hout : ∀ n (md : Metadata) cm, (parseStressngResult pyFloat md (out n) cm).isOk)
    (L : List String) (acc : List String × List (Sample Metadata)) :
    ∃ samples, L.foldlM (runStep pyFloat iterCpuMethods flags out numCpus) acc =
      .ok (acc.1 ++ (L.filterMap (workloadThreads numCpus)).flatMap
        (workloadCommands iterCpuMethods flags), acc.2 ++ samples) := by
  induction L generalizing acc with
  | nil => exact ⟨[], by simp⟩
  | cons w L ih =>
    rw [List.foldlM_cons]
    cases hw : workloadThreads numCpus w with
    | none =>
      obtain ⟨samples, h⟩ := ih acc
      exact ⟨samples, by simp [runStep, hw, h]⟩
    | some nt =>
      obtain ⟨S, hS⟩ : ∃ S, runWorkload pyFloat iterCpuMethods flags out acc.1 nt =
          .ok (acc.1 ++ workloadCommands iterCpuMethods flags nt, S) :=
        ⟨_, runWorkload_eq_ok pyFloat iterCpuMethods flags out acc.1 nt
          fun _ _ md cm => hout _ md cm⟩
      obtain ⟨samples, h⟩ := ih (acc.1 ++ workloadCommands iterCpuMethods flags nt, acc.2 ++ S)
      refine ⟨S ++ samples, ?_⟩
      simp only [runStep, hw, hS, except_bind_ok]
      rw [except_pure, except_bind_ok, h]
      simp [List.filterMap_cons, hw]

/-- **On outputs none of which raises, `Run` returns**, and the VM's log is, workload by workload in
the flag's order, the commands `_RunWorkload` sends at that workload's thread count. -/
theorem run_log (numCpus : Int)
    (hout : ∀ n (md : Metadata) cm, (parseStressngResult pyFloat md (out n) cm).isOk) :
    ∃ samples, run pyFloat iterCpuMethods flags out numCpus =
      .ok ((flags.stressNgThreadWorkloads.filterMap (workloadThreads numCpus)).flatMap
        (workloadCommands iterCpuMethods flags), samples) := by
  simpa using foldlM_runStep_eq_ok pyFloat iterCpuMethods flags out numCpus hout
    flags.stressNgThreadWorkloads ([], [])

/-- The default flags on a VM of eight CPUs that prints nothing: the commands of the `large`
workload. -/
theorem run_log_silentVm :
    ∃ samples, run (fun _ => .error .indexError) validCpuMethods {} (fun _ => "") 8 =
      .ok ((({} : Flags).stressNgThreadWorkloads.filterMap (workloadThreads 8)).flatMap
        (workloadCommands validCpuMethods {}), samples) :=
  run_log _ _ _ _ 8 fun _ md cm => by rw [parseStressngResult_empty]; rfl

/-! ## Thread counts -/

/-- A pass over a workload of `W` keeps every sample's `threads` the count of a workload of `W`. -/
theorem runStep_threads (numCpus : Int) (W : List String) {w : String} (hw : w ∈ W)
    {acc res : List String × List (Sample Metadata)}
    (hacc : ∀ s ∈ acc.2, ∃ w ∈ W, workloadThreads numCpus w = some s.metadata.threads)
    (h : runStep pyFloat iterCpuMethods flags out numCpus acc w = .ok res) :
    ∀ s ∈ res.2, ∃ w ∈ W, workloadThreads numCpus w = some s.metadata.threads := by
  unfold runStep at h
  split at h
  · rename_i nt hnt
    obtain ⟨r, hr, h⟩ := except_bind_eq_ok h
    cases h
    intro s hs
    rcases List.mem_append.1 hs with hs | hs
    · exact hacc s hs
    · exact ⟨w, hw, by rw [hnt, runWorkload_threads pyFloat iterCpuMethods flags out hr s hs]⟩
  · cases h
    exact hacc

/-- **Every sample of `Run` carries, as `threads`, the thread count of one of its workloads.** -/
theorem run_threads (numCpus : Int) {log : List String} {samples : List (Sample Metadata)}
    (h : run pyFloat iterCpuMethods flags out numCpus = .ok (log, samples)) :
    ∀ s ∈ samples, ∃ w ∈ flags.stressNgThreadWorkloads,
      workloadThreads numCpus w = some s.metadata.threads :=
  foldlM_except_inv _ (fun acc => ∀ s ∈ acc.2, ∃ w ∈ flags.stressNgThreadWorkloads,
      workloadThreads numCpus w = some s.metadata.threads)
    (fun _ hw _ _ hacc => runStep_threads pyFloat iterCpuMethods flags out numCpus _ hw hacc)
    (fun _ hs => (List.not_mem_nil _ hs).elim) h

end Run

/-- **With validated flags, every sample's `threads` is `1`, the CPU count, or half of it as a
`float`.** -/
theorem run_threads_of_valid (pyFloat : String → Except PyError Float)
    (iterCpuMethods : List String) (flags : ValidFlags) (out : Nat → String) (numCpus : Int)
    {log : List String} {samples : List (Sample Metadata)}
    (h : run pyFloat iterCpuMethods flags.toFlags out numCpus = .ok (log, samples)) :
    ∀ s ∈ samples, s.metadata.threads = .int 1 ∨ s.metadata.threads = .half numCpus ∨
      s.metadata.threads = .int numCpus := by
  intro s hs
  obtain ⟨w, hw, e⟩ := run_threads pyFloat iterCpuMethods flags.toFlags out numCpus h s hs
  rcases workloadThreads_of_mem_allWorkloads numCpus (flags.mem_allWorkloads hw) with
    e' | e' | e' <;> rw [e'] at e <;> simp only [Option.some.injEq] at e <;> simp [← e]

/-- The default flags on a VM of eight CPUs that prints nothing. -/
theorem run_threads_of_valid_silentVm :
    ∃ log samples, run (fun _ => .error .indexError) validCpuMethods {} (fun _ => "") 8 =
      .ok (log, samples) ∧ ∀ s ∈ samples, s.metadata.threads = .int 1 ∨
        s.metadata.threads = .half 8 ∨ s.metadata.threads = .int 8 := by
  obtain ⟨samples, h⟩ := foldlM_runStep_eq_ok (fun _ => .error .indexError) validCpuMethods {}
    (fun _ => "") 8 (fun _ md cm => by rw [parseStressngResult_empty]; rfl)
    ({} : Flags).stressNgThreadWorkloads ([], [])
  exact ⟨_, _, h, run_threads_of_valid _ _ ⟨{}, validateFlags_default⟩ _ 8 h⟩

/-- A VM with three CPUs that prints nothing, and the flags asking for the `medium` workload only:
the flags pass validation, and `Run` passes `1.5` as the number of instances. -/
theorem run_medium_three_cpus :
    validateFlags { stressNgThreadWorkloads := ["medium"] } = .ok () ∧
    ∃ log samples, run (fun _ => .error .indexError) validCpuMethods
        { stressNgThreadWorkloads := ["medium"] } (fun _ => "") 3 = .ok (log, samples) ∧
      "stress-ng --bsearch 1.5 --metrics-brief -t 10" ∈ log ∧ samples ≠ [] ∧
      ∀ s ∈ samples, s.metadata.threads = .half 3 ∧ ¬ s.metadata.threads.IsPosInt := by
  have hrun := runWorkload_eq_ok (fun _ => .error .indexError) validCpuMethods
    { stressNgThreadWorkloads := ["medium"] } (fun _ => "") [] (.half 3)
    (fun _ _ md cm => by rw [parseStressngResult_empty]; rfl)
  have hrunF : run (fun _ => .error .indexError) validCpuMethods
      { stressNgThreadWorkloads := ["medium"] } (fun _ => "") 3 =
      runWorkload (fun _ => .error .indexError) validCpuMethods
        { stressNgThreadWorkloads := ["medium"] } (fun _ => "") [] (.half 3) >>=
        fun r => pure (r.1, [] ++ r.2) := by
    simp only [run, List.foldlM_cons, List.foldlM_nil, runStep, bind_pure,
      show workloadThreads 3 "medium" = some (.half 3) by decide]
  rw [hrun, except_bind_ok, except_pure] at hrunF
  refine ⟨by decide, _, _, hrunF, ?_, by simp, fun s hs => ?_⟩
  · refine List.mem_append_right _
      (List.mem_append_left _ (List.mem_map.2 ⟨"bsearch", ?_, ?_⟩)) <;> decide
  · have e := runWorkload_threads _ _ _ _ hrun s (by simpa using hs)
    exact ⟨e, by simp [e, PyNum.IsPosInt]⟩

end PerfKit.StressNg
