import Mathlib.Data.List.Perm.Basic
import PerfKit.Aerospike.Run

/-!
# The runs of the aerospike `Run` on the client VMs

`RunThreaded` starts the runs of a group together and waits for all of them; the next group starts
after. A run sends its command to its client VM, appends its histogram to its output file there
(asbench opens `--output-file` in append mode), and its stdout goes into `stdout_samples`. The runs
of a group may interleave in any order (`RunsGroups`); an iteration of the sweep starts
`stdout_samples` afresh, runs its groups and pulls its result files (`RunsPlan`).

The file of a run is named by its client VM, server process and thread count only
(`RunCall.key_inj`): the runs of every workload and namespace on one client VM and server process
share it, one group after the other.

* `foldl_runOne_files`: runs in any order append to each file the runs that name it;
* `runsGroups_files`: after the groups, a file holds what it held, then the runs that name it,
  group after group, when no group names it twice (`nodup_groupCalls_key`);
* `runsPlan_pulled`: whatever the interleaving, each iteration pulls from each result file what it
  held before `Run`, then the histograms of every workload on every namespace of its client VM and
  server process; `runsPlan_pulled_perm`: the files an iteration pulls hold the histogram of each
  of its runs once, and nothing else that `Run` wrote;
* `runsPlan_stdoutRuns`: the stdout of every run of the iteration is in `stdout_samples`.
-/

namespace PerfKit.Aerospike

/-- The state of the client VMs and of `Run`'s lists: the file each VM holds under each name (the
runs whose histograms it holds, in the order they were written), the runs whose stdout went into
`stdout_samples`, and the commands sent, each with its VM. -/
structure RunState where
  files : Nat × String → List RunCall
  stdoutRuns : List RunCall
  issued : List (Nat × String)

/-- One asbench run: its command goes to its client VM, its histogram is appended to its output
file, and its stdout goes into `stdout_samples`. -/
def RunState.runOne (flags : Flags) (seedIps : String) (st : RunState) (r : RunCall) : RunState :=
  ⟨Function.update st.files r.key (st.files r.key ++ [r]), st.stdoutRuns ++ [r],
    st.issued ++ [(r.clientIdx, r.command flags seedIps)]⟩

/-- The runs of the groups, one `RunThreaded` after the other, each in an order of its own. -/
inductive RunsGroups (flags : Flags) (seedIps : String) :
    RunState → List (List RunCall) → RunState → Prop
  | nil (st : RunState) : RunsGroups flags seedIps st [] st
  | cons {st st' : RunState} {g order : List RunCall} {gs : List (List RunCall)}
      (horder : order.Perm g)
      (h : RunsGroups flags seedIps (order.foldl (RunState.runOne flags seedIps) st) gs st') :
      RunsGroups flags seedIps st (g :: gs) st'

/-- `PullFile` of each result file: what the files hold. -/
def RunState.pull (st : RunState) (files : List (Nat × String)) : List (List RunCall) :=
  files.map st.files

/-- What an iteration of the sweep hands on: its thread count, the runs whose stdout is in
`stdout_samples`, and the histograms of the result files it pulls. -/
structure IterationOutput where
  threads : Int
  stdoutRuns : List RunCall
  pulled : List (List RunCall)

/-- The runs of `Run`'s plan: each iteration starts `stdout_samples` afresh, runs its groups, and
pulls its result files. -/
inductive RunsPlan (flags : Flags) (numClients : Nat) (seedIps : String) :
    RunState → List (Int × List (List RunCall)) → List IterationOutput → RunState → Prop
  | nil (st : RunState) : RunsPlan flags numClients seedIps st [] [] st
  | cons {st st₁ st' : RunState} {t : Int} {groups : List (List RunCall)}
      {plan : List (Int × List (List RunCall))} {outs : List IterationOutput}
      (h₁ : RunsGroups flags seedIps { st with stdoutRuns := [] } groups st₁)
      (h : RunsPlan flags numClients seedIps st₁ plan outs st') :
      RunsPlan flags numClients seedIps st ((t, groups) :: plan)
        (⟨t, st₁.stdoutRuns, st₁.pull (resultFiles flags numClients t)⟩ :: outs) st'

/-! ## One group -/

/-- A run appends its histogram to its own file and leaves the other files alone. -/
theorem runOne_files (flags : Flags) (seedIps : String) (st : RunState) (r : RunCall)
    (k : Nat × String) :
    (st.runOne flags seedIps r).files k = st.files k ++ [r].filter fun r => r.key = k := by
  by_cases hk : r.key = k
  · subst hk
    simp [RunState.runOne]
  · simp [RunState.runOne, hk, Function.update_noteq (Ne.symm hk)]

/-- **Runs in any order append to each file the runs that name it**, in the order they run. -/
theorem foldl_runOne_files (flags : Flags) (seedIps : String) (order : List RunCall)
    (st : RunState) (k : Nat × String) :
    (order.foldl (RunState.runOne flags seedIps) st).files k =
      st.files k ++ order.filter fun r => r.key = k := by
  induction order generalizing st with
  | nil => simp
  | cons r order ih =>
    rw [List.foldl_cons, ih, runOne_files, List.append_assoc, ← List.filter_append]
    rfl

theorem foldl_runOne_stdoutRuns (flags : Flags) (seedIps : String) (order : List RunCall)
    (st : RunState) :
    (order.foldl (RunState.runOne flags seedIps) st).stdoutRuns = st.stdoutRuns ++ order := by
  induction order generalizing st with
  | nil => simp
  | cons r order ih => simp [ih, RunState.runOne]

/-- A group names each file once at most. -/
theorem length_filter_key_le_one {g : List RunCall} (hg : (g.map RunCall.key).Nodup)
    (k : Nat × String) : (g.filter fun r => r.key = k).length ≤ 1 := by
  have hn : ((g.filter fun r => r.key = k).map RunCall.key).Nodup :=
    hg.sublist ((List.filter_sublist g).map _)
  have he : (g.filter fun r => r.key = k).map RunCall.key =
      List.replicate (g.filter fun r => r.key = k).length k :=
    List.eq_replicate_iff.2 ⟨List.length_map _ _, fun b hb => by
      obtain ⟨r, hr, rfl⟩ := List.mem_map.1 hb
      exact of_decide_eq_true (List.mem_filter.1 hr).2⟩
  rwa [he, List.nodup_replicate] at hn

/-- The runs of a group that name a file it names once at most do not depend on the order the
group runs in. -/
theorem filter_key_perm {order g : List RunCall} (hp : order.Perm g) {k : Nat × String}
    (hk : (g.filter fun r => r.key = k).length ≤ 1) :
    (order.filter fun r => r.key = k) = g.filter fun r => r.key = k := by
  have hf := hp.filter fun r => r.key = k
  rcases hl : g.filter (fun r => r.key = k) with _ | ⟨a, _ | ⟨b, l⟩⟩
  · rw [hl] at hf ⊢
    exact List.perm_nil.1 hf
  · rw [hl] at hf ⊢
    exact List.perm_singleton.1 hf
  · rw [hl] at hk
    simp at hk

/-! ## The groups of an iteration -/

/-- **After the groups, each file holds what it held, then the runs that name it, group after
group**, whatever the order of the runs within each group, when no group names a file twice. -/
theorem runsGroups_files {flags : Flags} {seedIps : String} {st st' : RunState}
    {gs : List (List RunCall)} (h : RunsGroups flags seedIps st gs st')
    (hgs : ∀ g ∈ gs, (g.map RunCall.key).Nodup) (k : Nat × String) :
    st'.files k = st.files k ++ gs.flatten.filter fun r => r.key = k := by
  induction h with
  | nil => simp
  | @cons st st' g order gs horder _ ih =>
    rw [ih fun g' hg' => hgs g' (List.mem_cons_of_mem _ hg'), foldl_runOne_files,
      filter_key_perm horder (length_filter_key_le_one (hgs g (List.mem_cons_self _ _)) k),
      List.flatten_cons, List.filter_append, List.append_assoc]

theorem runsGroups_stdoutRuns {flags : Flags} {seedIps : String} {st st' : RunState}
    {gs : List (List RunCall)} (h : RunsGroups flags seedIps st gs st') :
    st'.stdoutRuns.Perm (st.stdoutRuns ++ gs.flatten) := by
  induction h with
  | nil => simp
  | @cons st st' g order gs horder _ ih =>
    rw [foldl_runOne_stdoutRuns] at ih
    rw [List.flatten_cons, ← List.append_assoc]
    exact ih.trans ((horder.append_left _).append_right _)

/-- The groups of an iteration name distinct files each. -/
theorem nodup_iterationGroups_key (flags : Flags) (numClients : Nat) (t : Int)
    (ws : List (String × Option String)) :
    ∀ g ∈ ws.flatMap (fun w => flags.namespaces.map (groupCalls flags numClients t w)),
      (g.map RunCall.key).Nodup := by
  intro g hg
  simp only [List.mem_flatMap, List.mem_map] at hg
  obtain ⟨w, -, ns, -, rfl⟩ := hg
  exact nodup_groupCalls_key flags numClients t w ns

/-- The files a group writes are the result files of its iteration. -/
theorem map_key_groupCalls (flags : Flags) (numClients : Nat) (t : Int)
    (w : String × Option String) (ns : String) :
    (groupCalls flags numClients t w ns).map RunCall.key = resultFiles flags numClients t := by
  rw [groupCalls, List.map_map]
  rfl

theorem mem_iterationGroups {flags : Flags} {numClients : Nat} {t : Int}
    {ws : List (String × Option String)} {r : RunCall}
    (hr : r ∈ (ws.flatMap fun w =>
      flags.namespaces.map (groupCalls flags numClients t w)).flatten) :
    r.threads = t ∧ r.key ∈ resultFiles flags numClients t := by
  simp only [List.mem_flatten, List.mem_flatMap, List.mem_map] at hr
  obtain ⟨g, ⟨w, -, ns, -, rfl⟩, hr⟩ := hr
  refine ⟨?_, map_key_groupCalls flags numClients t w ns ▸ List.mem_map_of_mem _ hr⟩
  obtain ⟨cp, -, rfl⟩ := List.mem_map.1 hr
  rfl

/-- The group of a workload on a namespace has one run for each result file: the run of its client
VM and server process. -/
theorem filter_key_groupCalls (flags : Flags) (numClients : Nat) (t : Int)
    (w : String × Option String) (ns : String) {c p : Nat}
    (hcp : (c, p) ∈ clientProcesses numClients flags.instances) :
    (groupCalls flags numClients t w ns).filter
        (fun r => r.key = (c, "result." ++ toString c ++ "." ++ toString p ++ "." ++ toString t)) =
      [⟨ns, c, p, w.1, w.2, t⟩] := by
  have hmem : (⟨ns, c, p, w.1, w.2, t⟩ : RunCall) ∈ (groupCalls flags numClients t w ns).filter
      (fun r => r.key = (c, "result." ++ toString c ++ "." ++ toString p ++ "." ++ toString t)) :=
    List.mem_filter.2 ⟨List.mem_map.2 ⟨(c, p), hcp, rfl⟩, by simp [RunCall.key, RunCall.outputFile]⟩
  have hle := length_filter_key_le_one (nodup_groupCalls_key flags numClients t w ns)
    (c, "result." ++ toString c ++ "." ++ toString p ++ "." ++ toString t)
  obtain ⟨a, ha⟩ := List.length_eq_one.1 (le_antisymm hle (List.length_pos_of_mem hmem))
  rw [ha] at hmem ⊢
  rw [List.mem_singleton.1 hmem]

/-- **A result file of an iteration receives, in order, the run of each workload on each namespace
for its client VM and server process.** -/
theorem filter_key_iterationGroups (flags : Flags) (numClients : Nat) (t : Int)
    (ws : List (String × Option String)) {c p : Nat}
    (hcp : (c, p) ∈ clientProcesses numClients flags.instances) :
    (ws.flatMap fun w => flags.namespaces.map (groupCalls flags numClients t w)).flatten.filter
        (fun r => r.key = (c, "result." ++ toString c ++ "." ++ toString p ++ "." ++ toString t)) =
      ws.flatMap fun w => flags.namespaces.map fun ns => ⟨ns, c, p, w.1, w.2, t⟩ := by
  simp only [List.flatten_eq_flatMap, List.flatMap_assoc, List.flatMap_map, List.filter_flatMap,
    id, filter_key_groupCalls flags numClients t _ _ hcp, List.map_eq_flatMap, List.flatMap_cons,
    List.flatMap_nil, List.append_nil]

/-- No run of an iteration names a result file of another thread count. -/
theorem filter_key_iterationGroups_eq_nil (flags : Flags) (numClients : Nat) {t t' : Int}
    (ht : t ≠ t') (ws : List (String × Option String)) {k : Nat × String}
    (hk : k ∈ resultFiles flags numClients t') :
    ((ws.flatMap fun w => flags.namespaces.map (groupCalls flags numClients t w)).flatten.filter
      fun r => r.key = k) = [] := by
  obtain ⟨cp, -, rfl⟩ := List.mem_map.1 hk
  exact List.filter_eq_nil_iff.2 fun r hr he => ht ((mem_iterationGroups hr).1.symm.trans
    (@RunCall.key_inj r ⟨"", cp.1, cp.2, "", none, t'⟩ (of_decide_eq_true he)).2.2)

/-- The result files of an iteration are distinct. -/
theorem nodup_resultFiles (flags : Flags) (numClients : Nat) (t : Int) :
    (resultFiles flags numClients t).Nodup :=
  map_key_groupCalls flags numClients t ("", none) "" ▸ nodup_groupCalls_key ..

theorem forall₂_of_map_eq {α β γ : Type} {f : α → γ} {g : β → γ} {l₁ : List α} {l₂ : List β}
    (h : l₁.map f = l₂.map g) : List.Forall₂ (fun a b => f a = g b) l₁ l₂ := by
  have : List.Forall₂ (· = ·) (l₁.map f) (l₂.map g) := h ▸ List.forall₂_same.2 fun _ _ => rfl
  rwa [List.forall₂_map_left_iff, List.forall₂_map_right_iff] at this

/-- Runs each naming one of distinct files are, file after file, a reordering of the runs. -/
theorem flatMap_filter_key_perm {K : List (Nat × String)} (hK : K.Nodup) {R : List RunCall}
    (hR : ∀ r ∈ R, r.key ∈ K) : (K.flatMap fun k => R.filter fun r => r.key = k).Perm R := by
  induction K generalizing R with
  | nil =>
    cases R with
    | nil => exact .nil
    | cons r R => exact absurd (hR r (List.mem_cons_self _ _)) (List.not_mem_nil _)
  | cons k K ih =>
    rw [List.nodup_cons] at hK
    have hrest : (K.flatMap fun k' => R.filter fun r => r.key = k') =
        K.flatMap fun k' => (R.filter fun r => !decide (r.key = k)).filter fun r => r.key = k' :=
      List.flatMap_congr fun k' hk' => by
        rw [List.filter_filter]
        congr
        funext r
        by_cases e : r.key = k' <;> simp [e, show k' ≠ k from fun h => hK.1 (h ▸ hk')]
    rw [List.flatMap_cons, hrest]
    refine ((ih hK.2 fun r hr => ?_).append_left _).trans (List.filter_append_perm _ R)
    obtain ⟨hr, hne⟩ := List.mem_filter.1 hr
    exact (List.mem_cons.1 (hR r hr)).resolve_left (by simpa using hne)

/-! ## The iterations -/

/-- Every list of groups can be run: in the order of its lists, for one. -/
theorem runsGroups_exists (flags : Flags) (seedIps : String) (st : RunState)
    (gs : List (List RunCall)) : ∃ st', RunsGroups flags seedIps st gs st' := by
  induction gs generalizing st with
  | nil => exact ⟨st, .nil st⟩
  | cons g gs ih =>
    obtain ⟨st', h⟩ := ih (g.foldl (RunState.runOne flags seedIps) st)
    exact ⟨st', .cons (List.Perm.refl g) h⟩

theorem runsPlan_exists (flags : Flags) (numClients : Nat) (seedIps : String) (st : RunState)
    (plan : List (Int × List (List RunCall))) :
    ∃ outs st', RunsPlan flags numClients seedIps st plan outs st' := by
  induction plan generalizing st with
  | nil => exact ⟨[], st, .nil st⟩
  | cons tg plan ih =>
    obtain ⟨st₁, h₁⟩ := runsGroups_exists flags seedIps { st with stdoutRuns := [] } tg.2
    obtain ⟨outs, st', h⟩ := ih st₁
    exact ⟨_, st', .cons h₁ h⟩

/-- The iterations of a run of the plan have the plan's thread counts, in order. -/
theorem map_threads_runsPlan {flags : Flags} {numClients : Nat} {seedIps : String}
    {st st' : RunState} {plan : List (Int × List (List RunCall))} {outs : List IterationOutput}
    (h : RunsPlan flags numClients seedIps st plan outs st') :
    outs.map (·.threads) = plan.map (·.1) := by
  induction h with
  | nil => rfl
  | cons _ _ ih => exact congrArg _ ih

/-- **Every iteration's `stdout_samples` holds the stdout of every run of its groups**, whatever
the interleaving. -/
theorem runsPlan_stdoutRuns {flags : Flags} {numClients : Nat} {seedIps : String}
    {st st' : RunState} {plan : List (Int × List (List RunCall))} {outs : List IterationOutput}
    (h : RunsPlan flags numClients seedIps st plan outs st') :
    List.Forall₂ (fun o tg => o.threads = tg.1 ∧ o.stdoutRuns.Perm tg.2.flatten) outs plan := by
  induction h with
  | nil => exact .nil
  | cons h₁ _ ih => exact .cons ⟨rfl, by simpa using runsGroups_stdoutRuns h₁⟩ ih

/-- One run at eight threads, from VMs with no files. -/
theorem runsPlan_stdoutRuns_oneRun :
    ∃ outs st', RunsPlan {} 1 "10.0.0.1" ⟨fun _ => [], [], []⟩
        [(8, [[⟨"test", 0, 0, "RU, 75", none, 8⟩]])] outs st' ∧
      List.Forall₂ (fun o tg => o.threads = tg.1 ∧ o.stdoutRuns.Perm tg.2.flatten) outs
        [(8, [[⟨"test", 0, 0, "RU, 75", none, 8⟩]])] := by
  obtain ⟨outs, st', h⟩ := runsPlan_exists {} 1 "10.0.0.1" ⟨fun _ => [], [], []⟩
    [(8, [[⟨"test", 0, 0, "RU, 75", none, 8⟩]])]
  exact ⟨outs, st', h, runsPlan_stdoutRuns h⟩

/-- Over a sweep of distinct thread counts, each iteration pulls from each of its result files what
the file held before the sweep, then the runs of the iteration that name it. -/
theorem runsPlan_pulled_sweep (flags : Flags) (numClients : Nat) (seedIps : String)
    (ws : List (String × Option String)) {L : List Int} (hL : L.Nodup) {st st' : RunState}
    {outs : List IterationOutput}
    (h : RunsPlan flags numClients seedIps st (L.map fun t =>
      (t, ws.flatMap fun w => flags.namespaces.map (groupCalls flags numClients t w))) outs st') :
    outs.map (fun o => (o.threads, o.pulled)) = L.map fun t =>
      (t, (resultFiles flags numClients t).map fun k => st.files k ++
        (ws.flatMap fun w => flags.namespaces.map (groupCalls flags numClients t w)).flatten.filter
          fun r => r.key = k) := by
  induction L generalizing st outs with
  | nil =>
    cases h
    rfl
  | cons t L ih =>
    rw [List.nodup_cons] at hL
    cases h with
    | cons h₁ h =>
      have hf := runsGroups_files h₁ (nodup_iterationGroups_key flags numClients t ws)
      rw [List.map_cons, List.map_cons, ih hL.2 h]
      congr 1
      · exact congrArg _ (List.map_congr_left fun k _ => hf k)
      · refine List.map_congr_left fun t' ht' => congrArg _ (List.map_congr_left fun k hk => ?_)
        rw [hf, filter_key_iterationGroups_eq_nil flags numClients
          (fun e : t = t' => hL.1 (e ▸ ht')) ws hk, List.append_nil]

/-- **Whatever the interleaving of the runs, each iteration of `Run` pulls from each result file
what the file held before `Run`, then the histogram of every workload on every namespace**, in the
order they ran, for the file's client VM and server process. -/
theorem runsPlan_pulled (flags : ValidFlags) (numClients : Nat) (seedIps : String)
    {ws : List (String × Option String)} (hws : workloads flags.toFlags = .ok ws)
    {plan : List (Int × List (List RunCall))} (hplan : run flags.toFlags numClients = .ok plan)
    {st st' : RunState} {outs : List IterationOutput}
    (h : RunsPlan flags.toFlags numClients seedIps st plan outs st') :
    outs.map (fun o => (o.threads, o.pulled)) = (sweep flags.toFlags).map fun t =>
      (t, (clientProcesses numClients flags.instances).map fun cp =>
        st.files (cp.1, "result." ++ toString cp.1 ++ "." ++ toString cp.2 ++ "." ++ toString t) ++
          ws.flatMap fun w => flags.namespaces.map fun ns => ⟨ns, cp.1, cp.2, w.1, w.2, t⟩) := by
  rw [run_eq_ok hws] at hplan
  cases hplan
  rw [runsPlan_pulled_sweep flags.toFlags numClients seedIps ws (nodup_sweep flags) h]
  refine List.map_congr_left fun t _ => congrArg _ ?_
  rw [resultFiles, List.map_map]
  exact List.map_congr_left fun cp hcp => by
    rw [Function.comp_apply,
      @filter_key_iterationGroups flags.toFlags numClients t ws cp.1 cp.2 hcp]

/-- The two workload types `'RU, 75;RU, 50'` on one client VM at eight threads, from VMs with no
files: the one result file pulled holds both histograms. -/
theorem runsPlan_pulled_twoTypes :
    ∃ outs st', RunsPlan { testWorkloadTypes := "RU, 75;RU, 50", maxClientThreads := 8 } 1
        "10.0.0.1" ⟨fun _ => [], [], []⟩ [(8, [[⟨"test", 0, 0, "RU, 75", none, 8⟩],
          [⟨"test", 0, 0, "RU, 50", none, 8⟩]])] outs st' ∧
      outs.map (fun o => (o.threads, o.pulled)) =
        [(8, [[⟨"test", 0, 0, "RU, 75", none, 8⟩, ⟨"test", 0, 0, "RU, 50", none, 8⟩]])] := by
  obtain ⟨outs, st', h⟩ := runsPlan_exists
    { testWorkloadTypes := "RU, 75;RU, 50", maxClientThreads := 8 } 1 "10.0.0.1"
    ⟨fun _ => [], [], []⟩
    [(8, [[⟨"test", 0, 0, "RU, 75", none, 8⟩], [⟨"test", 0, 0, "RU, 50", none, 8⟩]])]
  refine ⟨outs, st', h, ?_⟩
  rw [@runsPlan_pulled { ValidFlags.default with
      testWorkloadTypes := "RU, 75;RU, 50", maxClientThreads := 8,
      maxClientThreads_pos := by decide } 1 "10.0.0.1"
    [("RU, 75", none), ("RU, 50", none)] (by decide) _ (by decide) _ _ _ h]
  decide

/-- **The result files an iteration pulls hold, besides what they held before `Run`, the histogram
of every run of the iteration, each once**, whatever the interleaving: the runs of all workloads and
namespaces of a client VM and server process share one file, to which asbench appends. -/
theorem runsPlan_pulled_perm (flags : ValidFlags) (numClients : Nat) (seedIps : String)
    {plan : List (Int × List (List RunCall))} (hplan : run flags.toFlags numClients = .ok plan)
    {st st' : RunState} {outs : List IterationOutput}
    (h : RunsPlan flags.toFlags numClients seedIps st plan outs st') :
    List.Forall₂ (fun o tg => o.threads = tg.1 ∧ o.pulled.flatten.Perm
        ((resultFiles flags.toFlags numClients tg.1).flatMap st.files ++ tg.2.flatten))
      outs plan := by
  obtain ⟨ws, rfl⟩ := exists_workloads_of_run_eq_ok hplan
  rw [List.forall₂_map_right_iff]
  refine (forall₂_of_map_eq (runsPlan_pulled_sweep flags.toFlags numClients seedIps ws
    (nodup_sweep flags) h)).imp fun o t ho => ⟨(Prod.mk.inj ho).1, ?_⟩
  rw [(Prod.mk.inj ho).2, ← List.flatMap_def]
  exact (List.flatMap_append_perm _ _ _).symm.trans ((flatMap_filter_key_perm
    (nodup_resultFiles ..) fun r hr => (mem_iterationGroups hr).2).append_left _)

/-- The two workload types `'RU, 75;RU, 50'` on one client VM at eight threads, from VMs with no
files. -/
theorem runsPlan_pulled_perm_twoTypes :
    ∃ plan outs st',
      run { testWorkloadTypes := "RU, 75;RU, 50", maxClientThreads := 8 } 1 = .ok plan ∧
      RunsPlan { testWorkloadTypes := "RU, 75;RU, 50", maxClientThreads := 8 } 1 "10.0.0.1"
        ⟨fun _ => [], [], []⟩ plan outs st' ∧
      List.Forall₂ (fun o tg => o.threads = tg.1 ∧ o.pulled.flatten.Perm
        ((resultFiles { testWorkloadTypes := "RU, 75;RU, 50", maxClientThreads := 8 } 1
          tg.1).flatMap (fun _ => []) ++ tg.2.flatten)) outs plan := by
  have hrun := run_eq_ok (show workloads
    { testWorkloadTypes := "RU, 75;RU, 50", maxClientThreads := 8 } =
      .ok [("RU, 75", none), ("RU, 50", none)] by decide) 1
  obtain ⟨outs, st', h⟩ := runsPlan_exists _ 1 "10.0.0.1" ⟨fun _ => [], [], []⟩ _
  exact ⟨_, outs, st', hrun, h, runsPlan_pulled_perm { ValidFlags.default with
    testWorkloadTypes := "RU, 75;RU, 50", maxClientThreads := 8,
    maxClientThreads_pos := by decide } 1 "10.0.0.1" hrun h⟩

/-- Two workload types, one namespace, one client VM and one server process, the sweep at eight
threads: the two runs of the iteration are distinct and write the same file `result.0.0.8` of the
client VM, which, asbench appending to it, holds both histograms when it is pulled. -/
theorem run_histograms_shareFile :
    run { testWorkloadTypes := "RU, 75;RU, 50", minClientThreads := 8, maxClientThreads := 8 } 1 =
      .ok [(8, [[⟨"test", 0, 0, "RU, 75", none, 8⟩], [⟨"test", 0, 0, "RU, 50", none, 8⟩]])] ∧
    (⟨"test", 0, 0, "RU, 75", none, 8⟩ : RunCall) ≠ ⟨"test", 0, 0, "RU, 50", none, 8⟩ ∧
    (⟨"test", 0, 0, "RU, 75", none, 8⟩ : RunCall).key =
      (⟨"test", 0, 0, "RU, 50", none, 8⟩ : RunCall).key ∧
    ∀ outs st', RunsPlan
      { testWorkloadTypes := "RU, 75;RU, 50", minClientThreads := 8, maxClientThreads := 8 } 1
      "10.0.0.1" ⟨fun _ => [], [], []⟩
      [(8, [[⟨"test", 0, 0, "RU, 75", none, 8⟩], [⟨"test", 0, 0, "RU, 50", none, 8⟩]])] outs st' →
      outs.map (·.pulled) =
        [[[⟨"test", 0, 0, "RU, 75", none, 8⟩, ⟨"test", 0, 0, "RU, 50", none, 8⟩]]] := by
  refine ⟨by decide, by decide, rfl, fun outs st' h => ?_⟩
  have hp := congrArg (List.map Prod.snd) (@runsPlan_pulled_sweep
    { testWorkloadTypes := "RU, 75;RU, 50", minClientThreads := 8, maxClientThreads := 8 } 1
    "10.0.0.1" [("RU, 75", none), ("RU, 50", none)] [8] (List.nodup_singleton 8) _ _ _ h)
  rw [List.map_map] at hp
  exact hp.trans (by decide)

end PerfKit.Aerospike
