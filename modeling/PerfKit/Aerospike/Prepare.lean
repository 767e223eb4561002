import Mathlib.Algebra.Order.BigOperators.Group.List
import PerfKit.Aerospike.Flags

/-!
# The aerospike `Prepare`

`Prepare` starts the servers that are not up, installs the client, and prepopulates the database:
every namespace, every client VM and every server process gets one asbench load command, the
client `i` inserting `loader_counts[i]` keys from `sum(loader_counts[:i])`. It returns nothing; the
model is the list of its phases, each phase the actions it runs together (a `RunThreaded` call, or
one sequential call).

`loader_counts` splits `N = aerospike_num_keys` over the `k` client VMs with Python's floor
division and modulo: `N // k` keys each, and one more for the first `N % k` clients.

* `sum_loaderCounts`, `getD_loaderCounts`, `count_loaderCounts`: the counts add up to `N`, each is
  `N // k` or `N // k + 1`, and `N % k` of them are `N // k + 1`, for every integer `N`;
* `startKey_succ`: the start keys are consecutive, the next one where a client's range ends;
* `countP_covers_loaderCounts`: for `N ≥ 0`, every key of `[0, N)` lies in the range of exactly
  one client, and no other key in any; `countP_loadCalls` counts the load calls inserting a key;
* `prepare_eq_ok`: `Prepare` loads the database unless `aerospike_skip_db_prepopulation` is set,
  with the load calls `loadCalls`;
* `prepare_loadCalls_partition` gathers these facts about the load commands `Prepare` runs.
-/

namespace PerfKit.Aerospike

open Python

/-- What `Prepare` asks of a VM: a server `ConfigureAndStart` or `EnableStrongConsistency`, a client
`Install`, or a command run on a client. VMs are numbered by their place in their group. -/
inductive Action
  | configureAndStart (server : Nat) (seedNodeIps : List String)
  | enableStrongConsistency (server : Nat) (namespaces : List String)
  | install (client : Nat) (pkg : String)
  | remoteCommand (client : Nat) (command : String)
  deriving DecidableEq

/-- `loader_counts`: the keys each of the `k` client VMs loads. -/
def loaderCounts (numKeys : Int) (numClientVms : Nat) : List Int :=
  (List.range numClientVms).map fun i : Nat =>
    numKeys.fdiv numClientVms + if (i : Int) < numKeys.fmod numClientVms then 1 else 0

/-- `sum(loader_counts[:client_idx])`: the first key a client loads. -/
def startKey (loaderCounts : List Int) (clientIdx : Nat) : Int := (loaderCounts.take clientIdx).sum

/-- The values a load command is made of: the namespace, the client VM and server process, and
the keys `[startKey, startKey + keys)` it inserts. -/
structure LoadCall where
  ns : String
  clientIdx : Nat
  processIdx : Nat
  keys : Int
  startKey : Int
  deriving DecidableEq

/-- The `load_command` of `_Load`. -/
def LoadCall.command (flags : Flags) (seedIps : List String) (extraArgStr : String)
    (l : LoadCall) : String :=
  "asbench " ++ "--threads " ++ toString flags.clientThreadsForLoadPhase ++ " " ++
    "--namespace " ++ l.ns ++ " --workload I " ++
    "--object-spec " ++ flags.testWorkloadObjectSpec ++ " " ++
    "--keys " ++ toString l.keys ++ " " ++
    "--start-key " ++ toString l.startKey ++ " " ++
    " -h " ++ ",".intercalate seedIps ++ " -p " ++ asbenchPort l.processIdx ++ " " ++
    extraArgStr

/-- The `extra_args` of `Prepare`: the flag, or `['']`. -/
def loadExtraArgs (flags : Flags) : List String :=
  if flags.testWorkloadExtraArgs ≠ [] then flags.testWorkloadExtraArgs else [""]

/-- `_Load(namespace, client_idx, process_idx)`: the load command, run on the client VM. -/
def load (flags : Flags) (seedIps : List String) (loaderCounts : List Int) (ns : String)
    (clientIdx processIdx : Nat) : Except PyError Action := do
  let extraArg ← pyIndex (loadExtraArgs flags) 0
  let keys ← pyIndex loaderCounts clientIdx
  pure (.remoteCommand clientIdx (LoadCall.command flags seedIps
    (if extraArg ≠ "" then extraArg else "") ⟨ns, clientIdx, processIdx, keys,
      startKey loaderCounts clientIdx⟩))

/-- The `run_params` of `Prepare`: namespace, then client VM, then server process. -/
def runParams (flags : Flags) (numClients : Nat) : List (String × Nat × Nat) :=
  flags.namespaces.flatMap fun ns =>
    (clientProcesses numClients flags.instances).map fun cp => (ns, cp)

/-- The phases of `Prepare` before the loads, with `numClients` client VMs and servers of internal
IPs `servers`, of which `isServerUp` tells which run already: `EnableStrongConsistency` on each
server in turn, then one `RunThreaded` of the server starts and the client installs. -/
def setupPhases (flags : Flags) (numClients : Nat) (servers : List String)
    (isServerUp : Nat → Bool) : List (List Action) :=
  let serverIdxs := List.range servers.length
  let serversNotUp := serverIdxs.filter fun s => !isServerUp s
  let seedIps := servers
  let aerospikeInstallFns :=
    if serversNotUp ≠ [] then serverIdxs.map fun vm => Action.configureAndStart vm seedIps else []
  let strongConsistency := if flags.enableStrongConsistency then
      serverIdxs.map fun s => [Action.enableStrongConsistency s flags.namespaces] else []
  let clientInstallFns := (List.range numClients).map fun vm => Action.install vm "aerospike_client"
  strongConsistency ++ [aerospikeInstallFns ++ clientInstallFns]

/-- `Prepare`: its phases, in order, the last one the `RunThreaded` of the loads unless
`aerospike_skip_db_prepopulation` is set. -/
def prepare (flags : Flags) (numClients : Nat) (servers : List String) (isServerUp : Nat → Bool) :
    Except PyError (List (List Action)) := do
  let setup := setupPhases flags numClients servers isServerUp
  let counts := loaderCounts flags.numKeys numClients
  if flags.skipDbPrepopulation then pure setup
  else do
    let loads ← (runParams flags numClients).mapM fun (ns, c, p) => load flags servers counts ns c p
    pure (setup ++ [loads])

example : loaderCounts 10 3 = [4, 3, 3] ∧ loaderCounts (-1) 2 = [0, -1] ∧
    (List.range 4).map (startKey (loaderCounts 10 3)) = [0, 4, 7, 10] := by
  decide

/-! ## The key counts -/

@[simp] theorem length_loaderCounts (N : Int) (k : Nat) : (loaderCounts N k).length = k := by
  simp [loaderCounts]

theorem getD_loaderCounts (N : Int) {k i : Nat} (hi : i < k) :
    (loaderCounts N k).getD i 0 = N.fdiv k + if (i : Int) < N.fmod k then 1 else 0 := by
  simp [loaderCounts, List.getD_eq_getElem?_getD, hi]

theorem startKey_zero (l : List Int) : startKey l 0 = 0 := rfl

theorem startKey_succ (l : List Int) (i : Nat) :
    startKey l (i + 1) = startKey l i + l.getD i 0 := by
  rw [startKey, startKey, List.take_succ, List.sum_append, List.getD_eq_getElem?_getD]
  cases l[i]? <;> simp

theorem startKey_cons_succ (a : Int) (l : List Int) (i : Nat) :
    startKey (a :: l) (i + 1) = a + startKey l i := by
  simp [startKey]

/-- The first `i` clients load `i * (N // k) + min i (N % k)` keys. -/
theorem startKey_loaderCounts (N : Int) {k : Nat} (hk : 0 < k) {i : Nat} (hi : i ≤ k) :
    startKey (loaderCounts N k) i = i * N.fdiv k + min (i : Int) (N.fmod k) := by
  have hr := Int.fmod_nonneg' N (Int.ofNat_pos.2 hk)
  induction i with
  | zero => simp [startKey_zero, hr]
  | succ i ih =>
    rw [startKey_succ, ih (by omega), getD_loaderCounts N (by omega)]
    have hmin : min ((i : Int) + 1) (N.fmod k) = min (i : Int) (N.fmod k) +
        if (i : Int) < N.fmod k then 1 else 0 := by
      split_ifs <;> omega
    push_cast
    rw [hmin]
    ring

/-- **The counts add up to the number of keys**, for every integer `N`. -/
theorem sum_loaderCounts (N : Int) {k : Nat} (hk : 0 < k) : (loaderCounts N k).sum = N := by
  have h := startKey_loaderCounts N hk (le_refl k)
  rw [startKey, List.take_of_length_le (by simp)] at h
  rw [h, min_eq_right (Int.fmod_lt_of_pos N (Int.ofNat_pos.2 hk)).le]
  exact Int.fdiv_add_fmod N k

/-- The first `N % k` of the clients load `N // k + 1` keys. -/
theorem countP_range_lt (r : Int) (k : Nat) :
    ((List.range k).countP fun i : Nat => decide ((i : Int) < r)) = min k r.toNat := by
  induction k with
  | zero => simp
  | succ k ih =>
    rw [List.range_succ, List.countP_append, ih]
    simp only [List.countP_singleton, decide_eq_true_eq]
    split_ifs <;> omega

theorem count_loaderCounts (N : Int) {k : Nat} (hk : 0 < k) :
    (loaderCounts N k).count (N.fdiv k + 1) = (N.fmod k).toNat := by
  have hr := Int.fmod_lt_of_pos N (Int.ofNat_pos.2 hk)
  have hf : ((· == N.fdiv k + 1) ∘
      fun i : Nat => N.fdiv k + if (i : Int) < N.fmod k then 1 else 0) =
      fun i : Nat => decide ((i : Int) < N.fmod k) := by
    funext i
    simp only [Function.comp_apply]
    split_ifs <;> simp [*]
  rw [List.count, loaderCounts, List.countP_map, hf, countP_range_lt]
  omega

/-! ## The key ranges -/

/-- The clients whose range holds `x` are one when `x` is below the sum of non-negative counts,
none otherwise. -/
theorem countP_covers (l : List Int) (hl : ∀ a ∈ l, 0 ≤ a) (x : Int) :
    ((List.range l.length).countP fun i : Nat =>
        decide (startKey l i ≤ x ∧ x < startKey l i + l.getD i 0)) =
      if 0 ≤ x ∧ x < l.sum then 1 else 0 := by
  induction l generalizing x with
  | nil =>
    simp only [List.length_nil, List.range_zero, List.countP_nil, List.sum_nil]
    split_ifs <;> omega
  | cons a l ih =>
    have ha := hl a (List.mem_cons_self _ _)
    have hl' : ∀ b ∈ l, 0 ≤ b := fun b hb => hl b (List.mem_cons_of_mem _ hb)
    have hs : 0 ≤ l.sum := List.sum_nonneg hl'
    have e : ((fun i : Nat => decide (startKey (a :: l) i ≤ x ∧
          x < startKey (a :: l) i + (a :: l).getD i 0)) ∘ Nat.succ) =
        fun i : Nat => decide (startKey l i ≤ x - a ∧ x - a < startKey l i + l.getD i 0) := by
      funext i
      simp only [Function.comp_apply, Nat.succ_eq_add_one, startKey_cons_succ, List.getD_cons_succ]
      exact decide_eq_decide.2 (by omega)
    rw [List.length_cons, List.range_succ_eq_map, List.countP_cons, List.countP_map, e, ih hl']
    simp only [startKey_zero, List.getD_cons_zero, List.sum_cons, zero_add, decide_eq_true_eq]
    split_ifs <;> omega

/-- **Every key of `[0, N)` is in the range of exactly one client, and no other key in any**, for
`N ≥ 0`. -/
theorem countP_covers_loaderCounts {N : Int} (hN : 0 ≤ N) {k : Nat} (hk : 0 < k) (x : Int) :
    ((List.range k).countP fun i : Nat => decide (startKey (loaderCounts N k) i ≤ x ∧
        x < startKey (loaderCounts N k) i + (loaderCounts N k).getD i 0)) =
      if 0 ≤ x ∧ x < N then 1 else 0 := by
  have hq := Int.fdiv_nonneg hN (Int.ofNat_nonneg k)
  have h := countP_covers (loaderCounts N k) (fun a ha => by
    simp only [loaderCounts, List.mem_map] at ha
    obtain ⟨i, -, rfl⟩ := ha
    split_ifs <;> omega) x
  rwa [length_loaderCounts, sum_loaderCounts N hk] at h

/-- The load calls of `Prepare`, one per run parameter: `loader_counts[client_idx]` keys from
`sum(loader_counts[:client_idx])`. -/
def loadCalls (flags : Flags) (numClients : Nat) : List LoadCall :=
  (runParams flags numClients).map fun r =>
    ⟨r.1, r.2.1, r.2.2, (loaderCounts flags.numKeys numClients).getD r.2.1 0,
      startKey (loaderCounts flags.numKeys numClients) r.2.1⟩

/-- The load call inserts the key `x`. -/
def LoadCall.inserts (l : LoadCall) (x : Int) : Prop := l.startKey ≤ x ∧ x < l.startKey + l.keys

instance (l : LoadCall) (x : Int) : Decidable (l.inserts x) :=
  inferInstanceAs (Decidable (_ ∧ _))

theorem countP_clientProcesses (k : Nat) {instances : Int} {p : Nat} (hp : (p : Int) < instances)
    (Q : Nat → Prop) [DecidablePred Q] :
    (clientProcesses k instances).countP (fun cp => decide (cp.2 = p ∧ Q cp.1)) =
      (List.range k).countP fun c => decide (Q c) := by
  have hmem : p ∈ List.range instances.toNat := List.mem_range.2 (by omega)
  induction k with
  | zero => rfl
  | succ k ih =>
    rw [clientProcesses, List.range_succ, List.flatMap_append, List.countP_append,
      ← clientProcesses, ih, List.countP_append, List.flatMap_singleton, List.countP_map]
    by_cases hQ : Q k
    · have e : ((fun cp : Nat × Nat => decide (cp.2 = p ∧ Q cp.1)) ∘ fun q => (k, q)) =
          (· == p) := by
        funext q
        by_cases hq : q = p <;> simp [hq, hQ]
      rw [e, ← List.count, List.count_eq_one_of_mem (List.nodup_range _) hmem]
      simp [hQ]
    · simp [hQ]

/-- **For `N ≥ 0`, each key of `[0, N)` is inserted, for each namespace and server process, by as
many load calls as the namespace has entries in `aerospike_namespaces`**, and no other key is. -/
theorem countP_loadCalls (flags : Flags) {k : Nat} (hk : 0 < k) (hN : 0 ≤ flags.numKeys)
    (ns : String) {p : Nat} (hp : (p : Int) < flags.instances) (x : Int) :
    (loadCalls flags k).countP (fun l => decide (l.ns = ns ∧ l.processIdx = p ∧ l.inserts x)) =
      if 0 ≤ x ∧ x < flags.numKeys then flags.namespaces.count ns else 0 := by
  rw [loadCalls, runParams, List.countP_map]
  induction flags.namespaces with
  | nil => simp
  | cons ns' rest ih =>
    rw [List.flatMap_cons, List.countP_append, ih, List.countP_map, List.count_cons]
    by_cases e : ns' = ns
    · subst e
      have := countP_clientProcesses k hp fun c => startKey (loaderCounts flags.numKeys k) c ≤ x ∧
        x < startKey (loaderCounts flags.numKeys k) c + (loaderCounts flags.numKeys k).getD c 0
      simp only [Function.comp_def, LoadCall.inserts, true_and] at this ⊢
      rw [this, countP_covers_loaderCounts hN hk, beq_self_eq_true, if_pos rfl]
      split_ifs <;> omega
    · simp [Function.comp_def, e]

/-! ## The phases of `Prepare` -/

/-- The `extra_arg_str` of `_Load`: the first of `Prepare`'s `extra_args`. -/
def loadExtraArgStr (flags : Flags) : String := (loadExtraArgs flags).headD ""

/-- The command `_Load` runs for a load call, on the call's client VM. -/
def LoadCall.action (flags : Flags) (seedIps : List String) (l : LoadCall) : Action :=
  .remoteCommand l.clientIdx (l.command flags seedIps (loadExtraArgStr flags))

theorem load_eq_ok (flags : Flags) (seedIps : List String) {counts : List Int} (ns : String)
    {c : Nat} (hc : c < counts.length) (p : Nat) :
    load flags seedIps counts ns c p =
      .ok (LoadCall.action flags seedIps ⟨ns, c, p, counts.getD c 0, startKey counts c⟩) := by
  have he : loadExtraArgs flags ≠ [] := by
    unfold loadExtraArgs
    split_ifs <;> simp [*]
  obtain ⟨e, es, hes⟩ := List.exists_cons_of_ne_nil he
  have h0 : pyIndex (loadExtraArgs flags) 0 = .ok e := by
    simpa [hes] using @pyIndex_ofNat_of_lt _ (loadExtraArgs flags) "" 0 (by simp [hes])
  have hstr : (if e ≠ "" then e else "") = loadExtraArgStr flags := by
    rw [loadExtraArgStr, hes, List.headD_cons]
    split_ifs with h
    · rfl
    · exact (not_not.1 h).symm
  simp only [load, h0, pyIndex_ofNat_of_lt counts 0 hc, except_bind_ok, hstr]
  rfl

theorem mem_runParams {flags : Flags} {numClients : Nat} {r : String × Nat × Nat}
    (hr : r ∈ runParams flags numClients) : r.2.1 < numClients := by
  simp only [runParams, List.mem_flatMap, List.mem_map] at hr
  obtain ⟨_, -, cp, hcp, rfl⟩ := hr
  exact (mem_clientProcesses.1 hcp).1

/-- **`Prepare` loads unless `aerospike_skip_db_prepopulation` is set**: after the setup phases, it
runs the load calls together. -/
theorem prepare_eq_ok (flags : Flags) (numClients : Nat) (servers : List String)
    (isServerUp : Nat → Bool) (hskip : flags.skipDbPrepopulation = false) :
    prepare flags numClients servers isServerUp =
      .ok (setupPhases flags numClients servers isServerUp ++
        [(loadCalls flags numClients).map (LoadCall.action flags servers)]) := by
  have h : (runParams flags numClients).mapM (fun r =>
        load flags servers (loaderCounts flags.numKeys numClients) r.1 r.2.1 r.2.2) =
      .ok ((runParams flags numClients).map fun r => LoadCall.action flags servers
        ⟨r.1, r.2.1, r.2.2, (loaderCounts flags.numKeys numClients).getD r.2.1 0,
          startKey (loaderCounts flags.numKeys numClients) r.2.1⟩) :=
    mapM_except_eq_ok _ _ fun r hr =>
      load_eq_ok flags servers r.1 (by simpa using mem_runParams hr) r.2.2
  simp only [prepare, hskip, Bool.false_eq_true, if_false, h, except_bind_ok, loadCalls,
    List.map_map]
  rfl

/-! ## Prepopulation -/

/-- **The load commands of `Prepare` split the keys `[0, N)` between the clients**, when
`aerospike_skip_db_prepopulation` is unset and there is a client VM: `Prepare` runs the load calls
after its setup, client `i` inserting `loader_counts[i]` keys from `sum(loader_counts[:i])`; the
counts add up to `N`, each is `N // k` or `N // k + 1`, `N % k` of them are `N // k + 1`, and each
start key is the end of the previous range; for `N ≥ 0`, each key of `[0, N)` is in exactly one
client's range and no other key in any, and is inserted, for a namespace and a server process, by
one load call per entry of `aerospike_namespaces` naming the namespace. -/
theorem prepare_loadCalls_partition (flags : Flags) {k : Nat} (hk : 0 < k) (servers : List String)
    (isServerUp : Nat → Bool) (hskip : flags.skipDbPrepopulation = false) :
    prepare flags k servers isServerUp =
      .ok (setupPhases flags k servers isServerUp ++
        [(loadCalls flags k).map (LoadCall.action flags servers)]) ∧
    (∀ l ∈ loadCalls flags k, l.keys = (loaderCounts flags.numKeys k).getD l.clientIdx 0 ∧
      l.startKey = startKey (loaderCounts flags.numKeys k) l.clientIdx) ∧
    (loaderCounts flags.numKeys k).sum = flags.numKeys ∧
    (∀ i < k, (loaderCounts flags.numKeys k).getD i 0 = flags.numKeys.fdiv k ∨
      (loaderCounts flags.numKeys k).getD i 0 = flags.numKeys.fdiv k + 1) ∧
    (loaderCounts flags.numKeys k).count (flags.numKeys.fdiv k + 1) =
      (flags.numKeys.fmod k).toNat ∧
    (∀ i < k, startKey (loaderCounts flags.numKeys k) (i + 1) =
      startKey (loaderCounts flags.numKeys k) i + (loaderCounts flags.numKeys k).getD i 0) ∧
    (0 ≤ flags.numKeys → ∀ x : Int,
      ((List.range k).countP fun i : Nat =>
        decide (startKey (loaderCounts flags.numKeys k) i ≤ x ∧ x <
          startKey (loaderCounts flags.numKeys k) i + (loaderCounts flags.numKeys k).getD i 0)) =
      if 0 ≤ x ∧ x < flags.numKeys then 1 else 0) ∧
    (0 ≤ flags.numKeys → ∀ (ns : String) (p : Nat) (x : Int), (p : Int) < flags.instances →
      (loadCalls flags k).countP (fun l => decide (l.ns = ns ∧ l.processIdx = p ∧ l.inserts x)) =
      if 0 ≤ x ∧ x < flags.numKeys then flags.namespaces.count ns else 0) := by
  refine ⟨prepare_eq_ok flags k servers isServerUp hskip, ?_, sum_loaderCounts _ hk,
    fun i hi => ?_, count_loaderCounts _ hk, fun i _ => startKey_succ _ i,
    fun hN x => countP_covers_loaderCounts hN hk x,
    fun hN ns p x hp => countP_loadCalls flags hk hN ns hp x⟩
  · intro l hl
    simp only [loadCalls, List.mem_map] at hl
    obtain ⟨r, -, rfl⟩ := hl
    exact ⟨rfl, rfl⟩
  · rw [getD_loaderCounts _ hi]
    split_ifs <;> simp

/-- Two client VMs, the default flags. -/
theorem prepare_loadCalls_partition_twoClients :
    prepare {} 2 ["10.0.0.1"] (fun _ => true) =
      .ok (setupPhases {} 2 ["10.0.0.1"] (fun _ => true) ++
        [(loadCalls {} 2).map (LoadCall.action {} ["10.0.0.1"])]) :=
  (prepare_loadCalls_partition {} (by decide) ["10.0.0.1"] (fun _ => true) rfl).1

/-- With `aerospike_namespaces = ['test', 'test']` and one client VM, `Prepare` runs the load
command of namespace `test` and server process 0 twice, once per entry of the list: each key of
`[0, N)` is inserted into that namespace of that server process by two load commands, not one. -/
theorem prepare_loadCalls_namespaceTwice :
    prepare { namespaces := ["test", "test"] } 1 ["10.0.0.1"] (fun _ => true) =
      .ok (setupPhases { namespaces := ["test", "test"] } 1 ["10.0.0.1"] (fun _ => true) ++
        [[LoadCall.action { namespaces := ["test", "test"] } ["10.0.0.1"]
            ⟨"test", 0, 0, 1000000, 0⟩,
          LoadCall.action { namespaces := ["test", "test"] } ["10.0.0.1"]
            ⟨"test", 0, 0, 1000000, 0⟩]]) ∧
    ∀ x, 0 ≤ x → x < 1000000 → (loadCalls { namespaces := ["test", "test"] } 1).countP
      (fun l => decide (l.ns = "test" ∧ l.processIdx = 0 ∧ l.inserts x)) = 2 := by
  have hcalls : loadCalls { namespaces := ["test", "test"] } 1 =
      [⟨"test", 0, 0, 1000000, 0⟩, ⟨"test", 0, 0, 1000000, 0⟩] := by
    decide
  refine ⟨(prepare_eq_ok _ 1 ["10.0.0.1"] (fun _ => true) rfl).trans (by rw [hcalls]; rfl),
    fun x hx hxN => ?_⟩
  rw [hcalls]
  simp [LoadCall.inserts, hx, hxN]

/-- With `aerospike_skip_db_prepopulation` set, `Prepare` on a running server and one client VM
only installs the client: no key is loaded. -/
theorem prepare_skipDbPrepopulation :
    prepare { skipDbPrepopulation := true } 1 ["10.0.0.1"] (fun _ => true) =
      .ok [[.install 0 "aerospike_client"]] := by
  decide

end PerfKit.Aerospike
