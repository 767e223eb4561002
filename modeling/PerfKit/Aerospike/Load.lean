import PerfKit.Aerospike.Prepare
import PerfKit.Aerospike.Run

/-!
# The load phase of the aerospike `Prepare`

Unless `aerospike_skip_db_prepopulation` is set, when it returns before, `Prepare` ends with one
`RunThreaded` of `_Load` over its run parameters (`loadPhaseCalls`, `prepare_eq_ok_loadPhaseCalls`):
the threads run together, each sends its asbench insert command, and `Retry(max_retries=3)` sends it
again when it raises.
The command `--workload I --keys K --start-key S` on the port `{3 + p}000` writes the keys
`[S, S + K)` into the namespace of the cluster of server process `p`: a try that raises may have
written some of them, one that returns has written them all.

The servers hold records, a key in a namespace of the cluster of a server process (`Store`). A run
of the phase (`LoadPhase`) is any interleaving of the writes of the threads (`Interleaves`), each
thread any sequence of tries (`Tries`), from whatever the servers held before.

* `loadPhase_safe`: in every state of every run, the servers hold only what they held before and
  records of the keys `[0, N)`, in the namespaces of the flag, in its server processes;
* `loadPhase_complete`: when no thread raises, the servers hold afterwards what they held and,
  unless `aerospike_skip_db_prepopulation` is set, every such record, whatever the interleaving and
  the failed tries;
* `loadPhase_covers_run`: so every record the asbench commands of `Run` address is there, when the
  flag is unset.
-/

namespace PerfKit.Aerospike

open Python

/-! ## The store -/

/-- A record of the servers: the server process (the cluster on port `{3 + p}000`), the namespace,
and the key. -/
abbrev RecordKey := Nat × String × Int

/-- The records the servers hold. -/
abbrev Store := RecordKey → Bool

/-- The write of a record. -/
def Store.insert (s : Store) (r : RecordKey) : Store := Function.update s r true

/-- After a sequence of writes the servers hold what they held and the records written. -/
theorem foldl_insert_apply (s : Store) (L : List RecordKey) (r : RecordKey) :
    L.foldl Store.insert s r = (s r || decide (r ∈ L)) := by
  induction L generalizing s with
  | nil => simp
  | cons w L ih =>
    rw [List.foldl_cons, ih, Store.insert]
    by_cases h : r = w <;> simp [Function.update_apply, h]

/-- The record of the key `x` a load call writes. -/
def LoadCall.record (l : LoadCall) (x : Int) : RecordKey := (l.processIdx, l.ns, x)

/-- The records the load phase is to write: the keys `[0, N)` in every namespace of
`aerospike_namespaces`, in every server process. -/
def LoadRange (flags : Flags) (r : RecordKey) : Prop :=
  (r.1 : Int) < flags.instances ∧ r.2.1 ∈ flags.namespaces ∧ 0 ≤ r.2.2 ∧ r.2.2 < flags.numKeys

instance (flags : Flags) (r : RecordKey) : Decidable (LoadRange flags r) :=
  inferInstanceAs (Decidable (_ ∧ _ ∧ _ ∧ _))

/-! ## The load calls write the range -/

theorem mem_loadCalls {flags : Flags} {numClients : Nat} {l : LoadCall}
    (hl : l ∈ loadCalls flags numClients) :
    l.ns ∈ flags.namespaces ∧ (l.processIdx : Int) < flags.instances ∧ l.clientIdx < numClients ∧
      l.keys = (loaderCounts flags.numKeys numClients).getD l.clientIdx 0 ∧
      l.startKey = startKey (loaderCounts flags.numKeys numClients) l.clientIdx := by
  simp only [loadCalls, runParams, List.mem_map, List.mem_flatMap] at hl
  obtain ⟨_, ⟨ns, hns, cp, hcp, rfl⟩, rfl⟩ := hl
  obtain ⟨hc, hp⟩ := mem_clientProcesses.1 hcp
  exact ⟨hns, hp, hc, rfl, rfl⟩

/-- With a negative key count the load calls insert nothing. -/
theorem not_inserts_of_neg {flags : Flags} {numClients : Nat} {l : LoadCall}
    (hl : l ∈ loadCalls flags numClients) (hN : flags.numKeys < 0) (x : Int) : ¬ l.inserts x := by
  obtain ⟨-, -, hc, hkeys, -⟩ := mem_loadCalls hl
  have hk : (0 : Int) < numClients := by omega
  have hq : flags.numKeys.fdiv numClients < 0 := by
    have e := Int.fdiv_add_fmod flags.numKeys numClients
    have hr := Int.fmod_nonneg' flags.numKeys hk
    by_contra hq
    have := mul_nonneg hk.le (not_lt.1 hq)
    omega
  have hle : l.keys ≤ 0 := by
    rw [hkeys, getD_loaderCounts _ hc]
    split_ifs <;> omega
  unfold LoadCall.inserts
  omega

/-- Every record a load call writes is in the range. -/
theorem loadRange_of_inserts {flags : Flags} {numClients : Nat} {l : LoadCall}
    (hl : l ∈ loadCalls flags numClients) {x : Int} (hx : l.inserts x) :
    LoadRange flags (l.record x) := by
  obtain ⟨hns, hp, hc, -, -⟩ := mem_loadCalls hl
  have hN : 0 ≤ flags.numKeys := not_lt.1 fun hN => not_inserts_of_neg hl hN x hx
  have hpos : 0 < (loadCalls flags numClients).countP
      (fun l' => decide (l'.ns = l.ns ∧ l'.processIdx = l.processIdx ∧ l'.inserts x)) :=
    List.countP_pos_iff.2 ⟨l, hl, by simpa using hx⟩
  rw [countP_loadCalls flags (by omega) hN l.ns hp x] at hpos
  split_ifs at hpos with hx'
  · exact ⟨hp, hns, hx'⟩
  · omega

/-- **Every record of the range is written by a load call**, when there is a client VM. -/
theorem exists_inserts_of_loadRange (flags : Flags) {numClients : Nat} (hk : 0 < numClients)
    {r : RecordKey} (hr : LoadRange flags r) :
    ∃ l ∈ loadCalls flags numClients, ∃ x, l.inserts x ∧ l.record x = r := by
  obtain ⟨p, ns, x⟩ := r
  obtain ⟨hp, hns, hx⟩ := hr
  have hpos := countP_loadCalls flags hk (by omega) ns hp x
  rw [if_pos hx] at hpos
  obtain ⟨l, hl, hlx⟩ := List.countP_pos_iff.1
    (hpos ▸ List.count_pos_iff.2 hns : 0 < (loadCalls flags numClients).countP _)
  simp only [decide_eq_true_eq] at hlx
  obtain ⟨rfl, rfl, hins⟩ := hlx
  exact ⟨l, hl, x, hins, rfl⟩

/-! ## The load phase of `Prepare` -/

/-- The load calls of the last `RunThreaded` of `Prepare`: none when
`aerospike_skip_db_prepopulation` is set, since `Prepare` returns before it. -/
def loadPhaseCalls (flags : Flags) (numClients : Nat) : List LoadCall :=
  if flags.skipDbPrepopulation then [] else loadCalls flags numClients

/-- **`Prepare` runs its setup phases, then, unless `aerospike_skip_db_prepopulation` is set, the
load calls of `loadPhaseCalls` together.** -/
theorem prepare_eq_ok_loadPhaseCalls (flags : Flags) (numClients : Nat) (servers : List String)
    (isServerUp : Nat → Bool) :
    prepare flags numClients servers isServerUp =
      .ok (setupPhases flags numClients servers isServerUp ++
        if flags.skipDbPrepopulation then []
        else [(loadPhaseCalls flags numClients).map (LoadCall.action flags servers)]) := by
  cases hskip : flags.skipDbPrepopulation
  · simp only [loadPhaseCalls, hskip, Bool.false_eq_true, if_false]
    exact prepare_eq_ok flags numClients servers isServerUp hskip
  · simp [prepare, hskip]

theorem mem_loadCalls_of_mem_loadPhaseCalls {flags : Flags} {numClients : Nat} {l : LoadCall}
    (hl : l ∈ loadPhaseCalls flags numClients) : l ∈ loadCalls flags numClients := by
  unfold loadPhaseCalls at hl
  split at hl
  · cases hl
  · exact hl

/-! ## The threads -/

/-- The runs of `_Load` for the call `l` under `Retry` with `n` tries left: the keys its tries
write, in order, and whether it returns. A try that raises may have written any of the call's
keys, and `Retry` may give up before its last try (its timeout); a try that returns has written
them all. -/
inductive Tries (l : LoadCall) : Nat → List Int → Bool → Prop
  | returns {n : Nat} {ks : List Int} (hks : ∀ x, x ∈ ks ↔ l.inserts x) : Tries l (n + 1) ks true
  | raises {n : Nat} {ks : List Int} (hks : ∀ x ∈ ks, l.inserts x) : Tries l (n + 1) ks false
  | retry {n : Nat} {ks rest : List Int} {ok : Bool} (hks : ∀ x ∈ ks, l.inserts x)
      (h : Tries l n rest ok) : Tries l (n + 1) (ks ++ rest) ok

/-- `Retry(max_retries=3)`: the first try and three more. -/
def loadTries : Nat := 4

theorem Tries.inserts {l : LoadCall} {n : Nat} {ks : List Int} {ok : Bool} (h : Tries l n ks ok)
    {x : Int} (hx : x ∈ ks) : l.inserts x := by
  induction h with
  | returns hks => exact (hks x).1 hx
  | raises hks => exact hks x hx
  | retry hks _ ih =>
    rcases List.mem_append.1 hx with hx | hx
    · exact hks x hx
    · exact ih hx

theorem Tries.mem_of_returns {l : LoadCall} {n : Nat} {ks : List Int} {ok : Bool}
    (h : Tries l n ks ok) (hok : ok = true) {x : Int} (hx : l.inserts x) : x ∈ ks := by
  induction h with
  | returns hks => exact (hks x).2 hx
  | raises _ => cases hok
  | retry _ _ ih => exact List.mem_append_right _ (ih hok)

/-- The threads of the `RunThreaded`, one per load call: the records each writes, in order, and
whether all of them return. -/
inductive RunsLoads : List LoadCall → List (List RecordKey) → Bool → Prop
  | nil : RunsLoads [] [] true
  | cons {l : LoadCall} {calls : List LoadCall} {ks : List Int} {ok : Bool}
      {threads : List (List RecordKey)} {allOk : Bool} (h₁ : Tries l loadTries ks ok)
      (h : RunsLoads calls threads allOk) :
      RunsLoads (l :: calls) (ks.map l.record :: threads) (ok && allOk)

theorem RunsLoads.mem {calls : List LoadCall} {threads : List (List RecordKey)} {ok : Bool}
    (h : RunsLoads calls threads ok) {r : RecordKey} (hr : r ∈ threads.flatten) :
    ∃ l ∈ calls, ∃ x, l.inserts x ∧ l.record x = r := by
  induction h with
  | nil => cases hr
  | @cons l calls ks _ _ _ h₁ _ ih =>
    rcases List.mem_append.1 hr with hr | hr
    · obtain ⟨x, hx, rfl⟩ := List.mem_map.1 hr
      exact ⟨l, List.mem_cons_self _ _, x, h₁.inserts hx, rfl⟩
    · obtain ⟨l', hl', rest⟩ := ih hr
      exact ⟨l', List.mem_cons_of_mem _ hl', rest⟩

theorem RunsLoads.mem_of_returns {calls : List LoadCall} {threads : List (List RecordKey)}
    {ok : Bool} (h : RunsLoads calls threads ok) (hok : ok = true) {l : LoadCall} (hl : l ∈ calls)
    {x : Int} (hx : l.inserts x) : l.record x ∈ threads.flatten := by
  induction h with
  | nil => cases hl
  | cons h₁ _ ih =>
    rw [Bool.and_eq_true] at hok
    rw [List.flatten_cons, List.mem_append]
    rcases List.mem_cons.1 hl with rfl | hl
    · exact .inl (List.mem_map_of_mem _ (h₁.mem_of_returns hok.1 hx))
    · exact .inr (ih hok.2 hl)

/-! ## Interleavings -/

/-- `m` interleaves `l` and `r`, keeping the order of each. -/
inductive Merge {α : Type} : List α → List α → List α → Prop
  | nil : Merge [] [] []
  | left {a : α} {l r m : List α} (h : Merge l r m) : Merge (a :: l) r (a :: m)
  | right {a : α} {l r m : List α} (h : Merge l r m) : Merge l (a :: r) (a :: m)

theorem Merge.perm {α : Type} {l r m : List α} (h : Merge l r m) : m.Perm (l ++ r) := by
  induction h with
  | nil => exact .nil
  | left _ ih => exact ih.cons _
  | right _ ih => exact (ih.cons _).trans List.perm_middle.symm

theorem merge_nil_right {α : Type} (l : List α) : Merge l [] l := by
  induction l with
  | nil => exact .nil
  | cons a l ih => exact .left ih

/-- `m` interleaves the lists of the threads, keeping the order of each. -/
inductive Interleaves {α : Type} : List (List α) → List α → Prop
  | nil : Interleaves [] []
  | cons {t : List α} {ts : List (List α)} {m' m : List α} (h : Interleaves ts m')
      (hm : Merge t m' m) : Interleaves (t :: ts) m

theorem Interleaves.perm {α : Type} {ts : List (List α)} {m : List α} (h : Interleaves ts m) :
    m.Perm ts.flatten := by
  induction h with
  | nil => exact .nil
  | cons _ hm ih => exact hm.perm.trans (ih.append_left _)

/-- A run of the load phase: the records written, in the order they are written, and whether the
`RunThreaded` returns (it raises when a thread does). -/
inductive LoadPhase (flags : Flags) (numClients : Nat) : List RecordKey → Bool → Prop
  | mk {threads : List (List RecordKey)} {m : List RecordKey} {ok : Bool}
      (hruns : RunsLoads (loadPhaseCalls flags numClients) threads ok)
      (hm : Interleaves threads m) :
      LoadPhase flags numClients m ok

theorem LoadPhase.mem {flags : Flags} {numClients : Nat} {m : List RecordKey} {ok : Bool}
    (h : LoadPhase flags numClients m ok) {r : RecordKey} (hr : r ∈ m) :
    flags.skipDbPrepopulation = false ∧ LoadRange flags r := by
  obtain ⟨hruns, hm⟩ := h
  obtain ⟨l, hl, x, hx, rfl⟩ := hruns.mem (hm.perm.mem_iff.1 hr)
  refine ⟨?_, loadRange_of_inserts (mem_loadCalls_of_mem_loadPhaseCalls hl) hx⟩
  cases hs : flags.skipDbPrepopulation
  · rfl
  · simp [loadPhaseCalls, hs] at hl

/-- The load phase of one client VM for two keys, its thread writing both at its first try. -/
theorem loadPhase_twoKeys :
    LoadPhase { numKeys := 2 } 1 [(0, "test", 0), (0, "test", 1)] true := by
  have hcalls : loadPhaseCalls { numKeys := 2 } 1 = [⟨"test", 0, 0, 2, 0⟩] := by decide
  have htries : Tries ⟨"test", 0, 0, 2, 0⟩ loadTries [0, 1] true :=
    .returns fun x => by simp only [List.mem_cons, List.mem_singleton, LoadCall.inserts,
      List.not_mem_nil, or_false]; omega
  have hruns :
      RunsLoads (loadPhaseCalls { numKeys := 2 } 1) [[(0, "test", 0), (0, "test", 1)]] true := by
    rw [hcalls]
    exact .cons htries .nil
  exact .mk hruns (.cons .nil (merge_nil_right _))

/-! ## The store after the load phase -/

/-- **In every state of every run of the load phase, the servers hold only what they held before
and records of the range**: whatever the interleaving, the failed tries and the retries, no key
outside `[0, N)`, no other namespace and no other server process is written. -/
theorem loadPhase_safe {flags : Flags} {numClients : Nat} {m : List RecordKey} {ok : Bool}
    (h : LoadPhase flags numClients m ok) (s : Store) (i : Nat) (r : RecordKey)
    (hr : (m.take i).foldl Store.insert s r = true) : s r = true ∨ LoadRange flags r := by
  rw [foldl_insert_apply, Bool.or_eq_true, decide_eq_true_eq] at hr
  exact hr.imp_right fun hr => (h.mem (List.mem_of_mem_take hr)).2

/-- From servers holding nothing, the first write of that run. -/
theorem loadPhase_safe_twoKeys :
    ([(0, "test", 0), (0, "test", 1)].take 1).foldl Store.insert (fun _ => false)
        (0, "test", 0) = true ∧
      ((fun _ => false : Store) (0, "test", 0) = true ∨
        LoadRange { numKeys := 2 } (0, "test", 0)) :=
  ⟨by decide, loadPhase_safe loadPhase_twoKeys (fun _ => false) 1 (0, "test", 0) (by decide)⟩

/-- A load phase of `Prepare` in which no thread raises writes every record of the range, unless
`aerospike_skip_db_prepopulation` is set. -/
theorem LoadPhase.mem_of_loadRange {flags : Flags} {numClients : Nat} (hk : 0 < numClients)
    {m : List RecordKey} (h : LoadPhase flags numClients m true)
    (hskip : flags.skipDbPrepopulation = false) {r : RecordKey} (hr : LoadRange flags r) :
    r ∈ m := by
  obtain ⟨hruns, hm⟩ := h
  obtain ⟨l, hl, x, hx, rfl⟩ := exists_inserts_of_loadRange flags hk hr
  have hl' : l ∈ loadPhaseCalls flags numClients := by
    simpa only [loadPhaseCalls, hskip, Bool.false_eq_true, if_false] using hl
  exact hm.perm.mem_iff.2 (hruns.mem_of_returns rfl hl' hx)

/-- **When no thread raises, the servers hold afterwards what they held and, unless
`aerospike_skip_db_prepopulation` is set, every record of the range**, whatever the interleaving of
the threads and their failed tries. -/
theorem loadPhase_complete {flags : Flags} {numClients : Nat} (hk : 0 < numClients)
    {m : List RecordKey} (h : LoadPhase flags numClients m true) (s : Store) (r : RecordKey) :
    m.foldl Store.insert s r =
      (s r || (!flags.skipDbPrepopulation && decide (LoadRange flags r))) := by
  rw [foldl_insert_apply]
  refine congrArg _ ?_
  cases hskip : flags.skipDbPrepopulation
  · exact decide_eq_decide.2 ⟨fun hr => (h.mem hr).2, h.mem_of_loadRange hk hskip⟩
  · exact decide_eq_false fun hr => absurd (h.mem hr).1 (by simp [hskip])

/-- That run, from servers holding nothing: the second key is written, a third is not. -/
theorem loadPhase_complete_twoKeys :
    [(0, "test", 0), (0, "test", 1)].foldl Store.insert (fun _ => false) (0, "test", 1) = true ∧
      [(0, "test", 0), (0, "test", 1)].foldl Store.insert (fun _ => false) (0, "test", 2) =
        false :=
  ⟨(loadPhase_complete (by decide) loadPhase_twoKeys (fun _ => false) _).trans (by decide),
    (loadPhase_complete (by decide) loadPhase_twoKeys (fun _ => false) _).trans (by decide)⟩

/-- The calls of `Run`'s plan address the namespaces of the flag and its server processes. -/
theorem mem_run_plan {flags : Flags} {numClients : Nat} {plan : List (Int × List (List RunCall))}
    (hplan : run flags numClients = .ok plan) {tg : Int × List (List RunCall)} (htg : tg ∈ plan)
    {g : List RunCall} (hg : g ∈ tg.2) {rc : RunCall} (hrc : rc ∈ g) :
    rc.ns ∈ flags.namespaces ∧ (rc.processIdx : Int) < flags.instances := by
  obtain ⟨t, -, ht⟩ := mem_of_mapM_except_eq_ok hplan htg
  obtain ⟨ws, hws, ht⟩ := except_bind_eq_ok ht
  cases ht
  rw [iterationGroups] at hws
  obtain ⟨ws, -, hws⟩ := except_bind_eq_ok hws
  cases hws
  simp only [List.mem_flatMap, List.mem_map] at hg
  obtain ⟨w, -, ns, hns, rfl⟩ := hg
  simp only [groupCalls, List.mem_map] at hrc
  obtain ⟨cp, hcp, rfl⟩ := hrc
  exact ⟨hns, (mem_clientProcesses.1 hcp).2⟩

/-- **After a load phase in which no thread raises, the servers hold every record the asbench
commands of `Run` address**: each key of `[0, N)` (`--keys N`) in the command's namespace, in the
cluster of its server process. -/
theorem loadPhase_covers_run {flags : Flags} {numClients : Nat} (hk : 0 < numClients)
    (hskip : flags.skipDbPrepopulation = false) {m : List RecordKey}
    (h : LoadPhase flags numClients m true) (s : Store)
    {plan : List (Int × List (List RunCall))} (hplan : run flags numClients = .ok plan) :
    ∀ tg ∈ plan, ∀ g ∈ tg.2, ∀ rc ∈ g, ∀ x, 0 ≤ x → x < flags.numKeys →
      m.foldl Store.insert s (rc.processIdx, rc.ns, x) = true := by
  intro tg htg g hg rc hrc x hx hxN
  obtain ⟨hns, hp⟩ := mem_run_plan hplan htg hg hrc
  rw [foldl_insert_apply, Bool.or_eq_true, decide_eq_true_eq]
  exact .inr (h.mem_of_loadRange hk hskip ⟨hp, hns, hx, hxN⟩)

/-- That run, and `Run` with the default sweep. -/
theorem loadPhase_covers_run_twoKeys :
    ∃ plan, run { numKeys := 2 } 1 = .ok plan ∧ ∀ tg ∈ plan, ∀ g ∈ tg.2, ∀ rc ∈ g, ∀ x, 0 ≤ x →
      x < 2 → [(0, "test", 0), (0, "test", 1)].foldl Store.insert (fun _ => false)
        (rc.processIdx, rc.ns, x) = true := by
  have hplan := run_eq_ok (show workloads { numKeys := 2 } = .ok [("RU, 75", none)] by decide) 1
  exact ⟨_, hplan, loadPhase_covers_run (by decide) rfl loadPhase_twoKeys (fun _ => false) hplan⟩

end PerfKit.Aerospike
