import PerfKit.Python.Dict
import PerfKit.Aerospike.Flags

/-!
# The aerospike `GetConfig` and `Cleanup`

`GetConfig` takes the config `configs.LoadConfig` returns and rewrites it from the flags: one data
disk per server for disk storage, and on GCP local disks the count and interface of the servers'
local SSDs and no SSD for the clients; the machine type of every cloud's spec of a group whose
machine type flag is set; the VM counts whose flags are given. It then raises when both
`aerospike_instances` and `aerospike_vms` exceed one. On GCP local disks it also writes two flags,
`gce_num_local_ssds` and `gce_ssd_interface`, before the rest of it may raise.

The config is a nested dict (`ConfigValue`), taken as a tree: the spec of a group is not shared
with another's. `BENCHMARK_CONFIG` gives both groups the spec `*default_dual_core`; the model takes
`configs.LoadConfig`, which is not in the sources, to return the two as distinct dicts. Were they
one dict, the writes through one group would show in the other (`sharedSpec_writes`). A subscript
raises `KeyError` on a missing key and `TypeError` on a value that is not a dict.

* `getPath_modifyPath_of_frame`: rewriting the value at a path leaves every path that overlaps no
  rewritten one as it was;
* `getConfig_frame`: `GetConfig` changes no path of the config but those of `writtenPaths`;
* `getConfig_written`: when it returns, each field it writes holds the value it wrote, every
  cloud's spec of a group the machine type of the group's flag;
* `getConfig_resets_gceFlags`: it writes the GCP SSD flags whether it returns or raises after;
* `getConfig_keyError`: the only keys it can miss are those of the paths to the groups' specs;
* `cleanup_eq_keyError`: `Cleanup` asks for a group `client` and raises on the config's groups.
-/

namespace PerfKit.Aerospike

open Python

/-! ## The config -/

/-- A value of the config: a dict with `str` keys, an `int`, a `str`, a `bool`, or `None`. -/
inductive ConfigValue
  | dict (items : List (String × ConfigValue))
  | int (n : Int)
  | str (s : String)
  | bool (b : Bool)
  | null

/-- The exceptions `GetConfig` raises. -/
inductive ConfigError
  | keyError (key : String)
  | typeError
  | invalidFlagConfiguration (message : String)
  deriving DecidableEq

namespace ConfigValue

/-- `v[k]`. -/
def get : ConfigValue → String → Except ConfigError ConfigValue
  | dict items, k =>
    match items.lookup k with
    | some x => .ok x
    | none => .error (.keyError k)
  | _, _ => .error .typeError

/-- `v[k] = x`. -/
def set : ConfigValue → String → ConfigValue → Except ConfigError ConfigValue
  | dict items, k, x => .ok (dict (setItems items k x))
  | _, _, _ => .error .typeError

/-- `v[p₁]...[pₙ]`. -/
def getPath (v : ConfigValue) : List String → Except ConfigError ConfigValue
  | [] => .ok v
  | p :: ps => do (← v.get p).getPath ps

/-- The value at the path `p` rewritten in place by `f`: the subscripts of `p` read, `f` run on
the value they reach, each dict on the path keeping its rewritten child. -/
def modifyPath (v : ConfigValue) :
    List String → (ConfigValue → Except ConfigError ConfigValue) → Except ConfigError ConfigValue
  | [], f => f v
  | p :: ps, f => do
    let child ← v.get p
    let child ← child.modifyPath ps f
    v.set p child

/-- `v[p₁]...[pₙ][k] = x`. -/
def setPath (v : ConfigValue) (p : List String) (k : String) (x : ConfigValue) :
    Except ConfigError ConfigValue :=
  v.modifyPath p (·.set k x)

end ConfigValue

/-- `for cloud in vm_spec: vm_spec[cloud]['machine_type'] = machine_type`: a dict has each of its
values rewritten, an empty `str` runs no step, any other value raises `TypeError`. -/
def setMachineTypes (machineType : String) : ConfigValue → Except ConfigError ConfigValue
  | .dict items => do
    let items ← items.mapM fun kv => do pure (kv.1, ← kv.2.set "machine_type" (.str machineType))
    pure (.dict items)
  | .str s => if s = "" then .ok (.str "") else .error .typeError
  | _ => .error .typeError

/-! ## `GetConfig` -/

/-- The flags `GetConfig` reads, of this module and of those it imports, with the `present` of
those whose presence it checks. -/
structure ConfigFlags where
  /-- `FLAGS.aerospike_storage_type == aerospike_server.DISK`. -/
  storageIsDisk : Bool
  /-- `FLAGS.data_disk_type == disk.LOCAL`. -/
  dataDiskIsLocal : Bool
  cloud : String
  gceNumLocalSsds : Int
  gceNumLocalSsdsPresent : Bool
  serverGceNumLocalSsds : Int
  gceSsdInterface : String
  gceSsdInterfacePresent : Bool
  serverGceSsdInterface : String
  serverGceSsdInterfacePresent : Bool
  aerospikeServerMachineType : Option String := none
  aerospikeClientMachineType : Option String := none
  aerospikeVms : Int
  aerospikeVmsPresent : Bool
  aerospikeClientVmsPresent : Bool := false
  deriving DecidableEq

/-- The path of the servers' GCP spec. -/
def gcpServerSpec : List String := ["vm_groups", "workers", "vm_spec", "GCP"]

/-- The path of the clients' GCP spec. -/
def gcpClientSpec : List String := ["vm_groups", "clients", "vm_spec", "GCP"]

/-- `FLAGS.gce_num_local_ssds or FLAGS.server_gce_num_local_ssds`. -/
def numLocalSsds (cf : ConfigFlags) : Int :=
  if cf.gceNumLocalSsds ≠ 0 then cf.gceNumLocalSsds else cf.serverGceNumLocalSsds

/-- The GCP local-disk branch of `GetConfig`: the servers' SSD count, the reset of
`gce_num_local_ssds`, the servers' SSD interface when `server_gce_ssd_interface` is given, and no
SSD for the clients. Its result, and the flags after it, also when it raises. -/
def gcpLocalSsds (cf : ConfigFlags) (config : ConfigValue) :
    Except ConfigError ConfigValue × ConfigFlags :=
  match config.setPath gcpServerSpec "num_local_ssds" (.int (numLocalSsds cf)) with
  | .error e => (.error e, cf)
  | .ok config =>
    let cf := { cf with gceNumLocalSsdsPresent := false, gceNumLocalSsds := 0 }
    if cf.serverGceSsdInterfacePresent then
      match config.setPath gcpServerSpec "ssd_interface" (.str cf.serverGceSsdInterface) with
      | .error e => (.error e, cf)
      | .ok config =>
        (config.setPath gcpClientSpec "num_local_ssds" (.int 0),
          { cf with gceSsdInterfacePresent := false, gceSsdInterface := cf.serverGceSsdInterface })
    else (config.setPath gcpClientSpec "num_local_ssds" (.int 0), cf)

/-- The storage branch of `GetConfig`, with the flags after it. -/
def storageConfig (cf : ConfigFlags) (config : ConfigValue) :
    Except ConfigError ConfigValue × ConfigFlags :=
  if cf.storageIsDisk then
    match config.setPath ["vm_groups", "workers"] "disk_count" (.int 1) with
    | .error e => (.error e, cf)
    | .ok config =>
      if cf.dataDiskIsLocal then
        if cf.cloud = "GCP" then gcpLocalSsds cf config else (.ok config, cf)
      else (.ok config, cf)
  else (.ok config, cf)

/-- `if machine_type.value: vm_spec = config['vm_groups'][group]['vm_spec']`, then the loop over
its clouds. -/
def setGroupMachineType (group : String) (machineType : Option String) (config : ConfigValue) :
    Except ConfigError ConfigValue :=
  match machineType with
  | some t =>
    if t = "" then .ok config
    else config.modifyPath ["vm_groups", group, "vm_spec"] (setMachineTypes t)
  | none => .ok config

/-- `if FLAGS[flag].present: config['vm_groups'][group]['vm_count'] = value`. -/
def setGroupVmCount (group : String) (present : Bool) (value : Int) (config : ConfigValue) :
    Except ConfigError ConfigValue :=
  if present then config.setPath ["vm_groups", group] "vm_count" (.int value) else .ok config

/-- The rest of `GetConfig`, which writes no flag: the machine types, the VM counts, and the check
of `aerospike_instances` against `aerospike_vms`. -/
def groupsConfig (flags : Flags) (cf : ConfigFlags) (config : ConfigValue) :
    Except ConfigError ConfigValue := do
  let config ← setGroupMachineType "workers" cf.aerospikeServerMachineType config
  let config ← setGroupMachineType "clients" cf.aerospikeClientMachineType config
  let config ← setGroupVmCount "workers" cf.aerospikeVmsPresent cf.aerospikeVms config
  let config ← setGroupVmCount "clients" cf.aerospikeClientVmsPresent flags.clientVms config
  if flags.instances > 1 ∧ cf.aerospikeVms > 1 then
    throw (.invalidFlagConfiguration
      "Only one of aerospike_instances and aerospike_vms can be set.")
  pure config

/-- `GetConfig(user_config)` on the config `loaded` that `configs.LoadConfig` returns: the config
or the exception it raises, and the flags after it. `loaded` is a tree: the groups' specs are taken
to be distinct dicts, not the one `*default_dual_core`. -/
def getConfig (flags : Flags) (cf : ConfigFlags) (loaded : ConfigValue) :
    Except ConfigError ConfigValue × ConfigFlags :=
  match storageConfig cf loaded with
  | (.ok config, cf) => (groupsConfig flags cf config, cf)
  | (.error e, cf) => (.error e, cf)

/-! ## Paths -/

/-- A path with wildcards: `none` stands for any key. -/
abbrev PathPattern := List (Option String)

/-- Whether the path `q` overlaps a path of the pattern: one of them is a prefix of the other. -/
def overlaps : List String → PathPattern → Bool
  | [], _ => true
  | _, [] => true
  | _ :: q, none :: pat => overlaps q pat
  | k :: q, some k' :: pat => k = k' && overlaps q pat

@[simp] theorem overlaps_nil_right (q : List String) : overlaps q [] = true := by
  cases q <;> rfl

/-- The paths of the GCP local-disk branch. -/
def localSsdPaths : List PathPattern :=
  [(gcpServerSpec ++ ["num_local_ssds"]).map some, (gcpServerSpec ++ ["ssd_interface"]).map some,
    (gcpClientSpec ++ ["num_local_ssds"]).map some]

/-- The paths of the machine types and of the VM counts. -/
def groupPaths : List PathPattern :=
  [["vm_groups", "workers", "vm_spec"].map some ++ [none, some "machine_type"],
    ["vm_groups", "clients", "vm_spec"].map some ++ [none, some "machine_type"],
    ["vm_groups", "workers", "vm_count"].map some, ["vm_groups", "clients", "vm_count"].map some]

/-- The paths `GetConfig` writes. -/
def writtenPaths : List PathPattern :=
  ["vm_groups", "workers", "disk_count"].map some :: localSsdPaths ++ groupPaths

/-- `v'` holds what `v` holds at every path that overlaps no path of `pats`. -/
def SameOutside (pats : List PathPattern) (v v' : ConfigValue) : Prop :=
  ∀ q, (∀ pat ∈ pats, overlaps q pat = false) → v'.getPath q = v.getPath q

namespace ConfigValue

theorem set_eq_ok {v v' : ConfigValue} {k : String} {x : ConfigValue} (h : v.set k x = .ok v') :
    ∃ items, v = dict items ∧ v' = dict (setItems items k x) := by
  cases v with
  | dict items => cases h; exact ⟨items, rfl, rfl⟩
  | _ => cases h

theorem get_of_set {v v' : ConfigValue} {k : String} {x : ConfigValue} (h : v.set k x = .ok v')
    (k' : String) : v'.get k' = if k' = k then .ok x else v.get k' := by
  obtain ⟨items, rfl, rfl⟩ := set_eq_ok h
  by_cases hk : k' = k <;> simp [get, lookup_setItems, hk]

theorem modifyPath_cons_eq_ok {v v' : ConfigValue} {p : String} {ps : List String}
    {f : ConfigValue → Except ConfigError ConfigValue} (h : v.modifyPath (p :: ps) f = .ok v') :
    ∃ child child', v.get p = .ok child ∧ child.modifyPath ps f = .ok child' ∧
      v.set p child' = .ok v' := by
  obtain ⟨child, hc, h⟩ := except_bind_eq_ok h
  obtain ⟨child', hc', h⟩ := except_bind_eq_ok h
  exact ⟨child, child', hc, hc', h⟩

/-- A rewrite at a path returns when the path reaches a value that `f` rewrites. -/
theorem modifyPath_eq_ok_of_getPath {f : ConfigValue → Except ConfigError ConfigValue}
    {c c' : ConfigValue} (hf : f c = .ok c') :
    ∀ {p : List String} {v : ConfigValue}, v.getPath p = .ok c →
      ∃ v', v.modifyPath p f = .ok v' ∧ v'.getPath p = .ok c'
  | [], v, h => by cases h; exact ⟨c', hf, rfl⟩
  | a :: ps, v, h => by
    obtain ⟨child, hc, h⟩ := except_bind_eq_ok h
    obtain ⟨child', h', hp⟩ := modifyPath_eq_ok_of_getPath hf h
    cases v with
    | dict items =>
      refine ⟨dict (setItems items a child'), by simp [modifyPath, hc, h', set], ?_⟩
      simp [getPath, get, lookup_setItems, hp]
    | _ => cases hc

/-- An assignment at a path returns when the path reaches a dict. -/
theorem setPath_eq_ok_of_getPath {v : ConfigValue} {p : List String}
    {items : List (String × ConfigValue)} (h : v.getPath p = .ok (.dict items)) (k : String)
    (x : ConfigValue) :
    ∃ v', v.setPath p k x = .ok v' ∧ v'.getPath p = .ok (.dict (setItems items k x)) :=
  @modifyPath_eq_ok_of_getPath (·.set k x) (.dict items) _ rfl p v h

/-- **Rewriting the value at a path keeps every path that overlaps no rewritten one**, when `f`
keeps every path that overlaps no path of `pat`. -/
theorem getPath_modifyPath_of_frame {f : ConfigValue → Except ConfigError ConfigValue}
    {pat : PathPattern}
    (hf : ∀ c c', f c = .ok c' → ∀ r, overlaps r pat = false → c'.getPath r = c.getPath r) :
    ∀ {p : List String} {v v' : ConfigValue}, v.modifyPath p f = .ok v' →
      ∀ q, overlaps q (p.map some ++ pat) = false → v'.getPath q = v.getPath q
  | [], v, v', h, q, hq => hf v v' h q hq
  | a :: ps, v, v', h, q, hq => by
    obtain ⟨child, child', hc, hc', hv'⟩ := modifyPath_cons_eq_ok h
    cases q with
    | nil => cases hq
    | cons b qs =>
      simp only [List.map_cons, List.cons_append, overlaps, Bool.and_eq_false_iff,
        decide_eq_false_iff_not] at hq
      simp only [getPath, get_of_set hv' b]
      by_cases hb : b = a
      · subst hb
        simp [hc, getPath_modifyPath_of_frame hf hc' qs (hq.resolve_left (not_not.2 rfl))]
      · simp [hb]

theorem getPath_set_of_frame {c c' : ConfigValue} {k : String} {x : ConfigValue}
    (h : c.set k x = .ok c') (r : List String) (hr : overlaps r [some k] = false) :
    c'.getPath r = c.getPath r := by
  cases r with
  | nil => cases hr
  | cons b rs =>
    simp only [overlaps, Bool.and_eq_false_iff, decide_eq_false_iff_not] at hr
    simp [getPath, get_of_set h, hr.resolve_right (by simp)]

end ConfigValue

open ConfigValue

theorem lookup_of_mapM_set {k : String} {x : ConfigValue} :
    ∀ {items R : List (String × ConfigValue)},
      items.mapM (fun kv => do pure (kv.1, ← kv.2.set k x)) = .ok R → ∀ b,
      (items.lookup b = none ∧ R.lookup b = none) ∨
        ∃ v v', items.lookup b = some v ∧ v.set k x = .ok v' ∧ R.lookup b = some v'
  | [], R, h, b => by cases h; simp
  | kv :: items, R, h, b => by
    rw [List.mapM_cons] at h
    obtain ⟨⟨k₀, v₀'⟩, h₀, h⟩ := except_bind_eq_ok h
    obtain ⟨R', hR', h⟩ := except_bind_eq_ok h
    obtain ⟨v₀', hv, e⟩ := except_bind_eq_ok h₀
    cases h; cases e
    by_cases hb : b = kv.1
    · exact .inr ⟨kv.2, v₀', by simp [hb], hv, by simp [hb]⟩
    · simpa [hb] using lookup_of_mapM_set hR' b

/-- The loop over the characters of a `str` returns only on the empty one. -/
theorem setMachineTypes_str {t s : String} {c' : ConfigValue}
    (h : setMachineTypes t (.str s) = .ok c') : s = "" ∧ c' = .str "" := by
  by_cases hs : s = ""
  · subst hs
    cases h
    exact ⟨rfl, rfl⟩
  · simp [setMachineTypes, hs] at h

theorem getPath_setMachineTypes_of_frame {t : String} {c c' : ConfigValue}
    (h : setMachineTypes t c = .ok c') (r : List String)
    (hr : overlaps r [none, some "machine_type"] = false) : c'.getPath r = c.getPath r := by
  cases c with
  | dict items =>
    obtain ⟨R, hR, h⟩ := except_bind_eq_ok h
    cases h
    cases r with
    | nil => cases hr
    | cons b rs =>
      simp only [overlaps] at hr
      rcases lookup_of_mapM_set hR b with ⟨hn, hn'⟩ | ⟨v, v', hv, hs, hv'⟩
      · simp [getPath, ConfigValue.get, hn, hn']
      · simp [getPath, ConfigValue.get, hv, hv', getPath_set_of_frame hs rs hr]
  | str s =>
    obtain ⟨rfl, rfl⟩ := setMachineTypes_str h
    rfl
  | _ => cases h

/-- The specs the loop over the clouds leaves each hold the machine type. -/
theorem get_machineType_of_setMachineTypes {t : String} {c c' : ConfigValue}
    (h : setMachineTypes t c = .ok c') {cloud : String} {spec : ConfigValue}
    (hs : c'.get cloud = .ok spec) : spec.get "machine_type" = .ok (.str t) := by
  cases c with
  | dict items =>
    obtain ⟨R, hR, h⟩ := except_bind_eq_ok h
    cases h
    simp only [ConfigValue.get] at hs
    rcases lookup_of_mapM_set hR cloud with ⟨-, hn⟩ | ⟨v, v', -, hv, hv'⟩
    · simp [hn] at hs
    · rw [hv'] at hs
      cases hs
      simp [get_of_set hv]
  | str s =>
    obtain ⟨rfl, rfl⟩ := setMachineTypes_str h
    cases hs
  | _ => cases h

/-! ## Paths after a rewrite -/

namespace ConfigValue

@[simp] theorem getPath_singleton (v : ConfigValue) (k : String) : v.getPath [k] = v.get k := by
  simp only [getPath]
  cases v.get k <;> rfl

theorem getPath_append (v : ConfigValue) (p r : List String) :
    v.getPath (p ++ r) = v.getPath p >>= (·.getPath r) := by
  induction p generalizing v with
  | nil => rfl
  | cons a ps ih =>
    simp only [List.cons_append, getPath]
    cases v.get a with
    | error e => rfl
    | ok c => exact ih c

/-- After a rewrite at a path, the path holds what `f` made of its value. -/
theorem getPath_modifyPath {f : ConfigValue → Except ConfigError ConfigValue} :
    ∀ {p : List String} {v v' : ConfigValue}, v.modifyPath p f = .ok v' →
      ∃ c c', v.getPath p = .ok c ∧ f c = .ok c' ∧ v'.getPath p = .ok c'
  | [], v, v', h => ⟨v, v', rfl, h, rfl⟩
  | a :: ps, v, v', h => by
    obtain ⟨child, child', hc, hc', hv'⟩ := modifyPath_cons_eq_ok h
    obtain ⟨c, c', h₁, h₂, h₃⟩ := getPath_modifyPath hc'
    exact ⟨c, c', by simp [getPath, hc, h₁], h₂, by simp [getPath, get_of_set hv', h₃]⟩

theorem getPath_setPath_self {v v' : ConfigValue} {p : List String} {k : String}
    {x : ConfigValue} (h : v.setPath p k x = .ok v') : v'.getPath (p ++ [k]) = .ok x := by
  obtain ⟨c, c', -, hc, hp⟩ := getPath_modifyPath h
  simp [getPath_append, hp, get_of_set hc]

/-- The key of a `KeyError` of a subscript is the key it looks up. -/
theorem eq_of_get_eq_keyError {v : ConfigValue} {a k : String}
    (h : v.get a = .error (.keyError k)) : k = a := by
  cases v with
  | dict items =>
    simp only [get] at h
    split at h <;> cases h
    rfl
  | _ => cases h

/-- An assignment raises only `TypeError`. -/
theorem set_eq_error {v : ConfigValue} {a : String} {x : ConfigValue} {e : ConfigError}
    (h : v.set a x = .error e) : e = .typeError := by
  cases v <;> cases h <;> rfl

theorem set_ne_keyError (v : ConfigValue) (a : String) (x : ConfigValue) (k : String) :
    v.set a x ≠ .error (.keyError k) :=
  fun h => by cases set_eq_error h

/-- A rewrite at a path misses only keys of the path, when `f` misses none. -/
theorem mem_of_modifyPath_eq_keyError {f : ConfigValue → Except ConfigError ConfigValue}
    {k : String} (hf : ∀ c, f c ≠ .error (.keyError k)) :
    ∀ {p : List String} {v : ConfigValue}, v.modifyPath p f = .error (.keyError k) → k ∈ p
  | [], v, h => absurd h (hf v)
  | a :: ps, v, h => by
    rcases except_bind_eq_error h with hc | ⟨child, -, h⟩
    · exact eq_of_get_eq_keyError hc ▸ List.mem_cons_self _ _
    rcases except_bind_eq_error h with hc' | ⟨child', -, h⟩
    · exact List.mem_cons_of_mem _ (mem_of_modifyPath_eq_keyError hf hc')
    · exact absurd h (set_ne_keyError v a child' k)

end ConfigValue

/-- The loop over the clouds raises only `TypeError`. -/
theorem setMachineTypes_eq_error {t : String} {c : ConfigValue} {e : ConfigError}
    (h : setMachineTypes t c = .error e) : e = .typeError := by
  cases c with
  | dict items =>
    rcases except_bind_eq_error h with hR | ⟨R, -, h⟩
    · obtain ⟨kv, -, hkv⟩ := exists_of_mapM_except_eq_error hR
      rcases except_bind_eq_error hkv with hs | ⟨_, -, h⟩
      · exact set_eq_error hs
      · cases h
    · cases h
  | str s =>
    by_cases hs : s = ""
    · subst hs; cases h
    · simp only [setMachineTypes, hs, if_false] at h
      cases h; rfl
  | _ => cases h; rfl

theorem setMachineTypes_ne_keyError (t : String) (c : ConfigValue) (k : String) :
    setMachineTypes t c ≠ .error (.keyError k) :=
  fun h => by cases setMachineTypes_eq_error h

/-! ## What each step of `GetConfig` writes -/

theorem SameOutside.refl (pats : List PathPattern) (v : ConfigValue) : SameOutside pats v v :=
  fun _ _ => rfl

theorem SameOutside.trans {pats : List PathPattern} {v₁ v₂ v₃ : ConfigValue}
    (h₁ : SameOutside pats v₁ v₂) (h₂ : SameOutside pats v₂ v₃) : SameOutside pats v₁ v₃ :=
  fun q hq => (h₂ q hq).trans (h₁ q hq)

theorem SameOutside.mono {pats pats' : List PathPattern} {v v' : ConfigValue}
    (h : SameOutside pats v v') (hp : pats ⊆ pats') : SameOutside pats' v v' :=
  fun q hq => h q fun pat hpat => hq pat (hp hpat)

theorem getPath_setPath_of_overlaps_eq_false {v v' : ConfigValue} {p : List String} {k : String}
    {x : ConfigValue} (h : v.setPath p k x = .ok v') {q : List String}
    (hq : overlaps q ((p ++ [k]).map some) = false) : v'.getPath q = v.getPath q :=
  getPath_modifyPath_of_frame (fun _ _ hc r hr => getPath_set_of_frame hc r hr) h q
    (by simpa using hq)

theorem sameOutside_setPath {pats : List PathPattern} {v v' : ConfigValue} {p : List String}
    {k : String} {x : ConfigValue} (h : v.setPath p k x = .ok v')
    (hp : (p ++ [k]).map some ∈ pats) : SameOutside pats v v' := fun _ hq =>
  getPath_setPath_of_overlaps_eq_false h (hq _ hp)

theorem sameOutside_setGroupMachineType {pats : List PathPattern} {g : String}
    {mt : Option String} {v v' : ConfigValue} (h : setGroupMachineType g mt v = .ok v')
    (hp : ["vm_groups", g, "vm_spec"].map some ++ [none, some "machine_type"] ∈ pats) :
    SameOutside pats v v' := by
  cases mt with
  | none => cases h; exact .refl _ _
  | some t =>
    simp only [setGroupMachineType] at h
    split_ifs at h
    · cases h; exact .refl _ _
    · exact fun q hq => getPath_modifyPath_of_frame
        (fun _ _ hc r hr => getPath_setMachineTypes_of_frame hc r hr) h q (hq _ hp)

theorem sameOutside_setGroupVmCount {pats : List PathPattern} {g : String} {present : Bool}
    {x : Int} {v v' : ConfigValue} (h : setGroupVmCount g present x v = .ok v')
    (hp : ["vm_groups", g, "vm_count"].map some ∈ pats) : SameOutside pats v v' := by
  simp only [setGroupVmCount] at h
  split_ifs at h
  · exact sameOutside_setPath h hp
  · cases h; exact .refl _ _

theorem groupsConfig_eq_ok {flags : Flags} {cf : ConfigFlags} {v v' : ConfigValue}
    (h : groupsConfig flags cf v = .ok v') :
    ∃ v₁ v₂ v₃, setGroupMachineType "workers" cf.aerospikeServerMachineType v = .ok v₁ ∧
      setGroupMachineType "clients" cf.aerospikeClientMachineType v₁ = .ok v₂ ∧
      setGroupVmCount "workers" cf.aerospikeVmsPresent cf.aerospikeVms v₂ = .ok v₃ ∧
      setGroupVmCount "clients" cf.aerospikeClientVmsPresent flags.clientVms v₃ = .ok v' ∧
      ¬(flags.instances > 1 ∧ cf.aerospikeVms > 1) := by
  obtain ⟨v₁, h₁, h⟩ := except_bind_eq_ok h
  obtain ⟨v₂, h₂, h⟩ := except_bind_eq_ok h
  obtain ⟨v₃, h₃, h⟩ := except_bind_eq_ok h
  obtain ⟨v₄, h₄, h⟩ := except_bind_eq_ok h
  dsimp only at h
  split_ifs at h with hc
  · cases h
  · cases h
    exact ⟨v₁, v₂, v₃, h₁, h₂, h₃, h₄, hc⟩

theorem groupsConfig_sameOutside {flags : Flags} {cf : ConfigFlags} {v v' : ConfigValue}
    (h : groupsConfig flags cf v = .ok v') : SameOutside groupPaths v v' := by
  obtain ⟨v₁, v₂, v₃, h₁, h₂, h₃, h₄, -⟩ := groupsConfig_eq_ok h
  exact (sameOutside_setGroupMachineType h₁ (by decide)).trans
    ((sameOutside_setGroupMachineType h₂ (by decide)).trans
      ((sameOutside_setGroupVmCount h₃ (by decide)).trans
        (sameOutside_setGroupVmCount h₄ (by decide))))

theorem gcpLocalSsds_sameOutside {cf : ConfigFlags} {v v' : ConfigValue}
    (h : (gcpLocalSsds cf v).1 = .ok v') : SameOutside localSsdPaths v v' := by
  unfold gcpLocalSsds at h
  split at h
  · cases h
  · rename_i v₁ h₁
    have s₁ : SameOutside localSsdPaths v v₁ := sameOutside_setPath h₁ (by decide)
    dsimp only at h
    split_ifs at h
    · split at h
      · cases h
      · rename_i v₂ h₂
        exact s₁.trans
          ((sameOutside_setPath h₂ (by decide)).trans (sameOutside_setPath h (by decide)))
    · exact s₁.trans (sameOutside_setPath h (by decide))

theorem storageConfig_sameOutside {cf : ConfigFlags} {v v' : ConfigValue}
    (h : (storageConfig cf v).1 = .ok v') :
    SameOutside (["vm_groups", "workers", "disk_count"].map some :: localSsdPaths) v v' := by
  unfold storageConfig at h
  split at h
  · split at h
    · cases h
    · rename_i v₁ h₁
      have s₁ : SameOutside (_ :: localSsdPaths) v v₁ :=
        sameOutside_setPath h₁ (List.mem_cons_self _ _)
      split at h
      · split at h
        · exact s₁.trans ((gcpLocalSsds_sameOutside h).mono (List.subset_cons_self _ _))
        · cases h; exact s₁
      · cases h; exact s₁
  · cases h; exact .refl _ _

/-! ## What `GetConfig` leaves -/

theorem eq_dict_of_getPath_cons {v c : ConfigValue} {a : String} {ps : List String}
    (h : v.getPath (a :: ps) = .ok c) : ∃ items, v = .dict items := by
  cases v with
  | dict items => exact ⟨items, rfl⟩
  | _ => cases h

theorem gcpLocalSsds_written {cf : ConfigFlags} {v v' : ConfigValue}
    (h : (gcpLocalSsds cf v).1 = .ok v') :
    v'.getPath (gcpServerSpec ++ ["num_local_ssds"]) = .ok (.int (numLocalSsds cf)) ∧
      (cf.serverGceSsdInterfacePresent →
        v'.getPath (gcpServerSpec ++ ["ssd_interface"]) = .ok (.str cf.serverGceSsdInterface)) ∧
      v'.getPath (gcpClientSpec ++ ["num_local_ssds"]) = .ok (.int 0) := by
  unfold gcpLocalSsds at h
  split at h
  · cases h
  · rename_i v₁ h₁
    dsimp only at h
    split at h
    · split at h
      · cases h
      · rename_i v₂ h₂
        have h₃ : v₂.setPath gcpClientSpec "num_local_ssds" (.int 0) = .ok v' := h
        refine ⟨?_, fun _ => ?_, getPath_setPath_self h₃⟩
        · rw [getPath_setPath_of_overlaps_eq_false h₃ (by decide),
            getPath_setPath_of_overlaps_eq_false h₂ (by decide), getPath_setPath_self h₁]
        · rw [getPath_setPath_of_overlaps_eq_false h₃ (by decide), getPath_setPath_self h₂]
    · rename_i hi
      have h₃ : v₁.setPath gcpClientSpec "num_local_ssds" (.int 0) = .ok v' := h
      refine ⟨?_, fun hi' => absurd hi' hi, getPath_setPath_self h₃⟩
      rw [getPath_setPath_of_overlaps_eq_false h₃ (by decide), getPath_setPath_self h₁]

theorem storageConfig_written {cf : ConfigFlags} {v v' : ConfigValue}
    (h : (storageConfig cf v).1 = .ok v') :
    (cf.storageIsDisk → v'.getPath ["vm_groups", "workers", "disk_count"] = .ok (.int 1)) ∧
    (cf.storageIsDisk → cf.dataDiskIsLocal → cf.cloud = "GCP" →
      v'.getPath (gcpServerSpec ++ ["num_local_ssds"]) = .ok (.int (numLocalSsds cf)) ∧
      (cf.serverGceSsdInterfacePresent →
        v'.getPath (gcpServerSpec ++ ["ssd_interface"]) = .ok (.str cf.serverGceSsdInterface)) ∧
      v'.getPath (gcpClientSpec ++ ["num_local_ssds"]) = .ok (.int 0)) := by
  unfold storageConfig at h
  split at h
  · split at h
    · cases h
    · rename_i v₁ h₁
      have hdisk := getPath_setPath_self h₁
      split at h
      · split at h
        · refine ⟨fun _ => ?_, fun _ _ _ => gcpLocalSsds_written h⟩
          rw [gcpLocalSsds_sameOutside h _ (by decide)]
          exact hdisk
        · rename_i hg
          cases h
          exact ⟨fun _ => hdisk, fun _ _ hg' => absurd hg' hg⟩
      · rename_i hl
        cases h
        exact ⟨fun _ => hdisk, fun _ hl' => absurd hl' hl⟩
  · rename_i hd
    exact ⟨fun hd' => absurd hd' hd, fun hd' => absurd hd' hd⟩

/-- The loop over a group's clouds leaves each of its specs with the machine type. -/
theorem setGroupMachineType_written {g t : String} {v v' : ConfigValue}
    (h : setGroupMachineType g (some t) v = .ok v') (ht : t ≠ "") {cloud : String}
    {spec : ConfigValue} (hs : v'.getPath ["vm_groups", g, "vm_spec", cloud] = .ok spec) :
    spec.get "machine_type" = .ok (.str t) := by
  simp only [setGroupMachineType, ht, if_false] at h
  obtain ⟨c, c', -, hc, hp⟩ := getPath_modifyPath h
  rw [show ["vm_groups", g, "vm_spec", cloud] = ["vm_groups", g, "vm_spec"] ++ [cloud] from rfl,
    getPath_append, hp, except_bind_ok, getPath_singleton] at hs
  exact get_machineType_of_setMachineTypes hc hs

theorem setGroupVmCount_written {g : String} {x : Int} {v v' : ConfigValue}
    (h : setGroupVmCount g true x v = .ok v') :
    v'.getPath ["vm_groups", g, "vm_count"] = .ok (.int x) :=
  getPath_setPath_self h

theorem groupsConfig_written {flags : Flags} {cf : ConfigFlags} {v v' : ConfigValue}
    (h : groupsConfig flags cf v = .ok v') :
    (∀ t ∈ cf.aerospikeServerMachineType, t ≠ "" → ∀ cloud spec,
      v'.getPath ["vm_groups", "workers", "vm_spec", cloud] = .ok spec →
        spec.get "machine_type" = .ok (.str t)) ∧
    (∀ t ∈ cf.aerospikeClientMachineType, t ≠ "" → ∀ cloud spec,
      v'.getPath ["vm_groups", "clients", "vm_spec", cloud] = .ok spec →
        spec.get "machine_type" = .ok (.str t)) ∧
    (cf.aerospikeVmsPresent →
      v'.getPath ["vm_groups", "workers", "vm_count"] = .ok (.int cf.aerospikeVms)) ∧
    (cf.aerospikeClientVmsPresent →
      v'.getPath ["vm_groups", "clients", "vm_count"] = .ok (.int flags.clientVms)) ∧
    ¬(flags.instances > 1 ∧ cf.aerospikeVms > 1) := by
  obtain ⟨v₁, v₂, v₃, h₁, h₂, h₃, h₄, hc⟩ := groupsConfig_eq_ok h
  have s₄ : SameOutside [groupPaths[3]] v₃ v' := sameOutside_setGroupVmCount h₄ (by decide)
  have s₃ : SameOutside [groupPaths[2], groupPaths[3]] v₂ v' :=
    (sameOutside_setGroupVmCount h₃ (by decide)).trans (s₄.mono (by decide))
  have s₂ : SameOutside [groupPaths[1], groupPaths[2], groupPaths[3]] v₁ v' :=
    (sameOutside_setGroupMachineType h₂ (by decide)).trans (s₃.mono (by decide))
  refine ⟨fun t ht hne cloud spec hs => ?_, fun t ht hne cloud spec hs => ?_, fun hp => ?_,
    fun hp => ?_, hc⟩
  · rw [Option.mem_def] at ht
    rw [ht] at h₁
    rw [s₂ _ (by simp [groupPaths, overlaps])] at hs
    exact setGroupMachineType_written h₁ hne hs
  · rw [Option.mem_def] at ht
    rw [ht] at h₂
    rw [s₃ _ (by simp [groupPaths, overlaps])] at hs
    exact setGroupMachineType_written h₂ hne hs
  · rw [hp] at h₃
    rw [s₄ _ (by decide)]
    exact setGroupVmCount_written h₃
  · rw [hp] at h₄
    exact setGroupVmCount_written h₄

theorem groupsConfig_storageConfig_flags (flags : Flags) (cf : ConfigFlags) (v : ConfigValue) :
    groupsConfig flags (storageConfig cf v).2 = groupsConfig flags cf := by
  unfold storageConfig gcpLocalSsds
  repeat' (first | split | dsimp only)
  all_goals rfl

theorem getConfig_fst (flags : Flags) (cf : ConfigFlags) (loaded : ConfigValue) :
    (getConfig flags cf loaded).1 = (storageConfig cf loaded).1 >>= groupsConfig flags cf := by
  rw [← groupsConfig_storageConfig_flags flags cf loaded, getConfig]
  rcases storageConfig cf loaded with ⟨_ | c, cf'⟩ <;> rfl

theorem getConfig_snd (flags : Flags) (cf : ConfigFlags) (loaded : ConfigValue) :
    (getConfig flags cf loaded).2 = (storageConfig cf loaded).2 := by
  rw [getConfig]
  rcases storageConfig cf loaded with ⟨_ | c, cf'⟩ <;> rfl

/-- The specs of two clouds, for `*default_dual_core`. -/
def dualCoreSpec : ConfigValue :=
  .dict [("GCP", .dict [("machine_type", .str "n1-standard-2")]),
    ("AWS", .dict [("machine_type", .str "m5.large")])]

/-- `BENCHMARK_CONFIG` as `LoadConfig` returns it with no user config. -/
def benchmarkConfig : ConfigValue :=
  .dict [("vm_groups", .dict [
    ("workers", .dict [("vm_spec", dualCoreSpec),
      ("disk_spec", .dict [("GCP", .dict [("disk_size", .int 500)])]), ("vm_count", .null),
      ("disk_count", .int 0)]),
    ("clients", .dict [("vm_spec", dualCoreSpec)])])]

/-- Disk storage on GCP local disks, with both machine types, an SSD interface and the VM counts
given. -/
def gcpLocalFlags : ConfigFlags :=
  { storageIsDisk := true, dataDiskIsLocal := true, cloud := "GCP", gceNumLocalSsds := 0,
    gceNumLocalSsdsPresent := false, serverGceNumLocalSsds := 2, gceSsdInterface := "SCSI",
    gceSsdInterfacePresent := false, serverGceSsdInterface := "NVME",
    serverGceSsdInterfacePresent := true, aerospikeServerMachineType := some "n2-standard-16",
    aerospikeClientMachineType := some "n2-standard-8", aerospikeVms := 2,
    aerospikeVmsPresent := true, aerospikeClientVmsPresent := true }

section GetConfig

variable {flags : Flags} {cf : ConfigFlags} {loaded config : ConfigValue}

/-- **`GetConfig` changes only the paths it writes**: when it returns, every path of the config
that overlaps none of `writtenPaths` holds what it held in the config `LoadConfig` returned. -/
theorem getConfig_frame (h : (getConfig flags cf loaded).1 = .ok config) :
    SameOutside writtenPaths loaded config := by
  rw [getConfig_fst] at h
  obtain ⟨v₁, h₁, h₂⟩ := except_bind_eq_ok h
  exact ((storageConfig_sameOutside h₁).mono (List.subset_append_left _ _)).trans
    ((groupsConfig_sameOutside h₂).mono (List.subset_append_right _ _))

theorem getConfig_frame_gcpLocal :
    ∃ config, (getConfig {} gcpLocalFlags benchmarkConfig).1 = .ok config ∧
      SameOutside writtenPaths benchmarkConfig config :=
  ⟨_, rfl, @getConfig_frame {} gcpLocalFlags benchmarkConfig _ rfl⟩

/-- **What `GetConfig` writes holds when it returns**: one data disk per server for disk storage;
on GCP local disks the servers' SSD count `gce_num_local_ssds or server_gce_num_local_ssds`, their
SSD interface when `server_gce_ssd_interface` is given, and no SSD for the clients; the machine
type of a group's flag in every cloud's spec of the group; the VM counts whose flags are given;
and `aerospike_instances` and `aerospike_vms` do not both exceed one. -/
theorem getConfig_written (h : (getConfig flags cf loaded).1 = .ok config) :
    (cf.storageIsDisk → config.getPath ["vm_groups", "workers", "disk_count"] = .ok (.int 1)) ∧
    (cf.storageIsDisk → cf.dataDiskIsLocal → cf.cloud = "GCP" →
      config.getPath (gcpServerSpec ++ ["num_local_ssds"]) = .ok (.int (numLocalSsds cf)) ∧
      (cf.serverGceSsdInterfacePresent →
        config.getPath (gcpServerSpec ++ ["ssd_interface"]) = .ok (.str cf.serverGceSsdInterface)) ∧
      config.getPath (gcpClientSpec ++ ["num_local_ssds"]) = .ok (.int 0)) ∧
    (∀ t ∈ cf.aerospikeServerMachineType, t ≠ "" → ∀ cloud spec,
      config.getPath ["vm_groups", "workers", "vm_spec", cloud] = .ok spec →
        spec.get "machine_type" = .ok (.str t)) ∧
    (∀ t ∈ cf.aerospikeClientMachineType, t ≠ "" → ∀ cloud spec,
      config.getPath ["vm_groups", "clients", "vm_spec", cloud] = .ok spec →
        spec.get "machine_type" = .ok (.str t)) ∧
    (cf.aerospikeVmsPresent →
      config.getPath ["vm_groups", "workers", "vm_count"] = .ok (.int cf.aerospikeVms)) ∧
    (cf.aerospikeClientVmsPresent →
      config.getPath ["vm_groups", "clients", "vm_count"] = .ok (.int flags.clientVms)) ∧
    ¬(flags.instances > 1 ∧ cf.aerospikeVms > 1) := by
  rw [getConfig_fst] at h
  obtain ⟨v₁, h₁, h₂⟩ := except_bind_eq_ok h
  obtain ⟨hdisk, hssd⟩ := storageConfig_written h₁
  have keep := groupsConfig_sameOutside h₂
  refine ⟨fun hd => (keep _ (by decide)).trans (hdisk hd), fun hd hl hg => ?_,
    groupsConfig_written h₂⟩
  obtain ⟨hn, hi, hc⟩ := hssd hd hl hg
  exact ⟨(keep _ (by decide)).trans hn, fun hp => (keep _ (by decide)).trans (hi hp),
    (keep _ (by decide)).trans hc⟩

/-- The servers' AWS spec gets the server machine type. -/
theorem getConfig_written_gcpLocal :
    ∃ config spec, (getConfig {} gcpLocalFlags benchmarkConfig).1 = .ok config ∧
      config.getPath ["vm_groups", "workers", "vm_spec", "AWS"] = .ok spec ∧
      spec.get "machine_type" = .ok (.str "n2-standard-16") :=
  ⟨_, _, rfl, rfl,
    (@getConfig_written {} gcpLocalFlags benchmarkConfig _ rfl).2.2.1 "n2-standard-16" rfl
      (by decide) "AWS" _ rfl⟩

/-- **The groups' specs must be distinct dicts**: were both `vm_spec` the one `*default_dual_core`
dict, the writes `GetConfig` makes through both groups with `gcpLocalFlags` would land on it in
turn, and the servers' GCP spec would end with no local SSD and the clients' machine type, where
the tree model gives them two SSDs and their own machine type (`getConfig_written`). -/
theorem sharedSpec_writes :
    ∃ spec, (do
        let s ← dualCoreSpec.setPath ["GCP"] "num_local_ssds" (.int (numLocalSsds gcpLocalFlags))
        let s ← s.setPath ["GCP"] "ssd_interface" (.str gcpLocalFlags.serverGceSsdInterface)
        let s ← s.setPath ["GCP"] "num_local_ssds" (.int 0)
        let s ← setMachineTypes "n2-standard-16" s
        setMachineTypes "n2-standard-8" s) = .ok spec ∧
      spec.getPath ["GCP", "num_local_ssds"] = .ok (.int 0) ∧
      spec.getPath ["GCP", "machine_type"] = .ok (.str "n2-standard-8") :=
  ⟨_, rfl, rfl, rfl⟩

/-- **`GetConfig` writes the GCP SSD flags before it may raise**: with disk storage on GCP local
disks and a servers' GCP spec to write, it leaves `gce_num_local_ssds` at 0 and not present, and
`gce_ssd_interface` at `server_gce_ssd_interface` and not present when that flag is given, whether
it returns or raises later (a clients' group without a GCP spec, a machine type loop over a value
that is not a dict, the check of `aerospike_instances` against `aerospike_vms`). -/
theorem getConfig_resets_gceFlags (hdisk : cf.storageIsDisk) (hlocal : cf.dataDiskIsLocal)
    (hgcp : cf.cloud = "GCP") {items : List (String × ConfigValue)}
    (hspec : loaded.getPath gcpServerSpec = .ok (.dict items)) :
    (getConfig flags cf loaded).2.gceNumLocalSsds = 0 ∧
      (getConfig flags cf loaded).2.gceNumLocalSsdsPresent = false ∧
      (cf.serverGceSsdInterfacePresent →
        (getConfig flags cf loaded).2.gceSsdInterface = cf.serverGceSsdInterface ∧
          (getConfig flags cf loaded).2.gceSsdInterfacePresent = false) := by
  obtain ⟨w, hw, hw'⟩ := except_bind_eq_ok
    ((getPath_append loaded ["vm_groups", "workers"] ["vm_spec", "GCP"]).symm.trans hspec)
  obtain ⟨wi, rfl⟩ := eq_dict_of_getPath_cons hw'
  obtain ⟨v₁, h₁, -⟩ := setPath_eq_ok_of_getPath hw "disk_count" (.int 1)
  obtain ⟨v₂, h₂, hp₂⟩ := setPath_eq_ok_of_getPath
    ((getPath_setPath_of_overlaps_eq_false h₁ (by decide)).trans hspec) "num_local_ssds"
    (.int (numLocalSsds cf))
  rw [getConfig_snd]
  by_cases hi : cf.serverGceSsdInterfacePresent
  · obtain ⟨v₃, h₃, -⟩ := setPath_eq_ok_of_getPath hp₂ "ssd_interface"
      (.str cf.serverGceSsdInterface)
    simp [storageConfig, gcpLocalSsds, hdisk, hlocal, hgcp, h₁, h₂, hi, h₃]
  · simp [storageConfig, gcpLocalSsds, hdisk, hlocal, hgcp, h₁, h₂, hi]

/-- A config with no clients' group: `GetConfig` raises `KeyError('clients')` once it has written
the flags. -/
theorem getConfig_resets_gceFlags_noClients :
    (getConfig {} gcpLocalFlags (.dict [("vm_groups", .dict [("workers",
        .dict [("vm_spec", dualCoreSpec)])])])).1 = .error (.keyError "clients") ∧
      (getConfig {} gcpLocalFlags (.dict [("vm_groups", .dict [("workers",
        .dict [("vm_spec", dualCoreSpec)])])])).2.gceNumLocalSsds = 0 ∧
      (getConfig {} gcpLocalFlags (.dict [("vm_groups", .dict [("workers",
        .dict [("vm_spec", dualCoreSpec)])])])).2.gceNumLocalSsdsPresent = false ∧
      (gcpLocalFlags.serverGceSsdInterfacePresent →
        (getConfig {} gcpLocalFlags (.dict [("vm_groups", .dict [("workers",
          .dict [("vm_spec", dualCoreSpec)])])])).2.gceSsdInterface = "NVME" ∧
        (getConfig {} gcpLocalFlags (.dict [("vm_groups", .dict [("workers",
          .dict [("vm_spec", dualCoreSpec)])])])).2.gceSsdInterfacePresent = false) :=
  ⟨rfl, getConfig_resets_gceFlags rfl rfl rfl rfl⟩

end GetConfig

theorem setPath_keyError {v : ConfigValue} {p : List String} {k k' : String} {x : ConfigValue}
    (h : v.setPath p k' x = .error (.keyError k)) : k ∈ p :=
  mem_of_modifyPath_eq_keyError (fun c => set_ne_keyError c k' x k) h

theorem gcpLocalSsds_keyError {cf : ConfigFlags} {v : ConfigValue} {k : String}
    (h : (gcpLocalSsds cf v).1 = .error (.keyError k)) : k ∈ gcpServerSpec ∨ k ∈ gcpClientSpec := by
  unfold gcpLocalSsds at h
  split at h
  · rename_i he
    cases h
    exact .inl (setPath_keyError he)
  · dsimp only at h
    split at h
    · split at h
      · rename_i he
        cases h
        exact .inl (setPath_keyError he)
      · exact .inr (setPath_keyError h)
    · exact .inr (setPath_keyError h)

theorem storageConfig_keyError {cf : ConfigFlags} {v : ConfigValue} {k : String}
    (h : (storageConfig cf v).1 = .error (.keyError k)) :
    k ∈ ["vm_groups", "workers", "clients", "vm_spec", "GCP"] := by
  unfold storageConfig at h
  split at h
  · split at h
    · rename_i he
      cases h
      exact (by decide : ["vm_groups", "workers"] ⊆ _) (setPath_keyError he)
    · split at h
      · split at h
        · rcases gcpLocalSsds_keyError h with hk | hk
          · exact (by decide : gcpServerSpec ⊆ _) hk
          · exact (by decide : gcpClientSpec ⊆ _) hk
        · cases h
      · cases h
  · cases h

theorem setGroupMachineType_keyError {g : String} {mt : Option String} {v : ConfigValue}
    {k : String} (h : setGroupMachineType g mt v = .error (.keyError k)) :
    k ∈ ["vm_groups", g, "vm_spec"] := by
  cases mt with
  | none => cases h
  | some t =>
    simp only [setGroupMachineType] at h
    split_ifs at h
    exact mem_of_modifyPath_eq_keyError (fun c => setMachineTypes_ne_keyError t c k) h

theorem setGroupVmCount_keyError {g : String} {present : Bool} {x : Int} {v : ConfigValue}
    {k : String} (h : setGroupVmCount g present x v = .error (.keyError k)) :
    k ∈ ["vm_groups", g] := by
  simp only [setGroupVmCount] at h
  split_ifs at h
  exact setPath_keyError h

theorem groupsConfig_keyError {flags : Flags} {cf : ConfigFlags} {v : ConfigValue} {k : String}
    (h : groupsConfig flags cf v = .error (.keyError k)) :
    k ∈ ["vm_groups", "workers", "clients", "vm_spec", "GCP"] := by
  rcases except_bind_eq_error h with h₁ | ⟨v₁, -, h⟩
  · exact (by decide : ["vm_groups", "workers", "vm_spec"] ⊆ _) (setGroupMachineType_keyError h₁)
  rcases except_bind_eq_error h with h₂ | ⟨v₂, -, h⟩
  · exact (by decide : ["vm_groups", "clients", "vm_spec"] ⊆ _) (setGroupMachineType_keyError h₂)
  rcases except_bind_eq_error h with h₃ | ⟨v₃, -, h⟩
  · exact (by decide : ["vm_groups", "workers"] ⊆ _) (setGroupVmCount_keyError h₃)
  rcases except_bind_eq_error h with h₄ | ⟨v₄, -, h⟩
  · exact (by decide : ["vm_groups", "clients"] ⊆ _) (setGroupVmCount_keyError h₄)
  dsimp only at h
  split_ifs at h <;> cases h

/-- **A missed key of `GetConfig` is a key of the path to a group's spec**: the `KeyError`s it
raises name `vm_groups`, `workers`, `clients`, `vm_spec` or `GCP`, never a key it assigns. -/
theorem getConfig_keyError {flags : Flags} {cf : ConfigFlags} {loaded : ConfigValue} {k : String}
    (h : (getConfig flags cf loaded).1 = .error (.keyError k)) :
    k ∈ ["vm_groups", "workers", "clients", "vm_spec", "GCP"] := by
  rw [getConfig_fst] at h
  cases hs : (storageConfig cf loaded).1 with
  | error e => rw [hs] at h; cases h; exact storageConfig_keyError hs
  | ok v₁ => rw [hs, except_bind_ok] at h; exact groupsConfig_keyError h

/-! ## `Cleanup` -/

/-- `Cleanup(benchmark_spec)` on the spec's `vm_groups`, a dict from group names to VMs, with
`aerospike_server.AEROSPIKE_DIR`: the commands of its two `RunThreaded` calls, a thread per client
and then one per server, or the `KeyError` of a group it does not find. -/
def cleanup {VM : Type} (aerospikeDir : String) (vmGroups : List (String × List VM)) :
    Except ConfigError (List (List (VM × String)) × List (List (VM × String))) := do
  let servers ← (vmGroups.lookup "workers").elim (.error (.keyError "workers")) .ok
  let clients ← (vmGroups.lookup "client").elim (.error (.keyError "client")) .ok
  pure (clients.map (fun client => [(client, "sudo rm -rf aerospike*")]),
    servers.map fun server =>
      [(server, "cd " ++ aerospikeDir ++ " && nohup sudo make stop"),
        (server, "sudo rm -rf aerospike*")])

/-- `Cleanup` looks up a group `client`: on a spec whose groups are the config's `workers` and
`clients`, it raises before it sends a command, and no server is stopped. -/
theorem cleanup_eq_keyError {VM : Type} (aerospikeDir : String)
    {vmGroups : List (String × List VM)} {servers : List VM}
    (hw : vmGroups.lookup "workers" = some servers) (hc : vmGroups.lookup "client" = none) :
    cleanup aerospikeDir vmGroups = .error (.keyError "client") := by
  simp [cleanup, hw, hc]

example : cleanup "aerospike" [("workers", [0, 1]), ("clients", [2])] =
    .error (.keyError "client") := rfl

end PerfKit.Aerospike
