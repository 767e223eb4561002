import Mathlib.Data.List.Sort
import PerfKit.Python.Basic
import PerfKit.Python.Str

/-!
# The flags and tables of the stress-ng benchmark

The module-level constants of `stress_ng_benchmark` (the valid cpu methods and stressors, the three
stressor suites and the default stressors they give) and its flags, with their defaults and the
validators registered on them.

Flag parsing runs the validators in the order they are registered and fails on the first one
whose check fails, naming its flag and message (`validateFlags`). The defaults pass every validator
(`validateFlags_default`), and a failure names a registered validator whose check fails on the
flags (`validateFlags_eq_error`). `ValidFlags` carries a successful validation as a field.
-/

namespace PerfKit.StressNg

/-- `VALID_CPU_METHODS`, in the order of the source. -/
def validCpuMethods : List String :=
  ["all", "ackermann", "bitops", "callfunc", "cdouble", "cfloat", "clongdouble", "correlate",
    "crc16", "decimal32", "decimal64", "decimal128", "dither", "djb2a", "double", "euler",
    "explog", "fft", "fibonacci", "float", "fnv1a", "gamma", "gcd", "gray", "hamming", "hanoi",
    "hyperbolic", "idct", "int128", "int64", "int32", "int16", "int8", "int128float",
    "int128double", "int128longdouble", "int128decimal32", "int128decimal64", "int128decimal128",
    "int64float", "int64double", "int64longdouble", "int32float", "int32double",
    "int32longdouble", "jenkin", "jmp", "ln2", "longdouble", "loop", "matrixprod", "nsqrt",
    "omega", "parity", "phi", "pi", "pjw", "prime", "psi", "queens", "rand", "rand48", "rgb",
    "sdbm", "sieve", "sqrt", "trig", "union", "zeta"]

/-- `VALID_STRESSORS`, in the order of the source. -/
def validStressors : List String :=
  ["affinity", "af-alg", "aio", "aio-linux", "apparmor", "bigheap", "brk", "bsearch", "cache",
    "chdir", "chmod", "clock", "clone", "context", "cpu", "cpu-online", "crypt", "daemon",
    "dentry", "dir", "dup", "epoll", "eventfd", "exec", "fallocate", "fault", "fcntl", "fiemap",
    "fifo", "filename", "flock", "fork", "fp-error", "fstat", "futex", "get", "getrandom",
    "getdent", "handle", "hdd", "heapsort", "hsearch", "icache", "iosync", "inotify", "itimer",
    "kcmp", "key", "kill", "klog", "lease", "link", "lockbus", "lockf", "longjmp", "lsearch",
    "malloc", "matrix", "membarrier", "memcpy", "memfd", "memrate", "mergesort", "mincore",
    "mknod", "mlock", "mmap", "mmapfork", "mmapmany", "mremap", "msg", "mq", "nice", "null",
    "numa", "oom-pipe", "open", "personality", "pipe", "poll", "procfs", "pthread", "ptrace",
    "qsort", "quota", "rdrand", "readahead", "remap-file-pages", "rename", "rlimit", "seccomp",
    "seek", "sem-posix", "sem-sysv", "shm-posix", "shm-sysv", "sendfile", "sigfd", "sigfpe",
    "sigpending", "sigq", "sigsegv", "sigsuspend", "sleep", "socket", "socket-fd",
    "socket-pair", "spawn", "splice", "stack", "str", "stream", "switch", "symlink",
    "sync-file", "sysinfo", "sysfs", "tee", "timer", "timerfd", "tsc", "tsearch", "udp",
    "udp-flood", "unshare", "urandom", "userfaultfd", "utime", "vecmath", "vfork", "vm", "vm-rw",
    "vm-splice", "wait", "wcs", "xattr", "yield", "zero", "zlib", "zombie"]

/-- `CPU_SUITE`. -/
def cpuSuite : List String :=
  ["af-alg", "bsearch", "context", "cpu", "cpu-online", "crypt", "fp-error", "getrandom",
    "heapsort", "hsearch", "longjmp", "lsearch", "matrix", "mergesort", "numa", "qsort", "rdrand",
    "str", "stream", "tsc", "tsearch", "vecmath", "wcs", "zlib"]

/-- `CPU_CACHE_SUITE`. -/
def cpuCacheSuite : List String :=
  ["bsearch", "cache", "heapsort", "hsearch", "icache", "lockbus", "lsearch", "malloc", "matrix",
    "membarrier", "memcpy", "mergesort", "qsort", "str", "stream", "tsearch", "vecmath", "wcs",
    "zlib"]

/-- `MEMORY_SUITE`. -/
def memorySuite : List String :=
  ["bsearch", "context", "heapsort", "hsearch", "lockbus", "lsearch", "malloc", "matrix",
    "membarrier", "memcpy", "memfd", "memrate", "mergesort", "mincore", "null", "numa",
    "oom-pipe", "pipe", "qsort", "stack", "str", "stream", "tsearch", "vm", "vm-rw", "wcs",
    "zero", "zlib"]

/-- `DEFAULT_STRESSORS`: the stressors of all three suites, sorted. -/
def defaultStressors : List String :=
  ((cpuSuite.filter (· ∈ cpuCacheSuite)).filter (· ∈ memorySuite)).insertionSort
    (fun a b => Python.pyStrLe a b = true)

example : defaultStressors = ["bsearch", "heapsort", "hsearch", "lsearch", "matrix", "mergesort",
    "qsort", "str", "stream", "tsearch", "wcs", "zlib"] := by
  decide

/-- `ALL_WORKLOADS`. -/
def allWorkloads : List String := ["small", "medium", "large"]

/-- The flags of the benchmark, each with its default. -/
structure Flags where
  stressNgDuration : Int := 10
  stressNgCalcGeomean : Bool := true
  stressNgCustomStressors : List String := defaultStressors
  stressNgCpuMethods : List String := []
  stressNgCpuLoad : Int := 100
  stressNgCpuLoadSlice : Int := 0
  stressNgMemrateRd : Int := 0
  stressNgMemrateWr : Int := 0
  stressNgThreadWorkloads : List String := ["large"]
  deriving DecidableEq

/-! ## Validators -/

/-- `StressngCustomStressorsValidator`: every stressor is a valid one. -/
def stressngCustomStressorsValidator (stressors : List String) : Bool :=
  stressors.all (· ∈ validStressors)

/-- `StressngCpuMethodsValidator`: `all_cpu_methods` is asked for, or every method is valid. -/
def stressngCpuMethodsValidator (cpuMethods : List String) : Bool :=
  "all_cpu_methods" ∈ cpuMethods || cpuMethods.all (· ∈ validCpuMethods)

/-- A validator registered on a flag: the flag's name, the check, and the message of a failure
(absl's `Flag validation failed` where the source gives none). -/
structure Validator where
  flag : String
  check : Flags → Bool
  message : String

/-- The validators of the module, in the order they are registered. -/
def validators : List Validator :=
  [⟨"stress_ng_thread_workloads", fun f =>
      f.stressNgThreadWorkloads ≠ [] && f.stressNgThreadWorkloads.all (· ∈ allWorkloads),
      "Flag validation failed"⟩,
    ⟨"stress_ng_cpu_load", fun f => 0 < f.stressNgCpuLoad && f.stressNgCpuLoad ≤ 100,
      "stress_ng_cpu_load must be between 1 and 100."⟩,
    ⟨"stress_ng_cpu_load_slice",
      fun f => -50 ≤ f.stressNgCpuLoadSlice && f.stressNgCpuLoadSlice ≤ 50,
      "stress_ng_cpu_load_slice must be between -50 and 50."⟩,
    ⟨"stress_ng_custom_stressors",
      fun f => stressngCustomStressorsValidator f.stressNgCustomStressors,
      "Flag validation failed"⟩,
    ⟨"stress_ng_cpu_methods", fun f => stressngCpuMethodsValidator f.stressNgCpuMethods,
      "Flag validation failed"⟩]

/-- Flag parsing: the flag and message of the first validator that fails. -/
def validateFlags (f : Flags) : Except (String × String) Unit :=
  match validators.find? (fun v => !v.check f) with
  | some v => .error (v.flag, v.message)
  | none => .ok ()

/-- **The defaults pass every validator.** -/
theorem validateFlags_default : validateFlags {} = .ok () := by
  decide

theorem validateFlags_eq_ok_iff (f : Flags) :
    validateFlags f = .ok () ↔ ∀ v ∈ validators, v.check f = true := by
  unfold validateFlags
  split
  · rename_i v hv
    simp only [reduceCtorEq, false_iff, not_forall]
    have := List.find?_some hv
    exact ⟨v, List.mem_of_find?_eq_some hv, by simpa using this⟩
  · rename_i hv
    simpa using List.find?_eq_none.1 hv

/-- **A failed validation names the flag and message of a validator whose check fails.** -/
theorem validateFlags_eq_error {f : Flags} {flag message : String}
    (h : validateFlags f = .error (flag, message)) :
    ∃ v ∈ validators, v.flag = flag ∧ v.message = message ∧ v.check f = false := by
  unfold validateFlags at h
  split at h
  · rename_i v hv
    cases h
    exact ⟨v, List.mem_of_find?_eq_some hv, rfl, rfl, by simpa using List.find?_some hv⟩
  · cases h

/-- Flags that passed validation. -/
structure ValidFlags extends Flags where
  valid : validateFlags toFlags = .ok ()

/-- The workloads of validated flags are some of `small`, `medium` and `large`. -/
theorem ValidFlags.mem_allWorkloads (f : ValidFlags) {w : String}
    (hw : w ∈ f.stressNgThreadWorkloads) : w ∈ allWorkloads := by
  have := (validateFlags_eq_ok_iff f.toFlags).1 f.valid _ (List.mem_cons_self _ _)
  simp only [Bool.and_eq_true, List.all_eq_true, decide_eq_true_eq] at this
  exact this.2 w hw

end PerfKit.StressNg
