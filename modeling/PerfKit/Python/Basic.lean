import Mathlib.Data.List.GetD
import Mathlib.Data.List.Nodup
import Mathlib.Tactic.Linarith

/-!
# The Python the benchmarks rely on

The two benchmark modules are Python. This file fixes the meaning of the Python operations their
control flow depends on, and the sample record they return:

* `PyError` lists the exceptions the modelled code raises; a call that may raise returns in
  `Except PyError`, which is given decidable equality so that runs can be compared by `decide`;
* `pyIndex` is list subscription `xs[i]`: a negative `i` counts from the end, and an index out of
  range raises `IndexError` (`pyIndex_ofNat`, `pyIndex_negSucc`);
* `pyRange` is `range(start, stop, step)` for a positive step (`mem_pyRange`);
* `PyNum` is an argument that is an `int`, or the `float` that halves one, with its `str`;
* `Sample` is PerfKitBenchmarker's record of one measurement.
-/

namespace PerfKit.Python

/-- The exceptions the modelled functions raise. -/
inductive PyError
  | indexError
  | assertionError
  | valueError (msg : String)
  deriving DecidableEq, Repr

instance instDecidableEqExcept {ε α : Type} [DecidableEq ε] [DecidableEq α] :
    DecidableEq (Except ε α)
  | .ok a, .ok b => decidable_of_iff (a = b) (by simp)
  | .error a, .error b => decidable_of_iff (a = b) (by simp)
  | .ok _, .error _ => isFalse (by simp)
  | .error _, .ok _ => isFalse (by simp)

@[simp] theorem except_bind_ok {ε α β : Type} (a : α) (f : α → Except ε β) :
    (Except.ok a >>= f) = f a := rfl

@[simp] theorem except_bind_error {ε α β : Type} (e : ε) (f : α → Except ε β) :
    (Except.error e >>= f) = Except.error e := rfl

@[simp] theorem except_pure {ε α : Type} (a : α) : (pure a : Except ε α) = .ok a := rfl

theorem except_isOk_iff {ε α : Type} (x : Except ε α) : x.isOk = true ↔ ∃ a, x = .ok a := by
  cases x <;> simp [Except.isOk, Except.toBool]

/-- A bind that returns a value took one from its first computation. -/
theorem except_bind_eq_ok {ε α β : Type} {x : Except ε α} {f : α → Except ε β} {b : β}
    (h : (x >>= f) = .ok b) : ∃ a, x = .ok a ∧ f a = .ok b := by
  cases x with
  | error e => cases h
  | ok a => exact ⟨a, rfl, h⟩

/-- A bind that raises raised in its first computation or in its second. -/
theorem except_bind_eq_error {ε α β : Type} {x : Except ε α} {f : α → Except ε β} {e : ε}
    (h : (x >>= f) = .error e) : x = .error e ∨ ∃ a, x = .ok a ∧ f a = .error e := by
  cases x with
  | error e' => cases h; exact .inl rfl
  | ok a => exact .inr ⟨a, rfl, h⟩

/-- **A `for` loop keeps an invariant** that every pass over an element of the list keeps. -/
theorem foldlM_except_inv {ε α β : Type} (f : β → α → Except ε β) (P : β → Prop) {L : List α}
    (hstep : ∀ a ∈ L, ∀ b b', P b → f b a = .ok b' → P b') {b b' : β} (hb : P b)
    (h : L.foldlM f b = .ok b') : P b' := by
  induction L generalizing b with
  | nil => cases h; exact hb
  | cons a L ih =>
    rw [List.foldlM_cons] at h
    obtain ⟨b₁, h₁, h⟩ := except_bind_eq_ok h
    exact ih (fun a ha => hstep a (List.mem_cons_of_mem _ ha))
      (hstep a (List.mem_cons_self _ _) _ _ hb h₁) h

/-- A list comprehension whose every call returns gives the list of their values. -/
theorem mapM_except_eq_ok {ε α β : Type} (f : α → Except ε β) (g : α → β) {L : List α}
    (h : ∀ a ∈ L, f a = .ok (g a)) : L.mapM f = .ok (L.map g) := by
  induction L with
  | nil => rfl
  | cons a L ih =>
    rw [List.mapM_cons, h a (List.mem_cons_self _ _),
      ih fun b hb => h b (List.mem_cons_of_mem _ hb)]
    rfl

/-- Every value of a list comprehension that returns is the value of a call on an element. -/
theorem mem_of_mapM_except_eq_ok {ε α β : Type} {f : α → Except ε β} {L : List α} {R : List β}
    (h : L.mapM f = .ok R) {b : β} (hb : b ∈ R) : ∃ a ∈ L, f a = .ok b := by
  induction L generalizing R with
  | nil =>
    rw [List.mapM_nil] at h
    cases h
    cases hb
  | cons a L ih =>
    rw [List.mapM_cons] at h
    obtain ⟨b₀, h₀, h⟩ := except_bind_eq_ok h
    obtain ⟨R', hR', h⟩ := except_bind_eq_ok h
    cases h
    rcases List.mem_cons.1 hb with rfl | hb
    · exact ⟨a, List.mem_cons_self _ _, h₀⟩
    · obtain ⟨a', ha', e⟩ := ih hR' hb
      exact ⟨a', List.mem_cons_of_mem _ ha', e⟩

/-- A list comprehension that raises raised in a call on an element. -/
theorem exists_of_mapM_except_eq_error {ε α β : Type} {f : α → Except ε β} {L : List α} {e : ε}
    (h : L.mapM f = .error e) : ∃ a ∈ L, f a = .error e := by
  induction L with
  | nil => cases h
  | cons a L ih =>
    rw [List.mapM_cons] at h
    rcases except_bind_eq_error h with ha | ⟨b, -, h⟩
    · exact ⟨a, List.mem_cons_self _ _, ha⟩
    rcases except_bind_eq_error h with hL | ⟨R, -, h⟩
    · obtain ⟨a', ha', e⟩ := ih hL
      exact ⟨a', List.mem_cons_of_mem _ ha', e⟩
    · cases h

/-! ## Subscription -/

/-- An element found, or `IndexError`. -/
def orIndexError {α : Type} : Option α → Except PyError α
  | some x => .ok x
  | none => .error .indexError

@[simp] theorem orIndexError_some {α : Type} (x : α) : orIndexError (some x) = .ok x := rfl

@[simp] theorem orIndexError_none {α : Type} :
    orIndexError (none : Option α) = .error .indexError :=
  rfl

/-- `xs[i]`: a negative index `i` stands for `i + len(xs)`; out of range raises `IndexError`. -/
def pyIndex {α : Type} (xs : List α) (i : Int) : Except PyError α :=
  let j := if i < 0 then i + xs.length else i
  if j < 0 then .error .indexError else orIndexError xs[j.toNat]?

theorem pyIndex_ofNat {α : Type} (xs : List α) (n : Nat) :
    pyIndex xs n = orIndexError xs[n]? := by
  have : ¬ ((n : Int) < 0) := by omega
  simp [pyIndex, this]

/-- `xs[-(k + 1)]` is the `k`-th element from the end. -/
theorem pyIndex_negSucc {α : Type} (xs : List α) (k : Nat) :
    pyIndex xs (Int.negSucc k) = orIndexError xs.reverse[k]? := by
  have hneg := Int.negSucc_eq k
  unfold pyIndex
  rw [if_pos (Int.negSucc_lt_zero k)]
  by_cases hk : k < xs.length
  · rw [if_neg (by omega), List.getElem?_reverse hk]
    congr 2
    omega
  · rw [if_pos (by omega), List.getElem?_eq_none (by simpa using hk)]
    rfl

theorem pyIndex_ofNat_of_lt {α : Type} (xs : List α) (d : α) {n : Nat} (h : n < xs.length) :
    pyIndex xs n = .ok (xs.getD n d) := by
  rw [pyIndex_ofNat, List.getElem?_eq_getElem h, List.getD_eq_getElem _ _ h, orIndexError_some]

theorem pyIndex_ofNat_of_le {α : Type} (xs : List α) {n : Nat} (h : xs.length ≤ n) :
    pyIndex xs n = .error .indexError := by
  rw [pyIndex_ofNat, List.getElem?_eq_none h, orIndexError_none]

theorem pyIndex_negSucc_of_lt {α : Type} (xs : List α) (d : α) {k : Nat} (h : k < xs.length) :
    pyIndex xs (Int.negSucc k) = .ok (xs.getD (xs.length - 1 - k) d) := by
  rw [pyIndex_negSucc, List.getElem?_reverse h, List.getElem?_eq_getElem (by omega),
    List.getD_eq_getElem _ _ (by omega), orIndexError_some]

/-- Every computation that returns nothing either returns or raises. -/
theorem except_unit_cases {ε : Type} (x : Except ε Unit) : x = .ok () ∨ ∃ e, x = .error e := by
  cases x with
  | ok u => exact .inl rfl
  | error e => exact .inr ⟨e, rfl⟩

example : pyIndex [1, 2, 3] (-1) = .ok 3 ∧ pyIndex [1, 2, 3] (-4) = .error .indexError := by
  decide

/-! ## Ranges -/

/-- `range(start, stop, step)` for a positive `step`: `start`, `start + step`, … below `stop`. -/
def pyRange (start stop step : Int) : List Int :=
  (List.range ((stop - start + step - 1) / step).toNat).map fun i : Nat => start + (i : Int) * step

theorem mem_pyRange {start stop step : Int} (hs : 0 < step) (t : Int) :
    t ∈ pyRange start stop step ↔ start ≤ t ∧ t < stop ∧ ∃ i : Nat, t = start + i * step := by
  simp only [pyRange, List.mem_map, List.mem_range]
  constructor
  · rintro ⟨i, hi, rfl⟩
    have h1 : ((i : Int) + 1) * step ≤ stop - start + step - 1 :=
      (Int.le_ediv_iff_mul_le hs).1 (by omega)
    have h2 : 0 ≤ (i : Int) * step := mul_nonneg (by omega) hs.le
    exact ⟨by linarith, by linarith [add_one_mul (i : Int) step], i, rfl⟩
  · rintro ⟨-, h2, i, rfl⟩
    refine ⟨i, ?_, rfl⟩
    have : (i : Int) + 1 ≤ (stop - start + step - 1) / step :=
      (Int.le_ediv_iff_mul_le hs).2 (by linarith [add_one_mul (i : Int) step])
    omega

example : pyRange 8 129 8 = (List.range 16).map fun i : Nat => 8 + 8 * (i : Int) := by decide

/-- A range of positive step has each of its values once. -/
theorem nodup_pyRange {step : Int} (hs : 0 < step) (start stop : Int) :
    (pyRange start stop step).Nodup :=
  List.Nodup.map (fun i j h => by
    have : (i : Int) * step = j * step := by simpa using h
    exact_mod_cast mul_right_cancel₀ hs.ne' this) (List.nodup_range _)

/-! ## Numbers -/

/-- A Python number passed as an argument: an `int`, or the `float` `n / 2` that true division
of the `int` `n` by two gives, a `float` even when `n` is even. -/
inductive PyNum
  | int (n : Int)
  | half (n : Int)
  deriving DecidableEq, Repr

/-- `str(x)`: an `int` in decimal; the `float` `n / 2` as its integer part and `.0` or `.5`,
which is how Python prints it while `|n| < 2 ^ 53`. -/
def PyNum.str : PyNum → String
  | .int n => toString n
  | .half n =>
    (if n < 0 then "-" else "") ++ toString (n.natAbs / 2) ++ (if n % 2 = 0 then ".0" else ".5")

/-- The number is an `int` greater than zero. -/
def PyNum.IsPosInt : PyNum → Prop
  | .int n => 0 < n
  | .half _ => False

example : (PyNum.half 3).str = "1.5" ∧ (PyNum.half 4).str = "2.0" ∧
    (PyNum.half (-1)).str = "-0.5" := by
  decide

/-! ## Samples -/

/-- Modelled from the spec: `sample.Sample`, one measurement with its metric, value, unit and
metadata (the `sample` module is not among the sources). The timestamp, read from the clock when
the sample is made, is left out. -/
structure Sample (M : Type) where
  metric : String
  value : Float
  unit : String
  metadata : M

/-- The sample with its metadata replaced. -/
def Sample.withMetadata {M : Type} (s : Sample M) (md : M) : Sample M := { s with metadata := md }

@[simp] theorem Sample.withMetadata_value {M : Type} (s : Sample M) (md : M) :
    (s.withMetadata md).value = s.value := rfl

@[simp] theorem Sample.withMetadata_metadata {M : Type} (s : Sample M) (md : M) :
    (s.withMetadata md).metadata = md := rfl

@[simp] theorem Sample.withMetadata_withMetadata {M : Type} (s : Sample M) (md md' : M) :
    (s.withMetadata md).withMetadata md' = s.withMetadata md' := rfl

end PerfKit.Python
