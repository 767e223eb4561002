import PerfKit.Python.Basic
import PerfKit.Python.Str

/-!
# The stress-ng output parser

`_ParseStressngResult` reads one sample off the `--metrics-brief` report of a stress-ng run. It
splits the output into lines and the lines into tokens (`outputMatrixOf`), gives up on fewer than
five lines, pops lines off the end until the third line from the end holds a `stressor` token
(`trimLoop`), asserts the shape of the two header lines, and reads the metric name and the
`bogo ops/s (real time)` value off the last line (`readMetrics`).

* `trimLoop_eq_take`: the loop stops with the header line `h` third from the end, where `h` is the
  last line among `0, …, n - 3` holding `stressor`, or `0` (`IsHeaderLine`; such a line exists and
  is unique, `exists_isHeaderLine`, `IsHeaderLine.unique`);
* `parseStressngResult_spec`: on five lines or more the parser returns exactly when the three
  lines from `h` on have the shape of a metrics block (`BlockSample`), and then returns that
  block's sample; otherwise it raises.

Python's `float()` on a string is a builtin of the interpreter, not of the benchmark: it is the
parameter `pyFloat`.
-/

namespace PerfKit.StressNg

open Python

/-- The lines of `output`, each split into its whitespace-separated tokens (`output_matrix`). -/
def outputMatrixOf (output : String) : List (List String) := (splitlines output).map split

/-- The trimming loop: `while len(output_matrix) > 3 and 'stressor' not in output_matrix[-3]`,
pop the last line. -/
def trimLoop (m : List (List String)) : List (List String) :=
  if _h : 3 < m.length ∧ "stressor" ∉ m.getD (m.length - 3) [] then trimLoop m.dropLast else m
termination_by m.length
decreasing_by simp only [List.length_dropLast]; omega

/-- `assert toks[-4] == a and toks[-3] == b`. -/
def assertTail (toks : List String) (a b : String) : Except PyError Unit := do
  if (← pyIndex toks (-4)) = a then
    if (← pyIndex toks (-3)) = b then pure () else throw .assertionError
  else throw .assertionError

/-- The metric of the sample: the `cpu_method` in place of the stressor name `cpu`, when a
non-empty one is given. -/
def metricName (name : String) : Option String → String
  | some cpuMethod => if name = "cpu" ∧ cpuMethod ≠ "" then cpuMethod else name
  | none => name

section Parser

variable (pyFloat : String → Except PyError Float)

/-- The end of `_ParseStressngResult`, on the trimmed lines: check the two header lines, then read
the metric name (fourth token) and the value (second to last token) off the last line. -/
def readMetrics {M : Type} (metadata : M) (outputMatrix : List (List String))
    (cpuMethod : Option String) : Except PyError (Option (Sample M)) := do
  assertTail (← pyIndex outputMatrix (-3)) "bogo" "ops/s"
  assertTail (← pyIndex outputMatrix (-2)) "(real" "time)"
  let line ← pyIndex outputMatrix (-1)
  let name ← pyIndex line 3
  let value ← pyFloat (← pyIndex line (-2))
  pure (some { metric := metricName name cpuMethod, value, unit := "bogus_ops_sec", metadata })

/-- `_ParseStressngResult(metadata, output, cpu_method)`: `None` when the output has fewer than
five lines (the code logs `output is missing`). -/
def parseStressngResult {M : Type} (metadata : M) (output : String) (cpuMethod : Option String) :
    Except PyError (Option (Sample M)) :=
  let outputMatrix := outputMatrixOf output
  if outputMatrix.length < 5 then pure none
  else readMetrics pyFloat metadata (trimLoop outputMatrix) cpuMethod

end Parser

/-! ## The trimming loop -/

/-- `h` is the header line of the lines `m`: the last line among `0, …, len m - 3` holding a
`stressor` token, or line `0` when none does. -/
structure IsHeaderLine (m : List (List String)) (h : Nat) : Prop where
  le_length : h + 3 ≤ m.length
  zero_or_stressor : h = 0 ∨ "stressor" ∈ m.getD h []
  last : ∀ j, h < j → j + 3 ≤ m.length → "stressor" ∉ m.getD j []

theorem getD_dropLast {m : List (List String)} {j : Nat} (hj : j + 1 < m.length) :
    m.dropLast.getD j [] = m.getD j [] := by
  simp only [List.getD_eq_getElem?_getD, List.getElem?_dropLast,
    if_pos (show j < m.length - 1 by omega)]

theorem IsHeaderLine.dropLast {m : List (List String)} {h : Nat} (hh : IsHeaderLine m h)
    (hlt : h + 3 < m.length) : IsHeaderLine m.dropLast h where
  le_length := by simp only [List.length_dropLast]; omega
  zero_or_stressor := by rw [getD_dropLast (by omega)]; exact hh.zero_or_stressor
  last j hj hjl := by
    simp only [List.length_dropLast] at hjl
    rw [getD_dropLast (by omega)]
    exact hh.last j hj (by omega)

/-- **The trimming loop stops with the header line third from the end.** -/
theorem trimLoop_eq_take {m : List (List String)} {h : Nat} (hh : IsHeaderLine m h) :
    trimLoop m = m.take (h + 3) := by
  induction m using trimLoop.induct with
  | case1 m hc ih =>
    have hlt : h + 3 < m.length := by
      rcases Nat.lt_or_ge (h + 3) m.length with hlt | hge
      · exact hlt
      · have hl : m.length - 3 = h := by have := hh.le_length; omega
        rcases hh.zero_or_stressor with h0 | hs
        · omega
        · exact absurd (hl ▸ hs) hc.2
    rw [trimLoop, dif_pos hc, ih (hh.dropLast hlt), List.dropLast_eq_take, List.take_take,
      Nat.min_eq_left (by omega)]
  | case2 m hc =>
    have hle := hh.le_length
    have heq : m.length = h + 3 := by
      by_contra hne
      exact hc ⟨by omega, hh.last (m.length - 3) (by omega) (by omega)⟩
    rw [trimLoop, dif_neg hc, List.take_of_length_le (by omega)]

/-- Every output of three lines or more has a header line: the one the loop stops at. -/
theorem exists_isHeaderLine (m : List (List String)) (hm : 3 ≤ m.length) :
    ∃ h, IsHeaderLine m h := by
  induction m using trimLoop.induct with
  | case1 m hc ih =>
    obtain ⟨h, hh⟩ := ih (by simp only [List.length_dropLast]; omega)
    have hle := hh.le_length
    simp only [List.length_dropLast] at hle
    refine ⟨h, by omega, ?_, fun j hj hjl => ?_⟩
    · rw [← getD_dropLast (by omega)]; exact hh.zero_or_stressor
    · by_cases hjm : j + 3 = m.length
      · simpa [← hjm] using hc.2
      · rw [← getD_dropLast (by omega)]
        exact hh.last j hj (by simp only [List.length_dropLast]; omega)
  | case2 m hc =>
    refine ⟨m.length - 3, by omega, ?_, fun j hj hjl => by omega⟩
    by_cases h3 : m.length = 3
    · exact .inl (by omega)
    · exact .inr (by simpa using not_and.1 hc (by omega))

theorem IsHeaderLine.unique {m : List (List String)} {h h' : Nat} (hh : IsHeaderLine m h)
    (hh' : IsHeaderLine m h') : h = h' := by
  by_contra hne
  rcases Nat.lt_or_gt_of_ne hne with hlt | hlt
  · rcases hh'.zero_or_stressor with h0 | hs
    · omega
    · exact hh.last h' hlt hh'.le_length hs
  · rcases hh.zero_or_stressor with h0 | hs
    · omega
    · exact hh'.last h hlt hh.le_length hs

/-! ## The header checks -/

/-- The tokens `toks` end in `a b _ _`. -/
def EndsWith (toks : List String) (a b : String) : Prop := ∃ pre c d, toks = pre ++ [a, b, c, d]

theorem endsWith_append (pre : List String) (x y c d a b : String) :
    EndsWith (pre ++ [x, y, c, d]) a b ↔ x = a ∧ y = b := by
  constructor
  · rintro ⟨pre', c', d', h⟩
    have := (List.append_inj' h rfl).2
    simp only [List.cons.injEq] at this
    exact ⟨this.1, this.2.1⟩
  · rintro ⟨rfl, rfl⟩
    exact ⟨pre, c, d, rfl⟩

theorem length_of_endsWith {toks : List String} {a b : String} (h : EndsWith toks a b) :
    4 ≤ toks.length := by
  obtain ⟨pre, c, d, rfl⟩ := h
  simp

/-- **The assertion on a header line holds exactly when the line ends in `a b _ _`.** -/
theorem assertTail_eq_ok (toks : List String) (a b : String) :
    assertTail toks a b = .ok () ↔ EndsWith toks a b := by
  obtain ⟨r, rfl⟩ : ∃ r, toks = r.reverse := ⟨toks.reverse, (List.reverse_reverse toks).symm⟩
  have e4 : pyIndex r.reverse (-4) = orIndexError r[3]? := by
    rw [show (-4 : Int) = Int.negSucc 3 from rfl, pyIndex_negSucc, List.reverse_reverse]
  have e3 : pyIndex r.reverse (-3) = orIndexError r[2]? := by
    rw [show (-3 : Int) = Int.negSucc 2 from rfl, pyIndex_negSucc, List.reverse_reverse]
  simp only [assertTail, e4, e3]
  rcases r with _ | ⟨d, _ | ⟨c, _ | ⟨y, _ | ⟨x, rest⟩⟩⟩⟩
  iterate 4
    exact ⟨fun h => by simp at h, fun h => absurd (length_of_endsWith h) (by simp)⟩
  simp only [List.getElem?_cons_succ, List.getElem?_cons_zero, orIndexError_some, except_bind_ok,
    List.reverse_cons, List.append_assoc, List.singleton_append, List.cons_append, List.nil_append,
    endsWith_append]
  by_cases hx : x = a <;> by_cases hy : y = b <;> simp [hx, hy, pure, throw, throwThe,
    MonadExceptOf.throw, Except.pure]

/-! ## The metrics block -/

section Spec

variable (pyFloat : String → Except PyError Float)

/-- The sample the spec reads off a metrics block of a header line `hdr`, a units line `units` and
a metrics line `line`: `hdr` ends in `bogo ops/s _ _`, `units` in `(real time) _ _`, and `line` has
four tokens or more, its second to last a float `v`; the sample has `line`'s fourth token as its
metric, replaced by the cpu method when the token is `cpu` and a non-empty cpu method is given, and
`v` as its value. -/
def BlockSample {M : Type} (hdr units line : List String) (metadata : M)
    (cpuMethod : Option String) (s : Sample M) : Prop :=
  EndsWith hdr "bogo" "ops/s" ∧ EndsWith units "(real" "time)" ∧ 4 ≤ line.length ∧
    ∃ v, pyFloat (line.getD (line.length - 2) "") = .ok v ∧
      s = { metric := if line.getD 3 "" = "cpu" ∧ cpuMethod.any (· ≠ "") then cpuMethod.getD ""
              else line.getD 3 "",
            value := v, unit := "bogus_ops_sec", metadata }

/-- The code's metric name is the token, or the cpu method when the token is `cpu` and a non-empty
cpu method is given. -/
theorem metricName_eq (name : String) (cpuMethod : Option String) :
    metricName name cpuMethod =
      if name = "cpu" ∧ cpuMethod.any (· ≠ "") then cpuMethod.getD "" else name := by
  cases cpuMethod <;> simp [metricName]

theorem readMetrics_append_eq_ok {M : Type} (metadata : M) (pre : List (List String))
    (hdr units line : List String) (cpuMethod : Option String) (r : Option (Sample M)) :
    readMetrics pyFloat metadata (pre ++ [hdr, units, line]) cpuMethod = .ok r ↔
      ∃ s, r = some s ∧ BlockSample pyFloat hdr units line metadata cpuMethod s := by
  have e : ∀ k (hk : k < 3), pyIndex (pre ++ [hdr, units, line]) (Int.negSucc k) =
      .ok ([hdr, units, line].getD (2 - k) []) := fun k hk => by
    rw [pyIndex_negSucc_of_lt _ [] (by simp; omega),
      List.getD_append_right _ _ _ _ (by simp; omega)]
    simp only [List.length_append, List.length_cons, List.length_nil]
    congr 2
    omega
  have e3 : pyIndex (pre ++ [hdr, units, line]) (-3) = .ok hdr := e 2 (by omega)
  have e2 : pyIndex (pre ++ [hdr, units, line]) (-2) = .ok units := e 1 (by omega)
  have e1 : pyIndex (pre ++ [hdr, units, line]) (-1) = .ok line := e 0 (by omega)
  simp only [readMetrics, e3, e2, e1, except_bind_ok, BlockSample, ← assertTail_eq_ok,
    metricName_eq]
  rcases except_unit_cases (assertTail hdr "bogo" "ops/s") with h1 | ⟨e1, h1⟩ <;>
    simp only [h1, except_bind_ok, except_bind_error, true_and, reduceCtorEq, false_and, and_false,
      false_iff, exists_false, not_false_eq_true]
  rcases except_unit_cases (assertTail units "(real" "time)") with h2 | ⟨e2, h2⟩ <;>
    simp only [h2, except_bind_ok, except_bind_error, true_and, reduceCtorEq, false_and, and_false,
      false_iff, exists_false, not_false_eq_true]
  by_cases h4 : 4 ≤ line.length
  · have l3 : pyIndex line 3 = .ok (line.getD 3 "") := @pyIndex_ofNat_of_lt _ line "" 3 (by omega)
    have l2 : pyIndex line (-2) = .ok (line.getD (line.length - 2) "") := by
      rw [show (-2 : Int) = Int.negSucc 1 from rfl, pyIndex_negSucc_of_lt line "" (by omega),
        show line.length - 1 - 1 = line.length - 2 by omega]
    rw [l3, l2]
    cases hv : pyFloat (line.getD (line.length - 2) "") with
    | error e =>
      simp only [except_bind_ok, hv, except_bind_error, reduceCtorEq, false_and, exists_false,
        and_false, false_iff, not_false_eq_true]
    | ok v =>
      simp only [hv, except_bind_ok, except_pure, h4, true_and, Except.ok.injEq]
      exact ⟨fun h => ⟨_, h.symm, v, rfl, rfl⟩, fun ⟨s, hs, v', hv', hsv⟩ => by
        cases hv'; rw [hs, hsv]⟩
  · have l3 : pyIndex line 3 = .error .indexError := @pyIndex_ofNat_of_le _ line 3 (by omega)
    rw [l3]
    simp [h4]

theorem take_add_three (m : List (List String)) {h : Nat} (hl : h + 3 ≤ m.length) :
    m.take (h + 3) = m.take h ++ [m.getD h [], m.getD (h + 1) [], m.getD (h + 2) []] := by
  have e : ∀ j, j < m.length → m[j]?.toList = [m.getD j []] := fun j hj => by
    rw [List.getElem?_eq_getElem hj, List.getD_eq_getElem _ _ hj]; rfl
  rw [List.take_succ, List.take_succ, List.take_succ, e h (by omega), e (h + 1) (by omega),
    e (h + 2) (by omega)]
  simp

theorem parseStressngResult_of_lt_five {M : Type} (metadata : M) (output : String)
    (cpuMethod : Option String) (h5 : (outputMatrixOf output).length < 5) :
    parseStressngResult pyFloat metadata output cpuMethod = .ok none := by
  simp [parseStressngResult, h5]

/-- An empty output parses to no sample. -/
theorem parseStressngResult_empty {M : Type} (metadata : M) (cpuMethod : Option String) :
    parseStressngResult pyFloat metadata "" cpuMethod = .ok none :=
  parseStressngResult_of_lt_five pyFloat metadata "" cpuMethod (by decide)

theorem parseStressngResult_eq_ok_iff {M : Type} (metadata : M) (output : String)
    (cpuMethod : Option String) {h : Nat} (h5 : 5 ≤ (outputMatrixOf output).length)
    (hh : IsHeaderLine (outputMatrixOf output) h) (r : Option (Sample M)) :
    parseStressngResult pyFloat metadata output cpuMethod = .ok r ↔
      ∃ s, r = some s ∧ BlockSample pyFloat ((outputMatrixOf output).getD h [])
        ((outputMatrixOf output).getD (h + 1) []) ((outputMatrixOf output).getD (h + 2) [])
        metadata cpuMethod s := by
  rw [parseStressngResult, if_neg (Nat.not_lt.2 h5), trimLoop_eq_take hh,
    take_add_three _ hh.le_length, readMetrics_append_eq_ok]

/-- **`_ParseStressngResult` on every output.** On fewer than five lines it returns `None`. On
five or more, with `h` the header line, the trimming loop stops with line `h` third from the end,
and the parser returns exactly when lines `h`, `h + 1`, `h + 2` form a metrics block, and then
that block's sample; otherwise it raises. -/
theorem parseStressngResult_spec {M : Type} (metadata : M) (output : String)
    (cpuMethod : Option String) :
    ((outputMatrixOf output).length < 5 →
      parseStressngResult pyFloat metadata output cpuMethod = .ok none) ∧
    ∀ h, 5 ≤ (outputMatrixOf output).length → IsHeaderLine (outputMatrixOf output) h →
      trimLoop (outputMatrixOf output) = (outputMatrixOf output).take (h + 3) ∧
      (∀ r, parseStressngResult pyFloat metadata output cpuMethod = .ok r ↔
        ∃ s, r = some s ∧ BlockSample pyFloat ((outputMatrixOf output).getD h [])
          ((outputMatrixOf output).getD (h + 1) []) ((outputMatrixOf output).getD (h + 2) [])
          metadata cpuMethod s) ∧
      ((¬ ∃ s, BlockSample pyFloat ((outputMatrixOf output).getD h [])
          ((outputMatrixOf output).getD (h + 1) []) ((outputMatrixOf output).getD (h + 2) [])
          metadata cpuMethod s) →
        ∃ e, parseStressngResult pyFloat metadata output cpuMethod = .error e) := by
  refine ⟨parseStressngResult_of_lt_five pyFloat metadata output cpuMethod, fun h h5 hh =>
    ⟨trimLoop_eq_take hh, parseStressngResult_eq_ok_iff pyFloat metadata output cpuMethod h5 hh,
      fun hno => ?_⟩⟩
  cases hp : parseStressngResult pyFloat metadata output cpuMethod with
  | error e => exact ⟨e, rfl⟩
  | ok r =>
    obtain ⟨s, -, hs⟩ :=
      (parseStressngResult_eq_ok_iff pyFloat metadata output cpuMethod h5 hh r).1 hp
    exact absurd ⟨s, hs⟩ hno

theorem blockSample_withMetadata {M : Type} {hdr units line : List String} {md : M}
    {cpuMethod : Option String} {s : Sample M}
    (hs : BlockSample pyFloat hdr units line md cpuMethod s)
    (md' : M) : BlockSample pyFloat hdr units line md' cpuMethod (s.withMetadata md') := by
  obtain ⟨h1, h2, h4, v, hv, rfl⟩ := hs
  exact ⟨h1, h2, h4, v, hv, rfl⟩

/-- **The parser passes its metadata through**: the same output parses with any metadata. -/
theorem parseStressngResult_withMetadata {M : Type} {md : M} {output : String}
    {cpuMethod : Option String} {r : Option (Sample M)}
    (h : parseStressngResult pyFloat md output cpuMethod = .ok r) (md' : M) :
    parseStressngResult pyFloat md' output cpuMethod = .ok (r.map (·.withMetadata md')) := by
  by_cases h5 : (outputMatrixOf output).length < 5
  · rw [parseStressngResult_of_lt_five pyFloat md output cpuMethod h5] at h
    cases h
    exact parseStressngResult_of_lt_five pyFloat md' output cpuMethod h5
  · obtain ⟨hd, hh⟩ := exists_isHeaderLine (outputMatrixOf output) (by omega)
    obtain ⟨s, rfl, hs⟩ := (parseStressngResult_eq_ok_iff pyFloat md output cpuMethod
      (by omega) hh r).1 h
    exact (parseStressngResult_eq_ok_iff pyFloat md' output cpuMethod (by omega) hh _).2
      ⟨_, rfl, blockSample_withMetadata pyFloat hs md'⟩

end Spec

/-- The sample report of the parser's docstring. -/
def docstringOutput : String :=
  "stress-ng: info:  [2566] dispatching hogs: 2 context\n" ++
    "stress-ng: info:  [2566] successful run completed in 5.00s\n" ++
    "stress-ng: info:  [2566] stressor      bogo ops real time  usr time  sys time   " ++
      "bogo ops/s   bogo ops/s\n" ++
    "stress-ng: info:  [2566]                          (secs)    (secs)    (secs)   " ++
      "(real time) (usr+sys time)\n" ++
    "stress-ng: info:  [2566] context          22429      5.00      5.49       4.48      " ++
      "4485.82      2249.65"

/-- The tokens of the lines of the docstring's report. -/
theorem outputMatrixOf_docstringOutput : outputMatrixOf docstringOutput =
    [["stress-ng:", "info:", "[2566]", "dispatching", "hogs:", "2", "context"],
     ["stress-ng:", "info:", "[2566]", "successful", "run", "completed", "in", "5.00s"],
     ["stress-ng:", "info:", "[2566]", "stressor", "bogo", "ops", "real", "time", "usr", "time",
       "sys", "time", "bogo", "ops/s", "bogo", "ops/s"],
     ["stress-ng:", "info:", "[2566]", "(secs)", "(secs)", "(secs)", "(real", "time)", "(usr+sys",
       "time)"],
     ["stress-ng:", "info:", "[2566]", "context", "22429", "5.00", "5.49", "4.48", "4485.82",
       "2249.65"]] := by
  decide

theorem isHeaderLine_docstringOutput : IsHeaderLine (outputMatrixOf docstringOutput) 2 := by
  rw [outputMatrixOf_docstringOutput]
  exact ⟨by decide, .inr (by decide), fun j hj hjl => by simp at hjl; omega⟩

/-- The docstring's report has its header on line `2`, where the trimming loop stops. -/
theorem parseStressngResult_spec_docstring :
    5 ≤ (outputMatrixOf docstringOutput).length ∧ IsHeaderLine (outputMatrixOf docstringOutput) 2 ∧
      trimLoop (outputMatrixOf docstringOutput) = (outputMatrixOf docstringOutput).take 5 := by
  have h5 : 5 ≤ (outputMatrixOf docstringOutput).length := by
    rw [outputMatrixOf_docstringOutput]; decide
  exact ⟨h5, isHeaderLine_docstringOutput, ((parseStressngResult_spec
    (fun _ => .error .indexError) () docstringOutput none).2 2 h5 isHeaderLine_docstringOutput).1⟩

/-- A `float()` that reads the one text `text`, as `v`. -/
def floatReading (text : String) (v : Float) (s : String) : Except PyError Float :=
  if s = text then .ok v else .error (.valueError "could not convert string to float")

end PerfKit.StressNg
