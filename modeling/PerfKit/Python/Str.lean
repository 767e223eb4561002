import Mathlib.Data.Nat.Digits

/-!
# Python's string methods

The benchmarks read command output with `str.splitlines()` and `str.split()`, split a flag on
`;` with `str.split(';')`, and name files with f-strings of `int`s. Each method is written on
the characters of the string, one equation per case, as CPython computes it:

* `splitlines` ends a line at each line boundary (`isLineBoundary`), `\r\n` counting as one, and
  drops the empty line after a final boundary;
* `split` cuts at runs of whitespace (`isSpace`) and drops empty words;
* `splitSep` cuts at every separator and keeps empty fields;
* `pyStrLe` compares strings by code point, as `sorted` does.

`str` of a natural number is injective and its digits hold no `.` (`toString_nat_inj`,
`dot_not_mem_toString`), and so is `str` of an integer (`toString_int_inj`): in the dotted file
names `result.c.p.t` of the aerospike benchmark, the name up to a number determines the number and
the rest (`dotted_inj`).
-/

namespace PerfKit.Python

/-- The characters at which `str.splitlines` ends a line. -/
def isLineBoundary (c : Char) : Bool :=
  c.toNat ∈ [0x0a, 0x0b, 0x0c, 0x0d, 0x1c, 0x1d, 0x1e, 0x85, 0x2028, 0x2029]

/-- The characters `str.split()` treats as whitespace (`str.isspace`). -/
def isSpace (c : Char) : Bool :=
  let n := c.toNat
  (0x09 ≤ n && n ≤ 0x0d) || (0x1c ≤ n && n ≤ 0x20) || n = 0x85 || n = 0xa0 || n = 0x1680 ||
    (0x2000 ≤ n && n ≤ 0x200a) || n = 0x2028 || n = 0x2029 || n = 0x202f || n = 0x205f ||
    n = 0x3000

/-- `str.splitlines()` on the rest of the characters, `line` holding the current line reversed. -/
def splitlinesAux : List Char → List Char → List String
  | [], line => if line.isEmpty then [] else [String.mk line.reverse]
  | '\r' :: '\n' :: cs, line => String.mk line.reverse :: splitlinesAux cs []
  | c :: cs, line =>
    if isLineBoundary c then String.mk line.reverse :: splitlinesAux cs []
    else splitlinesAux cs (c :: line)

/-- `s.splitlines()`. -/
def splitlines (s : String) : List String := splitlinesAux s.data []

/-- `str.split()` on the rest of the characters, `word` holding the current word reversed. -/
def splitAux : List Char → List Char → List String
  | [], word => if word.isEmpty then [] else [String.mk word.reverse]
  | c :: cs, word =>
    if isSpace c then
      if word.isEmpty then splitAux cs [] else String.mk word.reverse :: splitAux cs []
    else splitAux cs (c :: word)

/-- `s.split()`: the whitespace-separated tokens of `s`. -/
def split (s : String) : List String := splitAux s.data []

/-- `str.split(sep)` on the rest of the characters, `field` holding the current field reversed. -/
def splitSepAux (sep : Char) : List Char → List Char → List String
  | [], field => [String.mk field.reverse]
  | c :: cs, field =>
    if c = sep then String.mk field.reverse :: splitSepAux sep cs []
    else splitSepAux sep cs (c :: field)

/-- `s.split(sep)` for a one-character separator. -/
def splitSep (s : String) (sep : Char) : List String := splitSepAux sep s.data []

example : splitlines "ab\r\ncd\n\nef\n" = ["ab", "cd", "", "ef"] ∧
    split " [2566] stressor\t bogo " = ["[2566]", "stressor", "bogo"] ∧
    splitSep "RU, 75;RU, 50" ';' = ["RU, 75", "RU, 50"] := by
  decide

/-! ## Round trips -/

/-- A run of characters without line boundaries is read into the current line. -/
theorem splitlinesAux_append {l : List Char} (hl : ∀ c ∈ l, isLineBoundary c = false)
    (rest acc : List Char) :
    splitlinesAux (l ++ rest) acc = splitlinesAux rest (l.reverse ++ acc) := by
  induction l generalizing acc with
  | nil => rfl
  | cons c l ih =>
    have hc := hl c (List.mem_cons_self _ _)
    have hr : c ≠ '\r' := fun h => absurd (h ▸ hc) (by decide)
    rw [List.cons_append, splitlinesAux.eq_3 _ _ _ fun _ h => absurd h hr, if_neg (by simp [hc]),
      ih fun c' hc' => hl c' (List.mem_cons_of_mem _ hc')]
    simp

/-- **`str.splitlines()` reads back lines each ended by `\n`**, when no line holds a line
boundary. -/
theorem splitlinesAux_join (ls : List (List Char))
    (hls : ∀ l ∈ ls, ∀ c ∈ l, isLineBoundary c = false) :
    splitlinesAux (ls.flatMap fun l => l ++ ['\n']) [] = ls.map String.mk := by
  induction ls with
  | nil => rfl
  | cons l ls ih =>
    rw [List.flatMap_cons, List.append_assoc, List.singleton_append,
      splitlinesAux_append (hls l (List.mem_cons_self _ _)),
      splitlinesAux.eq_3 _ _ _ fun _ h => absurd h (by decide), if_pos (by decide),
      ih fun l' hl' => hls l' (List.mem_cons_of_mem _ hl')]
    simp

/-- A word without whitespace is read into the current word. -/
theorem splitAux_append_word {w : List Char} (hw : ∀ c ∈ w, isSpace c = false)
    (rest acc : List Char) : splitAux (w ++ rest) acc = splitAux rest (w.reverse ++ acc) := by
  induction w generalizing acc with
  | nil => rfl
  | cons c w ih =>
    rw [List.cons_append, splitAux, if_neg (by simp [hw c (List.mem_cons_self _ _)]),
      ih fun c' hc' => hw c' (List.mem_cons_of_mem _ hc')]
    simp

/-- Whitespace after no word is skipped. -/
theorem splitAux_append_spaces_nil {g : List Char} (hg : ∀ c ∈ g, isSpace c = true)
    (rest : List Char) : splitAux (g ++ rest) [] = splitAux rest [] := by
  induction g with
  | nil => rfl
  | cons c g ih =>
    simp only [List.cons_append, splitAux, hg c (List.mem_cons_self _ _), List.isEmpty_nil,
      if_true]
    exact ih fun c' hc' => hg c' (List.mem_cons_of_mem _ hc')

/-- The word read so far, as `str.split()` emits it at whitespace or at the end. -/
def wordOf (acc : List Char) : List String := if acc.isEmpty then [] else [String.mk acc.reverse]

/-- A run of whitespace ends the current word. -/
theorem splitAux_append_spaces {g : List Char} (hg : ∀ c ∈ g, isSpace c = true) (hne : g ≠ [])
    (rest acc : List Char) : splitAux (g ++ rest) acc = wordOf acc ++ splitAux rest [] := by
  obtain ⟨c, g, rfl⟩ := List.exists_cons_of_ne_nil hne
  rw [List.cons_append, splitAux, if_pos (hg c (List.mem_cons_self _ _)),
    splitAux_append_spaces_nil (fun c' hc' => hg c' (List.mem_cons_of_mem _ hc')), wordOf]
  split <;> rfl

/-- Tokens laid out after runs of spaces, `n₁` spaces then `t₁`, `n₂` spaces then `t₂`, …, and
`trailing` spaces at the end: a line as a program prints it in columns. -/
def spacedOut (cells : List (Nat × String)) (trailing : Nat) : List Char :=
  cells.flatMap (fun cell => List.replicate cell.1 ' ' ++ cell.2.data) ++
    List.replicate trailing ' '

/-- The tokens of a layout are words: not empty, no whitespace. -/
def Words (cells : List (Nat × String)) : Prop :=
  ∀ cell ∈ cells, cell.2.data ≠ [] ∧ ∀ c ∈ cell.2.data, isSpace c = false

instance (cells : List (Nat × String)) : Decidable (Words cells) :=
  inferInstanceAs (Decidable (∀ cell ∈ cells, _ ∧ _))

theorem splitAux_spacedOut {cells : List (Nat × String)} (hw : Words cells)
    (hgap : ∀ cell ∈ cells, 0 < cell.1) (trailing : Nat) (acc : List Char) :
    splitAux (spacedOut cells trailing) acc = wordOf acc ++ cells.map Prod.snd := by
  have hsp : ∀ n, ∀ c ∈ List.replicate n ' ', isSpace c = true := fun n c hc => by
    rw [List.eq_of_mem_replicate hc]; rfl
  induction cells generalizing acc with
  | nil =>
    rcases Nat.eq_zero_or_pos trailing with rfl | ht
    · simp [spacedOut, splitAux, wordOf]
    · simpa [spacedOut, splitAux] using splitAux_append_spaces (hsp trailing)
        (List.ne_nil_of_length_pos (by simpa using ht)) [] acc
  | cons cell cells ih =>
    have hcell := hw cell (List.mem_cons_self _ _)
    rw [spacedOut, List.flatMap_cons, List.append_assoc, List.append_assoc,
      splitAux_append_spaces (hsp cell.1)
        (List.ne_nil_of_length_pos (by simpa using hgap cell (List.mem_cons_self _ _))),
      ← spacedOut, splitAux_append_word hcell.2,
      ih (fun c hc => hw c (List.mem_cons_of_mem _ hc))
        (fun c hc => hgap c (List.mem_cons_of_mem _ hc))]
    simp [wordOf, hcell.1]

/-- **`str.split()` reads back the tokens of a line laid out in columns**, whatever the spaces
between them, at its start and at its end. -/
theorem split_spacedOut {cells : List (Nat × String)} (hw : Words cells)
    (hgap : ∀ cell ∈ cells.tail, 0 < cell.1) (trailing : Nat) :
    split (String.mk (spacedOut cells trailing)) = cells.map Prod.snd := by
  cases cells with
  | nil => exact (splitAux_spacedOut hw (by simp) trailing []).trans rfl
  | cons cell cells =>
    have hcell := hw cell (List.mem_cons_self _ _)
    show splitAux (spacedOut (cell :: cells) trailing) [] = _
    rw [spacedOut, List.flatMap_cons, List.append_assoc, List.append_assoc,
      splitAux_append_spaces_nil fun c hc => by rw [List.eq_of_mem_replicate hc]; rfl,
      ← spacedOut, splitAux_append_word hcell.2,
      splitAux_spacedOut (fun c hc => hw c (List.mem_cons_of_mem _ hc)) hgap]
    simp [wordOf, hcell.1]

theorem splitSepAux_eq_go (sep : Char) (cs acc : List Char) :
    splitSepAux sep cs acc = (List.splitOnP.go (· == sep) cs acc).map String.mk := by
  induction cs generalizing acc with
  | nil => rfl
  | cons c cs ih => by_cases h : c = sep <;> simp [splitSepAux, List.splitOnP.go, h, ih]

/-- **`str.split(sep)` is `List.splitOn` on the characters.** -/
theorem splitSep_eq_splitOn (s : String) (sep : Char) :
    splitSep s sep = (s.data.splitOn sep).map String.mk :=
  splitSepAux_eq_go sep s.data []

/-- **`str.split(sep)` reads back fields joined by `sep`**, when none holds `sep`. -/
theorem splitSep_intercalate (sep : Char) {fields : List String} (hne : fields ≠ [])
    (hf : ∀ f ∈ fields, sep ∉ f.data) :
    splitSep (String.mk ([sep].intercalate (fields.map String.data))) sep = fields := by
  rw [splitSep_eq_splitOn, List.splitOn_intercalate _ sep (by simpa using hf) (by simpa using hne),
    List.map_map]
  exact List.map_id fields

/-- `a <= b` on the characters of two strings: Python orders strings by code point, a prefix
first. -/
def strLe : List Char → List Char → Bool
  | [], _ => true
  | _ :: _, [] => false
  | a :: as, b :: bs => a.toNat < b.toNat || (a = b && strLe as bs)

/-- `a <= b` on strings. -/
def pyStrLe (a b : String) : Bool := strLe a.data b.data

example : pyStrLe "str" "stream" ∧ pyStrLe "ab" "ab" ∧ !pyStrLe "b" "a" := by decide

/-! ## Decimal numerals -/

/-- The value of a string of decimal digits. -/
def digitsValue (cs : List Char) : Nat := cs.foldl (fun n c => 10 * n + (c.toNat - 48)) 0

theorem digitsValue_append_singleton (cs : List Char) (c : Char) :
    digitsValue (cs ++ [c]) = 10 * digitsValue cs + (c.toNat - 48) := by
  simp [digitsValue]

theorem toDigitsCore_eq_append (f n : Nat) (ds : List Char) :
    Nat.toDigitsCore 10 f n ds = Nat.toDigitsCore 10 f n [] ++ ds := by
  induction f generalizing n ds with
  | zero => rfl
  | succ f ih =>
    simp only [Nat.toDigitsCore]
    split
    · rfl
    · rw [ih _ (_ :: ds), ih _ [_], List.append_assoc, List.singleton_append]

theorem digitChar_toNat_sub (d : Nat) (hd : d < 10) : (Nat.digitChar d).toNat - 48 = d := by
  revert d; decide

theorem digitsValue_toDigitsCore (f n : Nat) (hn : n < f) :
    digitsValue (Nat.toDigitsCore 10 f n []) = n := by
  induction f generalizing n with
  | zero => omega
  | succ f ih =>
    simp only [Nat.toDigitsCore]
    split
    · simp [digitsValue, digitChar_toNat_sub _ (Nat.mod_lt n (by omega))]
      omega
    · rw [toDigitsCore_eq_append, digitsValue_append_singleton, ih _ (by omega),
        digitChar_toNat_sub _ (Nat.mod_lt n (by omega))]
      omega

/-- **`str` of a natural number is injective.** -/
theorem toString_nat_inj {m n : Nat} (h : toString m = toString n) : m = n := by
  have hd : Nat.toDigits 10 m = Nat.toDigits 10 n := congrArg String.data h
  rw [← digitsValue_toDigitsCore (m + 1) m (by omega),
    ← digitsValue_toDigitsCore (n + 1) n (by omega)]
  exact congrArg digitsValue hd

/-- A character that is no decimal digit is not in the digits of a number. -/
theorem not_mem_toDigitsCore {c : Char} (hc : ∀ d < 10, Nat.digitChar d ≠ c) (f n : Nat)
    (ds : List Char) (hds : c ∉ ds) : c ∉ Nat.toDigitsCore 10 f n ds := by
  induction f generalizing n ds with
  | zero => exact hds
  | succ f ih =>
    have hd := hc _ (Nat.mod_lt n (by omega))
    simp only [Nat.toDigitsCore]
    split
    · simpa [Ne.symm hd] using hds
    · exact ih _ _ (by simpa [Ne.symm hd] using hds)

theorem dot_not_mem_toString (n : Nat) : '.' ∉ (toString n).data :=
  not_mem_toDigitsCore (by decide) (n + 1) n [] (List.not_mem_nil _)

/-- **`str` of an integer is injective**: a negative number is written with a `-`, which no
digit is. -/
theorem toString_int_inj {a b : Int} (h : toString a = toString b) : a = b := by
  have hm : ∀ n : Nat, '-' ∉ (toString n).data := fun n =>
    not_mem_toDigitsCore (by decide) (n + 1) n [] (List.not_mem_nil _)
  have hd := congrArg String.data h
  cases a with
  | ofNat m =>
    cases b with
    | ofNat n => exact congrArg _ (toString_nat_inj h)
    | negSucc n => exact absurd (hd ▸ List.mem_cons_self _ _) (hm m)
  | negSucc m =>
    cases b with
    | ofNat n => exact absurd (hd ▸ List.mem_cons_self _ _) (hm n)
    | negSucc n =>
      have : toString (m + 1) = toString (n + 1) := String.ext (List.cons_injective hd)
      rw [Nat.succ.inj (toString_nat_inj this)]

/-- A first `.` splits a list of characters in one way only. -/
theorem append_dot_inj {l₁ l₂ r₁ r₂ : List Char} (h₁ : '.' ∉ l₁) (h₂ : '.' ∉ l₂)
    (h : l₁ ++ '.' :: r₁ = l₂ ++ '.' :: r₂) : l₁ = l₂ ∧ r₁ = r₂ := by
  induction l₁ generalizing l₂ with
  | nil =>
    cases l₂ with
    | nil => simpa using h
    | cons b l₂ =>
      simp only [List.nil_append, List.cons_append, List.cons.injEq] at h
      exact (h₂ (by rw [h.1]; exact List.mem_cons_self _ _)).elim
  | cons a l₁ ih =>
    cases l₂ with
    | nil =>
      simp only [List.nil_append, List.cons_append, List.cons.injEq] at h
      exact (h₁ (by rw [← h.1]; exact List.mem_cons_self _ _)).elim
    | cons b l₂ =>
      simp only [List.cons_append, List.cons.injEq] at h
      obtain ⟨rfl, h⟩ := h
      have := ih (fun hm => h₁ (List.mem_cons_of_mem _ hm))
        (fun hm => h₂ (List.mem_cons_of_mem _ hm)) h
      exact ⟨by rw [this.1], this.2⟩

/-- **A name `p` followed by a natural number `a`, a `.` and `s` determines `a` and `s`.** -/
theorem dotted_inj (p : String) {a a' : Nat} {s s' : String}
    (h : p ++ toString a ++ "." ++ s = p ++ toString a' ++ "." ++ s') : a = a' ∧ s = s' := by
  have hd := congrArg String.data h
  simp only [String.data_append, List.append_assoc, List.append_cancel_left_eq] at hd
  have key := append_dot_inj (dot_not_mem_toString a) (dot_not_mem_toString a') hd
  exact ⟨toString_nat_inj (String.ext key.1), String.ext key.2⟩

end PerfKit.Python
