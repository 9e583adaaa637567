import AccessControl.Json.Printer
import AccessControl.Json.Token
import AccessControl.Proofs.Numerals

/-!
# Scanning what was written

The scanner is a fold that collects tokens; what has been collected does not matter to what comes, so
the tokens of a text are told by the mode the scanner is in and the text that is left (`Mode.scan`,
`Token.scan_eq`). **Each written piece takes the scanner from between two tokens to between two
tokens, with one token more**: that is what this module shows of blanks, of string literals
(`Mode.scan_literal`) and of integers (`Mode.scan_integer`).

A number ends only where the next character does not go on with it. All other pieces end by
themselves, so the text behind a number is the only one of which something has to be assumed
(`Delimited`).
-/

set_option autoImplicit false

namespace AccessControl.Json

/-! ## From a mode on -/

/-- The tokens of a text when its beginning has been read already. -/
def Mode.scan : Mode → List Char → List Token
  | m, [] => m.finish
  | m, c :: rest => (m.step c).1 ++ scan (m.step c).2 rest

theorem Scanner.foldl_step (s : Scanner) (cs : List Char) :
    (cs.foldl Scanner.step s).found.reverse ++ (cs.foldl Scanner.step s).mode.finish =
      s.found.reverse ++ s.mode.scan cs := by
  induction cs generalizing s with
  | nil => rfl
  | cons c rest ih =>
    rw [List.foldl_cons, ih, Mode.scan, ← List.append_assoc]
    congr 1
    show ((s.mode.step c).1.reverse ++ s.found).reverse = _
    rw [List.reverse_append, List.reverse_reverse]

theorem Token.scan_eq (cs : List Char) : Token.scan cs = Mode.between.scan cs :=
  Scanner.foldl_step {} cs

namespace Mode

/-- A character that completes no token. -/
theorem scan_cons {m k : Mode} {c : Char} (h : m.step c = ([], k)) (rest : List Char) :
    m.scan (c :: rest) = k.scan rest := by
  rw [scan, h]
  rfl

/-! ## Blanks -/

/-- Spaces and line breaks, of which indentation is made. -/
def IsBlank (cs : List Char) : Prop := ∀ c ∈ cs, c = ' ' ∨ c = '\n'

theorem isBlank_nil : IsBlank [] := by
  intro c hc
  exact absurd hc List.not_mem_nil

theorem isBlank_newLine (depth : Nat) : IsBlank (newLine depth) := by
  intro c hc
  rcases List.mem_cons.mp hc with rfl | hc
  · exact Or.inr rfl
  · exact Or.inl (List.eq_of_mem_replicate hc)

theorem scan_blank {cs : List Char} (h : IsBlank cs) (rest : List Char) :
    between.scan (cs ++ rest) = between.scan rest := by
  induction cs with
  | nil => rfl
  | cons c cs ih =>
    have hstep : between.step c = ([], between) := by
      rcases h c List.mem_cons_self with rfl | rfl
      · rfl
      · rfl
    rw [List.cons_append, scan_cons hstep]
    exact ih fun c hc => h c (List.mem_cons_of_mem _ hc)

/-- The text behind a value: it is empty or begins with a character that ends a number. -/
def Delimited (rest : List Char) : Prop := ∀ c ∈ rest.head?, c ∈ [',', ']', '\x7d', ' ', '\n']

theorem delimited_nil : Delimited [] := by
  intro c hc
  simp at hc

theorem delimited_cons {c : Char} (hc : c ∈ [',', ']', '\x7d', ' ', '\n']) (rest : List Char) :
    Delimited (c :: rest) := by
  intro c' hc'
  cases hc'
  exact hc

theorem Delimited.blank {cs rest : List Char} (hrest : Delimited rest) (h : IsBlank cs) :
    Delimited (cs ++ rest) := by
  cases cs with
  | nil => exact hrest
  | cons c cs =>
    refine delimited_cons ?_ _
    rcases h c List.mem_cons_self with rfl | rfl
    · decide
    · decide

/-! ## String literals -/

/-- What has been spelled after one more character, written in whatever way. -/
def spelled (s : Spelling) (c : Char) : Spelling :=
  { done := s.done.map (c :: ·), high := none, plain := s.plain && !needsEscape c }

theorem hexDigit?_hexDigit {n : Nat} (hn : n < 16) : Text.hexDigit? (hexDigit n) = some n := by
  have hall : ∀ n, n < 16 → Text.hexDigit? (hexDigit n) = some n := by decide
  exact hall n hn

/-- A character below the space by its number. -/
theorem scan_control {s : Spelling} (hs : s.high = none) {c : Char} (hc : c.toNat < 0x20)
    (rest : List Char) :
    (literal s).scan
        ('\\' :: 'u' :: '0' :: '0' :: hexDigit (c.toNat / 16) :: hexDigit (c.toNat % 16) :: rest) =
      (literal (spelled s c)).scan rest := by
  have hhigh : (unit s 2 0).step (hexDigit (c.toNat / 16)) = ([], unit s 1 (c.toNat / 16)) := by
    simp [step, hexDigit?_hexDigit (show c.toNat / 16 < 16 by omega)]
  have hunit : s.unit c.toNat = spelled s c := by
    have hescape : needsEscape c = true := by simp [needsEscape, hc]
    have hlow : ¬ (0xDC00 ≤ c.toNat) := by omega
    have hhigh : ¬ (0xD800 ≤ c.toNat) := by omega
    simp [Spelling.unit, spelled, hs, hescape, hlow, hhigh]
  have hlow : (unit s 1 (c.toNat / 16)).step (hexDigit (c.toNat % 16)) =
      ([], literal (spelled s c)) := by
    have hvalue : c.toNat / 16 * 16 + c.toNat % 16 = c.toNat := by omega
    simp [step, hexDigit?_hexDigit (show c.toNat % 16 < 16 by omega), hvalue, hunit]
  rw [scan_cons (k := escape s) rfl, scan_cons (k := unit s 4 0) rfl,
    scan_cons (k := unit s 3 0) rfl, scan_cons (k := unit s 2 0) rfl, scan_cons hhigh,
    scan_cons hlow]

/-- A character by a letter after a backslash. -/
theorem scan_escaped {s : Spelling} (hs : s.high = none) {c letter : Char}
    (hletter : escaped? letter = some c) (hu : letter ≠ 'u') (hc : needsEscape c = true)
    (rest : List Char) :
    (literal s).scan ('\\' :: letter :: rest) = (literal (spelled s c)).scan rest := by
  have hspelled : s.escaped c = spelled s c := by
    simp [Spelling.escaped, Spelling.char, spelled, hs, hc]
  have hstep : (escape s).step letter = ([], literal (spelled s c)) := by
    simp [step, hletter, hu, hspelled]
  rw [scan_cons (k := escape s) rfl, scan_cons hstep]

/-- A character that stands for itself. -/
theorem scan_plain {s : Spelling} (hs : s.high = none) {c : Char} (hc : needsEscape c = false)
    (rest : List Char) : (literal s).scan (c :: rest) = (literal (spelled s c)).scan rest := by
  have hspelled : s.char c = spelled s c := by
    simp [Spelling.char, spelled, hs, hc]
  have hstep : (literal s).step c = ([], literal (spelled s c)) := by
    simp only [needsEscape, Bool.or_eq_false_iff, beq_eq_false_iff_ne, decide_eq_false_iff_not]
      at hc
    simp [step, hc, hspelled]
  exact scan_cons hstep rest

/-- **However a character is written, it is spelled.** -/
theorem scan_escape {s : Spelling} (hs : s.high = none) (c : Char) (rest : List Char) :
    (literal s).scan (Json.escape c ++ rest) = (literal (spelled s c)).scan rest := by
  unfold Json.escape
  split
  -- The quote, the backslash, and five control characters have a letter.
  iterate 7 exact scan_escaped hs rfl (by decide) (by decide) rest
  rename_i hquote hbackslash _ _ _ _ _
  split
  · rename_i hcontrol
    exact scan_control hs hcontrol rest
  · rename_i hcontrol
    have hc : needsEscape c = false := by
      simp only [needsEscape, Bool.or_eq_false_iff, beq_eq_false_iff_ne, decide_eq_false_iff_not]
      exact ⟨⟨hquote, hbackslash⟩, hcontrol⟩
    exact scan_plain hs hc rest

theorem scan_literal_from {s : Spelling} {done : List Char} (hdone : s.done = some done)
    (hs : s.high = none) (cs rest : List Char) :
    (literal s).scan (cs.flatMap Json.escape ++ '"' :: rest) =
      .string { text := some (String.ofList (done.reverse ++ cs)),
                plain := s.plain && !cs.any needsEscape } :: between.scan rest := by
  -- The characters spelled so far come before those that are left.
  induction cs generalizing s done with
  | nil => simp [scan, step, Spelling.close, hdone, hs]
  | cons c cs ih =>
    have hnext : (spelled s c).done = some (c :: done) := by
      rw [spelled, hdone]
      rfl
    rw [List.flatMap_cons, List.append_assoc, scan_escape hs, ih hnext rfl]
    simp [spelled, Bool.and_assoc]

/-- **The literal of a text is the key of that text.** -/
theorem scan_literal (s : String) (rest : List Char) :
    between.scan (Json.literal (some s) ++ rest) =
      .string (Key.ofText s) :: between.scan rest := by
  have h := scan_literal_from (s := {}) rfl rfl s.toList rest
  have hchars : Json.literal (some s) ++ rest =
      '"' :: (s.toList.flatMap Json.escape ++ '"' :: rest) := by
    simp [Json.literal]
  rw [hchars, scan_cons (k := literal {}) rfl, h]
  simp [Key.ofText]

/-! ## Integers -/

/-- The digits of a number are taken in, whatever it was that made the first of them begin a number.
Kept are digits of the same value, and not a zero alone unless the number is zero: a zero could have
no digit after it. -/
theorem exists_scan_digits {m : Mode} {negative : Bool}
    (hm : ∀ d, d < 10 → m.step (Nat.digitChar d) = ([], whole negative [d])) (n : Nat) :
    ∃ ds, Text.digitsValue ds.reverse = n ∧ (0 < n → ds ≠ [0]) ∧
      ∀ rest, m.scan (Nat.toDigits 10 n ++ rest) = (whole negative ds).scan rest := by
  induction n using Text.decimalInduction with
  | digit d hd =>
    refine ⟨[d], ?_, ?_, fun rest => ?_⟩
    · simp [Text.digitsValue]
    · intro hpos h
      cases h
      exact absurd hpos (by decide)
    · rw [Nat.toDigits_of_lt_base hd]
      exact scan_cons (hm d hd) rest
  | snoc n d hpos hd ih =>
    obtain ⟨ds, hvalue, hzero, hscan⟩ := ih
    have hstep : (whole negative ds).step (Nat.digitChar d) = ([], whole negative (d :: ds)) := by
      simp [step, Text.digit?_digitChar hd, hzero hpos]
    refine ⟨d :: ds, ?_, ?_, fun rest => ?_⟩
    · rw [← hvalue, Text.digitsValue, List.reverse_cons, List.foldl_append]
      rfl
    · rintro - h
      cases h
      exact absurd hpos (by rw [← hvalue]; decide)
    · rw [Text.toDigits_snoc hpos hd, List.append_assoc, hscan]
      exact scan_cons hstep rest

/-- A number ends in front of a delimiter, which is then read as if nothing had come before it. -/
theorem scan_whole {rest : List Char} (hrest : Delimited rest) (negative : Bool)
    (digits : List Nat) :
    (whole negative digits).scan rest = wholeToken negative digits :: between.scan rest := by
  cases rest with
  | nil => rfl
  | cons c rest =>
    have hstep : (whole negative digits).step c = emitBefore (wholeToken negative digits) c := by
      have hc := hrest c rfl
      simp only [List.mem_cons, List.not_mem_nil, or_false] at hc
      rcases hc with rfl | rfl | rfl | rfl | rfl <;> rfl
    rw [scan, hstep]
    rfl

/-- **The digits of an integer are that integer.** -/
theorem scan_integer (i : Int) {rest : List Char} (hrest : Delimited rest) :
    between.scan (integerChars i ++ rest) = .integer i :: between.scan rest := by
  by_cases hi : i < 0
  · have hminus : ∀ d, d < 10 → minus.step (Nat.digitChar d) = ([], whole true [d]) := by
      decide
    obtain ⟨ds, hvalue, -, hscan⟩ := exists_scan_digits hminus i.natAbs
    have htoken : wholeToken true ds = .integer i := by
      have hne : i.natAbs ≠ 0 := by omega
      have hback : -(i.natAbs : Int) = i := by omega
      simp only [wholeToken, hvalue, if_true, if_neg hne, hback]
    have hchars : integerChars i = '-' :: Nat.toDigits 10 i.natAbs := by
      simp [integerChars, sign, hi]
    rw [hchars, List.cons_append, scan_cons (k := minus) rfl, hscan, scan_whole hrest, htoken]
  · have hdigit : ∀ d, d < 10 → between.step (Nat.digitChar d) = ([], whole false [d]) := by
      decide
    obtain ⟨ds, hvalue, -, hscan⟩ := exists_scan_digits hdigit i.natAbs
    have htoken : wholeToken false ds = .integer i := by
      have hback : (i.natAbs : Int) = i := by omega
      simp only [wholeToken, hvalue, Bool.false_eq_true, if_false, hback]
    have hchars : integerChars i = Nat.toDigits 10 i.natAbs := by
      simp [integerChars, sign, hi]
    rw [hchars, hscan, scan_whole hrest, htoken]

end Mode

end AccessControl.Json
