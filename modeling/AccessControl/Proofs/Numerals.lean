import AccessControl.Identifier

/-!
# Numerals as they are written

A number is written as its decimal digits, with no sign and no zero in front. Digits are written
from the last one backwards and read from the first one onwards, so what is true of reading them is
shown by going from a number to the same with one digit more (`decimalInduction`): the digits read
so far are then those of a number that is known already (`toDigits_snoc`).

**A numeral that was written reads as the number it was written for** (`readNumeral_wordText`). That
no other character than a digit is in it, and no zero in front, is what the formats rely on in which
numerals stand.

More is read than is ever written: zeros may stand in front, and a plus sign (`IsNumeral`). What is
read are these and nothing else (`readNumeral_eq_ok_iff`).
-/

set_option autoImplicit false

namespace AccessControl.Text

/-! ## Digits -/

/-- From one digit to the next: what is true of the digits, and of a positive number with another
digit after it if it is true of the number, is true of all numbers. -/
theorem decimalInduction {motive : Nat → Prop} (digit : ∀ d, d < 10 → motive d)
    (snoc : ∀ n d, 0 < n → d < 10 → motive n → motive (n * 10 + d)) (n : Nat) : motive n := by
  induction n using Nat.strongRecOn with
  | ind n ih =>
    by_cases hn : n < 10
    · exact digit n hn
    · have hsplit : n / 10 * 10 + n % 10 = n := by omega
      rw [← hsplit]
      exact snoc (n / 10) (n % 10) (by omega) (by omega) (ih (n / 10) (by omega))

theorem toDigits_snoc {n d : Nat} (hn : 0 < n) (hd : d < 10) :
    Nat.toDigits 10 (n * 10 + d) = Nat.toDigits 10 n ++ [Nat.digitChar d] := by
  rw [Nat.mul_comm, ← Nat.toDigits_append_toDigits (by decide) hn hd, Nat.toDigits_of_lt_base hd]

@[simp] theorem digit?_digitChar {d : Nat} (hd : d < 10) : digit? (Nat.digitChar d) = some d := by
  have hdigit : (Nat.digitChar d).isDigit = true := by
    rw [Nat.isDigit_digitChar]
    exact decide_eq_true hd
  rw [digit?, if_pos hdigit, Nat.toNat_digitChar_of_lt_ten hd]
  exact congrArg some (Nat.add_sub_cancel_left 48 d)

/-- The first digit of a positive number is not zero. -/
theorem toDigits_eq_cons {n : Nat} (hn : 0 < n) :
    ∃ d rest, 0 < d ∧ d < 10 ∧ Nat.toDigits 10 n = Nat.digitChar d :: rest := by
  induction n using decimalInduction with
  | digit d hd => exact ⟨d, [], hn, hd, Nat.toDigits_of_lt_base hd⟩
  | snoc n d hpos hd ih =>
    obtain ⟨first, rest, hfirst, hlt, hdigits⟩ := ih hpos
    refine ⟨first, rest ++ [Nat.digitChar d], hfirst, hlt, ?_⟩
    rw [toDigits_snoc hpos hd, hdigits, List.cons_append]

/-! ## Reading -/

theorem readDigits_append (value : Nat) (before after : List Char) :
    readDigits value (before ++ after) =
      (readDigits value before).bind fun value => readDigits value after := by
  induction before generalizing value with
  | nil => rfl
  | cons c rest ih =>
    rw [List.cons_append, readDigits, readDigits]
    cases digit? c with
    | none => rfl
    | some d =>
      show (if value * 10 + d < wordLimit then _ else _) = Except.bind (if _ then _ else _) _
      split
      · exact ih (value * 10 + d)
      · rfl

theorem readDigits_toDigits {n : Nat} (hn : n < wordLimit) :
    readDigits 0 (Nat.toDigits 10 n) = .ok n := by
  induction n using decimalInduction with
  | digit d hd =>
    rw [Nat.toDigits_of_lt_base hd, readDigits, digit?_digitChar hd]
    show (if 0 * 10 + d < wordLimit then _ else _) = _
    rw [if_pos (by omega), readDigits, Nat.zero_mul, Nat.zero_add]
  | snoc n d hpos hd ih =>
    rw [toDigits_snoc hpos hd, readDigits_append, ih (by omega)]
    show readDigits n [Nat.digitChar d] = _
    rw [readDigits, digit?_digitChar hd]
    exact if_pos hn

/-- A text of digits has no sign in front. -/
theorem readNumeral_eq_readDigits {cs : List Char} (hne : cs ≠ [])
    (hdigits : ∀ c ∈ cs, c.isDigit = true) : readNumeral cs = readDigits 0 cs := by
  have hsign : ∀ rest, cs ≠ '+' :: rest := by
    rintro rest rfl
    exact absurd (hdigits '+' List.mem_cons_self) (by decide)
  unfold readNumeral
  split
  · exact absurd rfl hne
  · exact absurd rfl (hsign [])
  · exact absurd rfl (hsign _)
  · rfl

/-! ## What is read -/

/-- Digits, one at least, that stand for a number of 64 bits. -/
structure DecimalOf (n : Nat) (digits : List Char) : Prop where
  nonempty : digits ≠ []
  allDigits : ∀ c ∈ digits, c.isDigit = true
  value : Nat.ofDigitChars 10 digits 0 = n
  fits : n < wordLimit

/-- A numeral for a number: its digits, after a plus sign or by themselves. -/
inductive IsNumeral (n : Nat) : List Char → Prop
  | unsigned {digits : List Char} (h : DecimalOf n digits) : IsNumeral n digits
  | signed {digits : List Char} (h : DecimalOf n digits) : IsNumeral n ('+' :: digits)

theorem IsNumeral.fits {n : Nat} {cs : List Char} (h : IsNumeral n cs) : n < wordLimit := by
  cases h with
  | unsigned h | signed h => exact h.fits

theorem le_ofDigitChars (cs : List Char) (value : Nat) : value ≤ Nat.ofDigitChars 10 cs value := by
  rw [Nat.ofDigitChars_eq_ofDigitChars_zero]
  have hgrows : value ≤ 10 ^ cs.length * value :=
    Nat.le_mul_of_pos_left value (Nat.pow_pos (by decide))
  omega

/-- Reading gives up at the first digit with which the value is too large, and by then it is too
large for good. -/
theorem readDigits_eq_ok_iff {value n : Nat} {cs : List Char} (hvalue : value < wordLimit) :
    readDigits value cs = .ok n ↔
      (∀ c ∈ cs, c.isDigit = true) ∧ Nat.ofDigitChars 10 cs value = n ∧ n < wordLimit := by
  induction cs generalizing value with
  | nil =>
    simp only [readDigits, Except.ok.injEq, List.not_mem_nil, false_implies, implies_true, true_and,
      Nat.ofDigitChars_nil]
    constructor
    · intro h
      exact ⟨h, h ▸ hvalue⟩
    · intro h
      exact h.1
  | cons c rest ih =>
    rw [readDigits, Nat.ofDigitChars_cons, List.forall_mem_cons, Nat.mul_comm 10]
    cases hc : c.isDigit with
    | false => simp [digit?, hc]
    | true =>
      rw [digit?, if_pos hc]
      show (if value * 10 + (c.toNat - '0'.toNat) < wordLimit then _ else _) = _ ↔ _
      split
      · rename_i hnext
        simp only [ih hnext, true_and]
      · rename_i hlarge
        refine iff_of_false (by simp) ?_
        rintro ⟨-, hn, hfits⟩
        have hgrows := le_ofDigitChars rest (value * 10 + (c.toNat - '0'.toNat))
        omega

theorem readDigits_eq_ok_iff_decimalOf {n : Nat} {cs : List Char} (hne : cs ≠ []) :
    readDigits 0 cs = .ok n ↔ DecimalOf n cs := by
  rw [readDigits_eq_ok_iff (by decide)]
  constructor
  · rintro ⟨hdigits, hvalue, hfits⟩
    exact ⟨hne, hdigits, hvalue, hfits⟩
  · intro h
    exact ⟨h.allDigits, h.value, h.fits⟩

/-- Digits do not start with a sign. -/
theorem DecimalOf.not_signed {n : Nat} {rest : List Char} : ¬ DecimalOf n ('+' :: rest) := by
  intro h
  exact absurd (h.allDigits '+' List.mem_cons_self) (by decide)

/-- **What is read are the numerals**, each as the number it stands for. -/
theorem readNumeral_eq_ok_iff {n : Nat} {cs : List Char} :
    readNumeral cs = .ok n ↔ IsNumeral n cs := by
  unfold readNumeral
  split
  · refine iff_of_false (by simp) ?_
    intro h
    cases h with
    | unsigned h => exact h.nonempty rfl
  · refine iff_of_false (by simp) ?_
    intro h
    cases h with
    | unsigned h => exact h.not_signed
    | signed h => exact h.nonempty rfl
  · rename_i digits hsome
    rw [readDigits_eq_ok_iff_decimalOf (by simpa using hsome)]
    constructor
    · exact .signed
    · intro h
      cases h with
      | unsigned h => exact absurd h DecimalOf.not_signed
      | signed h => exact h
  · rename_i hne _ hsigned
    rw [readDigits_eq_ok_iff_decimalOf (by simpa using hne)]
    constructor
    · exact .unsigned
    · intro h
      cases h with
      | unsigned h => exact h
      | signed _ => exact absurd rfl (hsigned _)

/-! ## Identifiers -/

theorem toNat_lt_wordLimit (n : UInt64) : n.toNat < wordLimit := n.toNat_lt

theorem toList_wordText (n : UInt64) : (wordText n).toList = Nat.toDigits 10 n.toNat := by
  rw [wordText, Nat.toString_eq_ofList_toDigits, String.toList_ofList]

theorem isDigit_of_mem_wordText {n : UInt64} {c : Char} (hc : c ∈ (wordText n).toList) :
    c.isDigit = true := by
  rw [toList_wordText] at hc
  exact Nat.isDigit_of_mem_toDigits (by decide) (by decide) hc

/-- **An identifier that was written is read again.** -/
theorem readNumeral_wordText (n : UInt64) : readNumeral (wordText n).toList = .ok n.toNat := by
  have hne : (wordText n).toList ≠ [] := by
    rw [toList_wordText]
    exact Nat.toDigits_ne_nil
  rw [readNumeral_eq_readDigits hne fun c => isDigit_of_mem_wordText, toList_wordText]
  exact readDigits_toDigits (toNat_lt_wordLimit n)

end AccessControl.Text

namespace AccessControl.Identifier

variable {kind : Numbered}

theorem text_ne_empty (i : Identifier kind) : i.text ≠ "" := by
  intro hempty
  have hdigits : (Text.wordText i.number).toList = [] := by
    show i.text.toList = []
    rw [hempty]
    rfl
  rw [Text.toList_wordText] at hdigits
  exact Nat.toDigits_ne_nil hdigits

/-- Identifiers that are written alike are the same. -/
theorem eq_of_text_eq {i j : Identifier kind} (h : i.text = j.text) : i = j := by
  obtain ⟨n⟩ := i
  obtain ⟨m⟩ := j
  have hread : Text.readNumeral (Text.wordText n).toList =
      Text.readNumeral (Text.wordText m).toList :=
    congrArg (fun text : String => Text.readNumeral text.toList) h
  rw [Text.readNumeral_wordText, Text.readNumeral_wordText, Except.ok.injEq] at hread
  rw [UInt64.toNat_inj.mp hread]

end AccessControl.Identifier
