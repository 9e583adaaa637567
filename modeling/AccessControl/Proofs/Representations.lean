import AccessControl.Proofs.CanonicalStore
import AccessControl.Proofs.StoredGrants
import Mathlib.Data.List.TakeWhile

/-!
# Values that mean the same

A store hands out a flag as a truth value, as a number or as a text, and a group as a number or as
its digits, with blank characters around them. The grant that an item stands for should not hang on
that, and it does not: for a flag there are **two classes of values**, those that set it and those
that do not, and for a group there is one class for each number and one for what cannot be read
(`FieldValue.IsSet`, `IsUnset`, `Names`, `NamesNothing`). The classes are said without any reading:
what stands in a text is a word with blank characters around it (`Text.Padded`), and a number is
written as zeros and its digits (`Text.decimalOf_iff`).

Two items stand for the same grant **if and only if** the values under the names of a grant are of
the same classes (`Grant.ofItem_eq_iff`). What else is in them is not looked at. Stores that hold
such items in the same places give out the same grants, and go on doing so whatever is saved to both
(`Store.SameGrants.apply`).
-/

set_option autoImplicit false

namespace AccessControl

/-! ## Blank characters around a word -/

namespace Text

variable {core cs before after : List Char} {n : Nat}

/-- Blank characters, any number of them, on both sides of a word. -/
def Padded (core cs : List Char) : Prop :=
  ∃ before after, (∀ c ∈ before, isBlank c = true) ∧ (∀ c ∈ after, isBlank c = true) ∧
    cs = before ++ core ++ after

theorem padded_trim (cs : List Char) : Padded (trim cs) cs := by
  refine ⟨cs.takeWhile isBlank, ((cs.dropWhile isBlank).reverse.takeWhile isBlank).reverse,
    ?_, ?_, ?_⟩
  · intro c hc
    exact List.mem_takeWhile_imp hc
  · intro c hc
    exact List.mem_takeWhile_imp (List.mem_reverse.mp hc)
  · rw [trim, List.append_assoc, ← List.reverse_append, List.takeWhile_append_dropWhile,
      List.reverse_reverse, List.takeWhile_append_dropWhile]

theorem dropWhile_isBlank_append (hne : core ≠ []) (hcore : ∀ c ∈ core, isBlank c = false)
    (hbefore : ∀ c ∈ before, isBlank c = true) :
    (before ++ (core ++ after)).dropWhile isBlank = core ++ after := by
  obtain ⟨c, rest, rfl⟩ := List.exists_cons_of_ne_nil hne
  rw [List.dropWhile_append_of_pos hbefore, List.cons_append, List.dropWhile_cons_of_neg]
  simp [hcore c List.mem_cons_self]

/-- Trimming finds a word that has no blank characters in it. -/
theorem trim_eq_iff (hne : core ≠ []) (hcore : ∀ c ∈ core, isBlank c = false) :
    trim cs = core ↔ Padded core cs := by
  constructor
  · intro h
    rw [← h]
    exact padded_trim cs
  · rintro ⟨before, after, hbefore, hafter, rfl⟩
    have hback : (core ++ after).reverse.dropWhile isBlank = core.reverse := by
      rw [List.reverse_append, ← List.append_nil core.reverse]
      refine dropWhile_isBlank_append (List.reverse_ne_nil_iff.mpr hne) ?_ ?_
      · intro c hc
        exact hcore c (List.mem_reverse.mp hc)
      · intro c hc
        exact hafter c (List.mem_reverse.mp hc)
    rw [trim, List.append_assoc, dropWhile_isBlank_append hne hcore hbefore, hback,
      List.reverse_reverse]

/-! ## Zeros in front of a number -/

theorem digitChar_toNat_sub {c : Char} (hc : c.isDigit = true) :
    c.toNat - '0'.toNat < 10 ∧ Nat.digitChar (c.toNat - '0'.toNat) = c := by
  obtain ⟨hlow, hhigh⟩ := Char.isDigit_iff_toNat.mp hc
  have hlt : c.toNat - '0'.toNat < 10 := by
    have hnine : '9'.toNat = '0'.toNat + 9 := rfl
    omega
  refine ⟨hlt, Char.toNat_inj.mp ?_⟩
  rw [Nat.toNat_digitChar_of_lt_ten hlt]
  exact Nat.add_sub_cancel' hlow

/-- **Digits are zeros and then the digits of their value.** The last digit comes off the end, and
in front of it are zeros only or a positive number. -/
theorem eq_zeros_append_toDigits {digits : List Char} (hne : digits ≠ [])
    (hall : ∀ c ∈ digits, c.isDigit = true) :
    ∃ zeros, digits =
      List.replicate zeros '0' ++ Nat.toDigits 10 (Nat.ofDigitChars 10 digits 0) := by
  induction digits using List.reverseRecOn with
  | nil => exact absurd rfl hne
  | append_singleton init c ih =>
    obtain ⟨hlt, hchar⟩ := digitChar_toNat_sub (hall c (by simp))
    have hinit : ∀ c ∈ init, c.isDigit = true := by
      intro x hx
      exact hall x (List.mem_append_left _ hx)
    rw [Nat.ofDigitChars_append, Nat.ofDigitChars_cons, Nat.ofDigitChars_nil]
    rcases Nat.eq_zero_or_pos (Nat.ofDigitChars 10 init 0) with hzero | hpos
    · rw [hzero, Nat.mul_zero, Nat.zero_add, Nat.toDigits_of_lt_base hlt, hchar]
      cases init with
      | nil => exact ⟨0, rfl⟩
      | cons x rest =>
        obtain ⟨zeros, hzeros⟩ := ih (List.cons_ne_nil x rest) hinit
        rw [hzero] at hzeros
        refine ⟨zeros + 1, ?_⟩
        rw [hzeros, List.replicate_succ']
        rfl
    · have hsome : init ≠ [] := by
        rintro rfl
        exact absurd hpos (by simp)
      obtain ⟨zeros, hzeros⟩ := ih hsome hinit
      refine ⟨zeros, ?_⟩
      rw [Nat.mul_comm, toDigits_snoc hpos hlt, hchar, ← List.append_assoc, ← hzeros]

theorem decimalOf_iff {digits : List Char} :
    DecimalOf n digits ↔
      n < wordLimit ∧ ∃ zeros, digits = List.replicate zeros '0' ++ Nat.toDigits 10 n := by
  constructor
  · intro h
    refine ⟨h.fits, ?_⟩
    have hzeros := eq_zeros_append_toDigits h.nonempty h.allDigits
    rwa [h.value] at hzeros
  · rintro ⟨hfits, zeros, rfl⟩
    refine ⟨?_, ?_, ?_, hfits⟩
    · simp [Nat.toDigits_ne_nil]
    · intro c hc
      rcases List.mem_append.mp hc with hc | hc
      · rw [List.eq_of_mem_replicate hc]
        rfl
      · exact Nat.isDigit_of_mem_toDigits (by decide) (by decide) hc
    · rw [Nat.ofDigitChars_append, Nat.ofDigitChars_replicate_zero, Nat.mul_zero,
        Nat.ofDigitChars_ten_toDigits]

theorem isNumeral_iff :
    IsNumeral n cs ↔ n < wordLimit ∧ ∃ sign zeros, (sign = [] ∨ sign = ['+']) ∧
      cs = sign ++ List.replicate zeros '0' ++ Nat.toDigits 10 n := by
  constructor
  · intro h
    cases h with
    | unsigned h =>
      obtain ⟨hfits, zeros, rfl⟩ := decimalOf_iff.mp h
      exact ⟨hfits, [], zeros, Or.inl rfl, rfl⟩
    | signed h =>
      obtain ⟨hfits, zeros, rfl⟩ := decimalOf_iff.mp h
      exact ⟨hfits, ['+'], zeros, Or.inr rfl, rfl⟩
  · rintro ⟨hfits, sign, zeros, rfl | rfl, rfl⟩
    · exact .unsigned (decimalOf_iff.mpr ⟨hfits, zeros, rfl⟩)
    · exact .signed (decimalOf_iff.mpr ⟨hfits, zeros, rfl⟩)

theorem isBlank_of_isDigit {c : Char} (hc : c.isDigit = true) : isBlank c = false := by
  obtain ⟨hlow, hhigh⟩ := Char.isDigit_iff_toNat.mp hc
  have hzero : '0'.toNat = 48 := rfl
  have hnine : '9'.toNat = 57 := rfl
  rw [← Bool.not_eq_true]
  simp only [isBlank, Bool.or_eq_true, Bool.and_eq_true, decide_eq_true_eq, beq_iff_eq]
  omega

theorem IsNumeral.sign_or_digit (h : IsNumeral n cs) {c : Char} (hc : c ∈ cs) :
    c = '+' ∨ c.isDigit = true := by
  cases h with
  | unsigned h => exact Or.inr (h.allDigits c hc)
  | signed h =>
    rcases List.mem_cons.mp hc with hsign | hc
    · exact Or.inl hsign
    · exact Or.inr (h.allDigits c hc)

theorem IsNumeral.isBlank_eq_false (h : IsNumeral n cs) : ∀ c ∈ cs, isBlank c = false := by
  intro c hc
  rcases h.sign_or_digit hc with rfl | hdigit
  · rfl
  · exact isBlank_of_isDigit hdigit

theorem IsNumeral.ne_nil (h : IsNumeral n cs) : cs ≠ [] := by
  cases h with
  | unsigned h => exact h.nonempty
  | signed h => exact List.cons_ne_nil _ _

end Text

/-! ## The classes of values -/

namespace FieldValue

/-- The texts that set a flag. -/
def IsFlagText (text : String) : Prop :=
  Text.Padded ['1'] text.toList ∨ Text.Padded ['t', 'r', 'u', 'e'] text.toList

/-- The texts that a number of 64 bits is read from: a plus sign or none, zeros and the digits of
the number. -/
def IsNumberText (n : UInt64) (text : String) : Prop :=
  ∃ sign zeros, (sign = [] ∨ sign = ['+']) ∧
    Text.Padded (sign ++ List.replicate zeros '0' ++ Nat.toDigits 10 n.toNat) text.toList

/-- What stands for a flag that is set. -/
inductive IsSet : Option FieldValue → Prop
  | bool : IsSet (some (.bool true))
  | int {i : Int64} (h : i ≠ 0) : IsSet (some (.int i))
  | text {text : String} (h : IsFlagText text) : IsSet (some (.text text))

/-- What stands for a flag that is not set, or for nothing at all. -/
inductive IsUnset : Option FieldValue → Prop
  | absent : IsUnset none
  | null : IsUnset (some .null)
  | bool : IsUnset (some (.bool false))
  | int : IsUnset (some (.int 0))
  | text {text : String} (h : ¬ IsFlagText text) : IsUnset (some (.text text))

/-- What stands for a number. -/
inductive Names (n : UInt64) : Option FieldValue → Prop
  | int {i : Int64} (h : i.toInt = n.toNat) : Names n (some (.int i))
  | text {text : String} (h : IsNumberText n text) : Names n (some (.text text))

/-- What stands for no number. -/
inductive NamesNothing : Option FieldValue → Prop
  | absent : NamesNothing none
  | null : NamesNothing (some .null)
  | bool (b : Bool) : NamesNothing (some (.bool b))
  | int {i : Int64} (h : i.toInt < 0) : NamesNothing (some (.int i))
  | text {text : String} (h : ∀ n, ¬ IsNumberText n text) : NamesNothing (some (.text text))

variable {v : Option FieldValue} {n : UInt64} {text : String}

theorem asFlag_text_iff : (FieldValue.text text).asFlag = true ↔ IsFlagText text := by
  have hone : ∀ c ∈ ['1'], Text.isBlank c = false := by simp [Text.isBlank]
  have htrue : ∀ c ∈ ['t', 'r', 'u', 'e'], Text.isBlank c = false := by simp [Text.isBlank]
  rw [asFlag, IsFlagText, ← Text.trim_eq_iff (by simp) hone, ← Text.trim_eq_iff (by simp) htrue]
  simp

theorem asFlag_iff : v.any asFlag = true ↔ IsSet v := by
  constructor
  · intro h
    cases v with
    | none => cases h
    | some v =>
      cases v with
      | null => cases h
      | bool b =>
        cases b with
        | true => exact .bool
        | false => cases h
      | int i => exact .int (by simpa [asFlag] using h)
      | text text => exact .text (asFlag_text_iff.mp h)
  · intro h
    cases h with
    | bool => rfl
    | int h => simpa [asFlag] using h
    | text h => exact asFlag_text_iff.mpr h

theorem not_asFlag_iff : v.any asFlag = false ↔ IsUnset v := by
  constructor
  · intro h
    cases v with
    | none => exact .absent
    | some v =>
      cases v with
      | null => exact .null
      | bool b =>
        cases b with
        | true => cases h
        | false => exact .bool
      | int i =>
        have hzero : i = 0 := by simpa [asFlag] using h
        exact hzero ▸ .int
      | text text =>
        refine .text ?_
        intro hflag
        rw [Option.any_some, asFlag_text_iff.mpr hflag] at h
        cases h
  · intro h
    cases h with
    | absent | null | bool | int => rfl
    | text h =>
      rw [Option.any_some, ← Bool.not_eq_true, asFlag_text_iff]
      exact h

theorem isNumberText_iff : IsNumberText n text ↔
    ∃ numeral, Text.IsNumeral n.toNat numeral ∧ Text.Padded numeral text.toList := by
  simp only [Text.isNumeral_iff, Text.toNat_lt_wordLimit, true_and, IsNumberText]
  constructor
  · rintro ⟨sign, zeros, hsign, hpadded⟩
    exact ⟨_, ⟨sign, zeros, hsign, rfl⟩, hpadded⟩
  · rintro ⟨numeral, ⟨sign, zeros, hsign, rfl⟩, hpadded⟩
    exact ⟨sign, zeros, hsign, hpadded⟩

theorem asId_text_iff : (FieldValue.text text).asId = some n ↔ IsNumberText n text := by
  have hread : (FieldValue.text text).asId = some n ↔
      Text.readNumeral (Text.trim text.toList) = .ok n.toNat := by
    rw [asId]
    cases hnumeral : Text.readNumeral (Text.trim text.toList) with
    | error fault => simp [Except.toOption]
    | ok m =>
      have hm : m < Text.wordLimit := (Text.readNumeral_eq_ok_iff.mp hnumeral).fits
      simp only [Except.toOption, Option.map_some, Option.some.injEq, Except.ok.injEq,
        ← UInt64.toNat_inj]
      rw [UInt64.toNat_ofNat_of_lt' hm]
  rw [hread, Text.readNumeral_eq_ok_iff, isNumberText_iff]
  constructor
  · intro h
    exact ⟨_, h, Text.padded_trim text.toList⟩
  · rintro ⟨numeral, hnumeral, hpadded⟩
    rwa [(Text.trim_eq_iff hnumeral.ne_nil hnumeral.isBlank_eq_false).mpr hpadded]

theorem asId_iff : v.bind asId = some n ↔ Names n v := by
  constructor
  · intro h
    cases v with
    | none => cases h
    | some v =>
      cases v with
      | null | bool b => cases h
      | int i => exact .int (asId_int_iff.mp h)
      | text text => exact .text (asId_text_iff.mp h)
  · intro h
    cases h with
    | int h => exact asId_int_iff.mpr h
    | text h => exact asId_text_iff.mpr h

theorem asId_eq_none_iff : v.bind asId = none ↔ NamesNothing v := by
  constructor
  · intro h
    cases v with
    | none => exact .absent
    | some v =>
      cases v with
      | null => exact .null
      | bool b => exact .bool b
      | int i =>
        refine .int ?_
        rw [Option.bind_some, asId] at h
        split at h
        · rename_i hneg
          exact Int64.lt_iff_toInt_lt.mp hneg
        · cases h
      | text text =>
        refine .text ?_
        intro n hnumber
        rw [Option.bind_some, asId_text_iff.mpr hnumber] at h
        cases h
  · intro h
    cases h with
    | absent | null | bool b => rfl
    | int h => exact if_pos (Int64.lt_iff_toInt_lt.mpr h)
    | text h =>
      rw [Option.bind_some, Option.eq_none_iff_forall_ne_some]
      intro n hn
      exact h n (asId_text_iff.mp hn)

/-- **An integer and its decimal text name the same**, or both of them nothing. -/
theorem asId_int_eq_asId_text (i : Int64) :
    (FieldValue.int i).asId = (FieldValue.text (toString i.toInt)).asId := by
  have hlimit : i.toInt < 2 ^ 63 := i.toInt_lt
  rw [Int.toString_eq_repr, Int.repr_eq_if]
  by_cases hsign : 0 ≤ i.toInt
  · have hsmall : i.toInt.toNat < 2 ^ 64 := by omega
    have hn : (UInt64.ofNat i.toInt.toNat).toNat = i.toInt.toNat :=
      UInt64.toNat_ofNat_of_lt' hsmall
    have hint : (FieldValue.int i).asId = some (UInt64.ofNat i.toInt.toNat) := by
      rw [asId_int_iff, hn]
      omega
    rw [hint, if_pos hsign, eq_comm, asId_text_iff]
    refine ⟨[], 0, Or.inl rfl, [], [], by simp, by simp, ?_⟩
    rw [hn]
    simp
  · have hnothing : (FieldValue.int i).asId = none := by
      rw [asId, if_pos]
      rw [Int64.lt_iff_toInt_lt, Int64.toInt_zero]
      omega
    rw [hnothing, if_neg hsign, eq_comm, Option.eq_none_iff_forall_ne_some]
    intro n hn
    -- The minus sign is neither blank nor anything that stands in a numeral.
    obtain ⟨numeral, hnumeral, before, after, hbefore, hafter, htext⟩ :=
      isNumberText_iff.mp (asId_text_iff.mp hn)
    have hminus : '-' ∈ before ++ numeral ++ after := by
      rw [← htext]
      simp
    rcases List.mem_append.mp hminus with hminus | hminus
    · rcases List.mem_append.mp hminus with hminus | hminus
      · exact absurd (hbefore _ hminus) (by decide)
      · exact absurd (hnumeral.sign_or_digit hminus) (by decide)
    · exact absurd (hafter _ hminus) (by decide)

end FieldValue

/-! ## Items that mean the same -/

namespace Grant

open FieldValue (IsSet IsUnset Names NamesNothing)

/-- The names of the flags of a grant. -/
def flagKeys : List String := [publicKey, viewKey, updateKey, deleteKey]

/-- The names that are looked at in an item. -/
def keys : List String := targetKey :: flagKeys

/-- Two items have values of the same classes under the names of a grant, whatever else is in them.
-/
structure Alike (item item' : FieldItem) : Prop where
  flags : ∀ key ∈ flagKeys,
    (IsSet item[key]? ∧ IsSet item'[key]?) ∨ (IsUnset item[key]? ∧ IsUnset item'[key]?)
  target : (∃ n, Names n item[targetKey]? ∧ Names n item'[targetKey]?) ∨
    (NamesNothing item[targetKey]? ∧ NamesNothing item'[targetKey]?)

variable {item item' : FieldItem}

theorem flag_eq (item : FieldItem) (key : String) :
    item.flag key = item[key]?.any FieldValue.asFlag := by
  unfold FieldItem.flag
  cases item[key]? with
  | none => rfl
  | some v => rfl

theorem flag_eq_iff (key : String) :
    item'.flag key = item.flag key ↔
      (IsSet item[key]? ∧ IsSet item'[key]?) ∨ (IsUnset item[key]? ∧ IsUnset item'[key]?) := by
  rw [flag_eq, flag_eq, ← FieldValue.asFlag_iff, ← FieldValue.asFlag_iff,
    ← FieldValue.not_asFlag_iff, ← FieldValue.not_asFlag_iff]
  cases item[key]?.any FieldValue.asFlag <;> cases item'[key]?.any FieldValue.asFlag <;> simp

theorem target_eq_iff :
    (ofItem item').target = (ofItem item).target ↔
      (∃ n, Names n item[targetKey]? ∧ Names n item'[targetKey]?) ∨
        (NamesNothing item[targetKey]? ∧ NamesNothing item'[targetKey]?) := by
  have hinjective : Function.Injective (Option.map (Identifier.mk : UInt64 → GroupId)) :=
    Option.map_injective fun n m h => congrArg Identifier.number h
  simp only [← FieldValue.asId_iff, ← FieldValue.asId_eq_none_iff]
  rw [ofItem, ofItem, hinjective.eq_iff]
  cases item[targetKey]?.bind FieldValue.asId with
  | none => simp
  | some n => simp [eq_comm]

/-- **Two items stand for the same grant exactly if they are alike.** -/
theorem ofItem_eq_iff : ofItem item' = ofItem item ↔ Alike item item' := by
  constructor
  · intro h
    refine ⟨?_, target_eq_iff.mp (congrArg Grant.target h)⟩
    intro key hkey
    rw [← flag_eq_iff]
    simp only [flagKeys, List.mem_cons, List.not_mem_nil, or_false] at hkey
    rcases hkey with rfl | rfl | rfl | rfl
    · exact congrArg Grant.isPublic h
    · exact congrArg Grant.view h
    · exact congrArg Grant.update h
    · exact congrArg Grant.delete h
  · intro h
    have hflag : ∀ key ∈ flagKeys, item'.flag key = item.flag key := by
      intro key hkey
      exact (flag_eq_iff key).mpr (h.flags key hkey)
    have htarget : ((item'[targetKey]?.bind FieldValue.asId).map Identifier.mk : Option GroupId) =
        (item[targetKey]?.bind FieldValue.asId).map Identifier.mk := target_eq_iff.mpr h.target
    rw [ofItem, ofItem, htarget, hflag publicKey (by simp [flagKeys]),
      hflag viewKey (by simp [flagKeys]), hflag updateKey (by simp [flagKeys]),
      hflag deleteKey (by simp [flagKeys])]

/-- A value under another name may be put in, changed or taken out. -/
theorem ofItem_alter {key : String} (hkey : key ∉ keys) (item : FieldItem)
    (change : Option FieldValue → Option FieldValue) :
    ofItem (item.alter key change) = ofItem item := by
  have hother : ∀ other ∈ keys, (item.alter key change)[other]? = item[other]? := by
    intro other hother
    rw [Std.ExtTreeMap.getElem?_alter, if_neg]
    intro heq
    exact hkey (Std.LawfulEqOrd.eq_of_compare heq ▸ hother)
  rw [keys, List.forall_mem_cons] at hother
  obtain ⟨htarget, hflags⟩ := hother
  rw [ofItem_eq_iff]
  refine ⟨?_, ?_⟩
  · intro key hkey
    rw [← flag_eq_iff, flag_eq, flag_eq, hflags key hkey]
  · rw [← target_eq_iff, ofItem, ofItem, htarget]

end Grant

/-! ## Stores that give out the same grants -/

namespace Store

variable {store store' : Store}

/-- In the same places two stores have items for the same grants. -/
def SameGrants (store store' : Store) : Prop :=
  ∀ key field, (store'.itemsOf key field).map Grant.ofItem =
    (store.itemsOf key field).map Grant.ofItem

theorem SameGrants.grantsFor_eq (h : SameGrants store store') (r : Resource) :
    store'.grantsFor r = store.grantsFor r :=
  grantsFor_congr_map (h r.key)

/-- One save replaces the same items in both. -/
theorem SameGrants.apply (h : SameGrants store store') (w : Save) :
    SameGrants (store.apply w) (store'.apply w) := by
  intro key field
  rw [itemsOf_apply, itemsOf_apply]
  split
  · rfl
  · exact h key field

theorem SameGrants.foldl_apply (h : SameGrants store store') (later : List Save) :
    SameGrants (later.foldl Store.apply store) (later.foldl Store.apply store') := by
  induction later generalizing store store' with
  | nil => exact h
  | cons w later ih => exact ih (h.apply w)

/-- One who answers about grants from a store, and leaves the other questions to someone else. -/
def answering {ε : Type} (store : Store) (others : Respondent ε) : Respondent ε
  | _, .grants r => .ok (store.grantsFor r)
  | past, .permission roles p => others past (.permission roles p)
  | past, .member subject group => others past (.member subject group)

theorem SameGrants.answering_eq {ε : Type} (h : SameGrants store store') (others : Respondent ε) :
    store'.answering others = store.answering others := by
  funext past question
  cases question with
  | grants r => exact congrArg Except.ok (h.grantsFor_eq r)
  | permission roles p | member subject group => rfl

/-- The store after a field was saved with an item among others, and some saves more. -/
def savedWith (store : Store) (r : Resource) (field : String) (before after : List FieldItem)
    (later : List Save) (item : FieldItem) : Store :=
  later.foldl Store.apply (store.save r field (before ++ item :: after))

theorem sameGrants_savedWith {item item' : FieldItem} (h : Grant.Alike item item') (r : Resource)
    (field : String) (before after : List FieldItem) (later : List Save) :
    SameGrants (store.savedWith r field before after later item)
      (store.savedWith r field before after later item') := by
  refine SameGrants.foldl_apply ?_ later
  intro key other
  rw [itemsOf_save, itemsOf_save]
  split
  · simp [Grant.ofItem_eq_iff.mpr h]
  · rfl

end Store

namespace Grant

open FieldValue (IsSet IsUnset Names NamesNothing)

/-- **The grant is the same however it is represented.** A flag is set by the values that set it and
by no other; a number is read from the values that name it, and none from those that name nothing.
So an item stands for the same grant as another exactly if the two are alike, and what stands in it
under other names may be anything. An integer and its decimal text name the same. Whichever of two
items that are alike was saved, and whatever was saved after it, the store gives out the same
grants, and every request comes to the same decision by way of the same questions, whoever responds
to those that are not about grants. -/
theorem representation_irrelevant {ε : Type} :
    (∀ v : Option FieldValue, (v.any FieldValue.asFlag = true ↔ IsSet v) ∧
      (v.any FieldValue.asFlag = false ↔ IsUnset v) ∧
      (∀ n, v.bind FieldValue.asId = some n ↔ Names n v) ∧
      (v.bind FieldValue.asId = none ↔ NamesNothing v)) ∧
    (∀ item item' : FieldItem, ofItem item' = ofItem item ↔ Alike item item') ∧
    (∀ (item : FieldItem) (key : String) (change : Option FieldValue → Option FieldValue),
      key ∉ keys → ofItem (item.alter key change) = ofItem item) ∧
    (∀ i : Int64, (FieldValue.int i).asId = (FieldValue.text (toString i.toInt)).asId) ∧
    ∀ item item' : FieldItem, Alike item item' →
      ∀ (store : Store) (r : Resource) (field : String) (before after : List FieldItem)
        (later : List Save),
        (∀ r', (store.savedWith r field before after later item').grantsFor r' =
          (store.savedWith r field before after later item).grantsFor r') ∧
        ∀ (others : Respondent ε) (c : Chain) (s : Subject) (r' : Resource) (op : Operation),
          (c.check s r' op).run
              ((store.savedWith r field before after later item').answering others) [] =
            (c.check s r' op).run
              ((store.savedWith r field before after later item).answering others) [] := by
  refine ⟨?_, ?_, ?_, FieldValue.asId_int_eq_asId_text, ?_⟩
  · intro v
    exact ⟨FieldValue.asFlag_iff, FieldValue.not_asFlag_iff, fun n => FieldValue.asId_iff,
      FieldValue.asId_eq_none_iff⟩
  · intro item item'
    exact ofItem_eq_iff
  · intro item key change hkey
    exact ofItem_alter hkey item change
  · intro item item' halike store r field before after later
    have hsame : Store.SameGrants (store.savedWith r field before after later item)
        (store.savedWith r field before after later item') :=
      Store.sameGrants_savedWith halike r field before after later
    refine ⟨hsame.grantsFor_eq, ?_⟩
    intro others c s r' op
    rw [hsame.answering_eq]

/-! ### One grant from two backends

The first writes numbers, the second texts with blank characters in them and a remark. -/

namespace Backends

def article : Resource := .plain ⟨7⟩ "article"

def numeric : FieldItem :=
  (((∅ : FieldItem).insert targetKey (.int 3)).insert viewKey (.int (-1))).insert publicKey (.int 0)

def textual : FieldItem :=
  (((∅ : FieldItem).insert targetKey (.text " \u3000+003 ")).insert viewKey
    (.text "true\n")).insert "remark" (.text "1")

theorem numberText_three : FieldValue.IsNumberText 3 " \u3000+003 " := by
  refine ⟨['+'], 2, Or.inr rfl, [' ', '\u3000'], [' '], ?_, ?_, rfl⟩
  · simp [Text.isBlank]
  · simp [Text.isBlank]

theorem flagText_true : FieldValue.IsFlagText "true\n" := by
  refine Or.inr ⟨[], ['\n'], ?_, ?_, rfl⟩
  · simp
  · simp [Text.isBlank]

theorem alike : Alike numeric textual := by
  have hkeys : numeric[targetKey]? = some (.int 3) ∧ numeric[publicKey]? = some (.int 0) ∧
      numeric[viewKey]? = some (.int (-1)) ∧ numeric[updateKey]? = none ∧
      numeric[deleteKey]? = none := by decide
  have hkeys' : textual[targetKey]? = some (.text " \u3000+003 ") ∧
      textual[publicKey]? = none ∧ textual[viewKey]? = some (.text "true\n") ∧
      textual[updateKey]? = none ∧ textual[deleteKey]? = none := by decide
  obtain ⟨htarget, hpublic, hview, hupdate, hdelete⟩ := hkeys
  obtain ⟨htarget', hpublic', hview', hupdate', hdelete'⟩ := hkeys'
  refine ⟨?_, Or.inl ⟨3, ?_, ?_⟩⟩
  · simp only [flagKeys, List.forall_mem_cons, List.not_mem_nil, false_implies, implies_true,
      and_true]
    refine ⟨Or.inr ?_, Or.inl ?_, Or.inr ?_, Or.inr ?_⟩
    · rw [hpublic, hpublic']
      exact ⟨.int, .absent⟩
    · rw [hview, hview']
      exact ⟨.int (by decide), .text flagText_true⟩
    · rw [hupdate, hupdate']
      exact ⟨.absent, .absent⟩
    · rw [hdelete, hdelete']
      exact ⟨.absent, .absent⟩
  · rw [htarget]
    exact .int rfl
  · rw [htarget']
    exact .text numberText_three

end Backends

/-- Both stand for a grant to view for the third group, and every request comes to the same with the
one as with the other. -/
theorem backends_agree :
    Alike Backends.numeric Backends.textual ∧
    ofItem Backends.textual =
      { target := some ⟨3⟩, isPublic := false, view := true, update := false, delete := false } ∧
    ∀ (others : Respondent String) (c : Chain) (s : Subject) (op : Operation),
      (c.check s Backends.article op).run
          ((Store.savedWith ∅ Backends.article "field_access" [] [] []
            Backends.textual).answering others) [] =
        (c.check s Backends.article op).run
          ((Store.savedWith ∅ Backends.article "field_access" [] [] []
            Backends.numeric).answering others) [] := by
  obtain ⟨-, hgrant, -, -, hsaved⟩ := representation_irrelevant (ε := String)
  refine ⟨Backends.alike, ?_, ?_⟩
  · rw [(hgrant Backends.numeric Backends.textual).mpr Backends.alike]
    decide
  · intro others c s op
    obtain ⟨-, hsame⟩ := hsaved Backends.numeric Backends.textual Backends.alike ∅ Backends.article
      "field_access" [] [] []
    exact hsame others c s Backends.article op

end Grant

end AccessControl
