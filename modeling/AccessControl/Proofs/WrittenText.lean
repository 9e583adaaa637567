import AccessControl.Json.Tree
import AccessControl.Proofs.Scanning

/-!
# Reading what was written

A value that a program writes is a *complete* one (`Json.Complete`): no container is left open, every
string has a text, and every key is the key of its text. It can be written in two layouts, and
**either is read as the value again, with nothing left over** (`Json.Complete.read_print`,
`Json.Complete.read_printPretty`).

Scanner and assembly are two passes in the program and one step here: a text *reads* as a value if
wherever a value is due, having scanned the text, the assembly has put the value in its place
(`Json.Reads`). The two layouts differ in blanks only, and blanks are nothing to the scanner. So what
holds of a container holds of both, given that it holds of what stands between the brackets
(`Json.reads_array`, `Json.reads_object`), and the two layouts are two ways of saying what stands
there.
-/

set_option autoImplicit false

namespace AccessControl.Json

open Mode

/-! ## Where a value is due -/

/-- A value is due, and will be put into the innermost of some containers: it is asked for, or it is
the first item of an array that was just opened. -/
inductive Due : Growth → List Frame → Prop
  | value (parents : List Frame) : Due { parents, awaiting := .value } parents
  | firstItem (outer : List Frame) :
      Due { parents := outer, awaiting := .firstItem } (.array [] :: outer)

/-- A key is due in an object with some members so far, last first. -/
inductive DueKey : Growth → List Frame → List (Key × Json) → Prop
  | key (parents : List Frame) (done : List (Key × Json)) :
      DueKey { parents, awaiting := .key done } parents done
  | firstKey (parents : List Frame) : DueKey { parents, awaiting := .firstKey } parents []

variable {g k : Growth} {parents : List Frame} {done : List (Key × Json)} {t : Token}
  {cs ws rest : List Char} {j : Json}

theorem Growth.finish_cons (h : g.step t = some k) (tokens : List Token) :
    g.finish (t :: tokens) = k.finish tokens := by
  rw [Growth.finish, h]

/-- Any token but the end of the array is taken for the value. -/
theorem Due.step (h : Due g parents) (ht : t ≠ .closeArray) :
    g.step t = Growth.receive parents t := by
  cases h with
  | value parents => rfl
  | firstItem outer =>
    cases t with
    | closeArray => exact absurd rfl ht
    | _ => rfl

theorem DueKey.step (h : DueKey g parents done) (key : Key) :
    g.step (.string key) = some { parents, awaiting := .colon done key } := by
  cases h with
  | key parents done => rfl
  | firstKey parents => rfl

/-- Wherever a value is due, the text is taken for this one. -/
def Reads (cs : List Char) (j : Json) : Prop :=
  ∀ g parents rest, Due g parents → Delimited rest →
    g.finish (between.scan (cs ++ rest)) = (Growth.place parents j).finish (between.scan rest)

/-- Wherever a key is due, the text is taken for this member. -/
def ReadsMember (cs : List Char) (key : Key) (j : Json) : Prop :=
  ∀ g parents done rest, DueKey g parents done → Delimited rest →
    g.finish (between.scan (cs ++ rest)) =
      ({ parents, awaiting := .afterMember ((key, j) :: done) } : Growth).finish (between.scan rest)

theorem Reads.blank (h : Reads cs j) (hws : IsBlank ws) : Reads (ws ++ cs) j := by
  intro g parents rest hg hrest
  rw [List.append_assoc, scan_blank hws]
  exact h g parents rest hg hrest

theorem ReadsMember.blank {key : Key} (h : ReadsMember cs key j) (hws : IsBlank ws) :
    ReadsMember (ws ++ cs) key j := by
  intro g parents done rest hg hrest
  rw [List.append_assoc, scan_blank hws]
  exact h g parents done rest hg hrest

/-! ## Scalars and members -/

/-- A text that is one token, and that token a value. -/
theorem reads_token (ht : t ≠ .closeArray)
    (hreceive : ∀ parents, Growth.receive parents t = some (Growth.place parents j))
    (hscan : ∀ rest, Delimited rest → between.scan (cs ++ rest) = t :: between.scan rest) :
    Reads cs j := by
  intro g parents rest hg hrest
  rw [hscan rest hrest]
  exact Growth.finish_cons ((hg.step ht).trans (hreceive parents)) _

theorem reads_null : Reads ['n', 'u', 'l', 'l'] .null :=
  reads_token (t := .null) nofun (fun _ => rfl) fun _ _ => rfl

theorem reads_bool (b : Bool) : Reads (scalarChars (.bool b)) (.bool b) := by
  cases b with
  | true => exact reads_token (t := .bool true) nofun (fun _ => rfl) fun _ _ => rfl
  | false => exact reads_token (t := .bool false) nofun (fun _ => rfl) fun _ _ => rfl

theorem reads_integer (i : Int) : Reads (integerChars i) (.integer i) :=
  reads_token (t := .integer i) nofun (fun _ => rfl) fun _ hrest => scan_integer i hrest

theorem reads_text (s : String) : Reads (literal (some s)) (.text s) :=
  reads_token (t := .string (Key.ofText s)) nofun (fun _ => rfl) fun rest _ => scan_literal s rest

/-- A member is its key, a colon, and what reads as its value. -/
theorem readsMember (s : String) (h : Reads cs j) :
    ReadsMember (literal (some s) ++ ':' :: cs) (Key.ofText s) j := by
  intro g parents done rest hg hrest
  rw [List.append_assoc, scan_literal, Growth.finish_cons (hg.step _)]
  have hcolon : between.scan (':' :: cs ++ rest) = .colon :: between.scan (cs ++ rest) := rfl
  rw [hcolon, Growth.finish_cons (k := ⟨.object done (Key.ofText s) :: parents, .value⟩) rfl]
  exact h _ _ rest (.value _) hrest

/-! ## Containers -/

/-- Pieces with commas between them. -/
def joined : List (List Char) → List Char
  | [] => []
  | [piece] => piece
  | piece :: rest => piece ++ ',' :: joined rest

theorem scan_comma (rest : List Char) :
    between.scan (',' :: rest) = .comma :: between.scan rest := rfl

/-- The items of an array from one on, up to the closing bracket. -/
theorem finish_items {f : Json → List Char} {first : Json} {items done : List Json}
    (hitems : ∀ item ∈ first :: items, Reads (f item) item) (hws : IsBlank ws)
    (hg : Due g (.array done :: parents)) (rest : List Char) :
    g.finish (between.scan (joined ((first :: items).map f) ++ (ws ++ ']' :: rest))) =
      (Growth.place parents (.array (done.reverse ++ first :: items) true)).finish
        (between.scan rest) := by
  -- What has been read joins the items before, which are kept last first.
  induction items generalizing g first done with
  | nil =>
    have hfirst := hitems first List.mem_cons_self
    have hclose : Delimited (ws ++ ']' :: rest) := (delimited_cons (by decide) rest).blank hws
    show g.finish (between.scan (f first ++ (ws ++ ']' :: rest))) = _
    rw [hfirst _ _ _ hg hclose, scan_blank hws]
    have hscan : between.scan (']' :: rest) = .closeArray :: between.scan rest := rfl
    rw [hscan, ← List.reverse_cons]
    exact Growth.finish_cons rfl _
  | cons second items ih =>
    have hfirst := hitems first List.mem_cons_self
    have hcomma : Delimited (',' :: joined ((second :: items).map f) ++ (ws ++ ']' :: rest)) :=
      delimited_cons (by decide) _
    show g.finish (between.scan ((f first ++ ',' :: joined ((second :: items).map f))
      ++ (ws ++ ']' :: rest))) = _
    rw [List.append_assoc, hfirst _ _ _ hg hcomma, List.cons_append, scan_comma,
      Growth.finish_cons (k := ⟨.array (first :: done) :: parents, .value⟩) rfl,
      ih (fun item hitem => hitems item (List.mem_cons_of_mem _ hitem)) (.value _),
      List.reverse_cons, List.append_assoc, List.singleton_append]

/-- **An array reads as its items**, with blanks before the closing bracket or without. -/
theorem reads_array {f : Json → List Char} {items : List Json}
    (hitems : ∀ item ∈ items, Reads (f item) item) (hws : IsBlank ws) :
    Reads ('[' :: joined (items.map f) ++ (ws ++ [']'])) (.list items) := by
  intro g parents rest hg _
  have hopen : between.scan (('[' :: joined (items.map f) ++ (ws ++ [']'])) ++ rest) =
      .openArray :: between.scan (joined (items.map f) ++ (ws ++ ']' :: rest)) := by
    simp [scan, step, start]
  rw [hopen, Growth.finish_cons (hg.step (t := .openArray) (by simp))]
  cases items with
  | nil =>
    show Growth.finish ⟨parents, .firstItem⟩ (between.scan (ws ++ ']' :: rest)) = _
    rw [scan_blank hws]
    rfl
  | cons first items => exact finish_items hitems hws (.firstItem parents) rest

/-- The members of an object from one on, up to the closing bracket. -/
theorem finish_members {f : Key × Json → List Char} {first : Key × Json}
    {members : List (Key × Json)}
    (hmembers : ∀ m ∈ first :: members, ReadsMember (f m) m.1 m.2) (hws : IsBlank ws)
    (hg : DueKey g parents done) (rest : List Char) :
    g.finish (between.scan (joined ((first :: members).map f) ++ (ws ++ '\x7d' :: rest))) =
      (Growth.place parents (.object (done.reverse ++ first :: members) true)).finish
        (between.scan rest) := by
  induction members generalizing g first done with
  | nil =>
    have hfirst := hmembers first List.mem_cons_self
    have hclose : Delimited (ws ++ '\x7d' :: rest) := (delimited_cons (by decide) rest).blank hws
    show g.finish (between.scan (f first ++ (ws ++ '\x7d' :: rest))) = _
    rw [hfirst _ _ _ _ hg hclose, scan_blank hws]
    have hscan : between.scan ('\x7d' :: rest) = .closeObject :: between.scan rest := rfl
    rw [hscan, ← List.reverse_cons]
    exact Growth.finish_cons rfl _
  | cons second members ih =>
    have hfirst := hmembers first List.mem_cons_self
    have hcomma : Delimited (',' :: joined ((second :: members).map f) ++ (ws ++ '\x7d' :: rest)) :=
      delimited_cons (by decide) _
    show g.finish (between.scan ((f first ++ ',' :: joined ((second :: members).map f))
      ++ (ws ++ '\x7d' :: rest))) = _
    rw [List.append_assoc, hfirst _ _ _ _ hg hcomma, List.cons_append, scan_comma,
      Growth.finish_cons (k := ⟨parents, .key (first :: done)⟩) rfl,
      ih (fun m hm => hmembers m (List.mem_cons_of_mem _ hm)) (.key _ _),
      List.reverse_cons, List.append_assoc, List.singleton_append]

/-- **An object reads as its members**, with blanks before the closing bracket or without. -/
theorem reads_object {f : Key × Json → List Char} {members : List (Key × Json)}
    (hmembers : ∀ m ∈ members, ReadsMember (f m) m.1 m.2) (hws : IsBlank ws) :
    Reads ('\x7b' :: joined (members.map f) ++ (ws ++ ['\x7d'])) (.object members true) := by
  intro g parents rest hg _
  have hopen : between.scan (('\x7b' :: joined (members.map f) ++ (ws ++ ['\x7d'])) ++ rest) =
      .openObject :: between.scan (joined (members.map f) ++ (ws ++ '\x7d' :: rest)) := by
    simp [scan, step, start]
  rw [hopen, Growth.finish_cons (hg.step (t := .openObject) (by simp))]
  cases members with
  | nil =>
    show Growth.finish ⟨parents, .firstKey⟩ (between.scan (ws ++ '\x7d' :: rest)) = _
    rw [scan_blank hws]
    rfl
  | cons first members => exact finish_members hmembers hws (.firstKey parents) rest

/-! ## The two layouts -/

/-- A value as programs write it. -/
inductive Complete : Json → Prop
  | null : Complete .null
  | bool (b : Bool) : Complete (.bool b)
  | integer (i : Int) : Complete (.integer i)
  | text (s : String) : Complete (.text s)
  | list {items : List Json} (hitems : ∀ item ∈ items, Complete item) : Complete (.list items)
  | record {members : List (String × Json)} (hmembers : ∀ m ∈ members, Complete m.2) :
      Complete (.record members)

/-- Both printers put commas between the pieces of a container. -/
theorem eq_joined {α : Type} {write : List α → List Char} {f : α → List Char} (hnil : write [] = [])
    (hone : ∀ a, write [a] = f a)
    (hmore : ∀ a b rest, write (a :: b :: rest) = f a ++ ',' :: write (b :: rest))
    (pieces : List α) : write pieces = joined (pieces.map f) := by
  induction pieces with
  | nil => exact hnil
  | cons first pieces ih =>
    cases pieces with
    | nil => exact hone first
    | cons second pieces =>
      rw [hmore, ih]
      rfl

theorem compactItems_eq (items : List Json) : compactItems items = joined (items.map compact) :=
  eq_joined rfl (fun _ => rfl) (fun _ _ _ => rfl) items

/-- A member in the compact layout. -/
def compactMember (m : Key × Json) : List Char := literal m.1.text ++ ':' :: compact m.2

theorem compactMembers_eq (members : List (Key × Json)) :
    compactMembers members = joined (members.map compactMember) :=
  eq_joined rfl (fun _ => rfl) (fun _ _ _ => rfl) members

/-- The compact layout reads as what it was written for. -/
theorem Complete.reads_compact (h : Complete j) : Reads (compact j) j := by
  induction h with
  | null => exact reads_null
  | bool b => exact reads_bool b
  | integer i => exact reads_integer i
  | text s => exact reads_text s
  | @list items _ ih =>
    show Reads ('[' :: compactItems items ++ [']']) _
    rw [compactItems_eq]
    exact reads_array ih isBlank_nil
  | @record members _ ih =>
    show Reads ('\x7b' :: compactMembers _ ++ ['\x7d']) _
    rw [compactMembers_eq]
    refine reads_object (fun m hm => ?_) isBlank_nil
    obtain ⟨⟨s, value⟩, hmem, rfl⟩ := List.mem_map.mp hm
    exact readsMember s (ih (s, value) hmem)

/-- An item in the indented layout. -/
def prettyItem (depth : Nat) (item : Json) : List Char := newLine depth ++ pretty depth item

theorem prettyItems_eq (depth : Nat) (items : List Json) :
    prettyItems depth items = joined (items.map (prettyItem depth)) :=
  eq_joined rfl (fun _ => rfl) (fun _ _ _ => rfl) items

/-- A member in the indented layout. -/
def prettyMember (depth : Nat) (m : Key × Json) : List Char :=
  newLine depth ++ literal m.1.text ++ [':', ' '] ++ pretty depth m.2

theorem prettyMembers_eq (depth : Nat) (members : List (Key × Json)) :
    prettyMembers depth members = joined (members.map (prettyMember depth)) :=
  eq_joined rfl (fun _ => rfl) (fun _ _ _ => rfl) members

theorem readsMember_pretty (depth : Nat) (s : String) (h : Reads (pretty depth j) j) :
    ReadsMember (prettyMember depth (Key.ofText s, j)) (Key.ofText s) j := by
  have hspace : IsBlank [' '] := by
    intro c hc
    exact Or.inl (List.mem_singleton.mp hc)
  have hmember := (readsMember s (h.blank hspace)).blank (isBlank_newLine depth)
  simpa [prettyMember, Key.ofText] using hmember

/-- The indented layout reads as what it was written for, at any depth. -/
theorem Complete.reads_pretty (h : Complete j) (depth : Nat) : Reads (pretty depth j) j := by
  induction h generalizing depth with
  | null => exact reads_null
  | bool b => exact reads_bool b
  | integer i => exact reads_integer i
  | text s => exact reads_text s
  | @list items _ ih =>
    cases items with
    | nil => exact reads_array (f := compact) (fun _ h => absurd h List.not_mem_nil) isBlank_nil
    | cons first items =>
      show Reads ('[' :: prettyItems (depth + 1) (first :: items) ++ newLine depth ++ [']']) _
      rw [prettyItems_eq, List.append_assoc]
      refine reads_array (fun item hitem => ?_) (isBlank_newLine depth)
      exact (ih item hitem (depth + 1)).blank (isBlank_newLine (depth + 1))
  | @record members _ ih =>
    cases members with
    | nil =>
      exact reads_object (f := compactMember) (fun _ h => absurd h List.not_mem_nil) isBlank_nil
    | cons first members =>
      show Reads ('\x7b' :: prettyMembers (depth + 1) _ ++ newLine depth ++ ['\x7d']) _
      rw [prettyMembers_eq, List.append_assoc]
      refine reads_object (fun m hm => ?_) (isBlank_newLine depth)
      obtain ⟨⟨s, value⟩, hmem, rfl⟩ := List.mem_map.mp hm
      exact readsMember_pretty (depth + 1) s (ih (s, value) hmem (depth + 1))

/-- A text that reads as a value is that value and nothing else. -/
theorem Reads.ofTokens_scan (h : Reads cs j) :
    ofTokens (Token.scan cs) = { tree := j, whole := true } := by
  have hread := h {} [] [] (.value []) delimited_nil
  rw [List.append_nil] at hread
  rw [ofTokens, Token.scan_eq, hread]
  rfl

/-- **What was written compactly is read again.** -/
theorem Complete.read_print (h : Complete j) : read j.print = { tree := j, whole := true } := by
  rw [read, print, String.toList_ofList]
  exact h.reads_compact.ofTokens_scan

/-- **What was written with indentation is read again.** -/
theorem Complete.read_printPretty (h : Complete j) :
    read j.printPretty = { tree := j, whole := true } := by
  rw [read, printPretty, String.toList_ofList]
  exact (h.reads_pretty 0).ofTokens_scan

end AccessControl.Json
