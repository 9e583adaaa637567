import AccessControl.CommandLine.Request
import AccessControl.Proofs.Rights
import AccessControl.Proofs.WrittenDocuments

/-!
# Names of roles

A name is one to 64 lower-case letters, digits, hyphens and underscores. The check counts bytes and
looks at the characters last; that makes no difference to what passes, since all characters that may
stand in a name are of one byte (`utf8ByteSize_eq_length`), but it makes one to what is said about
the rest: of a long name nothing but its length is (`RoleId.ofString_eq_error_iff`).

A list of names is read from left to right up to the first that is none, and what is read of it is a
set, so order and repetition do not matter (`RoleSet.mem_of_parse`).
-/

set_option autoImplicit false

namespace AccessControl

/-! ## Going through a list -/

section

variable {ε α β : Type} {f : α → Except ε β} {g : β → α} {as : List α} {b : β} {bs : List β}

theorem bind_eq_ok_iff {x : Except ε α} {next : α → Except ε β} :
    (x >>= next) = .ok b ↔ ∃ a, x = .ok a ∧ next a = .ok b := by
  cases x with
  | ok a => exact ⟨fun h => ⟨a, rfl, h⟩, fun ⟨_, ha, h⟩ => by cases ha; exact h⟩
  | error e => exact ⟨nofun, fun ⟨_, ha, _⟩ => nomatch ha⟩

theorem mapM_cons_eq_ok_iff {a : α} :
    (a :: as).mapM f = .ok bs ↔
      ∃ first rest, f a = .ok first ∧ as.mapM f = .ok rest ∧ bs = first :: rest := by
  rw [List.mapM_cons]
  simp only [bind_eq_ok_iff, exists_and_left]
  refine exists_congr fun first => and_congr_right fun _ => exists_congr fun rest =>
    and_congr_right fun _ => ?_
  exact ⟨fun h => by cases h; rfl, fun h => by cases h; rfl⟩

/-- What comes out of a list comes from one of its elements. -/
theorem exists_mem_of_mapM_eq_ok (h : as.mapM f = .ok bs) (hb : b ∈ bs) :
    ∃ a ∈ as, f a = .ok b := by
  induction as generalizing bs with
  | nil =>
    cases h
    cases hb
  | cons a as ih =>
    obtain ⟨first, rest, hfirst, hrest, rfl⟩ := mapM_cons_eq_ok_iff.mp h
    rcases List.mem_cons.mp hb with rfl | hb
    · exact ⟨a, List.mem_cons_self, hfirst⟩
    · obtain ⟨other, hmem, hother⟩ := ih hrest hb
      exact ⟨other, List.mem_cons_of_mem a hmem, hother⟩

/-- Where an element is known from what comes out of it, so is the list. -/
theorem mapM_eq_ok_iff (h : ∀ a b, f a = .ok b ↔ a = g b) :
    as.mapM f = .ok bs ↔ as = bs.map g := by
  constructor
  · intro hall
    induction as generalizing bs with
    | nil =>
      cases hall
      rfl
    | cons a as ih =>
      obtain ⟨first, rest, hfirst, hrest, rfl⟩ := mapM_cons_eq_ok_iff.mp hall
      rw [List.map_cons, ← (h a first).mp hfirst, ← ih hrest]
  · rintro rfl
    exact Decoder.mapM_map_eq_ok fun b _ => (h (g b) b).mpr rfl

/-- A list is refused for its first element that is. -/
theorem mapM_eq_error_iff {e : ε} :
    as.mapM f = .error e ↔
      ∃ before a after, as = before ++ a :: after ∧ (∀ x ∈ before, ∃ b, f x = .ok b) ∧
        f a = .error e := by
  constructor
  · intro h
    induction as with
    | nil => cases h
    | cons a as ih =>
      rw [List.mapM_cons] at h
      cases hfirst : f a with
      | error e' =>
        rw [hfirst] at h
        cases h
        exact ⟨[], a, as, rfl, nofun, hfirst⟩
      | ok first =>
        cases hrest : as.mapM f with
        | ok rest =>
          rw [hfirst, hrest] at h
          cases h
        | error e' =>
          rw [hfirst, hrest] at h
          cases h
          obtain ⟨before, x, after, rfl, hbefore, hx⟩ := ih hrest
          refine ⟨a :: before, x, after, rfl, ?_, hx⟩
          intro y hy
          rcases List.mem_cons.mp hy with rfl | hy
          · exact ⟨first, hfirst⟩
          · exact hbefore y hy
  · rintro ⟨before, a, after, rfl, hbefore, ha⟩
    induction before with
    | nil =>
      rw [List.nil_append, List.mapM_cons, ha]
      rfl
    | cons x before ih =>
      obtain ⟨b, hb⟩ := hbefore x List.mem_cons_self
      rw [List.cons_append, List.mapM_cons, hb, ih fun y hy => hbefore y (List.mem_cons_of_mem x hy)]
      rfl

end

/-! ## The grammar -/

/-- The characters of names. -/
def IsRoleCharacter (c : Char) : Prop :=
  ('a' ≤ c ∧ c ≤ 'z') ∨ ('0' ≤ c ∧ c ≤ '9') ∨ c = '-' ∨ c = '_'

/-- The names of roles. -/
structure IsRoleName (name : String) : Prop where
  nonempty : 1 ≤ name.length
  short : name.length ≤ 64
  characters : ∀ c ∈ name.toList, IsRoleCharacter c

variable {name : String} {c : Char} {role : RoleId} {names : List String} {roles : RoleSet}

theorem isBetween_iff {first last : Char} :
    (decide (c.val ≥ first.val) && decide (c.val ≤ last.val)) = true ↔ first ≤ c ∧ c ≤ last := by
  rw [Bool.and_eq_true, decide_eq_true_iff, decide_eq_true_iff, Char.le_def, Char.le_def]

theorem isRoleChar_iff : isRoleChar c = true ↔ IsRoleCharacter c := by
  have hlower : c.isLower = true ↔ 'a' ≤ c ∧ c ≤ 'z' := isBetween_iff
  have hdigit : c.isDigit = true ↔ '0' ≤ c ∧ c ≤ '9' := isBetween_iff
  simp only [isRoleChar, IsRoleCharacter, Bool.or_eq_true, beq_iff_eq, hlower, hdigit, or_assoc]

theorem utf8Size_eq_one (h : IsRoleCharacter c) : c.utf8Size = 1 := by
  rw [Char.utf8Size_eq_one_iff]
  simp only [IsRoleCharacter, Char.le_def, UInt32.le_iff_toNat_le] at h ⊢
  rcases h with ⟨-, h⟩ | ⟨-, h⟩ | rfl | rfl
  · exact Nat.le_trans h (by decide)
  · exact Nat.le_trans h (by decide)
  · decide
  · decide

/-- **Of such characters a text has as many as it has bytes.** -/
theorem utf8ByteSize_eq_length (h : ∀ c ∈ name.toList, IsRoleCharacter c) :
    name.utf8ByteSize = name.length := by
  rw [← String.length_toList, ← String.ofList_toList (s := name), String.toList_ofList]
  generalize name.toList = cs at h ⊢
  induction cs with
  | nil => rfl
  | cons c cs ih =>
    have hsplit : String.ofList (c :: cs) = String.singleton c ++ String.ofList cs := by
      rw [String.singleton_eq_ofList, ← String.ofList_append, List.singleton_append]
    rw [hsplit, String.utf8ByteSize_append, String.utf8ByteSize_singleton,
      utf8Size_eq_one (h c List.mem_cons_self), ih fun x hx => h x (List.mem_cons_of_mem c hx),
      List.length_cons, Nat.add_comm]

/-- What a name is refused for. -/
inductive HasFault (name : String) : RoleFault → Prop
  | empty (hempty : name = "") : HasFault name .empty
  | tooLong (hlong : 64 < name.utf8ByteSize) : HasFault name (.tooLong name.utf8ByteSize)
  | badCharacter (hsome : name ≠ "") (hshort : name.utf8ByteSize ≤ 64)
      (hbad : ∃ c ∈ name.toList, ¬ IsRoleCharacter c) : HasFault name .badCharacter

theorem all_isRoleChar_iff :
    name.toList.all isRoleChar = true ↔ ∀ c ∈ name.toList, IsRoleCharacter c := by
  simp only [List.all_eq_true, isRoleChar_iff]

theorem roleFault?_eq_some_iff {fault : RoleFault} :
    roleFault? name = some fault ↔ HasFault name fault := by
  constructor
  · intro h
    unfold roleFault? at h
    split at h
    · rename_i hempty
      cases h
      exact .empty (String.isEmpty_iff.mp hempty)
    · rename_i hsome
      rw [String.isEmpty_iff] at hsome
      split at h
      · rename_i hlong
        cases h
        exact .tooLong hlong
      · rename_i hshort
        split at h
        · cases h
        · rename_i hbad
          cases h
          rw [all_isRoleChar_iff] at hbad
          exact .badCharacter hsome (Nat.le_of_not_lt hshort) (by simpa using hbad)
  · intro h
    cases h with
    | empty hempty =>
      subst hempty
      rfl
    | tooLong hlong =>
      have hsome : ¬ name.isEmpty = true := by
        rw [String.isEmpty_iff]
        rintro rfl
        exact absurd hlong (by decide)
      rw [roleFault?, maxRoleLength, if_neg hsome, if_pos hlong]
    | badCharacter hsome hshort hbad =>
      have hall : ¬ name.toList.all isRoleChar = true := by
        rw [all_isRoleChar_iff]
        obtain ⟨c, hc, hbad⟩ := hbad
        exact fun hall => hbad (hall c hc)
      rw [roleFault?, maxRoleLength, if_neg (by rwa [String.isEmpty_iff]),
        if_neg (Nat.not_lt.mpr hshort), if_neg hall]

theorem roleFault?_eq_none_iff : roleFault? name = none ↔ IsRoleName name := by
  have hsome : name.length ≠ 0 ↔ name ≠ "" := by
    rw [Ne, Ne, ← String.length_toList, List.length_eq_zero_iff, String.toList_eq_nil_iff]
  simp only [Option.eq_none_iff_forall_ne_some, Ne, roleFault?_eq_some_iff]
  constructor
  · intro h
    have hne : name ≠ "" := fun hempty => h _ (.empty hempty)
    have hshort : name.utf8ByteSize ≤ 64 := Nat.le_of_not_lt fun hlong => h _ (.tooLong hlong)
    have hvalid : ∀ c ∈ name.toList, IsRoleCharacter c := by
      intro c hc
      by_contra hbad
      exact h _ (.badCharacter hne hshort ⟨c, hc, hbad⟩)
    rw [utf8ByteSize_eq_length hvalid] at hshort
    exact ⟨Nat.one_le_iff_ne_zero.mpr (hsome.mpr hne), hshort, hvalid⟩
  · rintro h fault (hempty | hlong | ⟨-, -, c, hc, hbad⟩)
    · exact hsome.mp (Nat.one_le_iff_ne_zero.mp h.nonempty) hempty
    · rw [utf8ByteSize_eq_length h.characters] at hlong
      exact Nat.not_lt.mpr h.short hlong
    · exact hbad (h.characters c hc)

/-! ## One name -/

namespace RoleId

variable {fault : RoleFault}

/-- **The name of a role follows the grammar.** -/
theorem isRoleName (role : RoleId) : IsRoleName role.name := roleFault?_eq_none_iff.mp role.valid

theorem ofString_eq_ok_iff : ofString name = .ok role ↔ name = role.name := by
  constructor
  · intro h
    unfold ofString at h
    split at h
    · cases h
      rfl
    · cases h
  · rintro rfl
    exact role.ofString_name

/-- **The names of roles are those that follow the grammar.** -/
theorem exists_name_eq_iff : (∃ role : RoleId, name = role.name) ↔ IsRoleName name := by
  constructor
  · rintro ⟨role, rfl⟩
    exact role.isRoleName
  · intro h
    exact ⟨⟨name, roleFault?_eq_none_iff.mpr h⟩, rfl⟩

theorem ofString_eq_error_iff_fault :
    ofString name = .error fault ↔ roleFault? name = some fault := by
  unfold ofString
  split
  · rename_i hnone
    simp [hnone]
  · rename_i other hother
    simp [hother]

/-- **A name is refused for its first fault**: that it is empty, that it has too many bytes, whatever
they are, or that there is a character in it that may not be. -/
theorem ofString_eq_error_iff : ofString name = .error fault ↔ HasFault name fault := by
  rw [ofString_eq_error_iff_fault, roleFault?_eq_some_iff]

end RoleId

/-! ## Many names -/

namespace RoleSet

variable {e : InvalidRole}

theorem mem_ofList {list : List RoleId} : role ∈ Std.ExtTreeSet.ofList list ↔ role ∈ list := by
  rw [Std.ExtTreeSet.mem_ofList, List.contains_iff_mem]

theorem mem_insert {added : RoleId} : role ∈ roles.insert added ↔ role ∈ roles ∨ role = added := by
  rw [Std.ExtTreeSet.mem_insert, Std.LawfulEqCmp.compare_eq_iff_eq, or_comm, eq_comm]

theorem ascending (roles : RoleSet) : roles.toList.Pairwise fun a b => a.name < b.name := by
  refine roles.ordered_toList.imp ?_
  intro a b hab
  exact compareOfLessAndEq_eq_lt.mp hab

theorem read_eq_ok_iff :
    (RoleId.ofString name).mapError (InvalidRole.mk name) = .ok role ↔ name = role.name := by
  rw [← RoleId.ofString_eq_ok_iff]
  cases RoleId.ofString name <;> simp [Except.mapError]

theorem read_eq_error_iff :
    (RoleId.ofString name).mapError (InvalidRole.mk name) = .error e ↔
      name = e.name ∧ HasFault e.name e.fault := by
  rw [← RoleId.ofString_eq_error_iff]
  obtain ⟨refused, fault⟩ := e
  cases hname : RoleId.ofString name with
  | ok role =>
    simp only [Except.mapError, reduceCtorEq, false_iff, not_and]
    rintro rfl
    simp [hname]
  | error other =>
    simp only [Except.mapError, Except.error.injEq, InvalidRole.mk.injEq]
    refine and_congr_right ?_
    rintro rfl
    simp [hname]

/-- The names that are read are those of some roles, and the set of these is the result. -/
theorem parse_eq_ok_iff :
    parse names = .ok roles ↔
      ∃ list : List RoleId, names = list.map RoleId.name ∧ Std.ExtTreeSet.ofList list = roles := by
  rw [parse, bind_eq_ok_iff]
  refine exists_congr fun list => ?_
  rw [mapM_eq_ok_iff fun _ _ => read_eq_ok_iff]
  exact and_congr_right fun _ => ⟨Except.ok.inj, congrArg Except.ok⟩

/-- **What is read is the set of the names**, however they are ordered and repeated. -/
theorem mem_of_parse (h : parse names = .ok roles) : role ∈ roles ↔ role.name ∈ names := by
  obtain ⟨list, rfl, rfl⟩ := parse_eq_ok_iff.mp h
  rw [mem_ofList, List.mem_map_of_injective fun _ _ => RoleId.ext]

/-- **The first name that is none is reported.** -/
theorem parse_eq_error_iff :
    parse names = .error e ↔
      ∃ before after, names = before ++ e.name :: after ∧ (∀ name ∈ before, IsRoleName name) ∧
        HasFault e.name e.fault := by
  have hparse : parse names = .error e ↔
      (names.mapM fun name => (RoleId.ofString name).mapError (InvalidRole.mk name)) = .error e := by
    rw [parse]
    cases names.mapM fun name => (RoleId.ofString name).mapError (InvalidRole.mk name) with
    | ok list => exact ⟨nofun, nofun⟩
    | error other => exact ⟨fun h => by cases h; rfl, fun h => by cases h; rfl⟩
  rw [hparse, mapM_eq_error_iff]
  simp only [read_eq_ok_iff, read_eq_error_iff, RoleId.exists_name_eq_iff]
  constructor
  · rintro ⟨before, name, after, hnames, hbefore, rfl, hfault⟩
    exact ⟨before, after, hnames, hbefore, hfault⟩
  · rintro ⟨before, after, hnames, hbefore, hfault⟩
    exact ⟨before, e.name, after, hnames, hbefore, rfl, hfault⟩

theorem exists_parse_iff :
    (∃ roles, parse names = .ok roles) ↔ ∀ name ∈ names, IsRoleName name := by
  constructor
  · rintro ⟨roles, h⟩ name hname
    obtain ⟨list, rfl, -⟩ := parse_eq_ok_iff.mp h
    obtain ⟨role, -, rfl⟩ := List.mem_map.mp hname
    exact role.isRoleName
  · intro h
    cases hparse : parse names with
    | ok roles => exact ⟨roles, rfl⟩
    | error e =>
      obtain ⟨before, after, rfl, -, hfault⟩ := parse_eq_error_iff.mp hparse
      have hvalid := roleFault?_eq_none_iff.mpr (h e.name (by simp))
      rw [roleFault?_eq_some_iff.mpr hfault] at hvalid
      cases hvalid

end RoleSet

/-! ## Who asks -/

/-- The role that comes with having an account, or with having none. -/
def Subject.implicitRole : Option SubjectId → RoleId
  | some _ => .authenticated
  | none => .anonymous

theorem Subject.mem_ofRequest {id : Option SubjectId} :
    role ∈ (ofRequest id roles).roles ↔ role ∈ roles ∨ role = implicitRole id := by
  cases id with
  | none => exact RoleSet.mem_insert
  | some id => exact RoleSet.mem_insert

theorem Subject.isAnonymous_ofRequest {id : Option SubjectId} :
    (ofRequest id roles).isAnonymous = true ↔ id = none := by
  cases id with
  | none => simp [ofRequest, visitor, isAnonymous]
  | some id =>
    have hknown : (ofRequest (some id) roles).isAnonymous = false :=
      isAnonymous_eq_false_iff.mpr
        ⟨rfl, .authenticated, mem_ofRequest.mpr (Or.inr rfl), by decide⟩
    simp [hknown]

namespace CommandLine.Asking

variable {a : Asking} {s : Subject}

theorem subject_eq_ok_iff :
    a.subject = .ok s ↔ ∃ roles, RoleSet.parse a.roles = .ok roles ∧ s = .ofRequest a.id roles := by
  unfold subject
  cases RoleSet.parse a.roles with
  | ok roles => simp [Except.map, eq_comm]
  | error e => simp [Except.map]

theorem subject_eq_error_iff {e : InvalidRole} :
    a.subject = .error e ↔ RoleSet.parse a.roles = .error e := by
  unfold subject
  cases RoleSet.parse a.roles with
  | ok roles => simp [Except.map]
  | error e => simp [Except.map]

end CommandLine.Asking

end AccessControl
