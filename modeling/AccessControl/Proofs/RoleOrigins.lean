import AccessControl.Proofs.NamedResources
import AccessControl.Proofs.RoleNames

/-!
# Where roles come from

Roles come in by many ways: as a name, in a list of names, from the command line, and in documents,
there as a text, in a set, with a subject, or as a key of a policy. From what has come in more is
made: sets are put together, enlarged and stripped, and subjects get the role that goes with having
an account or none.

`Holder.Arises` lists the ways: whatever has roles has been made in finitely many steps from what came
in. By induction on the steps, each of its roles stands in one of the documents, or has been given by
name, or is one of the three that are built in (`Holder.Arises.known`). **No decoder and no
constructor makes up a role, and none lets a name in that is no role.** The decoders of records take
the fields in one after the other, so what is said of them is an invariant of the draft
(`Json.mentions_of_record`).
-/

set_option autoImplicit false

namespace AccessControl

/-! ## What stands in a document -/

namespace Json

/-- The values directly inside a value. -/
def parts : Json → List Json
  | .array items _ => items
  | .object members _ => members.map Prod.snd
  | .null | .bool _ | .integer _ | .decimal _ | .string _ | .cut => []

/-- A text stands somewhere in a value, by itself or as a key. -/
inductive Mentions (s : String) : Json → Prop
  | text : Mentions s (.text s)
  | key {members : List (Key × Json)} {closed : Bool} {member : Key × Json}
      (hmember : member ∈ members) (hkey : member.1.text = some s) :
      Mentions s (.object members closed)
  | part {j v : Json} (hpart : v ∈ j.parts) (h : Mentions s v) : Mentions s j

end Json

/-! ## Records -/

namespace Decoder

variable {α δ : Type} {fields : Fields δ α} {j : Json} {a : α} {P : δ → Prop}

theorem eq_of_closed {isClosed : Bool} {b : α} (h : closed isClosed a = .ok b) : b = a := by
  unfold closed at h
  split at h
  · cases h
    rfl
  · cases h

/-- What each part of a record keeps is kept by all. -/
theorem foldlM_ok {ε β : Type} {put : δ → β → Except ε δ} {parts : List β} {d d' : δ}
    (hput : ∀ d d', ∀ part ∈ parts, P d → put d part = .ok d' → P d') (hd : P d)
    (h : parts.foldlM put d = .ok d') : P d' := by
  induction parts generalizing d with
  | nil =>
    cases h
    exact hd
  | cons part parts ih =>
    rw [List.foldlM_cons, bind_eq_ok_iff] at h
    obtain ⟨next, hnext, h⟩ := h
    refine ih ?_ (hput d next part List.mem_cons_self hd hnext) h
    intro d d' other hmem
    exact hput d d' other (List.mem_cons_of_mem part hmem)

/-- **A record is made from a draft that has taken parts of the value only.** -/
theorem exists_draft_of_record (hstart : P fields.start)
    (hput : ∀ d d' name, ∀ v ∈ j.parts, P d → fields.put d name v = .ok d' → P d')
    (h : record fields j = .ok a) :
    ∃ d, P d ∧ (fields.finish d = .ok a ∨ fields.finishArray d = .ok a) := by
  cases j with
  | null | bool _ | integer _ | decimal _ | string _ | cut => cases h
  | object members isClosed =>
    rw [record, object, bind_eq_ok_iff] at h
    obtain ⟨d, hd, h⟩ := h
    obtain ⟨d', hd', hfinish⟩ := bind_eq_ok_iff.mp h
    cases eq_of_closed hd'
    refine ⟨d, foldlM_ok ?_ hstart hd, .inl hfinish⟩
    intro d d' member hmember hP hmemberput
    obtain ⟨name, -, hname⟩ := bind_eq_ok_iff.mp hmemberput
    exact hput d d' name member.2 (List.mem_map_of_mem hmember) hP hname
  | array items isClosed =>
    rw [record, array, bind_eq_ok_iff] at h
    obtain ⟨d, hd, h⟩ := h
    have hfinish : ∃ d', closed isClosed d = .ok d' ∧ fields.finishArray d' = .ok a := by
      split at h
      · cases h
      · exact bind_eq_ok_iff.mp h
    obtain ⟨d', hd', hfinish⟩ := hfinish
    cases eq_of_closed hd'
    refine ⟨d, foldlM_ok ?_ hstart hd, .inr hfinish⟩
    intro d d' part hpart hP hpartput
    exact hput d d' part.1 part.2 (List.of_mem_zip hpart).2 hP hpartput

/-- A field that may be given once is there when it has been. -/
theorem of_once {slot slot' : Option α} {decode : Decoder α} (h : once slot decode j = .ok slot') :
    ∃ a, slot' = some a ∧ decode j = .ok a := by
  unfold once at h
  split at h
  · cases h
  · cases hdecoded : decode j with
    | error refusal =>
      rw [hdecoded] at h
      cases h
    | ok a =>
      rw [hdecoded] at h
      cases h
      exact ⟨a, rfl, rfl⟩

theorem decode_of_ofText {decode : Decoder α} {text : String} (h : decode.ofText text = .ok a) :
    decode (Json.read text).tree = .ok a := by
  rw [ofText, bind_eq_ok_iff] at h
  obtain ⟨b, hb, hclosed⟩ := h
  rwa [eq_of_closed hclosed]

/-- A list is written as the list of what its elements are written as. -/
theorem list_eq_ok_iff {decode : Decoder α} {write : α → Json} {as : List α}
    (h : ∀ j a, decode j = .ok a ↔ j = write a) :
    list decode j = .ok as ↔ j = .list (as.map write) := by
  constructor
  · intro hlist
    cases j with
    | null | bool _ | integer _ | decimal _ | string _ | object _ _ | cut => cases hlist
    | array items isClosed =>
      rw [list, bind_eq_ok_iff] at hlist
      obtain ⟨bs, hbs, hclosed⟩ := hlist
      cases isClosed with
      | false => cases hclosed
      | true =>
        cases hclosed
        rw [(mapM_eq_ok_iff h).mp hbs]
        rfl
  · rintro rfl
    rw [Json.list, list, (mapM_eq_ok_iff h).mpr rfl]
    rfl

/-- The keys of a map are those of the object. -/
theorem exists_key_of_mem_map {κ ν : Type} [Ord κ] [Std.TransOrd κ] [Std.LawfulEqOrd κ]
    [DecidableEq κ] {key : Key → Except Refusal κ} {value : Decoder ν}
    {bindings : Std.ExtTreeMap κ ν} {k : κ} (h : map key value j = .ok bindings)
    (hk : k ∈ bindings) :
    ∃ members isClosed, j = .object members isClosed ∧
      ∃ member ∈ members, key member.1 = .ok k := by
  cases j with
  | null | bool _ | integer _ | decimal _ | string _ | array _ _ | cut => cases h
  | object members isClosed =>
    rw [map, bind_eq_ok_iff] at h
    obtain ⟨pairs, hpairs, hclosed⟩ := h
    rw [eq_of_closed hclosed, Std.ExtTreeMap.mem_ofList, List.contains_iff_mem] at hk
    obtain ⟨pair, hpair, rfl⟩ := List.mem_map.mp hk
    obtain ⟨member, hmember, hread⟩ := exists_mem_of_mapM_eq_ok hpairs hpair
    obtain ⟨k, hkey, hread⟩ := bind_eq_ok_iff.mp hread
    obtain ⟨v, -, hv⟩ := bind_eq_ok_iff.mp hread
    cases hv
    exact ⟨members, isClosed, rfl, member, hmember, hkey⟩

end Decoder

/-! ## Roles in documents -/

variable {j : Json} {role : RoleId} {roles : RoleSet}

namespace RoleId

theorem decodeName_eq_ok_iff {name : String} : decodeName name = .ok role ↔ name = role.name := by
  rw [← ofString_eq_ok_iff, decodeName]
  cases ofString name <;> simp [Except.mapError]

/-- **A role is decoded from its name**, and from nothing else. -/
theorem decode_eq_ok_iff : decode j = .ok role ↔ j = .text role.name := by
  constructor
  · intro h
    obtain ⟨name, hname, hrole⟩ := bind_eq_ok_iff.mp h
    cases decodeName_eq_ok_iff.mp hrole
    unfold Decoder.text at hname
    split at hname
    · cases hname
      rfl
    · cases hname
  · rintro rfl
    exact role.decodeName_name

theorem text_of_decodeKey {k : Key} (h : decodeKey k = .ok role) : k.text = some role.name := by
  obtain ⟨name, hname, hrole⟩ := bind_eq_ok_iff.mp h
  cases decodeName_eq_ok_iff.mp hrole
  unfold Decoder.textKey at hname
  split at hname
  · cases hname
    assumption
  · cases hname

end RoleId

/-- **A role set is decoded from a list of names**, which are read as any others are. -/
theorem RoleSet.decode_eq_ok_iff :
    decode j = .ok roles ↔ ∃ names, j = .texts names ∧ parse names = .ok roles := by
  have hlist : ∀ list : List RoleId, Decoder.list RoleId.decode j = .ok list ↔
      j = .texts (list.map RoleId.name) := by
    intro list
    rw [Decoder.list_eq_ok_iff fun _ _ => RoleId.decode_eq_ok_iff, Json.texts, List.map_map]
    rfl
  simp only [decode, bind_eq_ok_iff, hlist, parse_eq_ok_iff]
  constructor
  · rintro ⟨list, hj, h⟩
    cases h
    exact ⟨list.map RoleId.name, hj, list, rfl, rfl⟩
  · rintro ⟨names, hj, list, rfl, rfl⟩
    exact ⟨list, hj, rfl⟩

namespace Json

theorem mentions_of_decode_set (h : RoleSet.decode j = .ok roles) (hrole : role ∈ roles) :
    j.Mentions role.name := by
  obtain ⟨names, rfl, hnames⟩ := RoleSet.decode_eq_ok_iff.mp h
  refine .part ?_ .text
  exact List.mem_map_of_mem ((RoleSet.mem_of_parse hnames).mp hrole)

theorem mentions_of_decode_roles {granted : Std.ExtTreeMap RoleId (List String)}
    (h : Policy.decodeRoles j = .ok granted) (hrole : role ∈ granted) : j.Mentions role.name := by
  obtain ⟨members, isClosed, rfl, member, hmember, hkey⟩ := Decoder.exists_key_of_mem_map h hrole
  exact .key hmember (RoleId.text_of_decodeKey hkey)

/-- **The roles of a record are mentioned** if there are none in a draft to begin with and each field
brings in no role but those that are mentioned in it. -/
theorem mentions_of_record {δ α : Type} {fields : Decoder.Fields δ α} {a : α}
    (Has : δ → RoleId → Prop) (hstart : ∀ role, ¬ Has fields.start role)
    (hput : ∀ {d d' name v role}, fields.put d name v = .ok d' → Has d' role →
      Has d role ∨ v.Mentions role.name)
    (h : Decoder.record fields j = .ok a) :
    ∃ d, (∀ role, Has d role → j.Mentions role.name) ∧
      (fields.finish d = .ok a ∨ fields.finishArray d = .ok a) := by
  refine Decoder.exists_draft_of_record ?_ ?_ h
  · intro role hrole
    exact absurd hrole (hstart role)
  · intro d d' name v hv hd hfield role hrole
    rcases hput hfield hrole with hbefore | hmentions
    · exact hd role hbefore
    · exact .part hv hmentions

end Json

theorem Subject.mem_of_put {d d' : Draft} {name : String} {v : Json}
    (h : fields.put d name v = .ok d') (hrole : role ∈ d'.roles.getD ∅) :
    role ∈ d.roles.getD ∅ ∨ v.Mentions role.name := by
  simp only [fields] at h
  split at h
  · obtain ⟨slot, -, h⟩ := bind_eq_ok_iff.mp h
    cases h
    exact .inl hrole
  · obtain ⟨slot, hslot, h⟩ := bind_eq_ok_iff.mp h
    cases h
    obtain ⟨roles, rfl, hroles⟩ := Decoder.of_once hslot
    exact .inr (Json.mentions_of_decode_set hroles hrole)
  · cases h
    exact .inl hrole

theorem Policy.mem_of_put {d d' : Draft} {name : String} {v : Json}
    (h : fields.put d name v = .ok d') (hrole : role ∈ d'.roles.getD ∅) :
    role ∈ d.roles.getD ∅ ∨ v.Mentions role.name := by
  simp only [fields] at h
  split at h
  · obtain ⟨slot, hslot, h⟩ := bind_eq_ok_iff.mp h
    cases h
    obtain ⟨granted, rfl, hgranted⟩ := Decoder.of_once hslot
    exact .inr (Json.mentions_of_decode_roles hgranted hrole)
  · obtain ⟨slot, -, h⟩ := bind_eq_ok_iff.mp h
    cases h
    exact .inl hrole
  · obtain ⟨slot, -, h⟩ := bind_eq_ok_iff.mp h
    cases h
    exact .inl hrole
  · obtain ⟨slot, -, h⟩ := bind_eq_ok_iff.mp h
    cases h
    exact .inl hrole
  · cases h
    exact .inl hrole

namespace Json

theorem mentions_of_decode_subject {s : Subject} (h : Subject.decode j = .ok s)
    (hrole : role ∈ s.roles) : j.Mentions role.name := by
  obtain ⟨d, hd, hfinish | hfinish⟩ := mentions_of_record
    (fun d role => role ∈ d.roles.getD ∅) (fun _ => Std.ExtTreeSet.not_mem_empty)
    Subject.mem_of_put h
  · cases hfinish
    exact hd role hrole
  · cases hfinish
    exact hd role hrole

theorem mentions_of_decode_policy {p : Policy} (h : Policy.decode j = .ok p)
    (hrole : role ∈ p.roles) : j.Mentions role.name := by
  obtain ⟨d, hd, hfinish | hfinish⟩ := mentions_of_record
    (fun d role => role ∈ d.roles.getD ∅) (fun _ => Std.ExtTreeMap.not_mem_empty)
    Policy.mem_of_put h
  · cases hfinish
    exact hd role hrole
  · cases hfinish
    exact hd role hrole

end Json

/-! ## What has roles -/

/-- The roles that need no name to be given. -/
def RoleId.builtIn : List RoleId := [.administrator, .anonymous, .authenticated]

/-- A role is accounted for: it is built in, its name has been given, or it stands in a document. -/
def RoleId.Known (names : String → Prop) (documents : Json → Prop) (role : RoleId) : Prop :=
  role ∈ builtIn ∨ names role.name ∨ ∃ j, documents j ∧ j.Mentions role.name

/-- What roles are found in. -/
inductive Holder where
  | role (role : RoleId)
  | set (roles : RoleSet)
  | subject (s : Subject)
  | policy (p : Policy)

namespace Holder

/-- A role is found in a holder. -/
def Has : Holder → RoleId → Prop
  | .role r, role => role = r
  | .set roles, role => role ∈ roles
  | .subject s, role => role ∈ s.roles
  | .policy p, role => role ∈ p.roles

/-- What is made, in finitely many steps, where some names and some documents come in. -/
inductive Arises (names : String → Prop) (documents : Json → Prop) : Holder → Prop
  | builtIn {role : RoleId} (hrole : role ∈ RoleId.builtIn) : Arises names documents (.role role)
  | named {name : String} {role : RoleId} (hname : names name)
      (h : RoleId.ofString name = .ok role) : Arises names documents (.role role)
  | decodedRole {j : Json} {role : RoleId} (hj : documents j) (h : RoleId.decode j = .ok role) :
      Arises names documents (.role role)
  | found {holder : Holder} {role : RoleId} (hrole : holder.Has role)
      (h : Arises names documents holder) : Arises names documents (.role role)
  | parsed {list : List String} {roles : RoleSet} (hlist : ∀ name ∈ list, names name)
      (h : RoleSet.parse list = .ok roles) : Arises names documents (.set roles)
  | decodedSet {j : Json} {roles : RoleSet} (hj : documents j) (h : RoleSet.decode j = .ok roles) :
      Arises names documents (.set roles)
  | collected {list : List RoleId} (h : ∀ role ∈ list, Arises names documents (.role role)) :
      Arises names documents (.set (.ofList list))
  | inserted {roles : RoleSet} {role : RoleId} (h : Arises names documents (.set roles))
      (hrole : Arises names documents (.role role)) :
      Arises names documents (.set (roles.insert role))
  | stripped {roles : RoleSet} (h : Arises names documents (.set roles)) :
      Arises names documents (.set roles.withoutAdministrator)
  | held {s : Subject} (h : Arises names documents (.subject s)) :
      Arises names documents (.set s.roles)
  | account {id : SubjectId} {roles : RoleSet} (h : Arises names documents (.set roles)) :
      Arises names documents (.subject (.account id roles))
  | visitor : Arises names documents (.subject (.visitor ∅))
  | assembled {id : Option SubjectId} {roles : RoleSet} (h : Arises names documents (.set roles)) :
      Arises names documents (.subject { id, roles })
  | asked {a : CommandLine.Asking} {s : Subject} (ha : ∀ name ∈ a.roles, names name)
      (h : a.subject = .ok s) : Arises names documents (.subject s)
  | decodedSubject {j : Json} {s : Subject} (hj : documents j) (h : Subject.decode j = .ok s) :
      Arises names documents (.subject s)
  | decodedPolicy {j : Json} {p : Policy} (hj : documents j) (h : Policy.decode j = .ok p) :
      Arises names documents (.policy p)
  | loaded {text : String} {p : Policy} (htext : documents (Json.read text).tree)
      (h : Policy.load text = .ok p) : Arises names documents (.policy p)

variable {names : String → Prop} {documents : Json → Prop} {holder : Holder}

theorem implicitRole_mem_builtIn (id : Option SubjectId) :
    Subject.implicitRole id ∈ RoleId.builtIn := by
  cases id with
  | none => exact List.mem_cons_of_mem _ List.mem_cons_self
  | some _ => exact List.mem_cons_of_mem _ (List.mem_cons_of_mem _ List.mem_cons_self)

theorem known_of_parse {list : List String} (hlist : ∀ name ∈ list, names name)
    (h : RoleSet.parse list = .ok roles) (hrole : role ∈ roles) : role.Known names documents :=
  .inr (.inl (hlist role.name ((RoleSet.mem_of_parse h).mp hrole)))

theorem known_of_mentions (hj : documents j) (h : j.Mentions role.name) :
    role.Known names documents :=
  .inr (.inr ⟨j, hj, h⟩)

/-- **Every role that is found somewhere is accounted for.** The induction is on how the holder has
been made; the ways that take nothing but other holders add at most a role that is built in. -/
theorem Arises.known (h : Arises names documents holder) (hrole : holder.Has role) :
    role.Known names documents := by
  induction h generalizing role with
  | builtIn hbuiltIn =>
    cases hrole
    exact .inl hbuiltIn
  | named hname h =>
    cases hrole
    cases RoleId.ofString_eq_ok_iff.mp h
    exact .inr (.inl hname)
  | decodedRole hj h =>
    cases hrole
    cases RoleId.decode_eq_ok_iff.mp h
    exact known_of_mentions hj .text
  | found hfound _ ih =>
    cases hrole
    exact ih hfound
  | parsed hlist h => exact known_of_parse hlist h hrole
  | decodedSet hj h => exact known_of_mentions hj (Json.mentions_of_decode_set h hrole)
  | collected _ ih => exact ih role (RoleSet.mem_ofList.mp hrole) rfl
  | inserted _ _ ih ihrole =>
    rcases RoleSet.mem_insert.mp hrole with hrole | rfl
    · exact ih hrole
    · exact ihrole rfl
  | stripped _ ih => exact ih (RoleSet.mem_withoutAdministrator.mp hrole).1
  | held _ ih => exact ih hrole
  | account _ ih =>
    rcases RoleSet.mem_insert.mp hrole with hrole | rfl
    · exact ih hrole
    · exact .inl (by decide)
  | visitor =>
    rcases RoleSet.mem_insert.mp hrole with hrole | rfl
    · exact absurd hrole Std.ExtTreeSet.not_mem_empty
    · exact .inl (by decide)
  | assembled _ ih => exact ih hrole
  | @asked a s ha h =>
    obtain ⟨roles, hroles, rfl⟩ := CommandLine.Asking.subject_eq_ok_iff.mp h
    rcases Subject.mem_ofRequest.mp hrole with hrole | rfl
    · exact known_of_parse ha hroles hrole
    · exact .inl (implicitRole_mem_builtIn a.id)
  | decodedSubject hj h => exact known_of_mentions hj (Json.mentions_of_decode_subject h hrole)
  | decodedPolicy hj h => exact known_of_mentions hj (Json.mentions_of_decode_policy h hrole)
  | loaded htext h =>
    have hdecode := Decoder.decode_of_ofText (Policy.load_eq_ok_iff.mp h).1
    exact known_of_mentions htext (Json.mentions_of_decode_policy hdecode hrole)

end Holder

/-! ## What is let in -/

/-- **What is let in as a role, in a set, with a subject and in a policy.**

A name is that of a role if and only if it follows the grammar, and it is refused otherwise for its
first fault. A list of names is read if all of them are those of roles, and as the set of them;
otherwise the first that is none is reported with its fault. Documents are decoded in the same way:
a role from its name, a set from a list that is read.

Whatever has been made of the names and documents that came in, the roles in it follow the grammar
and are accounted for, and every set is gone through in strictly ascending order.

On the command line the roles are read first. If they can be, the subject has the account that was
given, is anonymous if and only if none was, and holds the roles that were read, the implicit role
and no other. -/
theorem roles_admitted :
    (∀ name : String,
      ((∃ role, RoleId.ofString name = .ok role) ↔ IsRoleName name) ∧
      (∀ role, RoleId.ofString name = .ok role → role.name = name) ∧
      ∀ fault, RoleId.ofString name = .error fault ↔ HasFault name fault) ∧
    (∀ names : List String,
      ((∃ roles, RoleSet.parse names = .ok roles) ↔ ∀ name ∈ names, IsRoleName name) ∧
      (∀ roles, RoleSet.parse names = .ok roles → ∀ role, role ∈ roles ↔ role.name ∈ names) ∧
      ∀ e, RoleSet.parse names = .error e ↔
        ∃ before after, names = before ++ e.name :: after ∧ (∀ name ∈ before, IsRoleName name) ∧
          HasFault e.name e.fault) ∧
    (∀ j : Json,
      (∀ role, RoleId.decode j = .ok role ↔ j = .text role.name) ∧
      ∀ roles, RoleSet.decode j = .ok roles ↔
        ∃ names, j = .texts names ∧ RoleSet.parse names = .ok roles) ∧
    (∀ (names : String → Prop) (documents : Json → Prop) (holder : Holder),
      holder.Arises names documents → ∀ role, holder.Has role →
        IsRoleName role.name ∧ role.Known names documents) ∧
    (∀ roles : RoleSet, roles.toList.Pairwise fun a b => a.name < b.name) ∧
    ∀ a : CommandLine.Asking,
      (∀ e, a.subject = .error e ↔ RoleSet.parse a.roles = .error e) ∧
      ∀ roles, RoleSet.parse a.roles = .ok roles →
        ∃ s, a.subject = .ok s ∧ s.id = a.id ∧ (s.isAnonymous = true ↔ a.id = none) ∧
          ∀ role, role ∈ s.roles ↔ role ∈ roles ∨ role = Subject.implicitRole a.id := by
  refine ⟨?_, ?_, ?_, ?_, RoleSet.ascending, ?_⟩
  · intro name
    refine ⟨?_, ?_, fun _ => RoleId.ofString_eq_error_iff⟩
    · simp only [RoleId.ofString_eq_ok_iff, RoleId.exists_name_eq_iff]
    · intro role h
      exact (RoleId.ofString_eq_ok_iff.mp h).symm
  · intro names
    exact ⟨RoleSet.exists_parse_iff, fun _ h _ => RoleSet.mem_of_parse h,
      fun _ => RoleSet.parse_eq_error_iff⟩
  · intro j
    exact ⟨fun _ => RoleId.decode_eq_ok_iff, fun _ => RoleSet.decode_eq_ok_iff⟩
  · intro names documents holder h role hrole
    exact ⟨role.isRoleName, h.known hrole⟩
  · intro a
    refine ⟨fun _ => CommandLine.Asking.subject_eq_error_iff, ?_⟩
    intro roles h
    refine ⟨.ofRequest a.id roles, CommandLine.Asking.subject_eq_ok_iff.mpr ⟨roles, h, rfl⟩, ?_,
      Subject.isAnonymous_ofRequest, fun _ => Subject.mem_ofRequest⟩
    cases a.id <;> rfl

/-! ### The staff of a site

A list in a document, in which one of two names comes twice. -/

namespace Staff

def editor : RoleId := ⟨"editor", rfl⟩

def translator : RoleId := ⟨"translator", rfl⟩

def document : Json := .texts ["translator", "editor", "translator"]

def listed : RoleSet := .ofList [translator, editor, translator]

def stripped : RoleSet := RoleSet.withoutAdministrator (listed.insert .administrator)

/-- 33 letters of two bytes each. -/
def foreignName : String := String.ofList (List.replicate 33 'é')

end Staff

/-- The set of the list is enlarged and stripped again, a name is refused for its length in bytes, a
list for the first of two names, and a visitor asks as an editor. -/
theorem staff_admitted :
    RoleSet.decode Staff.document = .ok Staff.listed ∧
    Holder.Arises (fun _ => False) (· = Staff.document) (.set Staff.stripped) ∧
    (∀ role ∈ Staff.stripped,
      IsRoleName role.name ∧ role.Known (fun _ => False) (· = Staff.document)) ∧
    RoleId.ofString Staff.foreignName = .error (.tooLong 66) ∧
    RoleSet.parse ["editor", "", "Editor"] = .error ⟨"", .empty⟩ ∧
    RoleSet.parse ["editor"] = .ok (.ofList [Staff.editor]) ∧
    ∃ s, CommandLine.Asking.subject { roles := ["editor"] } = .ok s ∧ s.isAnonymous = true ∧
      ∀ role, role ∈ s.roles ↔ role ∈ (.ofList [Staff.editor] : RoleSet) ∨ role = .anonymous := by
  obtain ⟨hname, hnames, hdecode, harises, -, hasking⟩ := roles_admitted
  have hparse : RoleSet.parse ["translator", "editor", "translator"] = .ok Staff.listed := rfl
  have hroles : RoleSet.decode Staff.document = .ok Staff.listed :=
    ((hdecode Staff.document).2 Staff.listed).mpr ⟨_, rfl, hparse⟩
  have hset : Holder.Arises (fun _ => False) (· = Staff.document) (.set Staff.stripped) :=
    .stripped (.inserted (.decodedSet rfl hroles) (.builtIn List.mem_cons_self))
  have hlong : RoleId.ofString Staff.foreignName = .error (.tooLong 66) :=
    ((hname Staff.foreignName).2.2 (.tooLong 66)).mpr (.tooLong (by decide))
  have hfirst : RoleSet.parse ["editor", "", "Editor"] = .error ⟨"", .empty⟩ := by
    refine ((hnames _).2.2 _).mpr ⟨["editor"], ["Editor"], rfl, ?_, .empty rfl⟩
    intro name hmem
    rw [List.mem_singleton.mp hmem]
    exact Staff.editor.isRoleName
  have heditor : RoleSet.parse ["editor"] = .ok (.ofList [Staff.editor]) := rfl
  obtain ⟨s, hs, -, hanonymous, hheld⟩ := (hasking { roles := ["editor"] }).2 _ heditor
  exact ⟨hroles, hset, harises _ _ _ hset, hlong, hfirst, heditor, s, hs, hanonymous.mpr rfl, hheld⟩

end AccessControl
