import AccessControl.Document.Decision
import AccessControl.Document.Policy
import AccessControl.Proofs.DescribedEnvironment
import AccessControl.Proofs.Restoration

/-!
# Documents that are written and decoded again

The data of a policy are written in several ways that have to be told apart when they are read: a
stored value is whichever of four kinds fits first, a group is a number in a text, a role is a text
with a rule, and a declared resource is an object that two decoders share. **Each kind of data is
restored from what was written for it**, whatever the texts in it say and however large its numbers
are. For the parts of a document this is one lemma each, and the members of a resource are taken in
the same way where they share their object with the grant fields (`Policy.Entry.takes_resource`).

The maps of a policy are written in any order, so a policy has many documents. That the order does
not matter is said of all of them (`Policy.restores`).
-/

set_option autoImplicit false

namespace AccessControl

open Decoder (Restores Takes)

/-! ## Values, roles and groups -/

theorem FieldValue.restores (v : FieldValue) : Restores decode v.toJson v := by
  cases v with
  | null => exact ⟨.null, rfl⟩
  | bool b => exact ⟨.bool b, rfl⟩
  | text s => exact ⟨.text s, rfl⟩
  | int i =>
    refine ⟨.integer _, ?_⟩
    have hbounds : -(Text.signedLimit : Int) ≤ i.toInt ∧ i.toInt < Text.signedLimit :=
      ⟨i.le_toInt, i.toInt_lt⟩
    rw [toJson, decode, if_pos hbounds, Int64.ofInt_toInt]

theorem Outcome.restores (o : Outcome) : Restores decode o.toJson o := by
  refine ⟨.text _, ?_⟩
  cases o with
  | allowed => rfl
  | forbidden => rfl
  | neutral => rfl

theorem RoleId.ofString_name (r : RoleId) : ofString r.name = .ok r := by
  unfold ofString
  split
  · rfl
  · next fault hfault => exact absurd (r.valid.symm.trans hfault) nofun

theorem RoleId.decodeName_name (r : RoleId) : decodeName r.name = .ok r := by
  rw [decodeName, ofString_name]
  rfl

theorem RoleId.restores (r : RoleId) : Restores decode r.toJson r :=
  ⟨.text r.name, r.decodeName_name⟩

theorem needsEscape_of_isDigit {c : Char} (h : c.isDigit = true) : needsEscape c = false := by
  have hbounds : 48 ≤ c.toNat ∧ c.toNat ≤ 57 := by
    simpa [Char.isDigit, UInt32.le_iff_toNat_le] using h
  have hquote : c ≠ '"' := by
    rintro rfl
    exact absurd hbounds (by decide)
  have hbackslash : c ≠ '\\' := by
    rintro rfl
    exact absurd hbounds (by decide)
  simp only [needsEscape, beq_false_of_ne hquote, beq_false_of_ne hbackslash, Bool.false_or,
    decide_eq_false_iff_not]
  omega

theorem Identifier.plain_text {kind : Numbered} (i : Identifier kind) :
    (Key.ofText i.text).plain = true := by
  have hnone : i.text.toList.any needsEscape = false := by
    rw [List.any_eq_false]
    intro c hc
    rw [needsEscape_of_isDigit (Text.isDigit_of_mem_wordText hc)]
    exact Bool.false_ne_true
  rw [Key.ofText, hnone]
  rfl

/-- A plain key that is a numeral without a zero or a sign in front. -/
theorem GroupId.decodeKey_eq {k : Key} {c : Char} {rest : List Char} {n : Nat}
    (hplain : k.plain = true) (htext : k.text.map String.toList = some (c :: rest))
    (hzero : c ≠ '0') (hsign : c ≠ '+') (hread : Text.readNumeral (c :: rest) = .ok n) :
    decodeKey k = .ok ⟨UInt64.ofNat n⟩ := by
  unfold decodeKey
  rw [hplain, htext]
  split
  · next h =>
    cases h
    exact absurd rfl hzero
  · next h =>
    cases h
    simp [hzero, hsign, hread]
  · next h => exact absurd rfl (h c rest rfl)

/-- The digits of a number are those that are taken for it. -/
theorem GroupId.decodeKey_text (g : GroupId) : decodeKey (Key.ofText g.text) = .ok g := by
  have hread := Text.readNumeral_wordText g.number
  have htext : (Key.ofText g.text).text.map String.toList =
      some (Nat.toDigits 10 g.number.toNat) := congrArg some (Text.toList_wordText g.number)
  rw [Text.toList_wordText] at hread
  rcases Nat.eq_zero_or_pos g.number.toNat with hzero | hpos
  · have hg : g = ⟨0⟩ := congrArg Identifier.mk (UInt64.toNat_inj.mp hzero)
    rw [hg]
    rfl
  · obtain ⟨d, rest, hd, hlt, hdigits⟩ := Text.toDigits_eq_cons hpos
    have hdigit := Text.digit?_digitChar hlt
    have hzero : Nat.digitChar d ≠ '0' := by
      intro h
      rw [h] at hdigit
      exact absurd (Option.some.inj hdigit) (Nat.ne_of_lt hd)
    have hsign : Nat.digitChar d ≠ '+' := by
      intro h
      rw [h] at hdigit
      exact nomatch hdigit
    rw [hdigits] at htext hread
    rw [decodeKey_eq g.plain_text htext hzero hsign hread, UInt64.ofNat_toNat]

/-- A set is made of its elements. -/
theorem ofList_toList {α : Type} [DecidableEq α] [Ord α] [Std.TransOrd α] [Std.LawfulEqOrd α]
    (set : Std.ExtTreeSet α) : Std.ExtTreeSet.ofList set.toList = set := by
  refine Std.ExtTreeSet.ext_mem fun a => ?_
  rw [Std.ExtTreeSet.mem_ofList, List.contains_iff_mem, Std.ExtTreeSet.mem_toList]

theorem RoleSet.restores (roles : RoleSet) : Restores decode (toJson roles) roles := by
  have hlist := Decoder.restores_list fun r (_ : r ∈ roles.toList) => r.restores
  refine ⟨hlist.complete, ?_⟩
  show (do return Std.ExtTreeSet.ofList (← Decoder.list RoleId.decode (toJson roles))) = _
  rw [toJson, hlist.decodes]
  exact congrArg Except.ok (ofList_toList roles)

/-! ## Records -/

theorem Subject.restores (s : Subject) : Restores decode s.toJson s :=
  Takes.restores_record
    (.field (Decoder.restores_optionalId s.id) rfl <|
      .field s.roles.restores rfl <| .nil _) rfl

theorem Grant.restores (g : Grant) : Restores decode g.toJson g :=
  Takes.restores_record
    (.field (Decoder.restores_optionalId g.target) rfl <|
      .field (Decoder.restores_bool g.isPublic) rfl <|
      .field (Decoder.restores_bool g.view) rfl <|
      .field (Decoder.restores_bool g.update) rfl <|
      .field (Decoder.restores_bool g.delete) rfl <| .nil _) rfl

theorem BundleRules.restores (rules : BundleRules) : Restores decode rules.toJson rules :=
  Takes.restores_record
    (.field (Decoder.restores_optionalText rules.adminPermission) rfl <|
      .field (Decoder.restores_texts rules.viewPermissions) rfl <|
      .field (Decoder.restores_texts rules.grantFields) rfl <| .nil _) rfl

theorem Decision.restores (d : Decision) : Restores decode d.toJson d := by
  refine Takes.restores_record
    (.field d.outcome.restores rfl <|
      .field (Decoder.restores_text d.reason) rfl <|
      .field (Decoder.restores_texts d.contexts.toList) rfl <|
      .field (Decoder.restores_texts d.tags.toList) rfl <| .nil _) ?_
  show Except.ok { d with
    contexts := Std.ExtTreeSet.ofList d.contexts.toList
    tags := Std.ExtTreeSet.ofList d.tags.toList } = _
  rw [ofList_toList, ofList_toList]

theorem FieldItem.restores (item : FieldItem) : Restores decode (toJson item) item :=
  Decoder.restores_map (fun key => key) FieldValue.toJson Decoder.textKey_ofText
    (fun binding _ => binding.2.restores) (ofList_eq_of_perm .rfl)

theorem Resource.takes_members (r : Resource) :
    Takes fields {} r.members
      { id := some r.id, bundle := some r.bundle, locked := some r.locked, owner := some r.owner } :=
  .field (Decoder.restores_id r.id) rfl <|
  .field (Decoder.restores_text r.bundle) rfl <|
  .field (Decoder.restores_bool r.locked) rfl <|
  .field (Decoder.restores_optionalId r.owner) rfl <| .nil _

theorem Resource.restores (r : Resource) : Restores decode r.toJson r :=
  r.takes_members.restores_record rfl

/-! ## Declared resources and policies -/

namespace Policy

theorem Entry.fieldsJson_restores (fields : FieldMap) :
    Restores decodeFields (fieldsJson fields) fields :=
  Decoder.restores_map (fun field => field)
    (fun items : List FieldItem => .list (items.map FieldItem.toJson)) Decoder.textKey_ofText
    (fun _ _ => Decoder.restores_list fun item _ => FieldItem.restores item)
    (ofList_eq_of_perm .rfl)

/-- **What a resource takes, a declared resource takes for it.** -/
theorem Entry.takes_resource {depth : Nat} {d d' : Resource.Draft} {members : List (String × Json)}
    (h : Takes Resource.fields d members d')
    (hnames : ∀ m ∈ members, m.1 ∈ Resource.fields.names) :
    Takes (parts depth) { resource := d } members { resource := d' } := by
  induction h with
  | nil d => exact .nil _
  | @cons d d' d'' name j rest hcomplete hput _ ih =>
    have hname : name ∈ Resource.fields.names := hnames _ List.mem_cons_self
    have hfields : name ≠ "fields" := by
      rintro rfl
      exact absurd hname (by decide)
    refine .cons hcomplete ?_ (ih fun m hm => hnames m (List.mem_cons_of_mem _ hm))
    show (if name = "fields" then _ else if Resource.fields.names.contains name then _ else _) = _
    rw [if_neg hfields, if_pos (List.contains_iff_mem.mpr hname), hput]
    rfl

theorem Entry.takes_toJson (depth : Nat) (e : Entry) :
    Takes (parts depth) {} (e.resource.members ++ [("fields", fieldsJson e.fields)])
      { resource :=
          { id := some e.resource.id
            bundle := some e.resource.bundle
            locked := some e.resource.locked
            owner := some e.resource.owner }
        fields := some e.fields } := by
  have hnames : ∀ m ∈ e.resource.members, m.1 ∈ Resource.fields.names := by
    intro m hm
    have hname : m.1 ∈ e.resource.members.map Prod.fst := List.mem_map_of_mem hm
    exact hname
  exact (takes_resource e.resource.takes_members hnames).append
    (.field (fieldsJson_restores e.fields) rfl (.nil _))

theorem Entry.restores (depth : Nat) (e : Entry) : Restores (decode depth) e.toJson e :=
  ⟨.record (e.takes_toJson depth).complete, (e.takes_toJson depth).object_eq⟩

variable {p : Policy} {l : Listing}

/-- **A policy is restored from what was written for it**, in whatever order its maps were gone
through. -/
theorem restores (hl : l.Lists p) : Restores decode (p.toJsonAlong l) p := by
  have hroles : Restores decodeRoles
      (.record (l.roles.map fun entry => (entry.1.name, .texts entry.2))) p.roles :=
    Decoder.restores_map RoleId.name Json.texts RoleId.decodeName_name
      (fun _ _ => Decoder.restores_texts _) (ofList_eq_of_perm hl.roles)
  have hgroups : Restores decodeGroups
      (.record (l.groups.map fun entry => (entry.1.text, .list (entry.2.map Json.id)))) p.groups :=
    Decoder.restores_map Identifier.text
      (fun members : List SubjectId => .list (members.map Json.id))
      GroupId.decodeKey_text (fun _ _ => Decoder.restores_ids _) (ofList_eq_of_perm hl.groups)
  have hbundles : Restores BundleMap.decode
      (.record (l.bundles.map fun entry => (entry.1, entry.2.toJson))) p.bundles :=
    Decoder.restores_map (fun bundle => bundle) BundleRules.toJson Decoder.textKey_ofText
      (fun binding _ => binding.2.restores) (ofList_eq_of_perm hl.bundles)
  have hentries := Decoder.restores_list fun e (_ : e ∈ p.entries) => e.restores 3
  exact Takes.restores_record
    (.field hroles rfl <| .field hgroups rfl <| .field hbundles rfl <|
      .field hentries rfl <| .nil _) rfl

/-! ## The same document -/

/-- Two checks of a policy find the same, but that where several roles list blank permissions each may
name another one of them. -/
inductive SameFinding (p : Policy) : Option Fault → Option Fault → Prop
  | same (finding : Option Fault) : SameFinding p finding finding
  | roles {role other : RoleId} (hrole : p.ListsBlank role) (hother : p.ListsBlank other) :
      SameFinding p (some (.emptyPermission role)) (some (.emptyPermission other))

theorem sameFinding_faultAlong? {order others : List (RoleId × List String)}
    (horder : order.Perm p.roles.toList) (hothers : others.Perm p.roles.toList) :
    p.SameFinding (p.faultAlong? order) (p.faultAlong? others) := by
  have hnone : roleFault? order = none ↔ roleFault? others = none :=
    (roleFault?_eq_none_iff horder).trans (roleFault?_eq_none_iff hothers).symm
  rw [faultAlong?, faultAlong?]
  cases hfault : roleFault? order with
  | none =>
    rw [hnone.mp hfault]
    exact .same _
  | some fault =>
    cases hother : roleFault? others with
    | none =>
      rw [hnone.mpr hother] at hfault
      cases hfault
    | some other =>
      obtain ⟨role, hrole, rfl⟩ := roleFault?_eq_some horder hfault
      obtain ⟨named, hnamed, rfl⟩ := roleFault?_eq_some hothers hother
      exact .roles hrole hnamed

/-- Texts of the same policy are loaded alike. -/
theorem load_congr {text other : String} (h : decode.ofText text = decode.ofText other) :
    load text = load other := by
  rw [load, load, h]

/-- **Decoding undoes writing.** Whatever order the maps of a policy were gone through in and whichever
layout was chosen, its document is decoded as that policy; the same is true of all that a policy is
made of, and of subjects and decisions. So a policy that was decoded and written is decoded and
loaded as it was before, and the check finds what it found, whatever the order in which it goes
through the roles, but that of several bad ones it may name another. -/
theorem decode_written :
    Decoder.Inverts Resource.decode Resource.toJson ∧
    Decoder.Inverts Subject.decode Subject.toJson ∧
    Decoder.Inverts Grant.decode Grant.toJson ∧
    Decoder.Inverts BundleRules.decode BundleRules.toJson ∧
    Decoder.Inverts FieldItem.decode FieldItem.toJson ∧
    Decoder.Inverts Decision.decode Decision.toJson ∧
    (∀ depth, Decoder.Inverts (Entry.decode depth) Entry.toJson) ∧
    ∀ (p : Policy) (l : Listing), l.Lists p →
      decode.ofText (p.toJsonAlong l).print = .ok p ∧
      decode.ofText (p.toJsonAlong l).printPretty = .ok p ∧
      (∀ text, decode.ofText text = .ok p →
        decode.ofText (p.toJsonAlong l).print = decode.ofText text ∧
        load (p.toJsonAlong l).print = load text) ∧
      ∀ q, decode.ofText (p.toJsonAlong l).print = .ok q →
        q.fault? = p.fault? ∧
        ∀ order others, order.Perm p.roles.toList → others.Perm q.roles.toList →
          p.SameFinding (p.faultAlong? order) (q.faultAlong? others) := by
  refine ⟨Decoder.inverts_of_restores Resource.restores,
    Decoder.inverts_of_restores Subject.restores, Decoder.inverts_of_restores Grant.restores,
    Decoder.inverts_of_restores BundleRules.restores,
    Decoder.inverts_of_restores FieldItem.restores, Decoder.inverts_of_restores Decision.restores,
    fun depth => Decoder.inverts_of_restores (Entry.restores depth), ?_⟩
  intro p l hl
  have hprint := (restores hl).ofText_print
  refine ⟨hprint, (restores hl).ofText_printPretty, ?_, ?_⟩
  · intro text htext
    have hagain := hprint.trans htext.symm
    exact ⟨hagain, load_congr hagain⟩
  · intro q hq
    obtain rfl : p = q := Except.ok.inj (hprint.symm.trans hq)
    exact ⟨rfl, fun order others => sameFinding_faultAlong?⟩

/-- The document of the shop, its maps the other way round. -/
theorem shop_written :
    Shop.listing.Lists Shop.policy ∧
    decode.ofText (Shop.policy.toJsonAlong Shop.listing).print = .ok Shop.policy ∧
    load (Shop.policy.toJsonAlong Shop.listing).print = load Shop.policy.toJson.printPretty := by
  have hl : Shop.listing.Lists Shop.policy := ⟨by decide, by decide, by decide⟩
  obtain ⟨-, -, -, -, -, -, -, hpolicy⟩ := decode_written
  obtain ⟨hprint, -, hagain, -⟩ := hpolicy Shop.policy Shop.listing hl
  obtain ⟨-, hindented, -, -⟩ := hpolicy Shop.policy Shop.policy.listing (lists_listing _)
  exact ⟨hl, hprint, (hagain _ hindented).2⟩

end Policy

end AccessControl
