import AccessControl.Proofs.Occasions
import AccessControl.Proofs.Rights

/-!
# Whose groups are asked for

Someone's groups are their own affair, and looking them up may be slow or fail. A membership should
therefore be called when a decision hangs on it and not otherwise. It sees the calls only, and it may
answer them by what it was called with before or not answer at all (`Directory`).

That no call is made without an occasion is known (`Resolver.Occasion`). Here it is said which calls
*are* made: in a request that comes to the grants, for each grant that is looked at, at most the one
call that the grant takes (`Grant.call?`). **How far the grants are looked at depends on the answers**,
and these depend on the calls before, so `LookedAt` speaks of the first grant that settles the request
*after* the calls for those before it, a call that fails being one way to settle it.

Anonymous subjects are asked about in no case, and what is decided without a call does not depend on
the membership (`Consultation.CallsNobody.run_eq`).
-/

set_option autoImplicit false

namespace AccessControl

/-! ## Calls -/

/-- A call of the membership: does this subject belong to this group? -/
abbrev MemberCall := SubjectId × GroupId

/-- A membership that answers or fails, and that may look at the calls made to it before. -/
abbrev Directory (ε : Type) := List MemberCall → SubjectId → GroupId → Except ε Bool

/-- The call that a question is, if it is one. -/
def Question.memberCall? : Question → Option MemberCall
  | .member subject group => some (subject, group)
  | .permission _ _ | .grants _ => none

/-- The calls among questions. -/
def memberCalls (questions : List Question) : List MemberCall :=
  questions.filterMap Question.memberCall?

/-- Collaborators with another membership. Registry and store answer as they do, without fail. -/
def Collaborators.withDirectory {ε : Type} (k : Collaborators) (m : Directory ε) : Respondent ε
  | _, .permission roles p => .ok (k.holds roles p)
  | _, .grants r => .ok (k.grantsFor r)
  | past, .member subject group => m (memberCalls past) subject group

/-- The calls made to a membership in a run. -/
def Consultation.memberCalls {ε α : Type} (k : Collaborators) (m : Directory ε)
    (c : Consultation α) : List MemberCall :=
  AccessControl.memberCalls (c.run (k.withDirectory m) []).2

/-- The call that a grant takes, to be made for a subject and an operation: of a grant that names its
group and gives the operation to members, but not to everyone. -/
def Grant.call? (g : Grant) (subject : SubjectId) (op : Operation) : Option MemberCall :=
  if g.givesMembers op && !g.givesEveryone op then g.target.map (subject, ·) else none

/-- The calls that grants take, in order. -/
def callsFor (subject : SubjectId) (op : Operation) (grants : List Grant) : List MemberCall :=
  grants.filterMap (·.call? subject op)

/-- A grant settles a request for an operation, when the calls for the grants before it have been made. -/
inductive Settles {ε : Type} (m : Directory ε) (subject : SubjectId) (op : Operation)
    (before : List Grant) (g : Grant) : Prop
  /-- Everyone may do it. -/
  | everyone {group : GroupId} (htarget : g.target = some group) (hall : g.givesEveryone op = true)
  /-- Members may, and the subject is found to be one. -/
  | member {group : GroupId} (hcall : g.call? subject op = some (subject, group))
      (hmember : m (callsFor subject op before) subject group = .ok true)
  /-- The call fails. -/
  | failed {group : GroupId} {e : ε} (hcall : g.call? subject op = some (subject, group))
      (hfailed : m (callsFor subject op before) subject group = .error e)

/-- The grants that are looked at: those up to the first that settles the request, or all. -/
structure LookedAt {ε : Type} (m : Directory ε) (subject : SubjectId) (op : Operation)
    (grants looked : List Grant) : Prop where
  inOrder : looked <+: grants
  notPast : ∀ before g after, looked = before ++ g :: after →
    Settles m subject op before g → after = []
  farEnough : looked = grants ∨ ∃ before g, looked = before ++ [g] ∧ Settles m subject op before g

variable {ε α β : Type} {k : Collaborators} {m : Directory ε} {subject : SubjectId} {s : Subject}
  {r : Resource} {op : Operation} {g : Grant} {rest looked : List Grant} {past : List Question}

/-! ## One grant after the other -/

/-- The membership that is left after some calls. -/
def Directory.after (m : Directory ε) (calls : List MemberCall) : Directory ε :=
  fun later => m (calls ++ later)

theorem Grant.call?_eq_some_iff {call : MemberCall} :
    g.call? subject op = some call ↔ g.givesMembers op = true ∧ g.givesEveryone op = false ∧
      ∃ group, g.target = some group ∧ call = (subject, group) := by
  rw [call?]
  cases g.givesMembers op <;> cases g.givesEveryone op <;> simp [eq_comm (a := call)]

theorem callsFor_cons (subject : SubjectId) (op : Operation) (g : Grant) (rest : List Grant) :
    callsFor subject op (g :: rest) = (g.call? subject op).toList ++ callsFor subject op rest := by
  rw [callsFor, List.filterMap_cons]
  cases g.call? subject op <;> rfl

theorem settles_cons {before : List Grant} {h : Grant} :
    Settles m subject op (g :: before) h ↔
      Settles (m.after (g.call? subject op).toList) subject op before h := by
  have hcalls : m (callsFor subject op (g :: before)) =
      m.after (g.call? subject op).toList (callsFor subject op before) :=
    congrArg m (callsFor_cons subject op g before)
  constructor
  · rintro (⟨htarget, hall⟩ | ⟨hcall, hmember⟩ | ⟨hcall, hfailed⟩)
    · exact .everyone htarget hall
    · exact .member hcall (by rw [← hcalls, hmember])
    · exact .failed hcall (by rw [← hcalls, hfailed])
  · rintro (⟨htarget, hall⟩ | ⟨hcall, hmember⟩ | ⟨hcall, hfailed⟩)
    · exact .everyone htarget hall
    · exact .member hcall (by rw [hcalls, hmember])
    · exact .failed hcall (by rw [hcalls, hfailed])

theorem LookedAt.nil : LookedAt m subject op [] [] where
  inOrder := List.prefix_rfl
  notPast before _ after heq _ := by simp at heq
  farEnough := Or.inl rfl

/-- Nobody looks past a grant that settles the request. -/
theorem LookedAt.settled (h : Settles m subject op [] g) :
    LookedAt m subject op (g :: rest) [g] where
  inOrder := ⟨rest, rfl⟩
  notPast before _ after heq _ := by
    cases before with
    | nil => exact (List.cons.inj heq).2.symm
    | cons _ before => simp at heq
  farEnough := Or.inr ⟨[], g, rfl, h⟩

/-- Past a grant that does not, the rest is looked at with the membership as it is by then. -/
theorem LookedAt.cons (hopen : ¬ Settles m subject op [] g)
    (h : LookedAt (m.after (g.call? subject op).toList) subject op rest looked) :
    LookedAt m subject op (g :: rest) (g :: looked) where
  inOrder := (List.prefix_cons_inj g).mpr h.inOrder
  notPast before settling after heq hsettles := by
    cases before with
    | nil =>
      obtain ⟨rfl, -⟩ := List.cons.inj heq
      exact absurd hsettles hopen
    | cons first before =>
      obtain ⟨rfl, htail⟩ := List.cons.inj heq
      exact h.notPast before settling after htail (settles_cons.mp hsettles)
  farEnough := by
    rcases h.farEnough with rfl | ⟨before, last, rfl, hsettles⟩
    · exact Or.inl rfl
    · exact Or.inr ⟨g :: before, last, rfl, settles_cons.mpr hsettles⟩

theorem LookedAt.unique {grants other : List Grant} (h : LookedAt m subject op grants looked)
    (h' : LookedAt m subject op grants other) : other = looked := by
  -- Of two prefixes the longer one would go on past the last grant of the shorter.
  have hle : ∀ {short long : List Grant}, LookedAt m subject op grants short →
      LookedAt m subject op grants long → short <+: long → long = short := by
    rintro short long hshort hlong ⟨after, rfl⟩
    rcases hshort.farEnough with rfl | ⟨before, last, rfl, hsettles⟩
    · exact hlong.inOrder.eq_of_length_le (by simp)
    · rw [hlong.notPast before last after (by simp) hsettles, List.append_nil]
  rcases List.prefix_or_prefix_of_prefix h.inOrder h'.inOrder with hprefix | hprefix
  · exact hle h h' hprefix
  · exact (hle h' h hprefix).symm

/-- A grant that takes no call and is not for everyone settles nothing. -/
theorem not_settles_of_call?_eq_none {before : List Grant} (hnone : g.call? subject op = none)
    (hall : g.target = none ∨ g.givesEveryone op = false) : ¬ Settles m subject op before g := by
  rintro (⟨htarget, heveryone⟩ | ⟨hcall, -⟩ | ⟨hcall, -⟩)
  · simp [htarget, heveryone] at hall
  · simp [hnone] at hcall
  · simp [hnone] at hcall

theorem settles_iff_of_call? {before : List Grant} {group : GroupId}
    (hcall : g.call? subject op = some (subject, group)) :
    Settles m subject op before g ↔ m (callsFor subject op before) subject group ≠ .ok false := by
  have hgroup : ∀ {group'}, g.call? subject op = some (subject, group') → group' = group := by
    intro group' hcall'
    rw [hcall] at hcall'
    cases hcall'
    rfl
  constructor
  · rintro (⟨-, hall⟩ | ⟨hcall', hmember⟩ | ⟨hcall', hfailed⟩)
    · simp [(Grant.call?_eq_some_iff.mp hcall).2.1] at hall
    · obtain rfl := hgroup hcall'
      simp [hmember]
    · obtain rfl := hgroup hcall'
      simp [hfailed]
  · intro hanswer
    cases hfound : m (callsFor subject op before) subject group with
    | error e => exact .failed hcall hfound
    | ok found =>
      cases found with
      | true => exact .member hcall hfound
      | false => exact absurd hfound hanswer

/-! ## The calls of a run -/

theorem memberCalls_append (before after : List Question) :
    memberCalls (before ++ after) = memberCalls before ++ memberCalls after :=
  List.filterMap_append

namespace Consultation

theorem memberCalls_eq_asked (k : Collaborators) (m : Directory ε) (c : Consultation α) :
    c.memberCalls k m = AccessControl.memberCalls (c.asked (k.withDirectory m) []) := by
  rw [memberCalls, run_snd, List.nil_append]

/-- Whatever was asked before, the membership knows the calls. -/
theorem memberCalls_asked (k : Collaborators) (m : Directory ε) (past : List Question)
    (c : Consultation α) :
    AccessControl.memberCalls (c.asked (k.withDirectory m) past) =
      c.memberCalls k (m.after (AccessControl.memberCalls past)) := by
  have hrespond : (fun later => k.withDirectory m (past ++ later)) =
      k.withDirectory (m.after (AccessControl.memberCalls past)) := by
    funext later q
    cases q with
    | permission _ _ | grants _ => rfl
    | member subject group =>
      rw [Collaborators.withDirectory, memberCalls_append]
      rfl
  rw [memberCalls_eq_asked, ← hrespond, ← asked_append, List.append_nil]

theorem memberCalls_ask_member {group : GroupId} (next : Bool → Consultation α) :
    (ask (.member subject group) next).memberCalls k m =
      (subject, group) :: match m [] subject group with
        | .ok found => (next found).memberCalls k (m.after [(subject, group)])
        | .error _ => [] := by
  have hrespond : k.withDirectory m [] (.member subject group) = m [] subject group := rfl
  rw [memberCalls_eq_asked, asked, hrespond]
  cases m [] subject group with
  | error e => rfl
  | ok found =>
    exact congrArg (List.cons _) (memberCalls_asked k m [.member subject group] (next found))

/-- Whatever is answered, nobody is called. -/
def CallsNobody (c : Consultation α) : Prop := c.AsksOnly fun q => q.memberCall? = none

/-- What calls nobody runs as if nobody could fail. -/
theorem CallsNobody.run_eq {c : Consultation α} (hc : c.CallsNobody) :
    c.run (k.withDirectory m) past = c.run k.respondent past := by
  refine run_congr fun before q after hasked => ?_
  have hq : q.memberCall? = none := hc.of_mem_asked (by rw [hasked]; simp)
  cases q with
  | permission _ _ | grants _ => rfl
  | member subject group => simp [Question.memberCall?] at hq

theorem CallsNobody.memberCalls_asked {c : Consultation α} (hc : c.CallsNobody) :
    AccessControl.memberCalls (c.asked (k.withDirectory m) past) = [] :=
  List.filterMap_eq_nil_iff.mpr fun _ => hc.of_mem_asked

/-- Before the calls of a procedure, one that calls nobody makes no difference but for its result. -/
theorem CallsNobody.memberCalls_bind {c : Consultation α} (hc : c.CallsNobody)
    (f : α → Consultation β) : (c >>= f).memberCalls k m = (f (c.eval k)).memberCalls k m := by
  rw [memberCalls_eq_asked, asked_bind, hc.run_eq, run_respondent, memberCalls_append,
    hc.memberCalls_asked, Consultation.memberCalls_asked, memberCalls_append, hc.memberCalls_asked]
  rfl

/-- Nor does it after them. -/
theorem memberCalls_bind_of_callsNobody (c : Consultation α) {f : α → Consultation β}
    (hf : ∀ a, (f a).CallsNobody) : (c >>= f).memberCalls k m = c.memberCalls k m := by
  rw [memberCalls_eq_asked, asked_bind, memberCalls_append, memberCalls_eq_asked]
  cases (c.run (k.withDirectory m) []).1 with
  | ok a => rw [(hf a).memberCalls_asked, List.append_nil]
  | error e => exact List.append_nil _

end Consultation

/-! ## The loop over the grants -/

namespace Resolver

/-- A subject known by an account is asked about where a grant that is not for everyone takes a call. -/
theorem appliesToMember_eq (hid : s.id = some subject) (hknown : s.isAnonymous = false)
    (hall : g.givesEveryone op = false) :
    appliesToMember s g op =
      match g.call? subject op with
      | some (subject, group) => Consultation.isMember subject group
      | none => pure false := by
  rw [appliesToMember, hknown, Bool.or_false, Grant.call?, hall, hid, Bool.not_false,
    Bool.and_true]
  cases g.givesMembers op with
  | false => rfl
  | true => cases g.target <;> rfl

/-- A round without a call that does not end the loop. -/
theorem evaluate_of_call?_eq_none (hid : s.id = some subject) (hknown : s.isAnonymous = false)
    (hnone : g.call? subject op = none)
    (hopen : g.isMalformed = true ∨ g.givesEveryone op = false) :
    evaluate s r op (g :: rest) = evaluate s r op rest := by
  rw [evaluate]
  split
  · rfl
  · rename_i hmalformed
    have hall := hopen.resolve_left hmalformed
    rw [if_neg (by simp [hall]), appliesToMember_eq hid hknown hall, hnone]
    rfl

/-- A round with a call: the answer ends the loop or lets it go on. -/
theorem evaluate_of_call? {group : GroupId} (hid : s.id = some subject)
    (hknown : s.isAnonymous = false) (hcall : g.call? subject op = some (subject, group)) :
    evaluate s r op (g :: rest) = .ask (.member subject group) fun found =>
      if found then pure (byGrants (Decision.allowed (memberReason g op)) r op)
      else evaluate s r op rest := by
  obtain ⟨-, hall, _, htarget, -⟩ := Grant.call?_eq_some_iff.mp hcall
  have hmalformed : g.isMalformed = false := by simp [Grant.isMalformed, htarget]
  rw [evaluate, if_neg (by simp [hmalformed]), if_neg (by simp [hall]),
    appliesToMember_eq hid hknown hall, hcall]
  rfl

/-- The loop calls for the grants that are looked at. -/
def LoopCalls (k : Collaborators) (m : Directory ε) (subject : SubjectId) (s : Subject)
    (r : Resource) (op : Operation) (grants : List Grant) : Prop :=
  ∃ looked, LookedAt m subject op grants looked ∧
    (evaluate s r op grants).memberCalls k m = callsFor subject op looked

/-- A grant that takes no call ends the loop or is passed over. -/
theorem LoopCalls.cons_of_call?_eq_none (hid : s.id = some subject) (hknown : s.isAnonymous = false)
    (hnone : g.call? subject op = none) (h : LoopCalls k m subject s r op rest) :
    LoopCalls k m subject s r op (g :: rest) := by
  by_cases hall : g.isMalformed = false ∧ g.givesEveryone op = true
  · obtain ⟨hmalformed, hall⟩ := hall
    obtain ⟨group, htarget⟩ := target_of_gives hmalformed (Or.inl hall)
    refine ⟨[g], LookedAt.settled (.everyone htarget hall), ?_⟩
    rw [evaluate, if_neg (by simp [hmalformed]), if_pos hall, callsFor_cons, hnone]
    rfl
  · have hopen : g.isMalformed = true ∨ g.givesEveryone op = false := by
      cases hm : g.isMalformed <;> simp_all
    -- What is passed over leaves the membership as it was.
    obtain ⟨looked, hlooked, hcalls⟩ := h
    refine ⟨g :: looked, LookedAt.cons ?_ ?_, ?_⟩
    · exact not_settles_of_call?_eq_none hnone
        (hopen.imp_left fun hmalformed => (Grant.isMalformed_iff.mp hmalformed).1)
    · rw [hnone]
      exact hlooked
    · rw [evaluate_of_call?_eq_none hid hknown hnone hopen, hcalls, callsFor_cons, hnone]
      rfl

/-- A grant that takes a call ends the loop unless the subject turns out to be no member. -/
theorem LoopCalls.cons_of_call? {group : GroupId} (hid : s.id = some subject)
    (hknown : s.isAnonymous = false) (hcall : g.call? subject op = some (subject, group))
    (h : LoopCalls k (m.after [(subject, group)]) subject s r op rest) :
    LoopCalls k m subject s r op (g :: rest) := by
  have hsettles : Settles m subject op [] g ↔ m [] subject group ≠ .ok false :=
    settles_iff_of_call? hcall
  rw [LoopCalls, evaluate_of_call? hid hknown hcall, Consultation.memberCalls_ask_member]
  by_cases hopen : m [] subject group = .ok false
  · obtain ⟨looked, hlooked, hcalls⟩ := h
    refine ⟨g :: looked, LookedAt.cons (fun h => hsettles.mp h hopen) ?_, ?_⟩
    · rwa [hcall]
    · rw [hopen, callsFor_cons, hcall, ← hcalls]
      rfl
  · refine ⟨[g], LookedAt.settled (hsettles.mpr hopen), ?_⟩
    rw [callsFor_cons, hcall]
    cases hanswer : m [] subject group with
    | error e => rfl
    | ok found =>
      cases found with
      | true => rfl
      | false => exact absurd hanswer hopen

/-- **The loop looks at the grants up to the first that settles the request**, and calls the membership
for these. -/
theorem loopCalls (hid : s.id = some subject) (hknown : s.isAnonymous = false)
    (k : Collaborators) (m : Directory ε) (r : Resource) (op : Operation) (grants : List Grant) :
    LoopCalls k m subject s r op grants := by
  -- The membership that the rest of the grants is put to has had the call for the first.
  induction grants generalizing m with
  | nil => exact ⟨[], LookedAt.nil, rfl⟩
  | cons g rest ih =>
    cases hcall : g.call? subject op with
    | none => exact .cons_of_call?_eq_none hid hknown hcall (ih m)
    | some call =>
      obtain ⟨-, -, group, -, rfl⟩ := Grant.call?_eq_some_iff.mp hcall
      exact .cons_of_call? hid hknown hcall (ih _)

/-! ## The resolver and the chain -/

theorem exists_lookedAt_checkGrants (hid : s.id = some subject) (hknown : s.isAnonymous = false)
    (k : Collaborators) (m : Directory ε) (r : Resource) (op : Operation) :
    ∃ looked, LookedAt m subject op (k.grantsFor r) looked ∧
      (checkGrants s r op).memberCalls k m = callsFor subject op looked := by
  obtain ⟨looked, hlooked, hcalls⟩ := loopCalls hid hknown k m r op (k.grantsFor r)
  refine ⟨looked, hlooked, ?_⟩
  have hasks : (Consultation.grantsOf r).CallsNobody := ⟨rfl, fun _ => trivial⟩
  rw [checkGrants, hasks.memberCalls_bind, ← hcalls]
  show (if (k.grantsFor r).isEmpty then _ else _ : Consultation Decision).memberCalls k m = _
  split
  · rename_i hnone
    rw [List.isEmpty_iff.mp hnone]
    rfl
  · split
    · rename_i hcreate
      obtain rfl := beq_iff_eq.mp hcreate
      -- No grant lets members create, so the loop would make no call either.
      rw [hcalls]
      exact (List.filterMap_eq_nil_iff.mpr fun g _ => rfl).symm
    · rfl

theorem lock_callsNobody (p : String) : (Lock.check s r op p).CallsNobody := by
  refine (lock_asksOnly p).mono ?_
  rintro q ⟨-, -, rfl⟩
  rfl

theorem memberCalls_resolve (k : Collaborators) (m : Directory ε) (bundles : BundleMap) :
    (resolve bundles s r op).memberCalls k m =
      match (Lock.check s r op ((bundles.rulesFor r.bundle).adminPermissionFor r)).eval k with
      | some _ => []
      | none => (applyRules (bundles.rulesFor r.bundle) s r op).memberCalls k m := by
  rw [resolve, (lock_callsNobody _).memberCalls_bind]
  cases (Lock.check s r op ((bundles.rulesFor r.bundle).adminPermissionFor r)).eval k <;> rfl

/-- **Where a call is made the grants decide.** -/
theorem leftToGrants_of_memberCalls {bundles : BundleMap}
    (h : (resolve bundles s r op).memberCalls k m ≠ []) :
    (bundles.rulesFor r.bundle).usesGrants = true ∧
      LeftToGrants k (bundles.rulesFor r.bundle) s r op := by
  rw [memberCalls_resolve] at h
  cases hlock : (Lock.check s r op ((bundles.rulesFor r.bundle).adminPermissionFor r)).eval k with
  | some d => simp [hlock] at h
  | none =>
    obtain ⟨hopen, hadmin⟩ := of_eval_lock_eq_none hlock
    simp only [hlock, applyRules] at h
    split at h
    · refine absurd ?_ h
      have hview : (checkViewPermissions s r (bundles.rulesFor r.bundle)).CallsNobody := by
        refine (checkViewPermissions_asksOnly _).mono ?_
        rintro q ⟨p, -, rfl⟩
        rfl
      rw [Consultation.memberCalls_eq_asked, hview.memberCalls_asked]
    · rename_i hgate
      cases huses : (bundles.rulesFor r.bundle).usesGrants with
      | true => exact ⟨rfl, hopen, hadmin, by simpa using hgate⟩
      | false =>
        rw [huses] at h
        exact absurd rfl h

theorem LeftToGrants.exists_lookedAt {bundles : BundleMap}
    (h : LeftToGrants k (bundles.rulesFor r.bundle) s r op)
    (huses : (bundles.rulesFor r.bundle).usesGrants = true) (hid : s.id = some subject)
    (hknown : s.isAnonymous = false) (m : Directory ε) :
    ∃ looked, LookedAt m subject op (k.grantsFor r) looked ∧
      (resolve bundles s r op).memberCalls k m = callsFor subject op looked := by
  obtain ⟨looked, hlooked, hcalls⟩ := exists_lookedAt_checkGrants hid hknown k m r op
  refine ⟨looked, hlooked, ?_⟩
  rw [memberCalls_resolve, h.eval_lock, ← hcalls]
  show (applyRules (bundles.rulesFor r.bundle) s r op).memberCalls k m = _
  rw [h.applyRules_eq, if_pos huses]

theorem resolve_callsNobody (bundles : BundleMap) (hanonymous : s.isAnonymous = true) :
    (resolve bundles s r op).CallsNobody := by
  refine (resolve_asksOnly bundles s r op).mono ?_
  rintro q (_ | _ | _ | ⟨_, _, _, hknown, _⟩)
  · rfl
  · rfl
  · rfl
  · simp [hanonymous] at hknown

theorem fits_of_isAnonymous (hanonymous : s.isAnonymous = true) :
    k.fits s op g = (g.target.isSome && g.givesEveryone op) := by
  cases htarget : g.target <;> simp [Collaborators.fits, Collaborators.places, htarget, hanonymous]

/-- Where the grants decide about an anonymous subject, only a grant for everyone allows anything. -/
theorem LeftToGrants.outcome_of_isAnonymous {bundles : BundleMap}
    (h : LeftToGrants k (bundles.rulesFor r.bundle) s r op)
    (huses : (bundles.rulesFor r.bundle).usesGrants = true) (hanonymous : s.isAnonymous = true)
    (hop : op ≠ .create) (hsome : k.grantsFor r ≠ []) :
    ((resolve bundles s r op).eval k).outcome =
      if op = .view ∧ ∃ g ∈ k.grantsFor r, g.target.isSome = true ∧ g.isPublic = true then .allowed
      else .forbidden := by
  rw [h.eval_resolve, if_pos huses, eval_checkGrants, if_neg (by simpa using hsome),
    if_neg (by simpa using hop), eval_evaluate]
  cases hfind : (k.grantsFor r).find? (k.fits s op) with
  | none =>
    rw [if_neg]
    · rfl
    · rintro ⟨rfl, g, hg, htarget, hpublic⟩
      have hnot := List.find?_eq_none.mp hfind g hg
      simp [fits_of_isAnonymous hanonymous, htarget, Grant.givesEveryone_iff, hpublic] at hnot
  | some g =>
    have hfits := List.find?_some hfind
    rw [fits_of_isAnonymous hanonymous, Bool.and_eq_true, Grant.givesEveryone_iff] at hfits
    obtain ⟨htarget, hview, hpublic⟩ := hfits
    rw [if_pos ⟨hview, g, List.mem_of_find?_eq_some hfind, htarget, hpublic⟩]
    rfl

end Resolver

/-- **Who is a stranger**: someone without an account, without roles, or with the role `anonymous` only. -/
theorem Subject.isAnonymous_iff :
    s.isAnonymous = true ↔
      s.id = none ∨ s.roles = ∅ ∨ s.roles = (∅ : RoleSet).insert .anonymous := by
  have hmem : ∀ role, role ∈ (∅ : RoleSet).insert .anonymous ↔ role = .anonymous := by
    intro role
    rw [Std.ExtTreeSet.mem_insert, Std.LawfulEqCmp.compare_eq_iff_eq, eq_comm,
      or_iff_left Std.ExtTreeSet.not_mem_empty]
  rw [← Bool.not_eq_false, isAnonymous_eq_false_iff, not_and_or, ← Option.not_isSome_iff_eq_none]
  refine or_congr_right ⟨fun h => ?_, ?_⟩
  · have hall : ∀ role ∈ s.roles, role = .anonymous := by
      intro role hrole
      exact Classical.byContradiction fun hne => h ⟨role, hrole, hne⟩
    by_cases hanonymous : RoleId.anonymous ∈ s.roles
    · refine Or.inr (Std.ExtTreeSet.ext_mem fun role => ?_)
      rw [hmem]
      exact ⟨hall role, fun h => h ▸ hanonymous⟩
    · refine Or.inl (Std.ExtTreeSet.ext_mem fun role => ?_)
      exact iff_of_false (fun hrole => hanonymous (hall role hrole ▸ hrole))
        Std.ExtTreeSet.not_mem_empty
  · rintro (hroles | hroles) ⟨role, hrole, hne⟩
    · exact Std.ExtTreeSet.not_mem_empty (hroles ▸ hrole)
    · exact hne ((hmem role).mp (hroles ▸ hrole))

namespace Chain

theorem memberCalls_check (k : Collaborators) (m : Directory ε) (c : Chain) :
    (c.check s r op).memberCalls k m = (Resolver.resolve c.bundles s r op).memberCalls k m := by
  refine Consultation.memberCalls_bind_of_callsNobody _ fun first => ?_
  show (if !c.stock || isFinal first r op then _ else _ : Consultation Decision).CallsNobody
  split
  · trivial
  · refine Consultation.AsksOnly.bind ((StockPermissions.check_asksOnly s r op).mono ?_)
      fun second => trivial
    rintro q (_ | _) <;> rfl

/-- **Exactly the calls that are needed.** Whatever the membership answers or fails to answer, and
whether or not it goes by what it was called with before,

* the chain makes the calls of its resolver;
* these make none unless the bundle has grant fields and the request is left to the grants, that is,
  not settled by the lock, the admin permission or required view permissions;
* someone who is not anonymous is then asked about for the grants up to the first that settles the
  request, in order and once for each grant that takes a call;
* someone who is anonymous, in whichever of the three ways, is asked about for none. The decision of
  the resolver about them is the same whatever the membership, and if it is left to grants they are
  allowed to view what a grant lets everyone view, and nothing else. -/
theorem memberCalls_exact {ε : Type} (k : Collaborators) (m : Directory ε) (c : Chain) (s : Subject)
    (r : Resource) (op : Operation) :
    (c.check s r op).memberCalls k m = (Resolver.resolve c.bundles s r op).memberCalls k m ∧
    ((Resolver.resolve c.bundles s r op).memberCalls k m ≠ [] →
      (c.bundles.rulesFor r.bundle).usesGrants = true ∧
        Resolver.LeftToGrants k (c.bundles.rulesFor r.bundle) s r op) ∧
    (∀ subject, s.id = some subject → s.isAnonymous = false →
      (c.bundles.rulesFor r.bundle).usesGrants = true →
      Resolver.LeftToGrants k (c.bundles.rulesFor r.bundle) s r op →
      ∃ looked, (∀ other, LookedAt m subject op (k.grantsFor r) other ↔ other = looked) ∧
        (Resolver.resolve c.bundles s r op).memberCalls k m = callsFor subject op looked) ∧
    (s.id = none ∨ s.roles = ∅ ∨ s.roles = (∅ : RoleSet).insert .anonymous →
      (Resolver.resolve c.bundles s r op).memberCalls k m = [] ∧
      ∃ d, (∀ (ε' : Type) (m' : Directory ε'),
          ((Resolver.resolve c.bundles s r op).run (k.withDirectory m') []).1 = .ok d) ∧
        ((c.bundles.rulesFor r.bundle).usesGrants = true →
          Resolver.LeftToGrants k (c.bundles.rulesFor r.bundle) s r op → op ≠ .create →
          k.grantsFor r ≠ [] →
          d.outcome =
            if op = .view ∧ ∃ g ∈ k.grantsFor r, g.target.isSome = true ∧ g.isPublic = true then
              .allowed
            else .forbidden)) := by
  refine ⟨memberCalls_check k m c, Resolver.leftToGrants_of_memberCalls, ?_, ?_⟩
  · intro subject hid hknown huses hleft
    obtain ⟨looked, hlooked, hcalls⟩ := hleft.exists_lookedAt huses hid hknown m
    refine ⟨looked, fun other => ⟨fun h => hlooked.unique h, ?_⟩, hcalls⟩
    rintro rfl
    exact hlooked
  · intro hanonymous
    rw [← Subject.isAnonymous_iff] at hanonymous
    have hnobody : (Resolver.resolve c.bundles s r op).CallsNobody :=
      Resolver.resolve_callsNobody c.bundles hanonymous
    refine ⟨?_, (Resolver.resolve c.bundles s r op).eval k, ?_, ?_⟩
    · rw [Consultation.memberCalls_eq_asked, hnobody.memberCalls_asked]
    · intro ε' m'
      rw [hnobody.run_eq, Consultation.run_respondent]
    · intro huses hleft hop hsome
      exact hleft.outcome_of_isAnonymous huses hanonymous hop hsome

/-! ### In the newsroom

A draft with four grants to update it, the first without a group. Of the three groups the first can be
looked up, and has nobody in it; the others cannot be reached. -/

namespace Draft

def grant (group : Option GroupId) : Grant :=
  { target := group, isPublic := false, view := false, update := true, delete := false }

def collaborators : Collaborators :=
  { Newsroom.collaborators with
    grantsFor := fun _ => [grant none, grant (some ⟨1⟩), grant (some ⟨2⟩), grant (some ⟨3⟩)] }

def directory : Directory String :=
  fun _ _ group => if group = ⟨1⟩ then .ok false else .error "unreachable"

def chain : Chain := { bundles := Newsroom.bundles, stock := true }

/-- The placeholder of a visitor who once had an account. -/
def placeholder : Subject := { id := some ⟨0⟩, roles := (∅ : RoleSet).insert .anonymous }

theorem leftToGrants (s : Subject)
    (hs : collaborators.holds s.roles "administer article" = false) :
    Resolver.LeftToGrants collaborators (chain.bundles.rulesFor "article") s Newsroom.article
      .update where
  unlocked := nofun
  notAdmin _ := hs
  notGated := nofun

end Draft

/-- The editor is asked about twice, the second time in vain; the placeholder is not asked about. -/
theorem draft_called_twice :
    (Draft.chain.check Newsroom.editor Newsroom.article .update).memberCalls Draft.collaborators
      Draft.directory = [(⟨1⟩, ⟨1⟩), (⟨1⟩, ⟨2⟩)] ∧
    (Draft.chain.check Draft.placeholder Newsroom.article .update).memberCalls Draft.collaborators
      Draft.directory = [] ∧
    ∃ d, ((Resolver.resolve Newsroom.bundles Draft.placeholder Newsroom.article .update).run
        (Draft.collaborators.withDirectory Draft.directory) []).1 = .ok d ∧
      d.outcome = .forbidden := by
  obtain ⟨hcheck, -, hcalls, -⟩ := memberCalls_exact Draft.collaborators Draft.directory Draft.chain
    Newsroom.editor Newsroom.article .update
  obtain ⟨hcheck', -, -, hanonymous⟩ := memberCalls_exact Draft.collaborators Draft.directory
    Draft.chain Draft.placeholder Newsroom.article .update
  refine ⟨?_, ?_, ?_⟩
  · obtain ⟨looked, hlooked, hcalls⟩ :=
      hcalls ⟨1⟩ rfl (by decide) (by decide) (Draft.leftToGrants _ (by decide))
    have hfirst : ¬ Settles Draft.directory ⟨1⟩ .update [] (Draft.grant none) :=
      not_settles_of_call?_eq_none rfl (Or.inl rfl)
    have hsecond : ¬ Settles Draft.directory ⟨1⟩ .update [] (Draft.grant (some ⟨1⟩)) := by
      rw [settles_iff_of_call? rfl]
      exact fun h => h rfl
    have hthird : Settles (Draft.directory.after [(⟨1⟩, ⟨1⟩)]) ⟨1⟩ .update []
        (Draft.grant (some ⟨2⟩)) := .failed rfl rfl
    have hthree : LookedAt Draft.directory ⟨1⟩ .update
        (Draft.collaborators.grantsFor Newsroom.article)
        [Draft.grant none, Draft.grant (some ⟨1⟩), Draft.grant (some ⟨2⟩)] :=
      .cons hfirst (.cons hsecond (.settled hthird))
    rw [hcheck, hcalls, ← (hlooked _).mp hthree]
    rfl
  · rw [hcheck', (hanonymous (Or.inr (Or.inr rfl))).1]
  · obtain ⟨-, d, hd, houtcome⟩ := hanonymous (Or.inr (Or.inr rfl))
    refine ⟨d, hd String Draft.directory, ?_⟩
    rw [houtcome (by decide) (Draft.leftToGrants _ (by decide)) nofun nofun, if_neg nofun]

end Chain

end AccessControl
