import AccessControl.Document.Decoding
import AccessControl.Proofs.WrittenText

/-!
# Decoding what was written

What a decoder makes of a value that was written for some data should be the data again
(`Decoder.Restores`). Such values are complete ones, so what holds of the value holds of its text, in
either layout (`Decoder.Restores.ofText_print`, `Decoder.Restores.ofText_printPretty`).

**A decoder that is made of others restores what they restore.** There is one lemma for each way of
making one. An option restores only what is never written as null, a map only what has one binding
to a key, and a record what its fields say when they are taken one after the other in the order in
which they were written.
-/

set_option autoImplicit false

namespace AccessControl.Decoder

open Json (Complete)

variable {α κ ν δ : Type} {decode : Decoder α} {encode : α → Json} {j : Json} {a : α}

/-- A decoder takes a value that was written for some data for these data. -/
structure Restores (decode : Decoder α) (j : Json) (a : α) : Prop where
  complete : Complete j
  decodes : decode j = .ok a

/-- Decoding undoes writing, in either layout, and what was decoded and is written is decoded as it was
before. -/
structure Inverts (decode : Decoder α) (encode : α → Json) : Prop where
  compact : ∀ a, decode.ofText (encode a).print = .ok a
  indented : ∀ a, decode.ofText (encode a).printPretty = .ok a
  again : ∀ text a, decode.ofText text = .ok a →
    decode.ofText (encode a).print = decode.ofText text

theorem Restores.ofText_print (h : Restores decode j a) : decode.ofText j.print = .ok a := by
  rw [ofText, h.complete.read_print, h.decodes]
  rfl

theorem Restores.ofText_printPretty (h : Restores decode j a) :
    decode.ofText j.printPretty = .ok a := by
  rw [ofText, h.complete.read_printPretty, h.decodes]
  rfl

theorem inverts_of_restores (h : ∀ a, Restores decode (encode a) a) : Inverts decode encode where
  compact a := (h a).ofText_print
  indented a := (h a).ofText_printPretty
  again _ a hdecoded := (h a).ofText_print.trans hdecoded.symm

/-! ## Plain values -/

theorem restores_text (s : String) : Restores text (.text s) s := ⟨.text s, rfl⟩

theorem restores_bool (b : Bool) : Restores bool (.bool b) b := ⟨.bool b, rfl⟩

theorem restores_word (n : UInt64) : Restores word (Json.word n) n := by
  refine ⟨.integer _, ?_⟩
  have hbounds : (0 : Int) ≤ n.toNat ∧ (n.toNat : Int) < Text.wordLimit :=
    ⟨Int.natCast_nonneg _, Int.ofNat_lt.mpr n.toNat_lt⟩
  rw [Json.word, word, if_pos hbounds, Int.toNat_natCast, UInt64.ofNat_toNat]

theorem restores_id {kind : Numbered} (i : Identifier kind) : Restores id (Json.id i) i := by
  refine ⟨(restores_word i.number).complete, ?_⟩
  show (word (Json.word i.number)).map Identifier.mk = _
  rw [(restores_word i.number).decodes]
  rfl

/-- Null stands for nothing, so nothing else may be written as null. -/
theorem restores_option (h : ∀ a, Restores decode (encode a) a) (hnull : ∀ a, encode a ≠ .null)
    (a : Option α) : Restores (option decode) (.ofOption encode a) a := by
  cases a with
  | none => exact ⟨.null, rfl⟩
  | some a =>
    refine ⟨(h a).complete, ?_⟩
    have hsome : option decode (encode a) = (decode (encode a)).map some := by
      rw [option]
      exact hnull a
    show option decode (encode a) = _
    rw [hsome, (h a).decodes]
    rfl

theorem restores_optionalText (s : Option String) :
    Restores (option text) (.ofOption Json.text s) s :=
  restores_option restores_text (fun _ => nofun) s

theorem restores_optionalId {kind : Numbered} (i : Option (Identifier kind)) :
    Restores (option id) (.ofOption Json.id i) i :=
  restores_option restores_id (fun _ => nofun) i

/-! ## Collections -/

theorem mapM_map_eq_ok {ε β : Type} {f : β → Except ε α} {g : α → β} {as : List α}
    (h : ∀ a ∈ as, f (g a) = .ok a) : (as.map g).mapM f = .ok as := by
  induction as with
  | nil => rfl
  | cons a as ih =>
    rw [List.map_cons, List.mapM_cons, h a List.mem_cons_self,
      ih fun a ha => h a (List.mem_cons_of_mem _ ha)]
    rfl

theorem restores_list {as : List α} (h : ∀ a ∈ as, Restores decode (encode a) a) :
    Restores (list decode) (.list (as.map encode)) as := by
  refine ⟨.list fun item hitem => ?_, ?_⟩
  · obtain ⟨a, ha, rfl⟩ := List.mem_map.mp hitem
    exact (h a ha).complete
  · show (do closed true (← (as.map encode).mapM decode)) = _
    rw [mapM_map_eq_ok fun a ha => (h a ha).decodes]
    rfl

theorem restores_texts (l : List String) : Restores (list text) (.texts l) l :=
  restores_list fun s _ => restores_text s

theorem restores_ids {kind : Numbered} (l : List (Identifier kind)) :
    Restores (list id) (.list (l.map Json.id)) l :=
  restores_list fun i _ => restores_id i

/-- A map, its keys written as texts. -/
theorem restores_map [Ord κ] [Std.TransOrd κ] {key : Key → Except Refusal κ} (write : κ → String)
    {value : Decoder ν} (encode : ν → Json) {bindings : List (κ × ν)} {map : Std.ExtTreeMap κ ν}
    (hkey : ∀ k, key (Key.ofText (write k)) = .ok k)
    (hvalue : ∀ binding ∈ bindings, Restores value (encode binding.2) binding.2)
    (hmap : Std.ExtTreeMap.ofList bindings = map) :
    Restores (Decoder.map key value)
      (.record (bindings.map fun (k, v) => (write k, encode v))) map := by
  refine ⟨.record fun member hmember => ?_, ?_⟩
  · obtain ⟨binding, hbinding, rfl⟩ := List.mem_map.mp hmember
    exact (hvalue binding hbinding).complete
  · have hbinding : ∀ binding ∈ bindings,
        (do return (← key (Key.ofText (write binding.1)), ← value (encode binding.2))) =
          Except.ok (ε := Refusal) binding := by
      intro binding hmem
      rw [hkey, (hvalue binding hmem).decodes]
      rfl
    rw [Json.record, Decoder.map, List.map_map, mapM_map_eq_ok hbinding]
    show Except.ok (Std.ExtTreeMap.ofList bindings) = _
    rw [hmap]

theorem textKey_ofText (s : String) : textKey (Key.ofText s) = .ok s := rfl

/-! ## Records -/

variable {fields : Fields δ α} {d d' d'' : δ} {members others : List (String × Json)}

/-- A draft takes complete members, one after the other. -/
inductive Takes (fields : Fields δ α) : δ → List (String × Json) → δ → Prop
  | nil (d : δ) : Takes fields d [] d
  | cons {d d' d'' : δ} {name : String} {j : Json} {rest : List (String × Json)}
      (hcomplete : Complete j) (hput : fields.put d name j = .ok d')
      (hrest : Takes fields d' rest d'') : Takes fields d ((name, j) :: rest) d''

/-- A field that has not been given yet takes what was written for it. -/
theorem Takes.field {ν : Type} {decode : Decoder ν} {v : ν} {set : Option ν → δ} {name : String}
    (h : Restores decode j v)
    (hput : fields.put d name j = (do return set (← once none decode j)))
    (hrest : Takes fields (set (some v)) others d'') : Takes fields d ((name, j) :: others) d'' := by
  refine .cons h.complete ?_ hrest
  rw [hput, once, h.decodes]
  rfl

theorem Takes.append (h : Takes fields d members d') (hothers : Takes fields d' others d'') :
    Takes fields d (members ++ others) d'' := by
  induction h with
  | nil d => exact hothers
  | cons hcomplete hput _ ih => exact .cons hcomplete hput (ih hothers)

theorem Takes.complete (h : Takes fields d members d') : ∀ m ∈ members, Complete m.2 := by
  induction h with
  | nil d => exact fun m hm => absurd hm List.not_mem_nil
  | cons hcomplete _ _ ih =>
    intro m hm
    rcases List.mem_cons.mp hm with rfl | hm
    · exact hcomplete
    · exact ih m hm

theorem Takes.foldlM_put (h : Takes fields d members d') :
    members.foldlM (fun d (name, j) => fields.put d name j) d = .ok d' := by
  induction h with
  | nil d => rfl
  | cons _ hput _ ih =>
    rw [List.foldlM_cons]
    show (fields.put _ _ _).bind _ = _
    rw [hput]
    exact ih

/-- An object is what the draft becomes that has taken all members. -/
theorem Takes.object_eq (h : Takes fields fields.start members d) :
    object fields (members.map fun (key, value) => (Key.ofText key, value)) true =
      fields.finish d := by
  rw [object, List.foldlM_map]
  exact congrArg (fun taken => taken >>= _) h.foldlM_put

theorem Takes.restores_record (h : Takes fields fields.start members d)
    (hfinish : fields.finish d = .ok a) : Restores (record fields) (.record members) a :=
  ⟨.record h.complete, h.object_eq.trans hfinish⟩

end AccessControl.Decoder
