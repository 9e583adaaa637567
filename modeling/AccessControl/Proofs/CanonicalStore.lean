import AccessControl.Proofs.StoreHistory

/-!
# Canonical stores

That two stores give the same answers does not make them equal. A field that is there with no items
answers like one that is not there, and so does an entry without fields; a store that kept either
would remember that something had been there. A store that keeps neither is *canonical*
(`Store.Canonical`).

**A canonical store is the function it is about**: it is determined by the items of its fields
(`Store.Canonical.ext`). A save makes no difference between a field that was cleared and one that
never was, so it keeps a store canonical, whether it clears the last field of a resource, one of
several, or one that was not there (`Store.Canonical.save`), and every store that has come about by
saves is canonical (`Store.canonical_replay`). What is then left of a history are the items saved
last, and all laws of saving are equations between stores, not merely between answers.
-/

set_option autoImplicit false

namespace AccessControl.Store

/-! ## One entry -/

/-- No field of an entry is without items. -/
def Tidy (fields : FieldMap) : Prop := ∀ field : String, fields[field]? ≠ some []

theorem tidy_empty : Tidy ∅ := by
  intro field
  simp

/-- Clearing a field takes it out, and what is put in is not empty. -/
theorem Tidy.setField {fields : FieldMap} (h : Tidy fields) (field : String)
    (items : List FieldItem) : Tidy (setField fields field items) := by
  intro other
  cases items with
  | nil =>
    show (fields.erase field)[other]? ≠ some []
    rw [Std.ExtTreeMap.getElem?_erase]
    split
    · exact nofun
    · exact h other
  | cons item rest =>
    show (fields.insert field (item :: rest))[other]? ≠ some []
    rw [Std.ExtTreeMap.getElem?_insert]
    split
    · exact nofun
    · exact h other

/-- Without fields that have no items, the items of all fields are the entry. -/
theorem Tidy.ext {fields fields' : FieldMap} (h : Tidy fields) (h' : Tidy fields')
    (hitems : ∀ field : String, fields[field]?.getD [] = fields'[field]?.getD []) : fields = fields' := by
  apply Std.ExtTreeMap.ext_getElem?
  intro field
  have hfield := hitems field
  cases hleft : fields[field]? with
  | none =>
    cases hright : fields'[field]? with
    | none => rfl
    | some items =>
      rw [hleft, hright] at hfield
      rw [Option.getD_none, Option.getD_some] at hfield
      exact absurd (by rw [hright, ← hfield]) (h' field)
  | some items =>
    cases hright : fields'[field]? with
    | none =>
      rw [hleft, hright] at hfield
      rw [Option.getD_none, Option.getD_some] at hfield
      exact absurd (by rw [hleft, hfield]) (h field)
    | some items' =>
      rw [hleft, hright] at hfield
      exact congrArg some hfield

/-! ## The whole store -/

/-- Nothing is left over: every entry has a field, and every field has items. -/
structure Canonical (store : Store) : Prop where
  hasField : ∀ (key : ResourceKey) (fields : FieldMap), store[key]? = some fields → fields ≠ ∅
  hasItems : ∀ (key : ResourceKey) (fields : FieldMap), store[key]? = some fields → Tidy fields

variable {store store' : Store} {r : Resource} {field : String} {items : List FieldItem}

theorem canonical_empty : Canonical ∅ where
  hasField key fields h := by simp at h
  hasItems key fields h := by simp at h

theorem Canonical.tidy_fieldsOf (h : store.Canonical) (key : ResourceKey) :
    Tidy (store.fieldsOf key) := by
  unfold fieldsOf
  cases hentry : store[key]? with
  | none => exact tidy_empty
  | some fields => exact h.hasItems key fields hentry

/-- There is an entry exactly for the resources that have fields. -/
theorem Canonical.getElem?_eq (h : store.Canonical) (key : ResourceKey) :
    store[key]? = if store.fieldsOf key = ∅ then none else some (store.fieldsOf key) := by
  unfold fieldsOf
  cases hentry : store[key]? with
  | none => rfl
  | some fields => rw [Option.getD_some, if_neg (h.hasField key fields hentry)]

/-- **A canonical store is determined by the items of its fields.** -/
theorem Canonical.ext (h : store.Canonical) (h' : store'.Canonical)
    (hitems : ∀ key field, store.itemsOf key field = store'.itemsOf key field) :
    store = store' := by
  apply Std.ExtTreeMap.ext_getElem?
  intro key
  have hfields : store.fieldsOf key = store'.fieldsOf key :=
    (h.tidy_fieldsOf key).ext (h'.tidy_fieldsOf key) (hitems key)
  rw [h.getElem?_eq, h'.getElem?_eq, hfields]

/-! ## What saving keeps -/

/-- The entry of the resource is made, changed, or taken out with its last field; the others stay. -/
theorem getElem?_save (store : Store) (r : Resource) (field : String) (items : List FieldItem)
    (key : ResourceKey) :
    (store.save r field items)[key]? =
      if r.key = key then
        if setField (store.fieldsOf key) field items = ∅ then none
        else some (setField (store.fieldsOf key) field items)
      else store[key]? := by
  unfold save fieldsOf
  rw [Std.ExtTreeMap.getElem?_alter]
  by_cases hkey : r.key = key
  · subst hkey
    rw [if_pos Std.ReflCmp.compare_self, if_pos rfl]
    simp only [Std.ExtTreeMap.isEmpty_iff]
  · rw [if_neg fun h => hkey (Std.LawfulEqOrd.eq_of_compare h), if_neg hkey]

/-- **A save leaves nothing over.** -/
theorem Canonical.save (h : store.Canonical) (r : Resource) (field : String)
    (items : List FieldItem) : (store.save r field items).Canonical := by
  -- The entry saved is there only if it has a field; all its fields but one are as they were.
  have hentry : ∀ (key : ResourceKey) (fields : FieldMap),
      (store.save r field items)[key]? = some fields → fields ≠ ∅ ∧ Tidy fields := by
    intro key fields hfields
    rw [getElem?_save] at hfields
    split at hfields
    · split at hfields
      · exact nomatch hfields
      · rename_i hsome
        cases hfields
        exact ⟨hsome, (h.tidy_fieldsOf key).setField field items⟩
    · exact ⟨h.hasField key fields hfields, h.hasItems key fields hfields⟩
  constructor
  · intro key fields hfields
    exact (hentry key fields hfields).1
  · intro key fields hfields
    exact (hentry key fields hfields).2

theorem Canonical.apply (h : store.Canonical) (w : Save) : (store.apply w).Canonical := by
  rw [apply_eq]
  exact h.save w.resource w.field w.items

/-- **After any history a store is canonical.** -/
theorem canonical_replay (history : List Save) : (replay history).Canonical := by
  induction history using List.reverseRecOn with
  | nil => exact canonical_empty
  | append_singleton history w ih =>
    rw [replay, List.foldl_append]
    exact ih.apply w

/-! ## The laws of saving -/

theorem itemsOf_apply (store : Store) (w : Save) (key : ResourceKey) (field : String) :
    (store.apply w).itemsOf key field =
      if w.resource.key = key ∧ w.field = field then w.items else store.itemsOf key field := by
  rw [apply_eq, itemsOf_save]

/-- Saves of two fields, be it of one resource or of two, can be made in either order. -/
theorem Canonical.apply_comm (h : store.Canonical) {w w' : Save}
    (hne : (w.resource.key, w.field) ≠ (w'.resource.key, w'.field)) :
    (store.apply w).apply w' = (store.apply w').apply w := by
  apply ((h.apply w).apply w').ext ((h.apply w').apply w)
  intro key field
  simp only [itemsOf_apply]
  by_cases hw : w.resource.key = key ∧ w.field = field
  · have hw' : ¬ (w'.resource.key = key ∧ w'.field = field) := by
      rintro ⟨hkey, hfield⟩
      exact hne (Prod.ext (hw.1.trans hkey.symm) (hw.2.trans hfield.symm))
    rw [if_pos hw, if_neg hw', if_pos hw]
  · rw [if_neg hw, if_neg hw]

/-- A save that says what has just been saved changes nothing. -/
theorem Canonical.apply_again (h : store.Canonical) {w w' : Save} (hsame : w'.content = w.content) :
    (store.apply w).apply w' = store.apply w := by
  have hkey : w'.resource.key = w.resource.key := congrArg Prod.fst hsame
  have hfield : w'.field = w.field := congrArg (fun c => c.2.1) hsame
  have hitems : w'.items = w.items := congrArg (fun c => c.2.2) hsame
  apply ((h.apply w).apply w').ext (h.apply w)
  intro key field
  simp only [itemsOf_apply, hkey, hfield, hitems]
  split <;> rfl

/-- Clearing a field that was not there before it was saved brings back the store without it. -/
theorem Canonical.apply_clear (h : store.Canonical) {w w' : Save}
    (habsent : w.field ∉ store.fieldsOf w.resource.key) (hkey : w'.resource.key = w.resource.key)
    (hfield : w'.field = w.field) (hclear : w'.items = []) :
    (store.apply w).apply w' = store := by
  apply ((h.apply w).apply w').ext h
  intro key field
  simp only [itemsOf_apply, hkey, hfield, hclear]
  by_cases hw : w.resource.key = key ∧ w.field = field
  · obtain ⟨rfl, rfl⟩ := hw
    rw [if_pos ⟨rfl, rfl⟩, itemsOf, Std.ExtTreeMap.getElem?_eq_none habsent, Option.getD_none]
  · rw [if_neg hw, if_neg hw]

/-- Two histories lead to the same store if and only if the items saved last are the same. -/
theorem replay_eq_iff (history history' : List Save) :
    replay history' = replay history ↔
      ∀ key field, lastSaved history' key field = lastSaved history key field := by
  constructor
  · intro h key field
    rw [← itemsOf_replay, ← itemsOf_replay, h]
  · intro h
    apply (canonical_replay history').ext (canonical_replay history)
    intro key field
    rw [itemsOf_replay, itemsOf_replay, h]

/-- **A store has no memory but of the items saved last.** After any history there is no entry without
fields and no field without items. Another history leads to the same store if and only if it agrees
on the items saved last, and having saved none is the same as never having saved. So saves of
different fields can be made in either order, a save can be made twice, and a field that was not
there can be saved and cleared, and in each case the store is the same. -/
theorem replay_exact (history : List Save) :
    (∀ (key : ResourceKey) (fields : FieldMap), (replay history)[key]? = some fields →
      fields ≠ ∅ ∧ ∀ field : String, fields[field]? ≠ some []) ∧
    (∀ history', replay history' = replay history ↔
      ∀ key field, lastSaved history' key field = lastSaved history key field) ∧
    (∀ w w' : Save, (w.resource.key, w.field) ≠ (w'.resource.key, w'.field) →
      ((replay history).apply w).apply w' = ((replay history).apply w').apply w) ∧
    (∀ w w' : Save, w'.content = w.content →
      ((replay history).apply w).apply w' = (replay history).apply w) ∧
    (∀ w w' : Save, w.field ∉ (replay history).fieldsOf w.resource.key →
      w'.resource.key = w.resource.key → w'.field = w.field → w'.items = [] →
      ((replay history).apply w).apply w' = replay history) := by
  have hcanonical := canonical_replay history
  refine ⟨?_, replay_eq_iff history, ?_, ?_, ?_⟩
  · intro key fields hfields
    exact ⟨hcanonical.hasField key fields hfields, hcanonical.hasItems key fields hfields⟩
  · intro w w' hne
    exact hcanonical.apply_comm hne
  · intro w w' hsame
    exact hcanonical.apply_again hsame
  · intro w w' habsent hkey hfield hclear
    exact hcanonical.apply_clear habsent hkey hfield hclear

namespace Archive

/-- The article gets its group back. -/
def restoration : Save :=
  .typed article "field_group"
    [{ target := some ⟨2⟩, isPublic := false, view := true, update := false, delete := false }]

/-- And loses it again, at the hands of someone who has the article locked. -/
def removal : Save := .raw lockedArticle "field_group" []

/-- The page gets a group as well. -/
def pageGroup : Save :=
  .raw (.plain ⟨7⟩ "page") "field_group" [(∅ : FieldItem).insert "target_id" (.int 2)]

end Archive

/-- The field of the article that was cleared is not there any more. Saving and clearing it once more
leads back to the same store, saving it twice is saving it once, and whether the page with the same
number comes before or after makes no difference. -/
theorem archive_restored :
    "field_group" ∉ (replay (Archive.history Archive.article)).fieldsOf Archive.article.key ∧
    ((replay (Archive.history Archive.article)).apply Archive.restoration).apply Archive.removal =
      replay (Archive.history Archive.article) ∧
    ((replay (Archive.history Archive.article)).apply Archive.restoration).apply
        Archive.restoration =
      (replay (Archive.history Archive.article)).apply Archive.restoration ∧
    (Archive.restoration.resource.key, Archive.restoration.field) ≠
      (Archive.pageGroup.resource.key, Archive.pageGroup.field) ∧
    ((replay (Archive.history Archive.article)).apply Archive.restoration).apply
        Archive.pageGroup =
      ((replay (Archive.history Archive.article)).apply Archive.pageGroup).apply
        Archive.restoration := by
  obtain ⟨-, -, hcomm, hagain, hclear⟩ := replay_exact (Archive.history Archive.article)
  have habsent : "field_group" ∉
      (replay (Archive.history Archive.article)).fieldsOf Archive.article.key := by
    decide
  have hne : (Archive.restoration.resource.key, Archive.restoration.field) ≠
      (Archive.pageGroup.resource.key, Archive.pageGroup.field) := by
    decide
  refine ⟨habsent, hclear Archive.restoration Archive.removal habsent rfl rfl rfl, ?_, hne, ?_⟩
  · exact hagain Archive.restoration Archive.restoration rfl
  · exact hcomm Archive.restoration Archive.pageGroup hne

end AccessControl.Store
