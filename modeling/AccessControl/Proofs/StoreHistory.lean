import AccessControl.Store
import Mathlib.Data.List.Induction
import Mathlib.Data.List.Sort

/-!
# The history of a store

A store is two maps deep and takes things away in two places: a field that is cleared loses its
items, and a resource that has lost its last field loses its entry. None of that can be read off it.
**What a store is about is one function**, from a resource and a field to the items there
(`Store.itemsOf`), and of that function a save changes one value and nothing else
(`Store.itemsOf_save`).

So after any history of saves the items of a field are those that were saved there last
(`Store.itemsOf_replay`). The grants of a resource are read off the same function, field by field
along any ascending list of names that leaves out no field with items
(`Store.grantsFor_eq_flatMap`): a name too many adds nothing. The two together say what a resource
has been granted in terms of its history alone, and that history is only the saves under its own
bundle and number (`Store.grantsFor_replay`).
-/

set_option autoImplicit false

namespace AccessControl.Store

/-! ## The items of a field -/

/-- The fields of a resource; a resource without an entry has none. -/
def fieldsOf (store : Store) (key : ResourceKey) : FieldMap := store[key]?.getD ∅

/-- The items of one field of a resource. -/
def itemsOf (store : Store) (key : ResourceKey) (field : String) : List FieldItem :=
  (store.fieldsOf key)[field]?.getD []

variable {store : Store} {r : Resource} {field : String} {items : List FieldItem}

theorem getElem?_setField (fields : FieldMap) (field other : String) (items : List FieldItem) :
    (setField fields field items)[other]?.getD [] =
      if field = other then items else fields[other]?.getD [] := by
  unfold setField
  by_cases hname : field = other
  · subst hname
    cases items with
    | nil => simp
    | cons item rest => simp
  · have hcompare : compare field other ≠ .eq := fun h => hname (Std.LawfulEqOrd.eq_of_compare h)
    cases items with
    | nil => simp [Std.ExtTreeMap.getElem?_erase, hcompare, hname]
    | cons item rest => simp [Std.ExtTreeMap.getElem?_insert, hcompare, hname]

/-- An entry that goes because its last field went leaves the same fields as one that stays. -/
theorem fieldsOf_save (key : ResourceKey) :
    (store.save r field items).fieldsOf key =
      if r.key = key then setField (store.fieldsOf key) field items else store.fieldsOf key := by
  unfold fieldsOf save
  rw [Std.ExtTreeMap.getElem?_alter]
  by_cases hkey : r.key = key
  · subst hkey
    rw [if_pos Std.ReflCmp.compare_self, if_pos rfl]
    by_cases hempty : (setField (store[r.key]?.getD ∅) field items).isEmpty = true
    · rw [if_pos hempty, Std.ExtTreeMap.isEmpty_iff.mp hempty]
      rfl
    · rw [if_neg hempty]
      rfl
  · rw [if_neg fun h => hkey (Std.LawfulEqOrd.eq_of_compare h), if_neg hkey]

/-- **A save changes the items of one field of one resource.** -/
theorem itemsOf_save (key : ResourceKey) (other : String) :
    (store.save r field items).itemsOf key other =
      if r.key = key ∧ field = other then items else store.itemsOf key other := by
  unfold itemsOf
  rw [fieldsOf_save]
  by_cases hkey : r.key = key
  · simp only [hkey, if_true, true_and, getElem?_setField]
  · simp only [hkey, if_false, false_and]

/-! ## The grants of a resource -/

theorem grantsFor_eq_fieldsOf :
    store.grantsFor r =
      (store.fieldsOf r.key).toList.flatMap fun (_, items) => items.map Grant.ofItem := by
  unfold grantsFor fieldsOf
  cases store[r.key]? with
  | some fields => rfl
  | none => simp

theorem mem_grantsFor {g : Grant} :
    g ∈ store.grantsFor r ↔
      ∃ field, ∃ item ∈ store.itemsOf r.key field, Grant.ofItem item = g := by
  rw [grantsFor_eq_fieldsOf, List.mem_flatMap]
  constructor
  · rintro ⟨⟨field, items⟩, hmem, hg⟩
    obtain ⟨item, hitem, rfl⟩ := List.mem_map.mp hg
    have hfield := Std.ExtTreeMap.mem_toList_iff_getElem?_eq_some.mp hmem
    exact ⟨field, item, by rw [itemsOf, hfield]; exact hitem, rfl⟩
  · rintro ⟨field, item, hitem, rfl⟩
    unfold itemsOf at hitem
    cases hfield : (store.fieldsOf r.key)[field]? with
    | none => simp [hfield] at hitem
    | some items =>
      rw [hfield] at hitem
      exact ⟨(field, items), Std.ExtTreeMap.mem_toList_iff_getElem?_eq_some.mpr hfield,
        List.mem_map_of_mem hitem⟩

/-- Two ascending lists of names give the same, item by item, if they differ in names without
items only. -/
theorem flatMap_eq_of_ascending {β : Type} {xs ys : List String} (f : String → List β)
    (hxs : xs.Pairwise (· < ·)) (hys : ys.Pairwise (· < ·))
    (hmem : ∀ name, f name ≠ [] → (name ∈ xs ↔ name ∈ ys)) : xs.flatMap f = ys.flatMap f := by
  have hfilter : ∀ names : List String,
      (names.filter fun name => !(f name).isEmpty).flatMap f = names.flatMap f := by
    intro names
    induction names with
    | nil => rfl
    | cons name rest ih =>
      cases hname : f name with
      | nil => simp [hname, ih]
      | cons b bs => simp [hname, ih]
  rw [← hfilter xs, ← hfilter ys]
  congr 1
  refine (hxs.filter _).eq_of_mem_iff (hys.filter _) fun name => ?_
  simp only [List.mem_filter, Bool.not_eq_true', List.isEmpty_eq_false_iff]
  constructor
  · rintro ⟨hx, hname⟩
    exact ⟨(hmem name hname).mp hx, hname⟩
  · rintro ⟨hy, hname⟩
    exact ⟨(hmem name hname).mpr hy, hname⟩

theorem ascending_of_compare {names : List String}
    (h : names.Pairwise fun a b => compare a b = .lt) : names.Pairwise (· < ·) := by
  refine h.imp ?_
  intro a b hab
  exact compareOfLessAndEq_eq_lt.mp hab

theorem mem_keys_of_itemsOf (h : store.itemsOf r.key field ≠ []) :
    field ∈ (store.fieldsOf r.key).keys := by
  rw [Std.ExtTreeMap.mem_keys, Std.ExtTreeMap.mem_iff_isSome_getElem?]
  cases hfield : (store.fieldsOf r.key)[field]? with
  | some items => rfl
  | none => exact absurd (by rw [itemsOf, hfield]; rfl) h

/-- The fields of a resource are gone through by going through their names. -/
theorem flatMap_toList_eq_keys (fields : FieldMap) :
    (fields.toList.flatMap fun (_, items) => items.map Grant.ofItem) =
      fields.keys.flatMap fun field => (fields[field]?.getD []).map Grant.ofItem := by
  rw [← Std.ExtTreeMap.map_fst_toList_eq_keys, List.flatMap_map]
  refine List.flatMap_congr ?_
  rintro ⟨field, items⟩ hmem
  rw [Std.ExtTreeMap.mem_toList_iff_getElem?_eq_some.mp hmem]
  rfl

/-- **The grants of a resource, field by field**, along any ascending list of names in which no field
with items is missing. -/
theorem grantsFor_eq_flatMap {names : List String} (hascending : names.Pairwise (· < ·))
    (hcover : ∀ field, store.itemsOf r.key field ≠ [] → field ∈ names) :
    store.grantsFor r = names.flatMap fun field => (store.itemsOf r.key field).map Grant.ofItem := by
  rw [grantsFor_eq_fieldsOf, flatMap_toList_eq_keys]
  show ((store.fieldsOf r.key).keys.flatMap
    fun field => (store.itemsOf r.key field).map Grant.ofItem) = _
  refine flatMap_eq_of_ascending _ (ascending_of_compare Std.ExtTreeMap.ordered_keys) hascending ?_
  intro field hitems
  have hsome : store.itemsOf r.key field ≠ [] := fun hnil => hitems (by rw [hnil]; rfl)
  exact iff_of_true (mem_keys_of_itemsOf hsome) (hcover field hsome)

/-- Where the items of the fields stand for the same grants, the grants are the same. -/
theorem grantsFor_congr_map {store' : Store} {r' : Resource}
    (h : ∀ field, (store'.itemsOf r'.key field).map Grant.ofItem =
      (store.itemsOf r.key field).map Grant.ofItem) :
    store'.grantsFor r' = store.grantsFor r := by
  have hascending : (store.fieldsOf r.key).keys.Pairwise (· < ·) :=
    ascending_of_compare Std.ExtTreeMap.ordered_keys
  have hcover : ∀ field, store'.itemsOf r'.key field ≠ [] →
      field ∈ (store.fieldsOf r.key).keys := by
    intro field hsome
    refine mem_keys_of_itemsOf ?_
    intro hnone
    have hnone' := h field
    rw [hnone, List.map_nil, List.map_eq_nil_iff] at hnone'
    exact hsome hnone'
  rw [grantsFor_eq_flatMap hascending fun field => mem_keys_of_itemsOf,
    grantsFor_eq_flatMap hascending hcover]
  simp only [h]

/-- In particular where the fields have the same items. -/
theorem grantsFor_congr {store' : Store} {r' : Resource}
    (h : ∀ field, store'.itemsOf r'.key field = store.itemsOf r.key field) :
    store'.grantsFor r' = store.grantsFor r :=
  grantsFor_congr_map fun field => congrArg (List.map Grant.ofItem) (h field)

end AccessControl.Store

/-! ## Histories -/

namespace AccessControl

/-- One step of a history: the items of a field are saved as they come, or as grants. -/
inductive Save where
  | raw (resource : Resource) (field : String) (items : List FieldItem)
  | typed (resource : Resource) (field : String) (grants : List Grant)

namespace Save

/-- The resource that is saved, as the one who saves has it. -/
def resource : Save → Resource
  | .raw r _ _ | .typed r _ _ => r

/-- The field that is saved. -/
def field : Save → String
  | .raw _ field _ | .typed _ field _ => field

/-- What is saved: grants go in as the items that stand for them. -/
def items : Save → List FieldItem
  | .raw _ _ items => items
  | .typed _ _ grants => grants.map Grant.toItem

/-- What a save says, once the lock and the owner of its resource are forgotten. -/
def content (w : Save) : ResourceKey × String × List FieldItem := (w.resource.key, w.field, w.items)

end Save

namespace Store

/-- The store after one more save. -/
def apply (store : Store) : Save → Store
  | .raw r field items => store.save r field items
  | .typed r field grants => store.saveGrants r field grants

/-- The store after a history, starting with nothing. -/
def replay (history : List Save) : Store := history.foldl apply ∅

/-- The items saved last for a field of a resource; none if it was never saved. -/
def lastSaved (history : List Save) (key : ResourceKey) (field : String) : List FieldItem :=
  ((history.filter fun w => w.resource.key = key ∧ w.field = field).map Save.items).getLastD []

/-- The names of the fields of a resource that were ever saved, in ascending order. -/
def savedFields (history : List Save) (key : ResourceKey) : List String :=
  (Std.ExtTreeSet.ofList
    ((history.filter fun w => w.resource.key = key).map Save.field)).toList

theorem apply_eq (store : Store) (w : Save) :
    store.apply w = store.save w.resource w.field w.items := by
  cases w with
  | raw r field items | typed r field grants => rfl

/-- The last items are those that every save of the field has, if it is saved at all. -/
theorem lastSaved_eq_of_forall {history : List Save} {key : ResourceKey} {field : String}
    {items : List FieldItem}
    (hall : ∀ w ∈ history, w.resource.key = key → w.field = field → w.items = items)
    (hsome : items ≠ [] → ∃ w ∈ history, w.resource.key = key ∧ w.field = field) :
    lastSaved history key field = items := by
  unfold lastSaved
  generalize hsaved : (history.filter fun w => w.resource.key = key ∧ w.field = field) = saved
  have hmem : ∀ w, w ∈ saved ↔ w ∈ history ∧ w.resource.key = key ∧ w.field = field := by
    simp [← hsaved]
  cases saved using List.reverseRecOn with
  | nil =>
    refine Classical.byContradiction fun hne => ?_
    obtain ⟨w, hw⟩ := hsome (Ne.symm hne)
    exact List.not_mem_nil ((hmem w).mpr hw)
  | append_singleton before w =>
    obtain ⟨hw, hkey, hfield⟩ := (hmem w).mp (by simp)
    rw [List.map_append, List.map_singleton, List.getLastD_concat]
    exact hall w hw hkey hfield

theorem lastSaved_append (history : List Save) (w : Save) (key : ResourceKey) (field : String) :
    lastSaved (history ++ [w]) key field =
      if w.resource.key = key ∧ w.field = field then w.items else lastSaved history key field := by
  unfold lastSaved
  rw [List.filter_append, List.map_append]
  by_cases hw : w.resource.key = key ∧ w.field = field
  · rw [if_pos hw, List.filter_cons_of_pos (by simpa using hw)]
    exact List.getLastD_concat
  · rw [if_neg hw, List.filter_cons_of_neg (by simpa using hw)]
    simp

/-- **After a history, a field has the items saved there last.** -/
theorem itemsOf_replay (history : List Save) (key : ResourceKey) (field : String) :
    (replay history).itemsOf key field = lastSaved history key field := by
  induction history using List.reverseRecOn with
  | nil => simp [replay, itemsOf, fieldsOf, lastSaved]
  | append_singleton history w ih =>
    have hstep : replay (history ++ [w]) = (replay history).apply w := by
      rw [replay, List.foldl_append]
      rfl
    rw [hstep, apply_eq, itemsOf_save, ih, lastSaved_append]

/-! ### What the last saves hang on -/

theorem mem_savedFields {history : List Save} {key : ResourceKey} {name : String} :
    name ∈ savedFields history key ↔ ∃ w ∈ history, w.resource.key = key ∧ w.field = name := by
  rw [savedFields, Std.ExtTreeSet.mem_toList, Std.ExtTreeSet.mem_ofList]
  simp [and_assoc]

theorem savedFields_ascending (history : List Save) (key : ResourceKey) :
    (savedFields history key).Pairwise (· < ·) :=
  ascending_of_compare Std.ExtTreeSet.ordered_toList

theorem mem_savedFields_of_lastSaved {history : List Save} {key : ResourceKey} {field : String}
    (h : lastSaved history key field ≠ []) : field ∈ savedFields history key := by
  have hne : (history.filter fun w => w.resource.key = key ∧ w.field = field) ≠ [] := by
    intro hnil
    apply h
    rw [lastSaved, hnil]
    rfl
  obtain ⟨w, hw⟩ := List.exists_mem_of_ne_nil _ hne
  rw [List.mem_filter] at hw
  exact mem_savedFields.mpr ⟨w, hw.1, by simpa using hw.2⟩

/-- Neither lock nor owner of any resource in the history matters. -/
theorem lastSaved_eq_content (history : List Save) (key : ResourceKey) (field : String) :
    lastSaved history key field =
      (((history.map Save.content).filter fun c => c.1 = key ∧ c.2.1 = field).map
        fun c => c.2.2).getLastD [] := by
  rw [List.filter_map, List.map_map]
  rfl

/-- Nor do the saves of other resources. -/
theorem lastSaved_filter (history : List Save) (key : ResourceKey) (field : String) :
    lastSaved (history.filter fun w => w.resource.key = key) key field =
      lastSaved history key field := by
  unfold lastSaved
  rw [List.filter_filter]
  congr 3
  funext w
  by_cases hkey : w.resource.key = key <;> simp [hkey]

/-- **The grants of a resource from its history.** They are the grants that the items saved last
stand for, over the names of its fields in ascending order. The saves of other resources change
nothing about them, and neither does the lock or the owner of a resource, be it in the history or be
it the one that is asked about. -/
theorem grantsFor_replay (history : List Save) (r : Resource) :
    (replay history).grantsFor r =
      (savedFields history r.key).flatMap
        (fun field => (lastSaved history r.key field).map Grant.ofItem) ∧
    (savedFields history r.key).Pairwise (· < ·) ∧
    (∀ name, name ∈ savedFields history r.key ↔
      ∃ w ∈ history, w.resource.key = r.key ∧ w.field = name) ∧
    (replay (history.filter fun w => w.resource.key = r.key)).grantsFor r =
      (replay history).grantsFor r ∧
    ∀ (history' : List Save) (r' : Resource),
      history'.map Save.content = history.map Save.content → r'.key = r.key →
        (replay history').grantsFor r' = (replay history).grantsFor r := by
  refine ⟨?_, savedFields_ascending history r.key, fun name => mem_savedFields, ?_, ?_⟩
  · rw [grantsFor_eq_flatMap (savedFields_ascending history r.key) fun field hitems =>
      mem_savedFields_of_lastSaved (itemsOf_replay history r.key field ▸ hitems)]
    simp only [itemsOf_replay]
  · refine grantsFor_congr fun field => ?_
    rw [itemsOf_replay, itemsOf_replay, lastSaved_filter]
  · intro history' r' hcontent hkey
    refine grantsFor_congr fun field => ?_
    rw [itemsOf_replay, itemsOf_replay, hkey, lastSaved_eq_content, hcontent, ← lastSaved_eq_content]

/-! ### A field that is cleared

Two fields of an article are saved and one of them is cleared; a page with the number of the article is
saved in between. -/

namespace Archive

def article : Resource := .plain ⟨7⟩ "article"

def lockedArticle : Resource := { article with locked := true, owner := some ⟨3⟩ }

def history (r : Resource) : List Save :=
  [.typed r "field_group"
      [{ target := some ⟨2⟩, isPublic := false, view := true, update := true, delete := false }],
    .raw r "field_access" [(∅ : FieldItem).insert "target_id" (.text " 1 ")
      |>.insert "grant_view" (.bool true)],
    .raw (.plain ⟨7⟩ "page") "field_access" [],
    .raw r "field_group" []]

end Archive

/-- What is left are the items of the other field, whether or not the article was locked and owned
when they were saved. -/
theorem grantsFor_lockedArticle :
    (Archive.history Archive.lockedArticle).map Save.content =
      (Archive.history Archive.article).map Save.content ∧
    Archive.lockedArticle.key = Archive.article.key ∧
    (replay (Archive.history Archive.lockedArticle)).grantsFor Archive.lockedArticle =
      [{ target := some ⟨1⟩, isPublic := false, view := true, update := false, delete := false }] := by
  obtain ⟨-, -, -, -, hforget⟩ := grantsFor_replay (Archive.history Archive.article) Archive.article
  refine ⟨rfl, rfl, (hforget _ _ rfl rfl).trans ?_⟩
  decide

end Store

end AccessControl
