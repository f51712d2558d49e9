import SolidityAtlas.KeyedList
import Mathlib.Data.List.Forall2
import Mathlib.Data.List.Nodup

/-! Laws of lists with distinct keys. Putting and erasing respect any pointwise relation that keeps
keys, a list that was put together keeps the last item of every key, and items that have distinct
keys already are kept as they stand.
-/

namespace SolidityAtlas

/-- Related lists have the same keys when related items have. -/
theorem map_key_of_forall₂ {α β κ : Type} {R : α → β → Prop} {key : α → κ} {other : β → κ}
    (keyed : ∀ a b, R a b → key a = other b)
    {items : List α} {images : List β} (related : List.Forall₂ R items images)
    : items.map key = images.map other := by
  induction related with
  | nil => rfl
  | cons first _ ih => rw [List.map_cons, List.map_cons, keyed _ _ first, ih]

/-- Every item on the right of related lists belongs to one on the left. -/
theorem forall₂_mem_right {α β : Type} {R : α → β → Prop} {items : List α} {images : List β}
    (related : List.Forall₂ R items images) (image : β) (member : image ∈ images)
    : ∃ item ∈ items, R item image := by
  induction related with
  | nil => cases member
  | @cons head next rest tail first later ih =>
      rcases List.mem_cons.mp member with rfl | member
      · exact ⟨head, by simp, first⟩
      · obtain ⟨item, known, pair⟩ := ih member
        exact ⟨item, List.mem_cons_of_mem _ known, pair⟩

/-- What is related to two lists one after the other falls into two parts, by induction on the
first list.
-/
theorem exists_append_of_forall₂ {α β : Type} {R : α → β → Prop} {first second : List α}
    {images : List β} (related : List.Forall₂ R (first ++ second) images)
    : ∃ front back, images = front ++ back
        ∧ List.Forall₂ R first front ∧ List.Forall₂ R second back := by
  induction first generalizing images with
  | nil => exact ⟨[], images, rfl, .nil, related⟩
  | cons item rest ih =>
      obtain ⟨image, others, pair, later, rfl⟩ := List.forall₂_cons_left_iff.mp related
      obtain ⟨front, back, rfl, inFront, behind⟩ := ih later
      exact ⟨image :: front, back, rfl, .cons pair inFront, behind⟩

/-- Where every item has a result, what is related to the results is related to the items. Induction
on the items.
-/
theorem forall₂_of_filterMap {α β γ : Type} {R : β → γ → Prop} {f : α → Option β} {items : List α}
    {images : List γ} (total : ∀ item ∈ items, (f item).isSome)
    (related : List.Forall₂ R (items.filterMap f) images)
    : List.Forall₂ (fun item image => ∃ result, f item = some result ∧ R result image) items
        images := by
  induction items generalizing images with
  | nil =>
      cases related
      exact .nil
  | cons item rest ih =>
      obtain ⟨result, found⟩ := Option.isSome_iff_exists.mp (total item List.mem_cons_self)
      rw [List.filterMap_cons_some found] at related
      obtain ⟨image, others, pair, later, rfl⟩ := List.forall₂_cons_left_iff.mp related
      have remaining := fun other member => total other (List.mem_cons_of_mem _ member)
      exact .cons ⟨result, found, pair⟩ (ih remaining later)

/-- The results of a search belong to the items that have one, in order. Induction on the items. -/
theorem forall₂_filterMap {α β : Type} {f : α → Option β} {found : α → Prop} [DecidablePred found]
    (decides : ∀ item, (f item).isSome ↔ found item) (items : List α)
    : List.Forall₂ (fun item result => f item = some result) (items.filter found)
        (items.filterMap f) := by
  induction items with
  | nil => exact .nil
  | cons item rest ih =>
      cases result : f item with
      | none =>
          have absent : ¬ found item := by simp [← decides, result]
          rwa [List.filter_cons_of_neg (by simpa using absent), List.filterMap_cons_none result]
      | some value =>
          have present : found item := by simp [← decides, result]
          rw [List.filter_cons_of_pos (by simpa using present), List.filterMap_cons_some result]
          exact .cons result ih

/-- Items that give no result can be left out of a search, by induction on the items. -/
theorem findSome?_filter {α β : Type} {f : α → Option β} {keep : α → Bool} {items : List α}
    (skipped : ∀ item ∈ items, keep item = false → f item = none)
    : (items.filter keep).findSome? f = items.findSome? f := by
  induction items with
  | nil => rfl
  | cons item rest ih =>
      have later := ih fun other member => skipped other (List.mem_cons_of_mem _ member)
      cases kept : keep item with
      | true => rw [List.filter_cons_of_pos kept, List.findSome?_cons, List.findSome?_cons, later]
      | false =>
          have nothing := skipped item List.mem_cons_self kept
          rw [List.filter_cons_of_neg (by simp [kept]), List.findSome?_cons, nothing, later]

/-- Where each result has the key of its item, results of items with distinct keys have distinct
keys.
-/
theorem nodup_map_filterMap {α β κ : Type} {key : α → κ} {other : β → κ} {f : α → Option β}
    (keyed : ∀ item result, f item = some result → other result = key item) {items : List α}
    (distinct : (items.map key).Nodup)
    : ((items.filterMap f).map other).Nodup := by
  refine List.Sublist.nodup ?_ distinct
  induction items with
  | nil => exact .slnil
  | cons item rest ih =>
      have later := ih (List.nodup_cons.mp distinct).2
      rw [List.filterMap_cons]
      cases found : f item with
      | none => exact later.cons _
      | some result =>
          simpa [keyed item result found] using later

/-- Where each result has the key of its item, the result under a key is that of the item with this
key, if items have distinct keys. Induction on the items.
-/
theorem filter_filterMap {α β κ : Type} [DecidableEq κ] {key : α → κ} {other : β → κ}
    {f : α → Option β} (keyed : ∀ item result, f item = some result → other result = key item)
    {items : List α} (distinct : (items.map key).Nodup) (k : κ)
    : (items.filterMap f).filter (fun result => other result = k)
      = ((items.find? fun item => key item = k).bind f).toList := by
  induction items with
  | nil => rfl
  | cons item rest ih =>
      rw [List.map_cons, List.nodup_cons] at distinct
      have later := ih distinct.2
      by_cases here : key item = k
      · have absent : rest.find? (fun item => key item = k) = none := by
          refine List.find?_eq_none.mpr ?_
          intro next member same
          refine distinct.1 (List.mem_map.mpr ⟨next, member, ?_⟩)
          rw [here, of_decide_eq_true same]
        rw [absent] at later
        rw [List.find?_cons_of_pos (by simpa using here), List.filterMap_cons]
        cases found : f item with
        | none => simpa [found] using later
        | some result =>
            have same : other result = k := (keyed item result found).trans here
            simpa [found, same] using later
      · rw [List.find?_cons_of_neg (by simpa using here), List.filterMap_cons, ← later]
        cases found : f item with
        | none => rfl
        | some result =>
            have different : other result ≠ k := keyed item result found ▸ here
            simp [different]

/-- A search for items of which only one can pass finds this one, if it is there. -/
theorem find?_of_unique {α : Type} [DecidableEq α] {test : α → Bool} {items : List α} (only : α)
    (passes : test only = true) (unique : ∀ item ∈ items, test item = true → item = only)
    : items.find? test = if only ∈ items then some only else none := by
  split
  · rename_i member
    obtain ⟨found, search⟩ :=
      Option.isSome_iff_exists.mp (List.find?_isSome.mpr ⟨only, member, passes⟩)
    rw [search, unique found (List.mem_of_find?_eq_some search) (List.find?_some search)]
  · rename_i absent
    refine List.find?_eq_none.mpr ?_
    intro item member found
    exact absent (unique item member found ▸ member)

variable {α β κ : Type} [DecidableEq κ]

/-- Putting an item commutes with a function that keeps keys, by induction on the items; equal keys
make both sides replace or append at the same place.
-/
theorem map_putItem {key : α → κ} {other : β → κ} {f : α → β} (keyed : ∀ a, other (f a) = key a)
    (item : α) (items : List α)
    : (putItem key item items).map f = putItem other (f item) (items.map f) := by
  induction items with
  | nil => rfl
  | cons head rest ih =>
      by_cases same : key head = key item
      · simp only [putItem, List.map_cons, keyed, if_pos same]
      · simp only [putItem, List.map_cons, keyed, if_neg same, ih]

/-- Putting related items into related lists keeps the lists related, by induction on the lists. -/
theorem forall₂_putItem {R : α → β → Prop} {key : α → κ} {other : β → κ}
    (keyed : ∀ a b, R a b → key a = other b)
    {items : List α} {images : List β} (related : List.Forall₂ R items images)
    {item : α} {image : β} (new : R item image)
    : List.Forall₂ R (putItem key item items) (putItem other image images) := by
  have itemKey := keyed item image new
  induction related with
  | nil => exact .cons new .nil
  | @cons head next rest tail first later ih =>
      have headKey := keyed head next first
      by_cases same : key head = key item
      · have sameImage : other next = other image := by rw [← headKey, ← itemKey, same]
        simp only [putItem, if_pos same, if_pos sameImage]
        exact .cons new later
      · have different : ¬ other next = other image := by rwa [← headKey, ← itemKey]
        simp only [putItem, if_neg same, if_neg different]
        exact .cons first ih

/-- Erasing a key from related lists keeps them related, as related items have one key. -/
theorem forall₂_eraseKey {R : α → β → Prop} {key : α → κ} {other : β → κ}
    (keyed : ∀ a b, R a b → key a = other b)
    {items : List α} {images : List β} (related : List.Forall₂ R items images) (k : κ)
    : List.Forall₂ R (items.filter fun item => key item ≠ k)
        (images.filter fun image => other image ≠ k) := by
  refine List.rel_filter ?_ related
  intro item image pair
  simp [keyed item image pair]

/-- An item of a new key is put at the end. -/
theorem putItem_of_new {key : α → κ} {item : α} {items : List α}
    (new : key item ∉ items.map key)
    : putItem key item items = items ++ [item] := by
  induction items with
  | nil => rfl
  | cons head rest ih =>
      simp only [List.map_cons, List.mem_cons, not_or] at new
      have different : ¬ key head = key item := fun same => new.1 same.symm
      simp only [putItem, if_neg different, ih new.2, List.cons_append]

/-- Putting the item that is found under its key already changes nothing. -/
theorem putItem_of_find? {key : α → κ} {item : α} {items : List α}
    (found : items.find? (fun other => key other = key item) = some item)
    : putItem key item items = items := by
  induction items with
  | nil => cases found
  | cons head rest ih =>
      by_cases same : key head = key item
      · rw [List.find?_cons_of_pos (by simpa using same)] at found
        rw [putItem, if_pos same, Option.some.inj found]
      · rw [List.find?_cons_of_neg (by simpa using same)] at found
        rw [putItem, if_neg same, ih found]

/-- What is found under a key after putting an item: the item itself under its own key. -/
theorem find?_putItem {key : α → κ} (item : α) (items : List α) (k : κ)
    : (putItem key item items).find? (fun other => key other = k)
      = if key item = k then some item else items.find? (fun other => key other = k) := by
  induction items with
  | nil => by_cases here : key item = k <;> simp [putItem, here]
  | cons head rest ih =>
      by_cases same : key head = key item
      · by_cases here : key item = k <;> simp [putItem, same, here]
      · rw [putItem, if_neg same, List.find?_cons, List.find?_cons, ih]
        by_cases found : key head = k
        · have other : ¬ key item = k := fun here => same (found.trans here.symm)
          simp [found, other]
        · simp [found]

/-- Putting an item leaves the items of other keys as they are. -/
theorem filter_putItem (key : α → κ) (item : α) (items : List α)
    : (putItem key item items).filter (fun other => key other ≠ key item)
      = items.filter fun other => key other ≠ key item := by
  induction items with
  | nil => simp [putItem]
  | cons head rest ih =>
      by_cases same : key head = key item
      · simp [putItem, same]
      · simpa [putItem, same] using ih

/-- Of items with distinct keys only the item itself has its key, by induction on the items. -/
theorem filter_key_eq {key : α → κ} {items : List α} {item : α} (distinct : (items.map key).Nodup)
    (member : item ∈ items)
    : items.filter (fun other => key other = key item) = [item] := by
  induction items with
  | nil => cases member
  | cons head rest ih =>
      rw [List.map_cons, List.nodup_cons] at distinct
      rcases List.mem_cons.mp member with rfl | later
      · have none : rest.filter (fun other => key other = key item) = [] := by
          rw [List.filter_eq_nil_iff]
          intro other known same
          exact distinct.1 (by simpa using ⟨other, known, by simpa using same⟩)
        simp [none]
      · have different : ¬ key head = key item := by
          intro same
          exact distinct.1 (same ▸ List.mem_map_of_mem later)
        simp [different, ih distinct.2 later]

/-- The items that `distinctFrom` keeps are a selection of the items, in order. -/
theorem distinctFrom_sublist (key : α → κ) (seen : List κ) (items : List α)
    : (distinctFrom key seen items).Sublist items := by
  induction items generalizing seen with
  | nil => exact .slnil
  | cons item rest ih =>
      rw [distinctFrom]
      split
      · exact (ih seen).cons item
      · exact (ih (key item :: seen)).cons_cons item

/-- An item that is kept as the first one of its key is one of the items. -/
theorem mem_of_mem_distinctBy {key : α → κ} {items : List α} {item : α}
    (kept : item ∈ distinctBy key items)
    : item ∈ items :=
  (distinctFrom_sublist key [] items).subset kept

/-- The items that are kept have distinct keys, none of which was seen before. Induction on the
items.
-/
theorem nodup_map_distinctFrom (key : α → κ) (seen : List κ) (items : List α)
    : ((distinctFrom key seen items).map key).Nodup
      ∧ ∀ k ∈ (distinctFrom key seen items).map key, k ∉ seen := by
  induction items generalizing seen with
  | nil => simp [distinctFrom]
  | cons item rest ih =>
      rw [distinctFrom]
      split
      · exact ih seen
      · rename_i fresh
        obtain ⟨distinct, unseen⟩ := ih (key item :: seen)
        simp only [List.map_cons, List.nodup_cons, List.mem_cons, forall_eq_or_imp]
        refine ⟨⟨?_, distinct⟩, fresh, ?_⟩
        · intro again
          exact unseen _ again List.mem_cons_self
        · intro k kept known
          exact unseen k kept (List.mem_cons_of_mem _ known)

/-- The first items of every key have distinct keys. -/
theorem nodup_map_distinctBy (key : α → κ) (items : List α)
    : ((distinctBy key items).map key).Nodup :=
  (nodup_map_distinctFrom key [] items).1

/-- The item that is kept of a new key is the first one of the items, by induction on the items. -/
theorem find?_distinctFrom {key : α → κ} {seen : List κ} {items : List α} {k : κ} (new : k ∉ seen)
    : (distinctFrom key seen items).find? (fun item => key item = k)
      = items.find? fun item => key item = k := by
  induction items generalizing seen with
  | nil => rfl
  | cons item rest ih =>
      rw [distinctFrom, List.find?_cons]
      by_cases here : key item = k
      · simp [here, new]
      · split
        · simp [here, ih new]
        · have stillNew : k ∉ key item :: seen := by simp [new, Ne.symm here]
          simp [here, ih stillNew]

/-- The item that is kept of a key is the first one of the items. -/
theorem find?_distinctBy {key : α → κ} {items : List α} {k : κ}
    : (distinctBy key items).find? (fun item => key item = k)
      = items.find? fun item => key item = k :=
  find?_distinctFrom List.not_mem_nil

/-- Of every key an item is kept. -/
theorem exists_mem_distinctBy {key : α → κ} {items : List α} {item : α} (member : item ∈ items)
    : ∃ kept ∈ distinctBy key items, key kept = key item := by
  have found : ((distinctBy key items).find? fun other => key other = key item).isSome := by
    rw [find?_distinctBy, List.find?_isSome]
    exact ⟨item, member, by simp⟩
  simpa using List.find?_isSome.mp found

/-- Without repetition the items are the same. -/
theorem mem_distinct {items : List κ} {k : κ} : k ∈ distinct items ↔ k ∈ items := by
  refine ⟨mem_of_mem_distinctBy, fun member => ?_⟩
  obtain ⟨kept, listed, rfl⟩ : ∃ kept ∈ distinctBy id items, id kept = id k :=
    exists_mem_distinctBy member
  exact listed

theorem nodup_distinct (items : List κ) : (distinct items).Nodup := by
  simpa [distinct] using nodup_map_distinctBy id items

/-- The first of the items stays the first one. -/
theorem head?_distinct (items : List κ) : (distinct items).head? = items.head? := by
  cases items <;> simp [distinct, distinctBy, distinctFrom]

/-- An item that is kept is the first one of its key. -/
theorem find?_of_mem_distinctBy {key : α → κ} {items : List α} {item : α}
    (kept : item ∈ distinctBy key items)
    : items.find? (fun other => key other = key item) = some item := by
  obtain ⟨first, found⟩
      : ∃ first, items.find? (fun other => key other = key item) = some first := by
    refine Option.isSome_iff_exists.mp (List.find?_isSome.mpr ⟨item, ?_, by simp⟩)
    exact mem_of_mem_distinctBy kept
  have same : key first = key item := by simpa using List.find?_some found
  have firstKept : first ∈ distinctBy key items := by
    rw [← find?_distinctBy] at found
    exact List.mem_of_find?_eq_some found
  obtain rfl := List.inj_on_of_nodup_map (nodup_map_distinctBy key items) firstKept kept same
  exact found

/-- The labels of the items that come first with a label, by induction on the items. -/
theorem distinctFrom_map (label : α → κ) (seen : List κ) (items : List α)
    : distinctFrom id seen (items.map label) = (distinctFrom label seen items).map label := by
  induction items generalizing seen with
  | nil => rfl
  | cons item rest ih =>
      rw [List.map_cons, distinctFrom, distinctFrom, id_eq]
      split
      · exact ih seen
      · rw [ih, List.map_cons]

/-- The labels of items without repetition are those of the items that come first with a label. -/
theorem distinct_map (label : α → κ) (items : List α)
    : distinct (items.map label) = (distinctBy label items).map label :=
  distinctFrom_map label [] items

/-- Items whose keys were all seen before are passed over, by induction on the items. -/
theorem distinctFrom_append_of_seen {key : α → κ} {seen : List κ} {items : List α}
    (known : ∀ item ∈ items, key item ∈ seen) (rest : List α)
    : distinctFrom key seen (items ++ rest) = distinctFrom key seen rest := by
  induction items with
  | nil => rfl
  | cons item others ih =>
      rw [List.cons_append, distinctFrom, if_pos (known item List.mem_cons_self)]
      exact ih fun other member => known other (List.mem_cons_of_mem _ member)

/-- What comes behind other items matters only up to what has keys that were seen with these items.
Induction on the items in front.
-/
theorem distinctFrom_append_congr {key : α → κ} {seen : List κ} {front rest rest' : List α}
    (same
      : ∀ more, seen ⊆ more → (∀ item ∈ front, key item ∈ more)
        → distinctFrom key more rest = distinctFrom key more rest')
    : distinctFrom key seen (front ++ rest) = distinctFrom key seen (front ++ rest') := by
  induction front generalizing seen with
  | nil => exact same seen (List.Subset.refl seen) (by simp)
  | cons item front ih =>
      rw [List.cons_append, List.cons_append, distinctFrom, distinctFrom]
      split
      · rename_i known
        refine ih fun more kept all => same more kept ?_
        exact List.forall_mem_cons.mpr ⟨kept known, all⟩
      · refine congrArg (item :: ·) (ih fun more kept all => same more ?_ ?_)
        · exact fun _ member => kept (List.mem_cons_of_mem _ member)
        · exact List.forall_mem_cons.mpr ⟨kept List.mem_cons_self, all⟩

/-- Of copies of one item the first is kept. -/
theorem distinctFrom_append_of_eq {seen : List κ} {items : List κ} {item : κ}
    (some : items ≠ []) (same : ∀ other ∈ items, other = item) (rest : List κ)
    : distinctFrom id seen (items ++ rest) = distinctFrom id seen (item :: rest) := by
  cases items with
  | nil => exact absurd rfl some
  | cons first others =>
      obtain rfl := same first List.mem_cons_self
      have copies : ∀ other ∈ others, other = first := fun other member =>
        same other (List.mem_cons_of_mem _ member)
      rw [List.cons_append, distinctFrom, distinctFrom]
      split
      · rename_i known
        exact distinctFrom_append_of_seen (fun other member => copies other member ▸ known) rest
      · rw [distinctFrom_append_of_seen]
        exact fun other member => by simp [copies other member]

/-- Two ways to list a label of each item at least once list the same labels. Induction on the
items.
-/
theorem distinct_flatMap_congr {label : α → κ} {f g : α → List κ} {items : List α}
    (first : ∀ item ∈ items, ∀ other ∈ f item, other = label item)
    (second : ∀ item ∈ items, ∀ other ∈ g item, other = label item)
    (both : ∀ item ∈ items, f item = [] ↔ g item = [])
    : distinct (items.flatMap f) = distinct (items.flatMap g) := by
  suffices all : ∀ seen, distinctFrom id seen (items.flatMap f)
      = distinctFrom id seen (items.flatMap g) from all []
  induction items with
  | nil => exact fun _ => rfl
  | cons item rest ih =>
      simp only [List.forall_mem_cons] at first second both
      have later := ih first.2 second.2 both.2
      intro seen
      rw [List.flatMap_cons, List.flatMap_cons]
      by_cases none : g item = []
      · rw [both.1.mpr none, none]
        exact later seen
      · rw [distinctFrom_append_of_eq (mt both.1.mp none) first.1,
          distinctFrom_append_of_eq none second.1, distinctFrom, distinctFrom]
        split
        · exact later seen
        · rw [later]

namespace KeyedList

variable {key : α → κ}

/-- The item under a key is the item of the list with that key. -/
theorem get?_eq_some_iff {list : KeyedList key} {k : κ} {item : α}
    : list.get? k = some item ↔ item ∈ list.items ∧ key item = k := by
  constructor
  · intro found
    exact ⟨List.mem_of_find?_eq_some found, by simpa using List.find?_some found⟩
  · rintro ⟨member, rfl⟩
    cases found : list.get? (key item) with
    | none =>
        have absent := List.find?_eq_none.mp found item member
        simp at absent
    | some other =>
        have otherMember := List.mem_of_find?_eq_some found
        have sameKey : key other = key item := by simpa using List.find?_some found
        exact congrArg some (List.inj_on_of_nodup_map list.nodup otherMember member sameKey)

/-- Putting the item that is there already changes nothing. -/
theorem put_of_get? {list : KeyedList key} {item : α} (found : list.get? (key item) = some item)
    : list.put item = list :=
  KeyedList.ext (putItem_of_find? found)

/-- Nothing is found under a key that is none of the keys. -/
theorem get?_eq_none_iff {list : KeyedList key} {k : κ}
    : list.get? k = none ↔ k ∉ list.keys := by
  simp [get?, keys, List.find?_eq_none]

/-- A list contains its keys. -/
theorem contains_iff {list : KeyedList key} {k : κ}
    : list.contains k = true ↔ k ∈ list.keys := by
  simp [contains, keys]

/-- A list contains the keys under which something is found. -/
theorem contains_eq_isSome {list : KeyedList key} {k : κ}
    : list.contains k = (list.get? k).isSome := by
  rw [contains, get?, List.isSome_find?]

/-- Nothing is found under a key that was erased. -/
theorem get?_erase_self {list : KeyedList key} {k : κ} : (list.erase k).get? k = none := by
  simp [get?, erase, List.find?_eq_none]

/-- Erasing a key leaves what is found under other keys. -/
theorem get?_erase_of_ne {list : KeyedList key} {k other : κ} (different : other ≠ k)
    : (list.erase k).get? other = list.get? other := by
  rw [get?, get?, erase, List.find?_filter]
  congr 1
  funext item
  by_cases same : key item = other
  · simp [same, different]
  · simp [same]

/-- Putting an item leaves what is found under other keys. -/
theorem get?_put_of_ne {list : KeyedList key} {item : α} {other : κ} (different : key item ≠ other)
    : (list.put item).get? other = list.get? other := by
  rw [get?, put, find?_putItem, if_neg different, get?]

/-- Items put one after another end up behind the old ones where no key occurs twice. -/
theorem foldl_put_items (items : List α) (list : KeyedList key)
    (distinct : ((list.items ++ items).map key).Nodup)
    : (items.foldl put list).items = list.items ++ items := by
  induction items generalizing list with
  | nil => simp
  | cons item rest ih =>
      have new : key item ∉ list.items.map key := by
        intro known
        rw [List.map_append, List.nodup_append] at distinct
        exact distinct.2.2 (key item) known (key item) (by simp) rfl
      have put : (list.put item).items = list.items ++ [item] := putItem_of_new new
      rw [List.foldl_cons, ih]
      · rw [put, List.append_assoc, List.singleton_append]
      · rwa [put, List.append_assoc, List.singleton_append]

/-- A list of items with distinct keys is kept as it stands. -/
theorem items_ofList {items : List α} (distinct : (items.map key).Nodup)
    : (ofList items : KeyedList key).items = items := by
  simpa [ofList, empty] using foldl_put_items items (empty : KeyedList key) (by simpa [empty])

/-- Putting an item keeps the keys in order, and puts a new key behind them. -/
theorem keys_put (list : KeyedList key) (item : α)
    : (list.put item).keys
      = if key item ∈ list.keys then list.keys else list.keys ++ [key item] :=
  map_key_putItem key item list.items

/-- Erasing a key keeps the other keys in order. -/
theorem keys_erase (list : KeyedList key) (k : κ)
    : (list.erase k).keys = list.keys.filter (· ≠ k) := by
  rw [keys, keys, erase, List.filter_map]
  rfl

/-- Items put one after another put their new keys behind the old ones, each where it is first seen,
by induction on the items.
-/
theorem keys_foldl_put (items : List α) (list : KeyedList key) {seen : List κ}
    (known : ∀ k, k ∈ seen ↔ k ∈ list.keys)
    : (items.foldl put list).keys = list.keys ++ distinctFrom id seen (items.map key) := by
  induction items generalizing list seen with
  | nil => simp [distinctFrom]
  | cons item rest ih =>
      rw [List.foldl_cons, List.map_cons, distinctFrom, id_eq]
      by_cases old : key item ∈ list.keys
      · have same : (list.put item).keys = list.keys := by rw [keys_put, if_pos old]
        have still (k : κ) : k ∈ seen ↔ k ∈ (list.put item).keys := by rw [same, known]
        rw [if_pos ((known _).mpr old), ih _ still, same]
      · have behind : (list.put item).keys = list.keys ++ [key item] := by
          rw [keys_put, if_neg old]
        have more (k : κ) : k ∈ key item :: seen ↔ k ∈ (list.put item).keys := by
          simp [behind, known, or_comm]
        rw [if_neg (mt (known _).mp old), ih _ more, behind, List.append_assoc,
          List.singleton_append]

/-- The keys of a list that was put together, in the order in which they were first put. -/
theorem keys_ofList (items : List α)
    : (ofList items : KeyedList key).keys = distinct (items.map key) := by
  have nothing (k : κ) : k ∈ ([] : List κ) ↔ k ∈ (empty : KeyedList key).keys := Iff.rfl
  exact keys_foldl_put items empty nothing

/-- Of the items put one after another the last one of a key is found, else what was there before,
by induction on the items.
-/
theorem get?_foldl_put (items : List α) (list : KeyedList key) (k : κ)
    : (items.foldl put list).get? k
      = (items.reverse.find? fun item => key item = k).or (list.get? k) := by
  induction items generalizing list with
  | nil => simp
  | cons item rest ih =>
      have put : (list.put item).get? k = if key item = k then some item else list.get? k :=
        find?_putItem item list.items k
      rw [List.foldl_cons, ih, put, List.reverse_cons, List.find?_append, Option.or_assoc]
      by_cases here : key item = k <;> simp [here]

/-- A list that was put together keeps the last item of every key. -/
theorem get?_ofList (items : List α) (k : κ)
    : (ofList items : KeyedList key).get? k = items.reverse.find? fun item => key item = k := by
  simpa [ofList, empty, get?] using get?_foldl_put items (empty : KeyedList key) k

/-- What was put together holds nothing but the items. -/
theorem mem_of_mem_ofList {items : List α} {item : α}
    (member : item ∈ (ofList items : KeyedList key).items)
    : item ∈ items := by
  have found := get?_eq_some_iff.mpr ⟨member, rfl⟩
  rw [get?_ofList] at found
  exact List.mem_reverse.mp (List.mem_of_find?_eq_some found)

/-- The keys of a list that was put together are the keys of the items. -/
theorem mem_keys_ofList {items : List α} {k : κ}
    : k ∈ (ofList items : KeyedList key).keys ↔ k ∈ items.map key := by
  rw [← not_iff_not, ← get?_eq_none_iff, get?_ofList, List.find?_eq_none]
  simp

end KeyedList

end SolidityAtlas
