/-! Lists whose items have distinct keys, in the order in which the keys were first put. Putting an
item under a known key replaces the old one where it stands.
-/

namespace SolidityAtlas

/-- Puts an item: one with the same key is replaced where it stands, a new one comes last. -/
def putItem {α κ : Type} [DecidableEq κ] (key : α → κ) (item : α) : List α → List α
  | [] => [item]
  | other :: rest => if key other = key item then item :: rest else other :: putItem key item rest

/-- Putting keeps the keys, and adds the item's own at the end where it is new. -/
theorem map_key_putItem {α κ : Type} [DecidableEq κ] (key : α → κ) (item : α) (items : List α)
    : (putItem key item items).map key
      = if key item ∈ items.map key then items.map key else items.map key ++ [key item] := by
  induction items with
  | nil => rfl
  | cons other rest ih =>
      by_cases h : key other = key item
      · simp [putItem, h]
      · have h' : ¬ key item = key other := fun e => h e.symm
        simp only [putItem, if_neg h, List.map_cons, ih, List.mem_cons, h', false_or]
        split <;> simp

/-- Putting keeps keys distinct. -/
theorem nodup_putItem {α κ : Type} [DecidableEq κ] (key : α → κ) (item : α) (items : List α)
    (h : (items.map key).Nodup)
    : ((putItem key item items).map key).Nodup := by
  rw [map_key_putItem]
  split
  · exact h
  · rename_i hnew
    rw [List.nodup_append]
    refine ⟨h, by simp, ?_⟩
    intro a ha b hb hab
    rw [List.mem_singleton] at hb
    exact hnew (hb ▸ hab ▸ ha)

/-- The items whose key is neither in `seen` nor the key of an item before them. -/
def distinctFrom {α κ : Type} [DecidableEq κ] (key : α → κ) (seen : List κ) : List α → List α
  | [] => []
  | item :: rest =>
      if key item ∈ seen then distinctFrom key seen rest
      else item :: distinctFrom key (key item :: seen) rest

/-- The first item of every key, in order. -/
def distinctBy {α κ : Type} [DecidableEq κ] (key : α → κ) (items : List α) : List α :=
  distinctFrom key [] items

/-- The items without repetition, each at its first place. -/
def distinct {α : Type} [DecidableEq α] (items : List α) : List α :=
  distinctBy id items

/-- A list of items with distinct keys. -/
structure KeyedList {α κ : Type} (key : α → κ) where
  items : List α
  nodup : (items.map key).Nodup

namespace KeyedList

variable {α κ : Type} {key : α → κ}

/-- The list without items. -/
def empty : KeyedList key :=
  ⟨[], List.nodup_nil⟩

instance : Inhabited (KeyedList key) := ⟨empty⟩

/-- Keyed lists are equal when their items are. -/
@[ext]
theorem ext {first second : KeyedList key} (h : first.items = second.items)
    : first = second := by
  cases first
  cases second
  cases h
  rfl

/-- The keys, in the order in which they were first put. -/
def keys (list : KeyedList key) : List κ :=
  list.items.map key

variable [DecidableEq κ]

/-- The item under a key. -/
def get? (list : KeyedList key) (k : κ) : Option α :=
  list.items.find? fun item => key item = k

/-- Whether a key has an item. -/
def contains (list : KeyedList key) (k : κ) : Bool :=
  list.items.any fun item => key item = k

/-- Puts an item under its key. -/
def put (list : KeyedList key) (item : α) : KeyedList key :=
  ⟨putItem key item list.items, nodup_putItem key item list.items list.nodup⟩

/-- Removes the item under a key. -/
def erase (list : KeyedList key) (k : κ) : KeyedList key :=
  ⟨list.items.filter fun item => key item ≠ k,
    (List.Sublist.map key List.filter_sublist).nodup list.nodup⟩

/-- Puts all items of a list, first to last. -/
def ofList (items : List α) : KeyedList key :=
  items.foldl put empty

end KeyedList

/-- Values under distinct keys, in the order in which the keys were first put. -/
abbrev OrderedMap (κ α : Type) : Type :=
  KeyedList (fun entry : κ × α => entry.1)

namespace OrderedMap

variable {κ α : Type} [DecidableEq κ]

/-- The value under a key. -/
def value? (map : OrderedMap κ α) (k : κ) : Option α :=
  (map.get? k).map (·.2)

/-- Puts a value under a key. -/
def insert (map : OrderedMap κ α) (k : κ) (value : α) : OrderedMap κ α :=
  map.put (k, value)

/-- Puts a value under a key that has none yet. -/
def insertNew (map : OrderedMap κ α) (k : κ) (value : α) : OrderedMap κ α :=
  if map.contains k then map else map.put (k, value)

end OrderedMap

end SolidityAtlas
