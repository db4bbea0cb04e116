import Placard.Proofs.Document.Path

set_option relaxedAutoImplicit false
set_option autoImplicit false

/-!
# Items depth first

The items of a document at any depth, listed so that each stands before its children, alone or with
their depths. They are those that a path leads to, and the depth of an item is the number of steps
that lead to it from the top.

## Main definitions

* `Placard.Item.depthFirst`: items and those below them, each before its children.
* `Placard.Item.depthFirstFrom`: the same with their depths.

## Main results

* `Placard.Item.mem_depthFirstFrom_iff`: the depth of an item is the length of its path.
* `Placard.Item.mem_depthFirst_iff`: the items of a document at any depth.
-/

namespace Placard.Item

/-! ## Listing items -/

mutual

/-- An item and those below it, each before its children. -/
def subtree : Item → List Item
  | ⟨label, value, desc, icon, children⟩ =>
    ⟨label, value, desc, icon, children⟩ :: subtreesBelow children

/-- The items below an item, each before its children. -/
def subtreesBelow : Option (List Item) → List Item
  | none => []
  | some items => depthFirst items

/-- Items and those below them, each before its children. -/
def depthFirst : List Item → List Item
  | [] => []
  | item :: items => subtree item ++ depthFirst items

end

mutual

/-- An item at a depth and those below it, each before its children. -/
def subtreeFrom (level : Nat) : Item → List (Nat × Item)
  | ⟨label, value, desc, icon, children⟩ =>
    (level, ⟨label, value, desc, icon, children⟩) :: subtreesBelowFrom (level + 1) children

/-- The items at a depth below an item, each before its children. -/
def subtreesBelowFrom (level : Nat) : Option (List Item) → List (Nat × Item)
  | none => []
  | some items => depthFirstFrom level items

/-- Items at a depth and those below them, each before its children. -/
def depthFirstFrom (level : Nat) : List Item → List (Nat × Item)
  | [] => []
  | item :: items => subtreeFrom level item ++ depthFirstFrom level items

end

/-! ## Depths and paths -/

mutual

lemma map_snd_subtreeFrom (level : Nat) (item : Item) :
    (subtreeFrom level item).map Prod.snd = subtree item := by
  match item with
  | ⟨label, value, desc, icon, children⟩ =>
    rw [subtreeFrom, subtree, List.map_cons, map_snd_subtreesBelowFrom (level + 1) children]

lemma map_snd_subtreesBelowFrom (level : Nat) (children : Option (List Item)) :
    (subtreesBelowFrom level children).map Prod.snd = subtreesBelow children := by
  match children with
  | none => rfl
  | some items => exact map_snd_depthFirstFrom level items

/-- Without their depths the items are those listed depth first. -/
lemma map_snd_depthFirstFrom (level : Nat) (items : List Item) :
    (depthFirstFrom level items).map Prod.snd = depthFirst items := by
  match items with
  | [] => rfl
  | item :: items =>
    rw [depthFirstFrom, depthFirst, List.map_append, map_snd_subtreeFrom level item,
      map_snd_depthFirstFrom level items]

end

/-- The items at the top are among those listed. -/
lemma mem_depthFirst_of_mem {item : Item} {items : List Item} (h : item ∈ items) :
    item ∈ depthFirst items := by
  induction items with
  | nil => cases h
  | cons first items ih =>
    rw [depthFirst, List.mem_append]
    obtain rfl | h := List.mem_cons.mp h
    · obtain ⟨label, value, desc, icon, children⟩ := item
      exact Or.inl List.mem_cons_self
    · exact Or.inr (ih h)

section Depths

variable {a item : Item} {items : List Item} {n level : Nat}

lemma subtreeFrom_eq (level : Nat) (item : Item) :
    subtreeFrom level item = (level, item) :: depthFirstFrom (level + 1) item.childList := by
  obtain ⟨label, value, desc, icon, children⟩ := item
  cases children <;> rfl

lemma mem_depthFirstFrom_iff_exists :
    (n, a) ∈ depthFirstFrom level items ↔ ∃ item ∈ items, (n, a) ∈ subtreeFrom level item := by
  induction items with
  | nil => simp [depthFirstFrom]
  | cons item items ih => simp [depthFirstFrom, ih]

/-- The item at the end of a path lies as many levels deeper as the path has steps. -/
lemma mem_subtreeFrom_of_descend? {path : List Nat} (h : descend? childList item path = some a) :
    (level + path.length, a) ∈ subtreeFrom level item := by
  induction path generalizing item level with
  | nil =>
    obtain rfl := Option.some.inj h
    rw [subtreeFrom_eq]
    exact List.mem_cons_self
  | cons i path ih =>
    rw [descend?, Option.bind_eq_some_iff] at h
    obtain ⟨child, hchild, hpath⟩ := h
    rw [subtreeFrom_eq, List.length_cons, show level + (path.length + 1) =
      level + 1 + path.length by omega]
    exact List.mem_cons_of_mem _
      (mem_depthFirstFrom_iff_exists.mpr ⟨child, List.mem_of_getElem? hchild, ih hpath⟩)

mutual

lemma exists_descend?_of_mem (level : Nat) (item : Item) (h : (n, a) ∈ subtreeFrom level item) :
    ∃ path, n = level + path.length ∧ descend? childList item path = some a := by
  match item with
  | ⟨label, value, desc, icon, none⟩ =>
    obtain ⟨rfl, rfl⟩ := Prod.mk.inj (List.mem_singleton.mp h)
    exact ⟨[], rfl, rfl⟩
  | ⟨label, value, desc, icon, some items⟩ =>
    rcases List.mem_cons.mp h with h | h
    · obtain ⟨rfl, rfl⟩ := Prod.mk.inj h
      exact ⟨[], rfl, rfl⟩
    · obtain ⟨i, path, hn, child, hchild, hpath⟩ := exists_getElem?_of_mem (level + 1) items h
      refine ⟨i :: path, ?_, ?_⟩
      · rw [hn, List.length_cons]
        omega
      · rw [descend?, childList, Option.getD_some, hchild, Option.bind_some]
        exact hpath

lemma exists_getElem?_of_mem (level : Nat) (items : List Item)
    (h : (n, a) ∈ depthFirstFrom level items) :
    ∃ (i : Nat) (path : List Nat), n = level + path.length ∧
      ∃ item, items[i]? = some item ∧ descend? childList item path = some a := by
  match items with
  | [] => cases h
  | item :: items =>
    rw [depthFirstFrom, List.mem_append] at h
    rcases h with h | h
    · obtain ⟨path, hn, hpath⟩ := exists_descend?_of_mem level item h
      exact ⟨0, path, hn, item, rfl, hpath⟩
    · obtain ⟨i, path, hn, found, hfound, hpath⟩ := exists_getElem?_of_mem level items h
      exact ⟨i + 1, path, hn, found, hfound, hpath⟩

end

/-- **The depth of an item is the number of steps that lead to it** from the top. -/
theorem mem_depthFirstFrom_iff :
    (n, a) ∈ depthFirstFrom 0 items ↔
      ∃ path, path.length = n + 1 ∧ pick? childList items path = some a := by
  constructor
  · intro h
    obtain ⟨i, path, hn, item, hitem, hpath⟩ := exists_getElem?_of_mem 0 items h
    refine ⟨i :: path, by rw [List.length_cons, hn, Nat.zero_add], ?_⟩
    rw [pick?, hitem, Option.bind_some]
    exact hpath
  · rintro ⟨path, hlength, hpath⟩
    cases path with
    | nil => cases hpath
    | cons i path =>
      rw [pick?, Option.bind_eq_some_iff] at hpath
      obtain ⟨item, hitem, hpath⟩ := hpath
      have hmem : (0 + path.length, a) ∈ subtreeFrom 0 item := mem_subtreeFrom_of_descend? hpath
      rw [Nat.zero_add, Nat.succ.inj hlength] at hmem
      exact mem_depthFirstFrom_iff_exists.mpr ⟨item, List.mem_of_getElem? hitem, hmem⟩

/-- **The items of a document at any depth** are those that a path leads to. -/
theorem mem_depthFirst_iff (d : Document) :
    a ∈ depthFirst d.items ↔ ∃ path, d.item? path = some a := by
  rw [← map_snd_depthFirstFrom 0, List.mem_map]
  constructor
  · rintro ⟨⟨n, a⟩, hmem, rfl⟩
    obtain ⟨path, -, hpath⟩ := mem_depthFirstFrom_iff.mp hmem
    exact ⟨path, hpath⟩
  · rintro ⟨path, hpath⟩
    cases path with
    | nil => cases hpath
    | cons i path =>
      exact ⟨(path.length, a), mem_depthFirstFrom_iff.mpr ⟨i :: path, rfl, hpath⟩, rfl⟩

end Depths

end Placard.Item
