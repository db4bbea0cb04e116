import Mathlib.Tactic.Lemma
import Placard.Document.Parse

set_option relaxedAutoImplicit false
set_option autoImplicit false

/-!
# Paths

A path leads to an item of a document: its first number picks one of the items at the top, and each
further number one of the children. The same path leads to the entry that the item comes from. This
file also says what it means that two documents are the same but for the item at a path.

## Main definitions

* `Placard.pick?`: the member of a forest at a path.
* `Placard.Document.item?`, `Placard.entryAt?`: the item of a document and the entry of a source at
  a path.
* `Placard.Document.DiffersAt`: two documents that differ in the item at a path only.

## Main results

* `Placard.item?_of_parse`: the entry at a path describes the item at that path.
* `Placard.Item.Replaced.elsewhere`, `Placard.Item.Replaced.above`: what stays when one item is
  replaced.
-/

namespace Placard

/-! ## Members of a forest -/

section Forest

variable {α β : Type}

/-- The member that a path leads to from a member of a forest. -/
def descend? (below : α → List α) : α → List Nat → Option α
  | a, [] => some a
  | a, i :: path => (below a)[i]?.bind (descend? below · path)

/-- The member of a forest at a path. The empty path leads nowhere. -/
def pick? (below : α → List α) (roots : List α) : List Nat → Option α
  | [] => none
  | i :: path => roots[i]?.bind (descend? below · path)

variable {below : α → List α} {below' : β → List β} {f : α → β}

/-- No path leads to a member of an empty forest. -/
lemma pick?_nil_ne_some {a : α} (path : List Nat) : pick? below [] path ≠ some a := by
  intro h
  cases path <;> cases h

lemma descend?_map (h : ∀ a, below' (f a) = (below a).map f) (a : α) (path : List Nat) :
    descend? below' (f a) path = (descend? below a path).map f := by
  induction path generalizing a with
  | nil => rfl
  | cons i path ih =>
    rw [descend?, descend?, h, List.getElem?_map]
    cases (below a)[i]? with
    | none => rfl
    | some b => exact ih b

/-- Paths lead to corresponding members of corresponding forests. -/
lemma pick?_map (h : ∀ a, below' (f a) = (below a).map f) (roots : List α) (path : List Nat) :
    pick? below' (roots.map f) path = (pick? below roots path).map f := by
  cases path with
  | nil => rfl
  | cons i path =>
    rw [pick?, pick?, List.getElem?_map]
    cases roots[i]? with
    | none => rfl
    | some a => exact descend?_map h a path

end Forest

/-- The entries below an entry, none if it has no list of children. -/
def Entry.childList (e : Entry) : List Entry := e.children.getD []

/-- The item of a document at a path. -/
def Document.item? (d : Document) (path : List Nat) : Option Item :=
  pick? Item.childList d.items path

/-- The entry of an outline at a path. -/
def Outline.at? (outline : Outline) (path : List Nat) : Option Entry :=
  pick? Entry.childList outline.data.entries path

/-- The entry of a source at a path. -/
def entryAt? (source : String) (path : List Nat) : Option Entry :=
  (Outline.ofSource source).toOption.bind fun found => found.2.at? path

section Entries

lemma toItems_eq_map (es : List Entry) : Entry.toItems es = es.map Entry.toItem := by
  induction es with
  | nil => rfl
  | cons e es ih => rw [Entry.toItems, ih, List.map_cons]

lemma childList_toItem (e : Entry) : e.toItem.childList = e.childList.map Entry.toItem := by
  obtain ⟨line, header, properties, children⟩ := e
  cases children with
  | none => rfl
  | some es => exact toItems_eq_map es

/-- **The entry at a path describes the item at that path.** -/
theorem item?_of_parse {source : String} {d : Document} (h : parse source = .ok d)
    (path : List Nat) : d.item? path = (entryAt? source path).map Entry.toItem := by
  rw [parse] at h
  rw [entryAt?]
  cases houtline : Outline.ofSource source with
  | error e =>
    rw [houtline] at h
    exact absurd h (by simp [Except.map])
  | ok found =>
    rw [houtline] at h
    obtain rfl : found.2.toDocument found.1 = d := Except.ok.inj h
    have hmap := pick?_map childList_toItem found.2.data.entries path
    rw [← toItems_eq_map] at hmap
    exact hmap

end Entries

/-! ## Documents that differ in one item -/

/-- Two documents that are the same but for the item at a path: the title and the like are the same,
every item that is neither that one nor above or below it is the same, and every item above it has
the same label, value, description and icon and as many children. -/
structure Document.DiffersAt (path : List Nat) (d d' : Document) : Prop where
  /-- The template is the same. -/
  template : d'.template = d.template
  /-- The heading is the same. -/
  title : d'.title = d.title
  /-- The color scheme is the same. -/
  theme : d'.theme = d.theme
  /-- There are as many items at the top. -/
  length : d'.items.length = d.items.length
  /-- There still is an item at the path. -/
  there : (d'.item? path).isSome = true
  /-- Items beside the path are the same. -/
  elsewhere : ∀ q, ¬ path <+: q → ¬ q <+: path → d'.item? q = d.item? q
  /-- Items above it are the same but for their children, of which there are as many. -/
  above : ∀ q, q <+: path → q ≠ path → ∀ a, d.item? q = some a →
    ∃ a', d'.item? q = some a' ∧ a'.label = a.label ∧ a'.value = a.value ∧ a'.desc = a.desc ∧
      a'.icon = a.icon ∧ a'.children.map List.length = a.children.map List.length

/-- Two forests of items that are the same but for the item at a path. -/
inductive Item.Replaced : List Nat → List Item → List Item → Prop
  /-- The item is one of the forest. -/
  | here {items : List Item} {i : Nat} (h : i < items.length) (item : Item) :
    Replaced [i] items (items.set i item)
  /-- It is among the items below one of them. -/
  | inside {items children children' : List Item} {i : Nat} {parent : Item} {path : List Nat}
    (h : items[i]? = some parent) (hchildren : parent.children = some children)
    (hpath : Replaced path children children') :
    Replaced (i :: path) items (items.set i { parent with children := some children' })

namespace Item.Replaced

variable {path : List Nat} {items items' : List Item}

lemma length_eq (h : Replaced path items items') : items'.length = items.length := by
  cases h with
  | here => exact List.length_set
  | inside => exact List.length_set

lemma getElem?_set_of_eq_some {i : Nat} {parent : Item} (h : items[i]? = some parent)
    (item : Item) : (items.set i item)[i]? = some item := by
  rw [List.getElem?_set_self (List.getElem?_eq_some_iff.mp h).1]

/-- There still is an item at the path. -/
lemma there (h : Replaced path items items') : (pick? childList items' path).isSome = true := by
  induction h with
  | here h item =>
    rw [pick?, List.getElem?_set_self h]
    rfl
  | @inside items children children' i parent path h hchildren hpath ih =>
    rw [pick?, getElem?_set_of_eq_some h, Option.bind_some]
    cases path with
    | nil => cases hpath
    | cons j path => exact ih

/-- **An item beside the path stays.**

**Proof sketch.** Induction on the way to the replaced item. As long as the other path goes along
there is nothing to show, and where it leaves it finds an item that has not been touched. -/
theorem elsewhere (h : Replaced path items items') {q : List Nat} (hbelow : ¬ path <+: q)
    (habove : ¬ q <+: path) : pick? childList items' q = pick? childList items q := by
  induction h generalizing q with
  | @here items i h item =>
    cases q with
    | nil => exact absurd List.nil_prefix habove
    | cons j q =>
      have hne : i ≠ j := by
        rintro rfl
        exact hbelow (List.prefix_append [i] q)
      rw [pick?, pick?, List.getElem?_set_ne hne]
  | @inside items children children' i parent path h hchildren hpath ih =>
    cases q with
    | nil => exact absurd List.nil_prefix habove
    | cons j q =>
      by_cases hij : i = j
      · subst hij
        rw [List.cons_prefix_cons] at hbelow habove
        have hlater := ih (fun hp => hbelow ⟨rfl, hp⟩) (fun hp => habove ⟨rfl, hp⟩)
        cases q with
        | nil => exact absurd List.nil_prefix fun hp => habove ⟨rfl, hp⟩
        | cons k q =>
          have hlist : parent.childList = children := by rw [childList, hchildren]; rfl
          rw [pick?, pick?, getElem?_set_of_eq_some h, h, Option.bind_some, Option.bind_some,
            descend?, descend?, hlist]
          exact hlater
      · rw [pick?, pick?, List.getElem?_set_ne hij]

/-- **An item above the path keeps all but its children**, and the number of these.

**Proof sketch.** Induction on the way to the replaced item, which passes every item above it. -/
theorem above (h : Replaced path items items') {q : List Nat} (hq : q <+: path) (hne : q ≠ path)
    {a : Item} (ha : pick? childList items q = some a) :
    ∃ a', pick? childList items' q = some a' ∧ a'.label = a.label ∧ a'.value = a.value ∧
      a'.desc = a.desc ∧ a'.icon = a.icon ∧
      a'.children.map List.length = a.children.map List.length := by
  induction h generalizing q with
  | @here items i h item =>
    cases q with
    | nil => simp [pick?] at ha
    | cons j q =>
      obtain ⟨rfl, hq'⟩ := List.cons_prefix_cons.mp hq
      exact absurd (congrArg (j :: ·) (List.prefix_nil.mp hq')) hne
  | @inside items children children' i parent path h hchildren hpath ih =>
    cases q with
    | nil => simp [pick?] at ha
    | cons j q =>
      obtain ⟨rfl, hq'⟩ := List.cons_prefix_cons.mp hq
      have hlist : parent.childList = children := by rw [childList, hchildren]; rfl
      rw [pick?, h, Option.bind_some] at ha
      rw [pick?, getElem?_set_of_eq_some h, Option.bind_some]
      cases q with
      | nil =>
        obtain rfl : parent = a := Option.some.inj ha
        refine ⟨_, rfl, rfl, rfl, rfl, rfl, ?_⟩
        rw [hchildren, Option.map_some, Option.map_some, hpath.length_eq]
      | cons k q =>
        rw [descend?, hlist] at ha
        exact ih hq' (fun heq => hne (congrArg (j :: ·) heq)) ha

end Item.Replaced

end Placard
