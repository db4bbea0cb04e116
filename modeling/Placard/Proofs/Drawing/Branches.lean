import Placard.Proofs.Document.DepthFirst
import Placard.Proofs.Drawing.Entries
import Placard.Proofs.Drawing.Parts

set_option relaxedAutoImplicit false
set_option autoImplicit false

/-!
# One branch for each item of a tree

A hierarchy layout draws the items of all depths: each has a branch of its own, and the branches of
its children stand in a group inside that. This file finds the branches by their class name, and
compares them with the items listed depth first.

## Main definitions

* `Placard.Item.pruneAll`: the items, with empty lists of children taken away at any depth.
* `Placard.Drawing.BranchOf`: a figure shows an item, with its depth and with its children.

## Main results

* `Placard.Item.prune_eq`: what pruning takes away.
* `Placard.Drawing.findAllIn_branches`: the branches found are those of all items, in order.
* `Placard.Drawing.tree_mirrors_items`: a tree mirrors the items that it is drawn from.
-/

namespace Placard

namespace Item

/-! ## Empty lists of children -/

mutual

/-- The item, with empty lists of children taken away from it and from those below it. -/
def prune : Item → Item
  | ⟨label, value, desc, icon, children⟩ => ⟨label, value, desc, icon, pruneBelow children⟩

/-- The list of children, if it is not empty. -/
def pruneBelow : Option (List Item) → Option (List Item)
  | none => none
  | some [] => none
  | some (item :: items) => some (prune item :: pruneAll items)

/-- The items, with empty lists of children taken away from them and from those below them. -/
def pruneAll : List Item → List Item
  | [] => []
  | item :: items => prune item :: pruneAll items

end

lemma pruneAll_eq_map (items : List Item) : pruneAll items = items.map prune := by
  induction items with
  | nil => rfl
  | cons item items ih => rw [pruneAll, ih, List.map_cons]

/-- **Pruning takes away empty lists of children**, and leaves everything else. -/
theorem prune_eq (item : Item) :
    prune item = { item with
      children := if item.childList.isEmpty then none else some (item.childList.map prune) } := by
  match item with
  | ⟨_, _, _, _, none⟩ => rfl
  | ⟨_, _, _, _, some []⟩ => rfl
  | ⟨_, _, _, _, some (child :: items)⟩ =>
    rw [prune, pruneBelow, pruneAll_eq_map]
    rfl

end Item

namespace Drawing

open Figure Item

/-! ## The branches of a tree -/

/-- The class name of the branches. -/
def branchClass : String := "tree-node-wrapper"

section Branches

lemma branch_eq (level : Nat) (item : Item) :
    branch level item =
      { classes := [branchClass]
        styles := [⟨"--level", .index level⟩]
        children := treeNode item.label item.desc ::
          treeGroup (branches (level + 1) item.childList) } := by
  obtain ⟨label, value, desc, icon, children⟩ := item
  cases children <;> rfl

lemma hasClass_branch (level : Nat) (item : Item) :
    (branch level item).hasClass branchClass = true := by
  rw [branch_eq]
  rfl

/-- The box that shows an item is no branch, and there is none inside. -/
lemma findAll_treeNode (label : String) (desc : Option String) :
    (treeNode label desc).findAll branchClass = [] := by
  cases desc <;> rfl

/-- The group of the children is no branch: only those in it are found. -/
lemma findAllIn_treeGroup (below : List Figure) :
    findAllIn branchClass (treeGroup below) = findAllIn branchClass below := by
  cases below with
  | nil => rfl
  | cons f fs =>
    have hgroup : (block "tree-children" (f :: fs)).hasClass branchClass = false := by rfl
    rw [treeGroup, List.isEmpty_cons, if_neg Bool.false_ne_true, findAllIn,
      findAll_of_not_hasClass hgroup, findAllIn, List.append_nil]
    rfl

/-- In a branch it is found itself, and then those of the children. -/
lemma findAll_branch (level : Nat) (item : Item) :
    (branch level item).findAll branchClass =
      branch level item :: findAllIn branchClass (branches (level + 1) item.childList) := by
  rw [findAll_of_hasClass (hasClass_branch level item)]
  congr 1
  rw [branch_eq, findAllIn, findAll_treeNode, findAllIn_treeGroup, List.nil_append]

mutual

lemma findAll_branch_eq (level : Nat) (item : Item) :
    (branch level item).findAll branchClass =
      (subtreeFrom level item).map fun p => branch p.1 p.2 := by
  match item with
  | ⟨label, value, desc, icon, none⟩ => exact findAll_branch level _
  | ⟨label, value, desc, icon, some items⟩ =>
    rw [findAll_branch, childList, Option.getD_some, findAllIn_branches (level + 1) items]
    rfl

/-- **The branches found in a forest are those of all its items**, in the same order. -/
theorem findAllIn_branches (level : Nat) (items : List Item) :
    findAllIn branchClass (branches level items) =
      (depthFirstFrom level items).map fun p => branch p.1 p.2 := by
  match items with
  | [] => rfl
  | item :: items =>
    rw [branches, findAllIn, depthFirstFrom, List.map_append, findAll_branch_eq level item,
      findAllIn_branches level items]

end

mutual

lemma branch_prune (level : Nat) (item : Item) : branch level (prune item) = branch level item := by
  match item with
  | ⟨label, value, desc, icon, below⟩ =>
    rw [prune, branch, branch, branchesBelow_pruneBelow (level + 1) below]

lemma branchesBelow_pruneBelow (level : Nat) (below : Option (List Item)) :
    branchesBelow level (pruneBelow below) = branchesBelow level below := by
  match below with
  | none => rfl
  | some [] => rfl
  | some (item :: items) =>
    rw [pruneBelow, branchesBelow, branchesBelow, branches, branches, branch_prune level item,
      branches_pruneAll level items]

/-- An empty list of children is drawn like none. -/
lemma branches_pruneAll (level : Nat) (items : List Item) :
    branches level (pruneAll items) = branches level items := by
  match items with
  | [] => rfl
  | item :: items =>
    rw [pruneAll, branches, branches, branch_prune level item, branches_pruneAll level items]

end

end Branches

/-! ## What a branch shows -/

/-- Whether a figure shows an item at a depth: the item itself in the first figure inside, and its
children in a group of their branches, which is there if there are any. -/
structure BranchOf (level : Nat) (item : Item) (f : Figure) : Prop where
  /-- It carries the class name of branches. -/
  classes : f.classes = [branchClass]
  /-- It notes the depth. -/
  depth : f.style? "--level" = some (.index level)
  /-- The first figure inside shows the label, and the description if there is one. -/
  node : ∃ node, f.children.head? = some node ∧ node.classes = ["tree-node"] ∧
    (node.childrenWithClass "tree-label").map (·.text) = [some item.label] ∧
    (node.childrenWithClass "tree-desc").map (·.text) = item.desc.toList.map some
  /-- Without children there is no group. -/
  groupless : item.childList = [] → f.childrenWithClass "tree-children" = []
  /-- With children there is one group, and their branches stand in it. -/
  group : item.childList ≠ [] → ∃ group, f.childrenWithClass "tree-children" = [group] ∧
    group.children = item.childList.map (branch (level + 1))

lemma treeNode_shows (label : String) (desc : Option String) :
    (treeNode label desc).classes = ["tree-node"] ∧
      ((treeNode label desc).childrenWithClass "tree-label").map (·.text) = [some label] ∧
      ((treeNode label desc).childrenWithClass "tree-desc").map (·.text) =
        desc.toList.map some := by
  cases desc <;> exact ⟨rfl, rfl, rfl⟩

lemma childrenWithClass_branch (level : Nat) (item : Item) :
    (branch level item).childrenWithClass "tree-children" =
      treeGroup (item.childList.map (branch (level + 1))) := by
  rw [branch_eq, branches_eq_map]
  cases item.childList <;> rfl

/-- A branch shows its item. -/
lemma branchOf_branch (level : Nat) (item : Item) : BranchOf level item (branch level item) where
  classes := by rw [branch_eq]
  depth := by
    rw [branch_eq]
    rfl
  node := by
    refine ⟨treeNode item.label item.desc, ?_, treeNode_shows item.label item.desc⟩
    rw [branch_eq]
    rfl
  groupless := by
    intro h
    rw [childrenWithClass_branch, h]
    rfl
  group := by
    intro h
    refine ⟨block "tree-children" (item.childList.map (branch (level + 1))), ?_, rfl⟩
    rw [childrenWithClass_branch, treeGroup, if_neg]
    rwa [List.isEmpty_iff, List.map_eq_nil_iff]

lemma findAll_tree (items : List Item) (layout : HierarchyLayout) :
    (tree items layout).findAll branchClass =
      (depthFirstFrom 0 items).map fun p => branch p.1 p.2 := by
  have hboard : (tree items layout).hasClass branchClass = false := by
    cases layout <;> rfl
  rw [findAll_of_not_hasClass hboard]
  exact findAllIn_branches 0 items

/-- **A tree mirrors the items that it is drawn from.** The branches in it, found depth first, are
those of the items listed depth first with their depths: each notes the depth of its item, shows its
label and its description in the first figure inside, and has a group with the branches of the
children, if there are any. A tree and a mind map differ in the class name of the outermost figure
only, and an empty list of children is drawn like none, at any depth.

**Proof sketch.** Induction on the items: a branch is found before those inside it, which all stand
in the group of the children, and neither the group nor the box with the texts is found
(`findAllIn_branches`). -/
theorem tree_mirrors_items (items : List Item) (layout : HierarchyLayout) :
    (tree items layout).findAll branchClass =
        (depthFirstFrom 0 items).map (fun p => branch p.1 p.2) ∧
      (depthFirstFrom 0 items).map Prod.snd = depthFirst items ∧
      (∀ n item, (n, item) ∈ depthFirstFrom 0 items ↔
        ∃ path, path.length = n + 1 ∧ pick? childList items path = some item) ∧
      (∀ level item, BranchOf level item (branch level item)) ∧
      tree items .tree = { tree items layout with classes := ["tree"] } ∧
      tree items .mindmap = { tree items layout with classes := ["mindmap"] } ∧
      tree (pruneAll items) layout = tree items layout := by
  refine ⟨findAll_tree items layout, map_snd_depthFirstFrom 0 items,
    fun n item => mem_depthFirstFrom_iff, branchOf_branch, rfl, rfl, ?_⟩
  rw [tree, branches_pruneAll]
  rfl

end Drawing

end Placard
