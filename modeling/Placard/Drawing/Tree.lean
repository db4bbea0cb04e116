import Placard.Drawing.Rows

set_option relaxedAutoImplicit false
set_option autoImplicit false

/-!
# Trees

A tree and a mind map draw the items with those below them, and note at each item how deep it lies.

## Main definitions

* `Placard.Drawing.branches`: the figures for a forest of items at a depth.
* `Placard.Drawing.tree`: the figure for a hierarchy layout.
-/

namespace Placard.Drawing

/-- The box that shows an item. -/
def treeNode (label : String) (desc : Option String) : Figure :=
  .block "tree-node" (.textBlock "tree-label" label :: optionalText "tree-desc" desc)

/-- The box around those of the items below an item, if there are any. -/
def treeGroup (below : List Figure) : List Figure :=
  if below.isEmpty then [] else [.block "tree-children" below]

mutual

/-- The figure for an item at a depth, with the items below it inside. -/
def branch (level : Nat) : Item → Figure
  | ⟨label, _, desc, _, children⟩ =>
    { classes := ["tree-node-wrapper"]
      styles := [⟨"--level", .index level⟩]
      children := treeNode label desc :: treeGroup (branchesBelow (level + 1) children) }

/-- The figures for the items below an item. -/
def branchesBelow (level : Nat) : Option (List Item) → List Figure
  | none => []
  | some items => branches level items

/-- The figures for items at a depth. -/
def branches (level : Nat) : List Item → List Figure
  | [] => []
  | item :: items => branch level item :: branches level items

end

/-- The class name of a hierarchy layout. -/
def treeClass : HierarchyLayout → String
  | .tree => "tree"
  | .mindmap => "mindmap"

/-- The figure for a hierarchy layout. -/
def tree (items : List Item) (layout : HierarchyLayout) : Figure :=
  .block (treeClass layout) (branches 0 items)

end Placard.Drawing
