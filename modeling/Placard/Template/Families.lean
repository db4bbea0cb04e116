import Placard.Template

set_option relaxedAutoImplicit false
set_option autoImplicit false

/-!
# Layouts by family

The layout for a name can be found in two steps. The start of the name leads to a category, and a
family of layouts keeps its own table of names. So the known names, the starts of names and the
tables of the families are five lists, each of which stands for itself.

## Main definitions

* `Placard.Template.known`: the names that are known.
* `Placard.Category.starts`, `Placard.Category.ofStart`: the category by the start of a name.
* `Placard.Family`: some layouts with their names, and the one for any other name.
* `Placard.Layout.ofFamily`: the layout for a name, found in the family of its category.
-/

namespace Placard

/-- The names that are known. -/
def Template.known : List String :=
  ["list-row-simple-horizontal-arrow",
    "list-grid-badge-card",
    "list-grid-compact-card",
    "list-column-done-list",
    "sequence-steps-simple",
    "sequence-timeline-simple",
    "sequence-snake-steps-simple",
    "sequence-ascending-steps",
    "sequence-zigzag-steps-underline-text",
    "hierarchy-tree-curved-line-rounded-rect-node",
    "hierarchy-mindmap-curved-line-compact-card",
    "chart-pie-plain-text",
    "chart-bar-plain-text",
    "chart-column-simple",
    "compare-swot",
    "compare-binary-horizontal-simple-fold",
    "quadrant-quarter-simple-card"]

namespace Category

/-- How the names of the templates of a category start. -/
def starts : List (String × Category) :=
  [("list-", .list),
    ("sequence-", .sequence),
    ("hierarchy-", .hierarchy),
    ("chart-", .chart),
    ("compare-", .compare),
    ("quadrant-", .quadrant)]

/-- The category of a template: that of the first start that its name has. -/
def ofStart (template : String) : Category :=
  ((starts.find? fun s => s.1.toList.isPrefixOf template.toList).map (·.2)).getD .unknown

end Category

/-- Layouts of one kind. -/
structure Family (α : Type) where
  /-- The layouts that have a name. -/
  named : List (String × α)
  /-- The layout for any other name. -/
  default : α

namespace Family

variable {α : Type}

/-- The layout with a name. -/
def find? (f : Family α) (template : String) : Option α :=
  (f.named.find? (·.1 == template)).map (·.2)

/-- The layout for a name. -/
def resolve (f : Family α) (template : String) : α := (f.find? template).getD f.default

end Family

/-- The layouts of plain lists. -/
def ListLayout.family : Family ListLayout where
  named :=
    [("list-row-simple-horizontal-arrow", .horizontalArrow),
      ("list-grid-badge-card", .grid false),
      ("list-grid-compact-card", .grid true),
      ("list-column-done-list", .doneList)]
  default := .grid false

/-- The layouts of ordered steps. -/
def SequenceLayout.family : Family SequenceLayout where
  named :=
    [("sequence-steps-simple", .steps),
      ("sequence-timeline-simple", .timeline),
      ("sequence-snake-steps-simple", .snake),
      ("sequence-ascending-steps", .ascending),
      ("sequence-zigzag-steps-underline-text", .zigzag)]
  default := .steps

/-- The layouts of charts. -/
def ChartLayout.family : Family ChartLayout where
  named :=
    [("chart-pie-plain-text", .pie),
      ("chart-bar-plain-text", .bar),
      ("chart-column-simple", .column)]
  default := .bar

/-- The layouts of comparisons. -/
def CompareLayout.family : Family CompareLayout where
  named := [("compare-swot", .swot)]
  default := .binary

/-- The grid of cards for a name that no layout of plain lists has. It is compact if the name says
so. -/
def ListLayout.gridFor (template : String) : ListLayout :=
  if Template.mentions template "compact" then .grid true else ListLayout.family.default

/-- The tree for a name. It is a mind map if the name says so. -/
def HierarchyLayout.treeFor (template : String) : HierarchyLayout :=
  if Template.mentions template "mindmap" then .mindmap else .tree

/-- The layout for a name, found in the family of its category. -/
def Layout.ofFamily (template : String) : Layout :=
  match Category.ofStart template with
  | .list =>
    .list ((ListLayout.family.find? template).getD (ListLayout.gridFor template))
  | .sequence => .sequence (SequenceLayout.family.resolve template)
  | .hierarchy => .hierarchy (HierarchyLayout.treeFor template)
  | .chart => .chart (ChartLayout.family.resolve template)
  | .compare => .compare (CompareLayout.family.resolve template)
  | .quadrant => .quadrant
  | .unknown => .list (ListLayout.gridFor template)

end Placard
