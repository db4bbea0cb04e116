import Placard.Text.Infix

set_option relaxedAutoImplicit false
set_option autoImplicit false

/-!
# Templates

A document names the template it is drawn with. The start of the name tells the category, and the
whole name the layout. A name that is not in the table is drawn with the generic layout of its
category, so every name is drawn somehow.

## Main definitions

* `Placard.Layout`: the ways to lay out items.
* `Placard.Category`, `Placard.Category.ofTemplate`: the families of templates.
* `Placard.Template.table`: the known names with their layouts.
* `Placard.Layout.ofTemplate`: the layout for any name.
-/

namespace Placard

/-- The layouts of plain lists. -/
inductive ListLayout where
  /-- Numbered nodes joined by arrows. -/
  | horizontalArrow
  /-- A grid of cards. -/
  | grid (compact : Bool)
  /-- A checklist. -/
  | doneList
deriving DecidableEq, Repr

/-- The layouts of ordered steps. -/
inductive SequenceLayout where
  /-- Numbered steps joined by lines. -/
  | steps
  /-- Dots along a line. -/
  | timeline
  /-- Steps on alternating sides. -/
  | snake
  /-- Steps that rise. -/
  | ascending
  /-- Underlined steps on alternating sides. -/
  | zigzag
deriving DecidableEq, Repr

/-- The layouts of trees. -/
inductive HierarchyLayout where
  /-- A tree from top to bottom. -/
  | tree
  /-- A mind map. -/
  | mindmap
deriving DecidableEq, Repr

/-- The layouts of charts. -/
inductive ChartLayout where
  /-- Slices of a circle. -/
  | pie
  /-- Horizontal bars. -/
  | bar
  /-- Vertical columns. -/
  | column
deriving DecidableEq, Repr

/-- The layouts of comparisons. -/
inductive CompareLayout where
  /-- Strengths, weaknesses, opportunities and threats. -/
  | swot
  /-- Two panels. -/
  | binary
deriving DecidableEq, Repr

/-- The ways to lay out the items of a document. -/
inductive Layout where
  /-- A plain list. -/
  | list (layout : ListLayout)
  /-- Ordered steps. -/
  | sequence (layout : SequenceLayout)
  /-- A tree. -/
  | hierarchy (layout : HierarchyLayout)
  /-- A chart. -/
  | chart (layout : ChartLayout)
  /-- A comparison. -/
  | compare (layout : CompareLayout)
  /-- Four cells. -/
  | quadrant
deriving DecidableEq, Repr

/-- The families of templates. -/
inductive Category where
  /-- Plain lists. -/
  | list
  /-- Ordered steps. -/
  | sequence
  /-- Trees. -/
  | hierarchy
  /-- Charts. -/
  | chart
  /-- Comparisons. -/
  | compare
  /-- Four cells. -/
  | quadrant
  /-- Names that start like none of the others. -/
  | unknown
deriving DecidableEq, Repr

namespace Category

/-- The name of a category. -/
def name : Category → String
  | .list => "list"
  | .sequence => "sequence"
  | .hierarchy => "hierarchy"
  | .chart => "chart"
  | .compare => "compare"
  | .quadrant => "quadrant"
  | .unknown => "unknown"

/-- The categories that a template's name can start with. -/
def named : List Category := [.list, .sequence, .hierarchy, .chart, .compare, .quadrant]

/-- Whether a template's name starts with that of the category and a dash. -/
def leads (c : Category) (template : String) : Bool :=
  (c.name ++ "-").toList.isPrefixOf template.toList

/-- The category of a template, by the start of its name. -/
def ofTemplate (template : String) : Category :=
  (named.find? (·.leads template)).getD .unknown

end Category

namespace Template

/-- The known templates and their layouts. -/
def table : List (String × Layout) :=
  [("list-row-simple-horizontal-arrow", .list .horizontalArrow),
    ("list-grid-badge-card", .list (.grid false)),
    ("list-grid-compact-card", .list (.grid true)),
    ("list-column-done-list", .list .doneList),
    ("sequence-steps-simple", .sequence .steps),
    ("sequence-timeline-simple", .sequence .timeline),
    ("sequence-snake-steps-simple", .sequence .snake),
    ("sequence-ascending-steps", .sequence .ascending),
    ("sequence-zigzag-steps-underline-text", .sequence .zigzag),
    ("hierarchy-tree-curved-line-rounded-rect-node", .hierarchy .tree),
    ("hierarchy-mindmap-curved-line-compact-card", .hierarchy .mindmap),
    ("chart-pie-plain-text", .chart .pie),
    ("chart-bar-plain-text", .chart .bar),
    ("chart-column-simple", .chart .column),
    ("compare-swot", .compare .swot),
    ("compare-binary-horizontal-simple-fold", .compare .binary),
    ("quadrant-quarter-simple-card", .quadrant)]

/-- The names of the known templates. -/
def names : List String := table.map (·.1)

/-- Whether a template is known. -/
def isKnown (template : String) : Bool := names.contains template

/-- Whether a word stands in the name of a template. -/
def mentions (template word : String) : Bool := Text.contains word.toList template.toList

end Template

namespace Layout

/-- The layout for a name that is not in the table. The grid is compact and the tree a mind map if
the name says so. -/
def generic (c : Category) (template : String) : Layout :=
  match c with
  | .list | .unknown => .list (.grid (Template.mentions template "compact"))
  | .sequence => .sequence .steps
  | .hierarchy =>
    .hierarchy (if Template.mentions template "mindmap" then .mindmap else .tree)
  | .chart => .chart .bar
  | .compare => .compare .binary
  | .quadrant => .quadrant

/-- The layout for a template: that of the table, or the generic one of its category. -/
def ofTemplate (template : String) : Layout :=
  (Template.table.lookup template).getD (generic (Category.ofTemplate template) template)

end Layout

end Placard
