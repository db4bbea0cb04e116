import Placard.Drawing.Icon
import Placard.Document.Basic
import Placard.Template

set_option relaxedAutoImplicit false
set_option autoImplicit false

/-!
# Lint

Every document is drawn, but not always the way its author meant: items without a place are left
out, values that are no numbers count as zero, broken icons become a sign. Lint reports these cases.

## Main definitions

* `Placard.Finding`: one such case; `Placard.Finding.message`: what is said about it.
* `Placard.Document.lint`: the findings for a document.
-/

namespace Placard

/-- What a finding is about. -/
inductive Finding.Kind where
  /-- The template. -/
  | template
  /-- The number of items. -/
  | cardinality
  /-- The value of an item. -/
  | value
  /-- A chart as a whole. -/
  | chart
  /-- An icon. -/
  | icon
deriving DecidableEq, Repr

/-- The name of a kind of finding. -/
def Finding.Kind.name : Finding.Kind → String
  | .template => "template"
  | .cardinality => "cardinality"
  | .value => "value"
  | .chart => "chart"
  | .icon => "icon"

/-- A layout with a fixed number of places. -/
structure Places where
  /-- How many items it draws. -/
  count : Nat
  /-- What the places are called. -/
  name : String
deriving DecidableEq, Repr

/-- The places of a layout, if their number is fixed. -/
def Layout.places? : Layout → Option Places
  | .compare .swot => some { count := 4, name := "SWOT quadrants" }
  | .compare .binary => some { count := 2, name := "comparison panels" }
  | .quadrant => some { count := 4, name := "quadrant cells" }
  | _ => none

/-- A case in which a document is not drawn the way its author may have meant. -/
inductive Finding where
  /-- The template is not known. -/
  | unknownTemplate (template : String)
  /-- There are more items than places; `last` is the label of the last item drawn. -/
  | surplusItems (given : Nat) (places : Places) (last : String)
  /-- An item of a chart has no value. -/
  | noValue (label : String)
  /-- An item of a chart has a text for a value. -/
  | textValue (label text : String)
  /-- An item of a chart has a value that is negative or not finite. -/
  | unchartedValue (label : String) (value : Float)
  /-- A chart shows nothing at all. -/
  | emptyChart
  /-- The icon of an item is not a collection and a name. -/
  | brokenIcon (label icon : String)
deriving Repr

namespace Finding

/-- What a finding is about. -/
def kind : Finding → Kind
  | .unknownTemplate _ => .template
  | .surplusItems .. => .cardinality
  | .noValue _ | .textValue .. | .unchartedValue .. => .value
  | .emptyChart => .chart
  | .brokenIcon .. => .icon

/-- How a template that is not known is drawn. -/
def fallbackName (template : String) : String :=
  match Category.ofTemplate template with
  | .unknown => "the list card grid"
  | c => "the generic " ++ c.name ++ " layout"

/-- What is said about a finding. -/
def message : Finding → String
  | .unknownTemplate template =>
    "unknown template \"" ++ template ++ "\", rendering with " ++ fallbackName template
  | .surplusItems given places last =>
    toString given ++ " items given but only " ++ toString places.count ++ " " ++ places.name
      ++ " are drawn; items after \"" ++ last ++ "\" are ignored"
  | .noValue label => "item \"" ++ label ++ "\" has no value; drawn as 0"
  | .textValue label text =>
    "item \"" ++ label ++ "\" has non-numeric value \"" ++ text ++ "\"; drawn as 0"
  | .unchartedValue label value =>
    "item \"" ++ label ++ "\" has value " ++ floatText value
      ++ " which cannot be charted; drawn as 0"
  | .emptyChart => "every chart value is 0; all slices and bars are empty"
  | .brokenIcon label icon =>
    "item \"" ++ label ++ "\" has icon \"" ++ icon
      ++ "\", expected prefix:name; showing fallback glyph"

/-- The message behind the name of its kind. -/
def display (f : Finding) : String := "[" ++ f.kind.name ++ "] " ++ f.message

end Finding

namespace Item

/-- The finding about the value of an item of a chart. -/
def lintValue (item : Item) : Option Finding :=
  match item.value with
  | none => some (.noValue item.label)
  | some (.text text) => some (.textValue item.label text)
  | some (.number x) =>
    if !x.isFinite || x < 0 then some (.unchartedValue item.label x) else none

/-- The finding about an icon. -/
def lintIcon (label : String) : Option String → List Finding
  | some icon => if (Icon.split? icon).isNone then [.brokenIcon label icon] else []
  | none => []

mutual

/-- The findings about the icons of an item and of those below it. -/
def lintIcons : Item → List Finding
  | ⟨label, _, _, icon, children⟩ => lintIcon label icon ++ lintIconsBelow children

/-- The findings about the icons of the items below an item. -/
def lintIconsBelow : Option (List Item) → List Finding
  | none => []
  | some items => lintIconsAll items

/-- The findings about the icons of items and of those below them. -/
def lintIconsAll : List Item → List Finding
  | [] => []
  | item :: items => lintIcons item ++ lintIconsAll items

end

end Item

namespace Document

/-- The finding about a template that is not known. -/
def lintTemplate (d : Document) : List Finding :=
  if Template.isKnown d.template then [] else [.unknownTemplate d.template]

/-- The finding about items without a place. -/
def lintPlaces (d : Document) : List Finding :=
  match (Layout.ofTemplate d.template).places? with
  | none => []
  | some places =>
    match d.items.take places.count |>.getLast? with
    | some last =>
      if places.count < d.items.length then
        [.surplusItems d.items.length places last.label]
      else []
    | none => []

/-- The findings about the values in a chart. -/
def lintChart (d : Document) : List Finding :=
  match Layout.ofTemplate d.template with
  | .chart _ =>
    if d.items.isEmpty then []
    else
      d.items.filterMap Item.lintValue
        ++ if d.items.all (·.magnitude == 0) then [.emptyChart] else []
  | _ => []

/-- The findings for a document: template, number of items, values, icons. -/
def lint (d : Document) : List Finding :=
  d.lintTemplate ++ d.lintPlaces ++ d.lintChart ++ Item.lintIconsAll d.items

end Document

end Placard
