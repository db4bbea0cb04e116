set_option relaxedAutoImplicit false
set_option autoImplicit false

/-!
# Base styles

The rules that a document of its own carries so that it looks right without any other style sheet.
Class names and custom properties carry the class prefix.

## Main definitions

* `Placard.Markup.Rule`: a rule; `Placard.Markup.baseRules`: all of them.
* `Placard.Markup.baseStyles`: the rules as text.
-/

namespace Placard.Markup

/-- A part of the value of a declaration. -/
inductive ValuePart where
  /-- Plain text. -/
  | text (s : String)
  /-- The value of a custom property. -/
  | property (name : String)
deriving DecidableEq, Repr

instance : Coe String (List ValuePart) where
  coe s := [.text s]

/-- The value of a custom property, alone. -/
def property (name : String) : List ValuePart := [.property name]

/-- A rule: the classes it is for, and what it declares. -/
structure Rule where
  /-- The class names. -/
  classes : List String
  /-- Names and values of the declared properties. -/
  declarations : List (String × List ValuePart)
deriving DecidableEq, Repr

/-- The rule for the given classes. -/
def rule (classes : List String) (declarations : List (String × List ValuePart)) : Rule :=
  { classes, declarations }

/-- A part of a value as it is written. -/
def ValuePart.write (classPrefix : String) : ValuePart → String
  | .text s => s
  | .property name => "var(--" ++ classPrefix ++ name ++ ")"

/-- A declaration as it is written, up to its semicolon. -/
def writeDeclaration (classPrefix : String) (d : String × List ValuePart) : String :=
  d.1 ++ ": " ++ String.join (d.2.map (·.write classPrefix)) ++ ";"

/-- A rule as it is written, on one line. -/
def Rule.write (classPrefix : String) (r : Rule) : String :=
  ", ".intercalate (r.classes.map fun c => "." ++ classPrefix ++ c) ++ " \x7b "
    ++ " ".intercalate (r.declarations.map (writeDeclaration classPrefix)) ++ " \x7d"

/-- The rules, from the outer box to the icons. -/
def baseRules : List Rule :=
  [rule ["wrapper"]
      [("font-family", "system-ui, sans-serif"), ("background", property "bg"),
       ("color", property "text"), ("padding", "24px"), ("border-radius", "12px")],
    rule ["title"] [("font-size", "1.5em"), ("font-weight", "600"), ("margin-bottom", "16px")],
    rule ["item-desc", "card-desc", "done-desc", "step-desc", "timeline-desc", "snake-desc",
        "ascending-desc", "zigzag-desc", "tree-desc", "compare-desc", "quadrant-desc",
        "swot-content"]
      [("color", property "text-muted"), ("font-size", "0.9em")],
    rule ["horizontal-arrow-list"]
      [("display", "flex"), ("align-items", "center"), ("gap", "8px")],
    rule ["arrow-item"] [("display", "flex"), ("align-items", "center"), ("gap", "8px")],
    rule ["step-number", "step-num", "snake-num", "ascending-num", "zigzag-num"]
      [("background", property "accent"), ("color", property "bg"), ("border-radius", "50%"),
       ("min-width", "28px"), ("text-align", "center")],
    rule ["arrow"] [("color", property "accent")],
    rule ["grid-list"]
      [("display", "grid"), ("grid-template-columns", "repeat(auto-fill, minmax(180px, 1fr))"),
       ("gap", "12px")],
    rule ["badge-card", "compact-card"]
      [("background", property "surface"), ("border", [.text "1px solid ", .property "border"]),
       ("border-radius", "8px"), ("padding", "12px")],
    rule ["compact-card"] [("padding", "6px")],
    rule ["card-value"]
      [("display", "inline-block"), ("background", property "accent-light"),
       ("border-radius", "4px"), ("padding", "0 6px")],
    rule ["done-item"] [("display", "flex"), ("gap", "8px")],
    rule ["check"] [("color", property "success")],
    rule ["step"] [("display", "flex"), ("gap", "8px")],
    rule ["step-line"]
      [("border-left", [.text "2px solid ", .property "border"]), ("min-height", "16px")],
    rule ["timeline-entry", "snake-step", "zigzag-step"]
      [("display", "flex"), ("gap", "8px"), ("width", "50%")],
    rule ["right"] [("margin-left", "50%")],
    rule ["timeline-dot"]
      [("width", "12px"), ("height", "12px"), ("border-radius", "50%"),
       ("background", property "accent")],
    rule ["ascending-step"]
      [("margin-left", [.text "calc(", .property "step-index", .text " * 24px)"])],
    rule ["underline"] [("border-bottom", [.text "2px solid ", .property "accent"])],
    rule ["tree-node-wrapper"]
      [("margin-left", [.text "calc(", .property "level", .text " * 16px)"])],
    rule ["tree-node"]
      [("background", property "surface"), ("border", [.text "1px solid ", .property "border"]),
       ("border-radius", "8px"), ("padding", "6px 10px"), ("margin", "4px 0")],
    rule ["pie-chart"] [("display", "flex"), ("gap", "16px"), ("align-items", "center")],
    rule ["pie-svg"] [("width", "200px"), ("height", "200px")],
    rule ["legend-item"] [("display", "flex"), ("gap", "6px"), ("align-items", "center")],
    rule ["legend-color"] [("width", "12px"), ("height", "12px"), ("border-radius", "2px")],
    rule ["bar-row"] [("display", "flex"), ("gap", "8px"), ("align-items", "center")],
    rule ["bar-wrapper"]
      [("flex", "1"), ("display", "flex"), ("gap", "6px"), ("align-items", "center")],
    rule ["bar"] [("background", property "accent"), ("height", "18px"), ("border-radius", "4px")],
    rule ["columns"]
      [("display", "flex"), ("gap", "12px"), ("align-items", "flex-end"), ("height", "200px")],
    rule ["column-wrapper"]
      [("display", "flex"), ("flex-direction", "column"), ("justify-content", "flex-end"),
       ("height", "100%"), ("flex", "1")],
    rule ["column"] [("background", property "accent"), ("border-radius", "4px 4px 0 0")],
    rule ["swot", "quadrant"]
      [("display", "grid"), ("grid-template-columns", "1fr 1fr"), ("gap", "12px")],
    rule ["swot-quadrant", "quadrant-cell", "compare-side"]
      [("background", property "surface"), ("border", [.text "1px solid ", .property "border"]),
       ("border-radius", "8px"), ("padding", "12px")],
    rule ["swot-s"] [("border-color", property "success")],
    rule ["swot-w"] [("border-color", property "warning")],
    rule ["swot-o"] [("border-color", property "info")],
    rule ["swot-t"] [("border-color", property "error")],
    rule ["binary-compare"] [("display", "flex"), ("gap", "12px")],
    rule ["compare-side"] [("flex", "1")],
    rule ["icon-fallback"] [("color", property "text-muted")]]

/-- The base styles for a class prefix, one rule on a line. -/
def baseStyles (classPrefix : String) : String :=
  "\n".intercalate (baseRules.map (·.write classPrefix))

end Placard.Markup
