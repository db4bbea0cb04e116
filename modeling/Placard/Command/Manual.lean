import Placard.Template

set_option relaxedAutoImplicit false
set_option autoImplicit false

/-!
# What the program says about itself

## Main definitions

* `Placard.Manual.help`: the options of the program.
* `Placard.Manual.grammar`: how documents are written.
* `Placard.Manual.templates`: the known templates.
-/

namespace Placard.Manual

/-- The options of the program, line by line. -/
def helpLines : List String :=
  ["Render infographic DSL documents to HTML",
    "",
    "Usage: infographic [OPTIONS] [INPUT]",
    "",
    "Arguments:",
    "  [INPUT]  Input file (reads from stdin if not provided)",
    "",
    "Options:",
    "  -t, --theme <THEME>            Light or dark theme [default: light]",
    "  -c, --scheme <SCHEME>          Color scheme (default, antv, catppuccin, github, dracula, " ++
      "nord) [default: default]",
    "  -s, --stylesheet <STYLESHEET>  Stylesheet file for color schemes (TOML format)",
    "  -a, --animations               Add the animated class to the output",
    "  -f, --fragment                 Emit only the HTML fragment",
    "      --data-url                 Emit a base64 data URL",
    "  -l, --lint                     Report lint findings instead of rendering",
    "      --templates                List the known templates by category",
    "  -g, --grammar                  Show DSL reference",
    "  -d, --debug                    Debug mode: log the visual tree",
    "  -h, --help                     Print help"]

/-- How documents are written, line by line. -/
def grammarLines : List String :=
  ["INFOGRAPHIC DSL",
    "===============",
    "",
    "HEADER",
    "------",
    "The first non-empty line names the template:",
    "    infographic <template-name>",
    "",
    "ROOT",
    "----",
    "theme <scheme>       Color scheme override (root level only)",
    "data                 Opens the data block",
    "",
    "DATA BLOCK",
    "----------",
    "Lines indented at least as far as `data`:",
    "    title <text>     Heading shown above the infographic",
    "    items            Opens the item list",
    "",
    "ITEMS",
    "-----",
    "Each entry starts with `- `, either form works:",
    "    - <label>",
    "    - label <label>",
    "",
    "Properties, indented deeper than the entry:",
    "    label <text>     Replace the label",
    "    value <text>     Number if it parses as one, text otherwise",
    "    desc <text>      Description",
    "    icon <prefix:name>",
    "    children         Nested items, one level deeper",
    "",
    "Unknown lines are skipped.",
    "",
    "EXAMPLE",
    "-------",
    "infographic chart-pie-plain-text",
    "data",
    "  title Traffic sources",
    "  items",
    "    - Search",
    "      value 55",
    "    - label Direct",
    "      value 30",
    "    - Social",
    "      value 15"]

/-- The width of the column of categories. -/
def categoryWidth : Nat := 12

/-- A template with its category in front. -/
def templateLine (name : String) : String :=
  let category := (Category.ofTemplate name).name
  category ++ String.ofList (List.replicate (categoryWidth - category.length) ' ') ++ " " ++ name

/-- The known templates, line by line. -/
def templateLines : List String :=
  ["TEMPLATES", "========="] ++ Template.names.map templateLine
    ++ ["", "Other names with a known prefix use that category's default layout;",
      "anything else renders as a card grid."]

/-- Lines as text, each of them ended. -/
def text (lines : List String) : String := String.join (lines.map (· ++ "\n"))

/-- The options of the program. -/
def help : String := text helpLines

/-- How documents are written. -/
def grammar : String := text grammarLines

/-- The known templates. -/
def templates : String := text templateLines

end Placard.Manual
