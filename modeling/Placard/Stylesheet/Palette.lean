set_option relaxedAutoImplicit false
set_option autoImplicit false

/-!
# Palettes

A color scheme gives each of eleven roles a color, once for light and once for dark drawings.

## Main definitions

* `Placard.Mode`, `Placard.Role`: light or dark, and what a color is used for.
* `Placard.Palette`, `Placard.Scheme`: the colors of one mode, and of both.
* `Placard.PieColors`: the colors that the slices of a pie go through.
-/

namespace Placard

/-- Light or dark. -/
inductive Mode where
  /-- Dark on light. -/
  | light
  /-- Light on dark. -/
  | dark
deriving DecidableEq, Repr

/-- The name of a mode. -/
def Mode.name : Mode → String
  | .light => "light"
  | .dark => "dark"

/-- All modes. -/
def Mode.all : List Mode := [.light, .dark]

/-- What a color is used for. -/
inductive Role where
  /-- The background. -/
  | bg
  /-- Cards and other raised parts. -/
  | surface
  /-- Lines around parts. -/
  | border
  /-- Text. -/
  | text
  /-- Text that matters less. -/
  | textMuted
  /-- What is to stand out. -/
  | accent
  /-- A light variant of the accent. -/
  | accentLight
  /-- What went well. -/
  | success
  /-- What needs attention. -/
  | warning
  /-- What went wrong. -/
  | error
  /-- What is good to know. -/
  | info
deriving DecidableEq, Repr

/-- The name of a role. -/
def Role.name : Role → String
  | .bg => "bg"
  | .surface => "surface"
  | .border => "border"
  | .text => "text"
  | .textMuted => "text-muted"
  | .accent => "accent"
  | .accentLight => "accent-light"
  | .success => "success"
  | .warning => "warning"
  | .error => "error"
  | .info => "info"

/-- All roles, in the order in which they are listed. -/
def Role.all : List Role :=
  [.bg, .surface, .border, .text, .textMuted, .accent, .accentLight, .success, .warning, .error,
    .info]

/-- A color for each role. -/
structure Palette where
  /-- The color of a role. -/
  color : Role → String

/-- The palette with the given colors, in the order of the roles. -/
def Palette.of (bg surface border text textMuted accent accentLight success warning error
    info : String) : Palette where
  color
    | .bg => bg
    | .surface => surface
    | .border => border
    | .text => text
    | .textMuted => textMuted
    | .accent => accent
    | .accentLight => accentLight
    | .success => success
    | .warning => warning
    | .error => error
    | .info => info

/-- The names of the roles with their colors, in order. -/
def Palette.roles (p : Palette) : List (String × String) :=
  Role.all.map fun r => (r.name, p.color r)

/-- The palettes of a color scheme. -/
structure Scheme where
  /-- The palette for light drawings. -/
  light : Palette
  /-- The palette for dark drawings. -/
  dark : Palette

/-- The palette of a mode. -/
def Scheme.palette (s : Scheme) : Mode → Palette
  | .light => s.light
  | .dark => s.dark

/-- The colors of the slices of a pie. -/
structure PieColors where
  /-- The colors for light drawings. -/
  light : List String
  /-- The colors for dark drawings. -/
  dark : List String
deriving DecidableEq, Repr

/-- The colors of a mode. -/
def PieColors.colors (p : PieColors) : Mode → List String
  | .light => p.light
  | .dark => p.dark

/-- The same colors, with those of one mode replaced. -/
def PieColors.setColors (p : PieColors) (mode : Mode) (colors : List String) : PieColors :=
  match mode with
  | .light => { p with light := colors }
  | .dark => { p with dark := colors }

end Placard
