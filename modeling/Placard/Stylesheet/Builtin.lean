import Placard.Stylesheet.Palette

set_option relaxedAutoImplicit false
set_option autoImplicit false

/-!
# Built-in color schemes

## Main definitions

* `Placard.BuiltinScheme`: the names of the color schemes that are always known.
* `Placard.BuiltinScheme.scheme`: their colors.
* `Placard.PieColors.builtin`: the colors of slices, unless a stylesheet gives others.
-/

namespace Placard

/-- The color schemes that are always known. -/
inductive BuiltinScheme where
  /-- The scheme that look-ups fall back to. -/
  | standard
  /-- A clear blue on white or dark gray. -/
  | antv
  /-- Pastel colors. -/
  | catppuccin
  /-- Muted blue and gray. -/
  | github
  /-- Purple and pink. -/
  | dracula
  /-- Cold blue and gray. -/
  | nord
deriving DecidableEq, Repr

/-- The name of a built-in scheme. -/
def BuiltinScheme.name : BuiltinScheme → String
  | .standard => "default"
  | .antv => "antv"
  | .catppuccin => "catppuccin"
  | .github => "github"
  | .dracula => "dracula"
  | .nord => "nord"

/-- All built-in schemes, in the order in which they are listed. -/
def BuiltinScheme.all : List BuiltinScheme :=
  [.standard, .antv, .catppuccin, .github, .dracula, .nord]

namespace Scheme

/-- The scheme that every look-up falls back to. -/
def standard : Scheme where
  light :=
    .of "#ffffff" "#f8fafc" "#e2e8f0" "#1e293b" "#64748b" "#3b82f6"
      "#dbeafe" "#22c55e" "#f59e0b" "#ef4444" "#06b6d4"
  dark :=
    .of "#1e1e2e" "#313244" "#45475a" "#cdd6f4" "#a6adc8" "#89b4fa"
      "#313244" "#a6e3a1" "#f9e2af" "#f38ba8" "#89dceb"

/-- The scheme with the name `antv`. -/
def antv : Scheme where
  light :=
    .of "#ffffff" "#fafafa" "#e8e8e8" "#2c3e50" "#7f8c8d" "#5b8ff9"
      "#e6f7ff" "#52c41a" "#faad14" "#ff4d4f" "#1890ff"
  dark :=
    .of "#1f1f1f" "#2c2c2c" "#383838" "#e8e8e8" "#a0a0a0" "#5b8ff9"
      "#262626" "#52c41a" "#faad14" "#ff4d4f" "#1890ff"

/-- The scheme with the name `catppuccin`. -/
def catppuccin : Scheme where
  light :=
    .of "#eff1f5" "#e6e9ef" "#ccd0da" "#4c4f69" "#6c6f85" "#1e66f5"
      "#dce0f8" "#40a02b" "#df8e1d" "#d20f39" "#04a5e5"
  dark :=
    .of "#1e1e2e" "#313244" "#45475a" "#cdd6f4" "#a6adc8" "#89b4fa"
      "#313244" "#a6e3a1" "#f9e2af" "#f38ba8" "#89dceb"

/-- The scheme with the name `github`. -/
def github : Scheme where
  light :=
    .of "#ffffff" "#f6f8fa" "#e1e4e8" "#24292f" "#586069" "#0366d6"
      "#f1f8ff" "#2ea44f" "#d29922" "#cf222e" "#1f883d"
  dark :=
    .of "#0d1117" "#161b22" "#30363d" "#c9d1d9" "#8b949e" "#58a6ff"
      "#161b22" "#3fb950" "#d29922" "#f85149" "#2f81f7"

/-- The scheme with the name `dracula`. -/
def dracula : Scheme where
  light :=
    .of "#ffffff" "#f8f8fa" "#e0e0e0" "#282a36" "#6272a4" "#bd93f9"
      "#f3f3f3" "#50fa7b" "#ffb86c" "#ff5555" "#8be9fd"
  dark :=
    .of "#282a36" "#44475a" "#6272a4" "#f8f8f2" "#bd93f9" "#ff79c6"
      "#44475a" "#50fa7b" "#ffb86c" "#ff5555" "#8be9fd"

/-- The scheme with the name `nord`. -/
def nord : Scheme where
  light :=
    .of "#eceff4" "#e5e9f0" "#d8dee9" "#2e3440" "#4c566a" "#5e81ac"
      "#eceff4" "#a3be8c" "#ebcb8b" "#bf616a" "#88c0d0"
  dark :=
    .of "#2e3440" "#3b4252" "#4c566a" "#d8dee9" "#aeb8c1" "#88c0d0"
      "#3b4252" "#a3be8c" "#ebcb8b" "#bf616a" "#81a1c1"

end Scheme

/-- The colors of a built-in scheme. -/
def BuiltinScheme.scheme : BuiltinScheme → Scheme
  | .standard => Scheme.standard
  | .antv => Scheme.antv
  | .catppuccin => Scheme.catppuccin
  | .github => Scheme.github
  | .dracula => Scheme.dracula
  | .nord => Scheme.nord

/-- The colors of slices, unless a stylesheet gives others. -/
def PieColors.builtin : PieColors where
  light :=
    ["#3b82f6", "#22c55e", "#f59e0b", "#ef4444", "#8b5cf6", "#06b6d4", "#ec4899", "#84cc16"]
  dark :=
    ["#89b4fa", "#a6e3a1", "#f9e2af", "#f38ba8", "#cba6f7", "#89dceb", "#f5c2e7", "#a6e3a1"]

end Placard
