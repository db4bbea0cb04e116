import Placard.Stylesheet.Builtin

set_option relaxedAutoImplicit false
set_option autoImplicit false

/-!
# Stylesheets

A stylesheet maps names to color schemes and holds the colors of pies. It starts out as the built-in
one, and overrides are merged over it: what they define wins, all else stays.

## Main definitions

* `Placard.Stylesheet`, `Placard.Stylesheet.builtin`: a stylesheet, and the one to start from.
* `Placard.Overrides`, `Placard.Stylesheet.merge`: what a user's stylesheet sets, laid over another.
* `Placard.Stylesheet.palette`, `Placard.Stylesheet.pieColor`: look-ups, which never fail.
* `Placard.OptionError`: the error of a mode or scheme that is not known.
-/

namespace Placard

/-- A stylesheet. -/
structure Stylesheet where
  /-- Its name. -/
  name : Option String
  /-- What it is for. -/
  description : Option String
  /-- Its color schemes. Of two with one name the first counts. -/
  schemes : List (String × Scheme)
  /-- The colors of pies. -/
  pie : PieColors

/-- What a user's stylesheet sets. -/
structure Overrides where
  /-- A name. -/
  name : Option String := none
  /-- What it is for. -/
  description : Option String := none
  /-- Color schemes, new ones or others under known names. -/
  schemes : List (String × Scheme) := []
  /-- The colors of pies. -/
  pie : Option PieColors := none

namespace Stylesheet

/-- The built-in stylesheet. -/
def builtin : Stylesheet where
  name := some "built-in"
  description := none
  schemes := BuiltinScheme.all.map fun s => (s.name, s.scheme)
  pie := PieColors.builtin

/-- The stylesheet with overrides laid over it. -/
def merge (s : Stylesheet) (changes : Overrides) : Stylesheet where
  name := changes.name.or s.name
  description := changes.description.or s.description
  schemes := changes.schemes ++ s.schemes
  pie := changes.pie.getD s.pie

/-- The color scheme with the given name. -/
def scheme? (s : Stylesheet) (name : String) : Option Scheme := s.schemes.lookup name

/-- Whether a color scheme has the given name. -/
def hasScheme (s : Stylesheet) (name : String) : Bool := (s.scheme? name).isSome

/-- The stylesheet without the color scheme of the given name. -/
def erase (s : Stylesheet) (name : String) : Stylesheet :=
  { s with schemes := s.schemes.filter (·.1 != name) }

/-- The names of the color schemes, each once, in order of their code points. -/
def schemeNames (s : Stylesheet) : List String :=
  (s.schemes.map (·.1)).eraseDups.mergeSort fun a b => decide (a ≤ b)

/-- The palette of a scheme in a mode. For a name without a scheme it is the palette of the scheme
`default`, and if that is gone too, of the built-in scheme `default`. -/
def palette (s : Stylesheet) (name : String) (mode : Mode) : Palette :=
  let found := (s.scheme? name).or (s.scheme? BuiltinScheme.standard.name)
  (found.getD Scheme.standard).palette mode

/-- The color of slices when the pie has no colors. -/
def plainSlice : String := "#888888"

/-- The color of the slice at the given index. The colors of the pie are gone through again and
again. -/
def pieColor (s : Stylesheet) (mode : Mode) (index : Nat) : String :=
  let colors := s.pie.colors mode
  (colors[index % colors.length]?).getD plainSlice

end Stylesheet

/-- The error of an option whose value is not one of the known names. -/
inductive OptionError where
  /-- No mode has this name. -/
  | unknownTheme (value : String)
  /-- No built-in scheme has this name. -/
  | unknownScheme (value : String)
deriving DecidableEq, Repr

/-- What the error says. -/
def OptionError.message : OptionError → String
  | .unknownTheme value =>
    "unknown theme '" ++ value ++ "' (expected one of: "
      ++ ", ".intercalate (Mode.all.map (·.name)) ++ ")"
  | .unknownScheme value =>
    "unknown color scheme '" ++ value ++ "' (expected one of: "
      ++ ", ".intercalate (BuiltinScheme.all.map (·.name)) ++ ")"

/-- The mode with the given name. -/
def Mode.ofName (name : String) : Except OptionError Mode :=
  match Mode.all.find? (·.name == name) with
  | some mode => .ok mode
  | none => .error (.unknownTheme name)

/-- The built-in scheme with the given name. -/
def BuiltinScheme.ofName (name : String) : Except OptionError BuiltinScheme :=
  match BuiltinScheme.all.find? (·.name == name) with
  | some scheme => .ok scheme
  | none => .error (.unknownScheme name)

end Placard
