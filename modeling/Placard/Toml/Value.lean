set_option relaxedAutoImplicit false
set_option autoImplicit false

/-!
# TOML values

## Main definitions

* `Placard.Toml.Value`: what a key of a TOML document is set to.
-/

namespace Placard.Toml

/-- What a key of a TOML document is set to. -/
inductive Value where
  /-- A text. -/
  | string (s : String)
  /-- A whole number of 64 bits. -/
  | integer (n : Int)
  /-- A 64-bit number with a fraction. -/
  | float (x : Float)
  /-- A truth value. -/
  | boolean (b : Bool)
  /-- A date, a time of day or both, in its usual form. -/
  | moment (text : String)
  /-- Values in order. -/
  | array (values : List Value)
  /-- Keys with their values, in the order of the document. -/
  | table (entries : List (String × Value))
deriving Inhabited, Repr

end Placard.Toml
