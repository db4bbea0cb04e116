set_option relaxedAutoImplicit false
set_option autoImplicit false

/-!
# Readers

A reader takes something off the start of a text, or fails. It says what it leaves, with a proof
that this is no longer than the text it was given, so that reading in a loop is seen to end.

## Main definitions

* `Placard.Toml.Taken`, `Placard.Toml.Reader`: what a reader took, and readers as a monad.
* `Placard.Toml.Reader.span`, `Placard.Toml.Reader.char`, `Placard.Toml.Reader.many`: readers to
  build others from.
-/

namespace Placard.Toml

/-- What a reader took off the start of the text `cs`. -/
structure Taken (α : Type) (cs : List Char) where
  /-- What was read. -/
  value : α
  /-- What is left of the text. -/
  rest : List Char
  /-- Nothing was added to the text. -/
  rest_le : rest.length ≤ cs.length

/-- Takes something off the start of a text, or fails. -/
def Reader (α : Type) : Type := (cs : List Char) → Option (Taken α cs)

namespace Reader

variable {α β : Type}

/-- Takes nothing. -/
protected def pure (a : α) : Reader α := fun cs => some ⟨a, cs, Nat.le_refl _⟩

/-- Takes what `r` takes, and then what the reader for its value takes. -/
protected def bind (r : Reader α) (f : α → Reader β) : Reader β := fun cs =>
  match r cs with
  | none => none
  | some first =>
    match f first.value first.rest with
    | none => none
    | some second =>
      some ⟨second.value, second.rest, Nat.le_trans second.rest_le first.rest_le⟩

instance : Monad Reader where
  pure := Reader.pure
  bind := Reader.bind

/-- Fails. -/
protected def fail : Reader α := fun _ => none

/-- Takes what `r` takes, or what `s` takes if `r` fails. -/
protected def orElse (r : Reader α) (s : Unit → Reader α) : Reader α := fun cs =>
  match r cs with
  | some taken => some taken
  | none => s () cs

instance : Alternative Reader where
  failure := Reader.fail
  orElse := Reader.orElse

/-- The text ahead; takes nothing. -/
def ahead : Reader (List Char) := fun cs => some ⟨cs, cs, Nat.le_refl _⟩

/-- Takes the longest run of characters in a class. -/
def span (p : Char → Bool) : Reader (List Char) := fun cs =>
  some ⟨cs.takeWhile p, cs.dropWhile p, (List.dropWhile_suffix p).length_le⟩

/-- Takes the longest run of characters in a class, which is not empty. -/
def span1 (p : Char → Bool) : Reader (List Char) := do
  let taken ← span p
  if taken.isEmpty then failure else pure taken

/-- Takes one character of a class. -/
def one (p : Char → Bool) : Reader Char
  | [] => none
  | c :: cs => if p c then some ⟨c, cs, Nat.le_succ _⟩ else none

/-- Takes the given character. -/
def char (c : Char) : Reader Unit := do
  let _ ← one (· == c)
  pure ()

/-- Takes the given characters one after another. -/
def chars : List Char → Reader Unit
  | [] => pure ()
  | c :: cs => do
    char c
    chars cs

/-- Takes what `r` takes again and again, until it fails or takes nothing off the text. -/
def repeated (r : Reader α) (cs : List Char) : Taken (List α) cs :=
  match r cs with
  | none => ⟨[], cs, Nat.le_refl _⟩
  | some first =>
    if first.rest.length < cs.length then
      let later := repeated r first.rest
      ⟨first.value :: later.value, later.rest, Nat.le_trans later.rest_le first.rest_le⟩
    else ⟨[], cs, Nat.le_refl _⟩
termination_by cs.length

/-- Takes what `r` takes, as often as it does. -/
def many (r : Reader α) : Reader (List α) := fun cs => some (repeated r cs)

/-- Takes exactly `n` things. -/
def exactly (r : Reader α) : Nat → Reader (List α)
  | 0 => pure []
  | n + 1 => do
    let first ← r
    let others ← exactly r n
    pure (first :: others)

/-- The value, if there is one. -/
def ofOption (a? : Option α) : Reader α :=
  match a? with
  | some a => pure a
  | none => failure

/-- What the reader takes off a text, if it takes all of it. -/
def whole? (r : Reader α) (cs : List Char) : Option α :=
  match r cs with
  | some taken => if taken.rest.isEmpty then some taken.value else none
  | none => none

end Reader

end Placard.Toml
