import Placard.Document.Basic
import Placard.Line

set_option relaxedAutoImplicit false
set_option autoImplicit false

/-!
# Outlines

Reading a document finds, by indentation alone, which lines make up which entry. The outline keeps
these lines, so that every part of the document can be traced to the line it comes from.

A block of entries lasts while the lines are indented at least as far as its baseline, and an entry
while they are indented further than its own line. Blank lines belong to no block. The reader goes
through the lines once. Each function returns the lines that it leaves to its caller, with a proof
that they are the end of those it was given, and that is why reading ends.

## Main definitions

* `Placard.Entry`: an entry of a list and the lines that describe it.
* `Placard.readEntries`, `Placard.readEntry`: the entries of a block, the rest of an entry.
* `Placard.DataBlock`, `Placard.Outline`: what the lines below the header say.
* `Placard.Entry.toItem`, `Placard.Outline.toDocument`: the document an outline describes.
-/

namespace Placard

/-- An entry of a list, with the lines that describe it. -/
structure Entry where
  /-- The line that opens it. -/
  line : Line
  /-- What stands on that line after the dash. -/
  header : List Char
  /-- The lines below it that set its label, value, description or icon, in order. -/
  properties : List Line := []
  /-- The entries of the last list of children below it. -/
  children : Option (List Entry) := none
deriving Repr

/-- What a reader found at the start of `lines`, and the lines that it left. -/
structure Found (α : Type) (lines : List Line) where
  /-- What was found. -/
  value : α
  /-- The lines that are left. -/
  rest : List Line
  /-- They are the end of the given ones. -/
  rest_suffix : rest <:+ lines

namespace Found

variable {α β : Type} {l : Line} {lines : List Line}

/-- All lines are left. -/
def stop (value : α) (lines : List Line) : Found α lines := ⟨value, lines, List.suffix_rfl⟩

/-- What was found behind a line that is read too. -/
def after (l : Line) (f : Found α lines) : Found α (l :: lines) :=
  ⟨f.value, f.rest, f.rest_suffix.trans (List.suffix_cons l lines)⟩

/-- What was found in the lines that another reader left. -/
def andThen (f : Found α lines) (g : Found β f.rest) : Found β lines :=
  ⟨g.value, g.rest, g.rest_suffix.trans f.rest_suffix⟩

/-- What was found, changed. -/
def map (h : α → β) (f : Found α lines) : Found β lines := ⟨h f.value, f.rest, f.rest_suffix⟩

@[simp] theorem value_stop (value : α) (lines : List Line) : (stop value lines).value = value := rfl

@[simp] theorem rest_stop (value : α) (lines : List Line) : (stop value lines).rest = lines := rfl

@[simp] theorem value_after (l : Line) (f : Found α lines) : (f.after l).value = f.value := rfl

@[simp] theorem rest_after (l : Line) (f : Found α lines) : (f.after l).rest = f.rest := rfl

@[simp] theorem value_andThen (f : Found α lines) (g : Found β f.rest) :
    (f.andThen g).value = g.value := rfl

@[simp] theorem rest_andThen (f : Found α lines) (g : Found β f.rest) :
    (f.andThen g).rest = g.rest := rfl

@[simp] theorem value_map (h : α → β) (f : Found α lines) : (f.map h).value = h f.value := rfl

@[simp] theorem rest_map (h : α → β) (f : Found α lines) : (f.map h).rest = f.rest := rfl

/-- A reader leaves no more lines than there were. -/
theorem length_rest_le (f : Found α lines) : f.rest.length ≤ lines.length :=
  f.rest_suffix.length_le

end Found

/-- How much deeper than the line that opens a list its entries stand. -/
def nestedIndent : Nat := 2

/-- The keywords that set a property of an entry. -/
def propertyKeywords : List Keyword := [.label, .value, .desc, .icon]

/-- Whether a line sets a property of the entry it stands below. -/
def Line.isProperty (l : Line) : Bool := propertyKeywords.any fun k => (l.argumentOf? k).isSome

/-- The entry with one more line below it, which is kept if it sets a property. -/
def Entry.describe (entry : Entry) (l : Line) : Entry :=
  if l.isProperty then { entry with properties := entry.properties ++ [l] } else entry

mutual

/-- The entries at the start of the lines, up to the first line indented less than `base`. -/
def readEntries (base : Nat) (lines : List Line) : Found (List Entry) lines :=
  match lines with
  | [] => .stop [] []
  | l :: ls =>
    if l.isBlank then (readEntries base ls).after l
    else if l.indent < base then .stop [] (l :: ls)
    else
      match l.argumentOf? .dash with
      | none => (readEntries base ls).after l
      | some header =>
        let first := readEntry l.indent { line := l, header } ls
        let later := readEntries base first.rest
        ((first.andThen later).map (first.value :: ·)).after l
termination_by lines.length
decreasing_by
  · exact Nat.lt_succ_self _
  · exact Nat.lt_succ_self _
  · exact Nat.lt_succ_self _
  · exact Nat.lt_succ_of_le first.length_rest_le

/-- The entry with the lines at the start added to it, up to the first line that is not indented
further than `indent`. -/
def readEntry (indent : Nat) (entry : Entry) (lines : List Line) : Found Entry lines :=
  match lines with
  | [] => .stop entry []
  | l :: ls =>
    if l.isBlank then (readEntry indent entry ls).after l
    else if l.indent ≤ indent then .stop entry (l :: ls)
    else if l.isBare .children then
      let below := readEntries (l.indent + nestedIndent) ls
      let later := readEntry indent { entry with children := some below.value } below.rest
      (below.andThen later).after l
    else (readEntry indent (entry.describe l) ls).after l
termination_by lines.length
decreasing_by
  · exact Nat.lt_succ_self _
  · exact Nat.lt_succ_self _
  · exact Nat.lt_succ_of_le below.length_rest_le
  · exact Nat.lt_succ_self _

end

/-- What a data block says. -/
structure DataBlock where
  /-- The heading. -/
  title : Option (List Char) := none
  /-- The entries of its list. -/
  entries : List Entry := []
deriving Repr

/-- The data block with the lines at the start added to it, up to the first line indented less than
`indent`. -/
def readDataBlock (indent : Nat) (block : DataBlock) (lines : List Line) : Found DataBlock lines :=
  match lines with
  | [] => .stop block []
  | l :: ls =>
    if l.isBlank then (readDataBlock indent block ls).after l
    else if l.indent < indent then .stop block (l :: ls)
    else
      match l.argumentOf? .title with
      | some title => (readDataBlock indent { block with title := some title } ls).after l
      | none =>
        if l.isBare .items then
          let list := readEntries (l.indent + nestedIndent) ls
          let later := readDataBlock indent { block with entries := list.value } list.rest
          (list.andThen later).after l
        else (readDataBlock indent block ls).after l
termination_by lines.length
decreasing_by
  · exact Nat.lt_succ_self _
  · exact Nat.lt_succ_self _
  · exact Nat.lt_succ_of_le list.length_rest_le
  · exact Nat.lt_succ_self _

/-- What the lines below the header say. -/
structure Outline where
  /-- The color scheme asked for. -/
  theme : Option (List Char) := none
  /-- The last data block. -/
  data : DataBlock := {}
deriving Repr

/-- The outline with all of the lines added to it. A data block replaces the one before it. -/
def Outline.read (outline : Outline) (lines : List Line) : Outline :=
  match lines with
  | [] => outline
  | l :: ls =>
    if l.isBlank then Outline.read outline ls
    else if l.isBare .data then
      let block := readDataBlock l.indent {} ls
      Outline.read { outline with data := block.value } block.rest
    else
      match l.argumentOf? .theme with
      | some theme => Outline.read { outline with theme := some theme } ls
      | none => Outline.read outline ls
termination_by lines.length
decreasing_by
  · exact Nat.lt_succ_self _
  · exact Nat.lt_succ_of_le block.length_rest_le
  · exact Nat.lt_succ_self _
  · exact Nat.lt_succ_self _

namespace Entry

/-- The argument of the last property line with the given keyword. -/
def property? (e : Entry) (k : Keyword) : Option (List Char) :=
  (e.properties.filterMap (·.argumentOf? k)).getLast?

/-- The label on the line that opens the entry, written with or without the keyword. -/
def headerLabel (e : Entry) : List Char :=
  match Head.splitArgument e.header with
  | (some (.keyword .label), some label) => label
  | _ => e.header

mutual

/-- The item that an entry describes. -/
def toItem : Entry → Item
  | ⟨line, header, properties, children⟩ =>
    let entry : Entry := { line, header, properties }
    { label := String.ofList ((entry.property? .label).getD entry.headerLabel)
      value := (entry.property? .value).map Value.coerce
      desc := (entry.property? .desc).map String.ofList
      icon := (entry.property? .icon).map String.ofList
      children := toItems? children }

/-- The items below an entry, if it has a list of children. -/
def toItems? : Option (List Entry) → Option (List Item)
  | none => none
  | some entries => some (toItems entries)

/-- The items that entries describe, in order. -/
def toItems : List Entry → List Item
  | [] => []
  | e :: es => toItem e :: toItems es

end

end Entry

/-- The document that an outline describes. -/
def Outline.toDocument (outline : Outline) (template : List Char) : Document :=
  { template := String.ofList template
    title := outline.data.title.map String.ofList
    theme := outline.theme.map String.ofList
    items := Entry.toItems outline.data.entries }

end Placard
