import Placard.Markup.Writer
import Placard.Proofs.Markup.Tree

set_option relaxedAutoImplicit false
set_option autoImplicit false

/-!
# Four ways to write the same elements

Markup is a fragment or a document of its own, and has its elements on one line or each on a line of
its own and indented. A writer counts the indentation while it goes along. This file shows that the
count is always the depth in the tree, so that all four ways write the same elements in the same
order, and differ only in what surrounds them and in white space between them.

## Main definitions

* `Placard.Markup.Writer.write`: writes one tag; writing a figure is writing its tags.
* `Placard.Markup.Counted`: rows that stand at the depth that is counted when they are written.
* `Placard.Markup.shellAround`: the rows of a document of its own.

## Main results

* `Placard.Markup.counted_tagRows`: the rows of a figure are counted, and the count ends where it
  started.
* `Placard.Markup.Writer.foldl_write`: what a writer does with counted rows.
* `Placard.Markup.Writer.add_eq_foldl`: writing a figure is writing its tags one after another.
* `Placard.Markup.Writer.modes_print_same_elements`: the four ways.
-/

namespace Placard

namespace Markup

/-- Writes a tag. -/
def Writer.write (w : Writer) : Tag → Writer
  | .opening name attributes inner => w.openElement name attributes inner
  | .closing name => w.closeElement name
  | t => w.push t

/-- Whether rows stand at the depth that is counted from tag to tag, from a first count to a last
one. An element is only closed where the count is above zero. -/
inductive Counted : Nat → List Row → Nat → Prop
  /-- There are no rows. -/
  | nil (depth : Nat) : Counted depth [] depth
  /-- An element on one row. -/
  | whole {depth last : Nat} {rows : List Row} (name : String) (attributes : List Attribute)
      (inner : String) (later : Counted depth rows last) :
      Counted depth (⟨depth, .whole name attributes inner⟩ :: rows) last
  /-- An element that closes itself. -/
  | empty {depth last : Nat} {rows : List Row} (name : String) (attributes : List Attribute)
      (later : Counted depth rows last) :
      Counted depth (⟨depth, .empty name attributes⟩ :: rows) last
  /-- The start of an element. -/
  | opening {depth last : Nat} {rows : List Row} (name : String) (attributes : List Attribute)
      (inner : String) (later : Counted (depth + 1) rows last) :
      Counted depth (⟨depth, .opening name attributes inner⟩ :: rows) last
  /-- The end of an element. -/
  | closing {depth last : Nat} {rows : List Row} (name : String)
      (later : Counted depth rows last) :
      Counted (depth + 1) (⟨depth, .closing name⟩ :: rows) last

/-- The row, further inside. -/
def Row.deepen (n : Nat) (r : Row) : Row := { r with depth := r.depth + n }

/-- The rows of a document of its own, around a body. -/
def shellAround (classPrefix body : String) : List String :=
  ["<!DOCTYPE html>", "<html><head><meta charset=\"utf-8\"><style>", baseStyles classPrefix,
    "</style></head><body>", body, "</body></html>"]

/-! ## The depth of rows -/

section Counted

variable {first middle last depth : Nat} {rows rows' : List Row}

lemma Counted.append (h : Counted first rows middle) (h' : Counted middle rows' last) :
    Counted first (rows ++ rows') last := by
  induction h with
  | nil => exact h'
  | whole name attributes inner _ ih => exact .whole name attributes inner (ih h')
  | empty name attributes _ ih => exact .empty name attributes (ih h')
  | opening name attributes inner _ ih => exact .opening name attributes inner (ih h')
  | closing name _ ih => exact .closing name (ih h')

lemma Counted.exists_of_append (h : Counted first (rows ++ rows') last) :
    ∃ middle, Counted first rows middle ∧ Counted middle rows' last := by
  induction rows generalizing first with
  | nil => exact ⟨first, .nil first, h⟩
  | cons r rows ih =>
    cases h with
    | whole name attributes inner later =>
      obtain ⟨middle, hrows, hrows'⟩ := ih later
      exact ⟨middle, .whole name attributes inner hrows, hrows'⟩
    | empty name attributes later =>
      obtain ⟨middle, hrows, hrows'⟩ := ih later
      exact ⟨middle, .empty name attributes hrows, hrows'⟩
    | opening name attributes inner later =>
      obtain ⟨middle, hrows, hrows'⟩ := ih later
      exact ⟨middle, .opening name attributes inner hrows, hrows'⟩
    | closing name later =>
      obtain ⟨middle, hrows, hrows'⟩ := ih later
      exact ⟨middle, .closing name hrows, hrows'⟩

/-- An element that is opened and closed around counted rows. -/
lemma Counted.surround (h : Counted (depth + 1) rows (depth + 1)) (name : String)
    (attributes : List Attribute) (inner : String) :
    Counted depth
      (⟨depth, .opening name attributes inner⟩ :: rows ++ [⟨depth, .closing name⟩]) depth :=
  .opening name attributes inner (h.append (.closing name (.nil depth)))

lemma Counted.element (h : Counted (depth + 1) rows (depth + 1)) (name : String)
    (attributes : List Attribute) (inner : String) :
    Counted depth (element depth name attributes inner rows) depth := by
  rw [Markup.element]
  split
  · exact .whole name attributes inner (.nil depth)
  · exact h.surround name attributes inner

end Counted

section TagRows

mutual

/-- **The rows of a figure are counted, and the count ends where it started.**

**Proof sketch.** Recursion along the tree. What an element holds is counted one further inside,
and the end of the element takes the count back. -/
theorem counted_tagRows (classPrefix : String) (depth : Nat) (f : Figure) :
    Counted depth (f.tagRows classPrefix depth) depth := by
  match f with
  | ⟨shape, classes, text, styles, children⟩ =>
    have hbelow := counted_tagRowsAll classPrefix (depth + 1) children
    cases shape with
    | block => exact hbelow.element ..
    | inline => exact hbelow.element ..
    | list => exact hbelow.element ..
    | listItem => exact hbelow.element ..
    | glyph sign => exact .whole _ _ _ (.nil depth)
    | icon reference => exact .whole _ _ _ (.nil depth)
    | wedge s => exact .empty _ _ (.nil depth)
    | chart box => exact hbelow.surround ..

/-- So are the rows of figures one after another. -/
lemma counted_tagRowsAll (classPrefix : String) (depth : Nat) (fs : List Figure) :
    Counted depth (Figure.tagRowsAll classPrefix depth fs) depth := by
  match fs with
  | [] => exact .nil depth
  | f :: fs =>
    have hfirst := counted_tagRows classPrefix depth f
    exact hfirst.append (counted_tagRowsAll classPrefix depth fs)

end

variable {classPrefix name inner : String} {depth n : Nat} {attributes : List Attribute}
  {below below' : List Row}

lemma element_ne_nil : element depth name attributes inner below ≠ [] := by
  rw [element]
  split <;> simp

/-- Every figure has a row. -/
lemma tagRows_ne_nil (f : Figure) : f.tagRows classPrefix depth ≠ [] := by
  obtain ⟨shape, classes, text, styles, children⟩ := f
  cases shape with
  | block => exact element_ne_nil
  | inline => exact element_ne_nil
  | list => exact element_ne_nil
  | listItem => exact element_ne_nil
  | glyph sign => exact List.cons_ne_nil _ _
  | icon reference => exact List.cons_ne_nil _ _
  | wedge s => exact List.cons_ne_nil _ _
  | chart box => exact List.cons_ne_nil _ _

lemma isEmpty_tagRowsAll (classPrefix : String) (depth : Nat) (fs : List Figure) :
    (Figure.tagRowsAll classPrefix depth fs).isEmpty = fs.isEmpty := by
  cases fs with
  | nil => rfl
  | cons f fs => simp [Figure.tagRowsAll, tagRows_ne_nil]

lemma element_add (h : below' = below.map (Row.deepen n)) :
    element (depth + n) name attributes inner below' =
      (element depth name attributes inner below).map (Row.deepen n) := by
  rw [element, element, h, List.isEmpty_map]
  split <;> simp [Row.deepen]

mutual

/-- Further inside, the rows of a figure are the same. -/
lemma tagRows_add (classPrefix : String) (depth n : Nat) (f : Figure) :
    f.tagRows classPrefix (depth + n) = (f.tagRows classPrefix depth).map (Row.deepen n) := by
  match f with
  | ⟨shape, classes, text, styles, children⟩ =>
    have hbelow := tagRowsAll_add classPrefix (depth + 1) n children
    rw [Nat.add_right_comm] at hbelow
    cases shape with
    | block => exact element_add hbelow
    | inline => exact element_add hbelow
    | list => exact element_add hbelow
    | listItem => exact element_add hbelow
    | glyph sign => rfl
    | icon reference => rfl
    | wedge s => rfl
    | chart box => simp [Figure.tagRows, Row.deepen, hbelow]

lemma tagRowsAll_add (classPrefix : String) (depth n : Nat) (fs : List Figure) :
    Figure.tagRowsAll classPrefix (depth + n) fs =
      (Figure.tagRowsAll classPrefix depth fs).map (Row.deepen n) := by
  match fs with
  | [] => rfl
  | f :: fs =>
    rw [Figure.tagRowsAll, Figure.tagRowsAll, tagRows_add, tagRowsAll_add, List.map_append]

end

end TagRows

/-! ## Writing -/

namespace Writer

variable {w : Writer} {rows : List Row} {last : Nat}

/-- **A writer that starts at the first count writes counted rows at their depths**, and ends at the
last count. -/
theorem foldl_write (h : Counted w.indent rows last) :
    (rows.map (·.tag)).foldl write w =
      { w with
        elements := w.elements ++ rows.map (Row.write w.options.pretty)
        indent := last } := by
  generalize hindent : w.indent = first at h
  induction h generalizing w with
  | nil depth => simp [← hindent]
  | whole name attributes inner _ ih =>
    have hlater := @ih (w.push (.whole name attributes inner)) hindent
    simpa [write, push, Row.write, hindent] using hlater
  | empty name attributes _ ih =>
    have hlater := @ih (w.push (.empty name attributes)) hindent
    simpa [write, push, Row.write, hindent] using hlater
  | opening name attributes inner _ ih =>
    have hlater := @ih (w.openElement name attributes inner) (congrArg (· + 1) hindent)
    simpa [write, openElement, push, Row.write, hindent] using hlater
  | closing name _ ih =>
    have hlater := @ih (w.closeElement name) (congrArg (· - 1) hindent)
    simpa [write, closeElement, push, Row.write, hindent] using hlater

/-- Whether the tags close elements only where a writer that has come there from `w` has an
indentation to take back. -/
def ClosesAboveZero (w : Writer) (tags : List Tag) : Prop :=
  ∀ before name after, tags = before ++ .closing name :: after → 0 < (before.foldl write w).indent

/-- The tags of counted rows close elements only where the count is above zero. -/
lemma closesAboveZero_of_counted (h : Counted w.indent rows last) :
    w.ClosesAboveZero (rows.map (·.tag)) := by
  intro before name after htags
  obtain ⟨rows₁, rows₂, rfl, rfl, htags₂⟩ := List.map_eq_append_iff.mp htags
  obtain ⟨⟨depth, tag⟩, rows₃, rfl, htag, -⟩ := List.map_eq_cons_iff.mp htags₂
  obtain rfl : tag = .closing name := htag
  obtain ⟨middle, hbefore, hclosing⟩ := h.exists_of_append
  rw [foldl_write hbefore]
  cases hclosing with
  | closing name later => exact Nat.succ_pos _

section Element

variable {fs : List Figure} {depth : Nat} {name inner : String} {attributes : List Attribute}

/-- An element around figures is written by its tags, if they are. -/
lemma foldl_write_surround
    (h : (w.openElement name attributes inner).addAll fs =
      (rows.map (·.tag)).foldl write (w.openElement name attributes inner)) :
    ((w.openElement name attributes inner).addAll fs).closeElement name =
      ((⟨depth, .opening name attributes inner⟩ :: rows ++ [⟨depth, .closing name⟩] :
        List Row).map (·.tag)).foldl write w := by
  rw [h]
  simp [write]

lemma foldl_write_element (hempty : rows.isEmpty = fs.isEmpty)
    (h : (w.openElement name attributes inner).addAll fs =
      (rows.map (·.tag)).foldl write (w.openElement name attributes inner)) :
    (if fs.isEmpty then w.push (.whole name attributes inner)
      else ((w.openElement name attributes inner).addAll fs).closeElement name) =
      ((element depth name attributes inner rows).map (·.tag)).foldl write w := by
  rw [element, hempty]
  split
  · rfl
  · exact foldl_write_surround h

end Element

mutual

/-- **Writing a figure is writing its tags one after another.** The depth with which they are listed
does not matter.

**Proof sketch.** Recursion along the tree. The writer asks whether there are figures inside, the
rows whether there are rows, and every figure has one (`tagRows_ne_nil`). -/
theorem add_eq_foldl (w : Writer) (depth : Nat) (f : Figure) :
    w.add f = ((f.tagRows w.options.classPrefix depth).map (·.tag)).foldl write w := by
  match f with
  | ⟨shape, classes, text, styles, children⟩ =>
    have hempty := isEmpty_tagRowsAll w.options.classPrefix (depth + 1) children
    have hbelow (name : String) (attributes : List Attribute) (inner : String) :=
      addAll_eq_foldl (w.openElement name attributes inner) (depth + 1) children
    cases shape with
    | block => exact foldl_write_element hempty (hbelow ..)
    | inline => exact foldl_write_element hempty (hbelow ..)
    | list => exact foldl_write_element hempty (hbelow ..)
    | listItem => exact foldl_write_element hempty (hbelow ..)
    | glyph sign => rfl
    | icon reference => rfl
    | wedge s => rfl
    | chart box => exact foldl_write_surround (hbelow ..)

/-- So is writing figures. -/
lemma addAll_eq_foldl (w : Writer) (depth : Nat) (fs : List Figure) :
    w.addAll fs =
      ((Figure.tagRowsAll w.options.classPrefix depth fs).map (·.tag)).foldl write w := by
  match fs with
  | [] => rfl
  | f :: fs =>
    have hfirst := add_eq_foldl w depth f
    have hoptions : (w.add f).options = w.options := by
      rw [add_eq_foldl w w.indent f, foldl_write (counted_tagRows _ _ f)]
    rw [addAll, addAll_eq_foldl (w.add f) depth fs, hoptions, hfirst, Figure.tagRowsAll,
      List.map_append, List.foldl_append]

end

lemma foldl_add (w : Writer) (fs : List Figure) : fs.foldl add w = w.addAll fs := by
  induction fs generalizing w with
  | nil => rfl
  | cons f fs ih => rw [List.foldl_cons, ih, addAll]

/-- **A figure is written at the current indentation**, which is the same afterwards. -/
theorem add_eq (w : Writer) (f : Figure) :
    w.add f =
      { w with
        elements := w.elements ++
          (f.tagRows w.options.classPrefix w.indent).map (Row.write w.options.pretty) } := by
  rw [add_eq_foldl w w.indent f, foldl_write (counted_tagRows _ _ f)]

end Writer

/-! ## The four ways -/

section Modes

variable (options : PageOptions) (classPrefix : String) (figures : List Figure)

/-- Rows as they stand in a page: behind two spaces for each element around them if the page is
indented, and two more in a document of its own. -/
def layOut (rows : List Row) : List String :=
  rows.map fun r =>
    indentation options.pretty (r.depth + if options.standalone then 1 else 0) ++ r.tag.write

/-- The rows of figures, from the depth on at which the body of a page starts. -/
lemma map_write_tagRowsAll :
    (Figure.tagRowsAll classPrefix (if options.standalone then 1 else 0) figures).map
        (Row.write options.pretty) =
      layOut options (Figure.tagRowsAll classPrefix 0 figures) := by
  rw [← Nat.zero_add (if options.standalone then 1 else 0), tagRowsAll_add, List.map_map]
  rfl

/-- **What a writer has written** is the rows of the figures, and the count is where it started. -/
theorem Writer.foldl_add_start :
    figures.foldl add (start options) =
      { start options with
        elements := layOut options (Figure.tagRowsAll options.classPrefix 0 figures) } := by
  have hcounted := counted_tagRowsAll options.classPrefix (start options).indent figures
  have hwritten := addAll_eq_foldl (start options) (start options).indent figures
  rw [foldl_add, hwritten, ← map_write_tagRowsAll]
  exact foldl_write hcounted

lemma Writer.build_foldl_add_start :
    (figures.foldl add (start options)).build = Figure.pageOfAll figures options := by
  rw [foldl_add_start, ← map_write_tagRowsAll]
  rfl

/-- A document of its own is the rows of its shell around the body, each with a line end. -/
lemma standalonePage_eq (pretty : Bool) (body : String) :
    standalonePage pretty classPrefix body =
      String.join ((shellAround classPrefix body).map (· ++ lineEnd pretty)) := by
  simp [standalonePage, shellAround, String.append_assoc]

lemma pageOfAll_eq :
    Figure.pageOfAll figures options =
      let body := (lineEnd options.pretty).intercalate
        (layOut options (Figure.tagRowsAll options.classPrefix 0 figures))
      if options.standalone then
        String.join ((shellAround options.classPrefix body).map (· ++ lineEnd options.pretty))
      else body := by
  rw [Figure.pageOfAll, writeRows, map_write_tagRowsAll, standalonePage_eq]

/-- **No writer is ever asked to close an element at indentation zero**, wherever it has started. -/
theorem Writer.closesAboveZero (w : Writer) :
    w.ClosesAboveZero ((Figure.tagRowsAll classPrefix 0 figures).map (·.tag)) := by
  have htags : (Figure.tagRowsAll classPrefix 0 figures).map (·.tag) =
      (Figure.tagRowsAll classPrefix w.indent figures).map (·.tag) := by
    rw [← Nat.zero_add w.indent, tagRowsAll_add, List.map_map]
    rfl
  rw [htags]
  exact closesAboveZero_of_counted (counted_tagRowsAll classPrefix w.indent figures)

/-- On one line, rows stand one behind the other. -/
lemma layOut_compact (standalone : Bool) (rows : List Row) :
    layOut { standalone, pretty := false, classPrefix } rows = rows.map (·.tag.write) := by
  simp [layOut, indentation]

/-- Fragments on one line may be written one by one. -/
lemma pageOfAll_compact :
    Figure.pageOfAll figures { standalone := false, pretty := false, classPrefix } =
      String.join
        (figures.map (·.page { standalone := false, pretty := false, classPrefix })) := by
  induction figures with
  | nil => rfl
  | cons f figures ih =>
    rw [List.map_cons, String.join_cons, ← ih, Figure.page_eq_compact, pageOfAll_eq, pageOfAll_eq]
    simp [layOut_compact, lineEnd, Figure.intercalate_empty, Figure.compact, Figure.tagRowsAll]

/-- **Four ways to write the same elements.** Writing a figure leaves the indentation as it was, and
no element is ever closed at indentation zero. A fragment or a document of its own, on one line or
indented, figures are written as the same elements in the same order. An indented element stands
behind two spaces for each element around it, and two more in a document of its own.

So fragments on one line may be written one by one, and a document of its own puts the same rows
around any of them.

**Proof sketch.** The count of a writer is the depth in the tree (`counted_tagRowsAll`,
`foldl_write`), and the rows of figures do not depend on the way they are written. -/
theorem modes_print_same_elements (w : Writer) (f : Figure) :
    let rows := Figure.tagRowsAll classPrefix 0 figures
    let page (standalone pretty : Bool) : String :=
      Figure.pageOfAll figures { standalone, pretty, classPrefix }
    (w.add f).indent = w.indent ∧
    (∀ standalone pretty,
      let writer := Writer.start { standalone, pretty, classPrefix }
      (figures.foldl .add writer).build = page standalone pretty ∧
      (figures.foldl .add writer).elements =
        rows.map (fun r =>
          indentation pretty (r.depth + if standalone then 1 else 0) ++ r.tag.write) ∧
      figures.foldl .add writer = (rows.map (·.tag)).foldl .write writer ∧
      writer.ClosesAboveZero (rows.map (·.tag))) ∧
    page false false =
      String.join (figures.map (·.page { standalone := false, pretty := false, classPrefix })) ∧
    page false false = String.join (rows.map (·.tag.write)) ∧
    page false true =
      "\n".intercalate (rows.map fun r =>
        String.ofList (List.replicate (2 * r.depth) ' ') ++ r.tag.write) ∧
    page true false = String.join (shellAround classPrefix (page false false)) ∧
    page true true =
      String.join ((shellAround classPrefix ("\n".intercalate (rows.map fun r =>
        String.ofList (List.replicate (2 * (r.depth + 1)) ' ') ++ r.tag.write))).map
          (· ++ "\n")) := by
  intro rows page
  have hcompact : page false false = String.join (rows.map (·.tag.write)) := by
    simp [page, rows, pageOfAll_eq, layOut_compact, lineEnd, Figure.intercalate_empty]
  refine ⟨by rw [Writer.add_eq], fun standalone pretty => ?_,
    pageOfAll_compact classPrefix figures, hcompact, ?_, ?_, ?_⟩
  · have hwritten :=
      Writer.foldl_add_start { standalone, pretty, classPrefix } figures
    refine ⟨Writer.build_foldl_add_start _ figures, by rw [hwritten]; rfl, ?_,
      Writer.closesAboveZero classPrefix figures _⟩
    rw [Writer.foldl_add, Writer.addAll_eq_foldl _ 0]
    rfl
  · simp [page, rows, pageOfAll_eq, layOut, lineEnd, indentation]
  · rw [hcompact]
    simp [page, rows, pageOfAll_eq, layOut_compact, lineEnd, Figure.intercalate_empty]
  · simp [page, rows, pageOfAll_eq, layOut, lineEnd, indentation]

end Modes

end Markup

end Placard
