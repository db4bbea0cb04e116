import Mathlib.Data.List.Forall2
import Placard.Proofs.Document.Coverage
import Placard.Proofs.Document.Written

set_option relaxedAutoImplicit false
set_option autoImplicit false

/-!
# Writing documents

A document can be written in a fixed form: the header, the color scheme, and a data block with the
heading and the list of items. An entry of the list is a labelled dash, and below it stand its
value, its description, its icon and its list of children, in any order. Entries of a list of
children are written in the same way, further to the right. This file shows that reading the text
gives back the document that was written.

## Main definitions

* `Placard.Draft`, `Placard.Manuscript`: an item and a document to be written, with the order of the
  lines.
* `Placard.Draft.lines`, `Placard.Manuscript.text`: how they are written.
* `Placard.Draft.toItem`, `Placard.Manuscript.toDocument`: the item and the document they stand for.

## Main results

* `Placard.itemsOf_linesOf`: a list is read as the items that were written.
* `Placard.parse_text`: so is a whole document.
-/

namespace Placard

/-! ## Drafts -/

/-- An item to be written. -/
structure Draft where
  /-- What it is called. -/
  label : Phrase
  /-- Its value. -/
  value : Option Phrase
  /-- A longer description. -/
  desc : Option Phrase
  /-- A reference to its icon. -/
  icon : Option Phrase
  /-- The items below it. -/
  children : Option (List Draft)
  /-- The order in which the lines below its label are written. -/
  order : { ks : List Keyword // ks.Perm [.value, .desc, .icon, .children] }

/-- The line of a property, if there is something to set. -/
def propertyLine (indent : Nat) (k : Keyword) : Option Phrase → List WrittenLine
  | none => []
  | some argument => [⟨indent, k, some argument⟩]

namespace Draft

mutual

/-- The lines of an item. -/
def lines (indent : Nat) : Draft → List WrittenLine
  | ⟨label, value, desc, icon, children, order⟩ =>
    let list := linesBelow (indent + 2) children
    ⟨indent, .dash, some (.ofKeyword .label (some label))⟩ :: order.val.flatMap fun
      | .value => propertyLine (indent + 2) .value value
      | .desc => propertyLine (indent + 2) .desc desc
      | .icon => propertyLine (indent + 2) .icon icon
      | .children => list
      -- the order has no other keyword
      | _ => []

/-- The lines of a list of children, if there is one. -/
def linesBelow (indent : Nat) : Option (List Draft) → List WrittenLine
  | none => []
  | some ds => ⟨indent, .children, none⟩ :: linesOf (indent + 2) ds

/-- The lines of items, one after the other. -/
def linesOf (indent : Nat) : List Draft → List WrittenLine
  | [] => []
  | d :: ds => lines indent d ++ linesOf indent ds

end

mutual

/-- The item that is written. -/
def toItem : Draft → Item
  | ⟨label, value, desc, icon, children, _⟩ =>
    { label := String.ofList label.chars
      value := value.map fun raw => Value.coerce raw.chars
      desc := desc.map fun text => String.ofList text.chars
      icon := icon.map fun text => String.ofList text.chars
      children := toItems? children }

/-- The items of a list of children, if there is one. -/
def toItems? : Option (List Draft) → Option (List Item)
  | none => none
  | some ds => some (toItems ds)

/-- The items of a list. -/
def toItems : List Draft → List Item
  | [] => []
  | d :: ds => toItem d :: toItems ds

end

/-- What is written behind a keyword below the label. -/
def argument? (d : Draft) : Keyword → Option Phrase
  | .value => d.value
  | .desc => d.desc
  | .icon => d.icon
  | _ => none

/-- The lines that start with a keyword below the label, and the lines that belong to them. -/
def linesFor (d : Draft) (indent : Nat) (k : Keyword) : List WrittenLine :=
  if k = .children then linesBelow indent d.children else propertyLine indent k (d.argument? k)

lemma lines_eq (d : Draft) (indent : Nat) :
    d.lines indent =
      ⟨indent, .dash, some (.ofKeyword .label (some d.label))⟩ ::
        d.order.val.flatMap (d.linesFor (indent + 2)) := by
  obtain ⟨label, value, desc, icon, children, order⟩ := d
  rw [lines]
  congr 2
  funext k
  cases k <;> rfl

end Draft

/-- A document to be written. -/
structure Manuscript where
  /-- The name of its template. -/
  template : Phrase
  /-- The color scheme it asks for. -/
  theme : Option Phrase
  /-- The heading. -/
  title : Option Phrase
  /-- The items. -/
  items : List Draft
  /-- Whether a line feed stands behind the last line. -/
  closed : Bool

namespace Manuscript

/-- The lines below the header. -/
def body (m : Manuscript) : List WrittenLine :=
  propertyLine 0 .theme m.theme ++ ⟨0, .data, none⟩ ::
    (propertyLine 2 .title m.title ++ ⟨2, .items, none⟩ :: Draft.linesOf 4 m.items)

/-- The text of the document. -/
def text (m : Manuscript) : String :=
  let lines := ⟨0, .infographic, some m.template⟩ :: m.body
  String.ofList
    (['\n'].intercalate (lines.map WrittenLine.chars ++ if m.closed then [[]] else []))

/-- The document that is written. -/
def toDocument (m : Manuscript) : Document where
  template := String.ofList m.template.chars
  title := m.title.map fun title => String.ofList title.chars
  theme := m.theme.map fun theme => String.ofList theme.chars
  items := Draft.toItems m.items

end Manuscript

/-! ## Reading lines back -/

section Forall₂

variable {ls : List Line} {ws : List WrittenLine}

/-- Lines that were written one after the other. -/
lemma exists_append_of_reads {vs ws : List WrittenLine}
    (h : List.Forall₂ Line.Reads ls (vs ++ ws)) :
    ∃ as bs, ls = as ++ bs ∧ List.Forall₂ Line.Reads as vs ∧ List.Forall₂ Line.Reads bs ws :=
  ⟨_, _, (List.take_append_drop _ _).symm, List.forall₂_take_append _ _ _ h,
    List.forall₂_drop_append _ _ _ h⟩

/-- Lines that were written far enough to the right are indented far enough. -/
lemma forall_le_indent_of_reads {base : Nat} (h : List.Forall₂ Line.Reads ls ws)
    (hws : ∀ w ∈ ws, base ≤ w.indent) : ∀ l ∈ ls, base ≤ l.indent := by
  induction h with
  | nil => exact fun l hl => absurd hl List.not_mem_nil
  | cons hl _ ih =>
    intro l hmem
    obtain rfl | hmem := List.mem_cons.mp hmem
    · rw [hl.indent]
      exact hws _ List.mem_cons_self
    · exact ih (fun w hw => hws w (List.mem_cons_of_mem _ hw)) l hmem

lemma forall_head_le_indent_of_reads {base : Nat} (h : List.Forall₂ Line.Reads ls ws)
    (hws : ∀ w ∈ ws.head?, w.indent ≤ base) : ∀ l ∈ ls.head?, l.indent ≤ base := by
  cases h with
  | nil => exact fun l hl => absurd hl (by simp)
  | cons hl _ =>
    rintro l ⟨⟩
    rw [hl.indent]
    exact hws _ rfl

end Forall₂

/-! ## Indentation -/

section Indent

variable {indent : Nat} {k : Keyword}

lemma indent_of_mem_propertyLine {argument : Option Phrase} :
    ∀ w ∈ propertyLine indent k argument, w.indent = indent := by
  intro w hw
  cases argument with
  | none => exact absurd hw List.not_mem_nil
  | some p => rw [List.mem_singleton.mp hw]

namespace Draft

mutual

/-- No line of an item is indented less than the first one. -/
lemma le_indent_of_mem_lines (indent : Nat) (d : Draft) :
    ∀ w ∈ d.lines indent, indent ≤ w.indent := by
  match d with
  | ⟨label, value, desc, icon, children, order⟩ =>
    intro w hw
    rw [lines_eq] at hw
    obtain rfl | hw := List.mem_cons.mp hw
    · exact Nat.le_refl _
    · obtain ⟨k, -, hw⟩ := List.mem_flatMap.mp hw
      rw [linesFor] at hw
      split at hw
      · have hle := le_indent_of_mem_linesBelow (indent + 2) children w hw
        omega
      · rw [indent_of_mem_propertyLine w hw]
        omega

/-- No line of a list of children is indented less than the first one. -/
lemma le_indent_of_mem_linesBelow (indent : Nat) (children : Option (List Draft)) :
    ∀ w ∈ linesBelow indent children, indent ≤ w.indent := by
  match children with
  | none => exact fun w hw => absurd hw List.not_mem_nil
  | some ds =>
    intro w hw
    obtain rfl | hw := List.mem_cons.mp hw
    · exact Nat.le_refl _
    · have hle := le_indent_of_mem_linesOf (indent + 2) ds w hw
      omega

/-- No line of a list of items is indented less than the first one. -/
lemma le_indent_of_mem_linesOf (indent : Nat) (ds : List Draft) :
    ∀ w ∈ linesOf indent ds, indent ≤ w.indent := by
  match ds with
  | [] => exact fun w hw => absurd hw List.not_mem_nil
  | d :: ds =>
    intro w hw
    obtain hw | hw := List.mem_append.mp hw
    · exact le_indent_of_mem_lines indent d w hw
    · exact le_indent_of_mem_linesOf indent ds w hw

end

lemma le_indent_of_mem_linesFor (d : Draft) (indent : Nat) (k : Keyword) :
    ∀ w ∈ d.linesFor indent k, indent ≤ w.indent := by
  intro w hw
  rw [linesFor] at hw
  split at hw
  · exact le_indent_of_mem_linesBelow indent _ w hw
  · rw [indent_of_mem_propertyLine w hw]

/-- The lines below a label start where they all do. -/
lemma head_linesFor_le (d : Draft) (indent : Nat) (ks : List Keyword) :
    ∀ w ∈ (ks.flatMap (d.linesFor indent)).head?, w.indent ≤ indent := by
  induction ks with
  | nil => exact fun w hw => absurd hw (by simp)
  | cons k ks ih =>
    intro w hw
    rw [List.flatMap_cons, List.head?_append] at hw
    cases hfirst : (d.linesFor indent k).head? with
    | none =>
      rw [hfirst] at hw
      exact ih w hw
    | some v =>
      rw [hfirst] at hw
      obtain rfl : v = w := Option.some.inj hw
      rw [linesFor] at hfirst
      split at hfirst
      · cases hchildren : d.children with
        | none => simp [hchildren, linesBelow] at hfirst
        | some ds =>
          rw [hchildren, linesBelow, List.head?_cons] at hfirst
          rw [← Option.some.inj hfirst]
      · exact Nat.le_of_eq (indent_of_mem_propertyLine v (List.mem_of_mem_head? hfirst))

/-- A list of items starts where its items do. -/
lemma head_linesOf_le (indent : Nat) (ds : List Draft) :
    ∀ w ∈ (linesOf indent ds).head?, w.indent ≤ indent := by
  cases ds with
  | nil => exact fun w hw => absurd hw (by simp [linesOf])
  | cons d ds =>
    rw [linesOf, lines_eq]
    rintro w ⟨⟩
    exact Nat.le_refl _

end Draft

end Indent

/-! ## Reading items -/

section Reading

variable {ls : List Line} {l : Line} {indent : Nat} {k : Keyword} {argument : Option Phrase}

/-- A property in front of other lines is set by them, or else by its own line. -/
lemma lastArgument?_propertyLine (v : Level) {as bs : List Line}
    (has : List.Forall₂ Line.Reads as (propertyLine indent k argument))
    (hv : ∀ l p, l.Reads ⟨indent, k, some p⟩ → v.opens l = false) (k' : Keyword) :
    v.lastArgument? (as ++ bs) k' =
      (v.lastArgument? bs k').or (if k = k' then argument.map Phrase.chars else none) := by
  cases argument with
  | none =>
    rw [propertyLine, List.forall₂_nil_right_iff] at has
    rw [has, List.nil_append, Option.map_none, ite_self, Option.or_none]
  | some p =>
    rw [propertyLine, List.forall₂_cons_right_iff] at has
    obtain ⟨l, below, hl, hbelow, rfl⟩ := has
    rw [List.forall₂_nil_right_iff] at hbelow
    rw [hbelow, List.singleton_append, Level.lastArgument?_cons,
      Level.next_of_not_opens (hv l p hl), hl.argumentOf?_eq]

/-- A property opens no block. -/
lemma lastBlock?_propertyLine (v : Level) {as bs : List Line}
    (has : List.Forall₂ Line.Reads as (propertyLine indent k argument))
    (hv : ∀ l p, l.Reads ⟨indent, k, some p⟩ → v.opens l = false) :
    v.lastBlock? (as ++ bs) = v.lastBlock? bs := by
  cases argument with
  | none =>
    rw [propertyLine, List.forall₂_nil_right_iff] at has
    rw [has, List.nil_append]
  | some p =>
    rw [propertyLine, List.forall₂_cons_right_iff] at has
    obtain ⟨l, below, hl, hbelow, rfl⟩ := has
    rw [List.forall₂_nil_right_iff] at hbelow
    rw [hbelow, List.singleton_append, Level.lastBlock?_cons_of_not_opens (hv l p hl)]

/-- A label written behind its keyword is found behind it. -/
lemma headerLabel_ofKeyword (l : Line) (label : Phrase) :
    Entry.headerLabel { line := l, header := (Phrase.ofKeyword .label (some label)).chars } =
      label.chars := by
  rw [Entry.headerLabel, Head.splitArgument, split_ofKeyword]
  simp only [argumentIn_behindKeyword, Option.map_some]

namespace Draft

lemma toItem_eq (d : Draft) :
    d.toItem =
      { label := String.ofList d.label.chars
        value := d.value.map fun raw => Value.coerce raw.chars
        desc := d.desc.map fun text => String.ofList text.chars
        icon := d.icon.map fun text => String.ofList text.chars
        children := toItems? d.children } := by
  obtain ⟨label, value, desc, icon, children, order⟩ := d
  rw [toItem]

/-- A list of children sets no property. -/
lemma lastArgument?_linesBelow {children : Option (List Draft)}
    (h : List.Forall₂ Line.Reads ls (linesBelow indent children)) (k : Keyword) :
    Level.entry.lastArgument? ls k = none := by
  cases children with
  | none =>
    rw [linesBelow, List.forall₂_nil_right_iff] at h
    rw [h, Level.lastArgument?_nil]
  | some ds =>
    rw [linesBelow, List.forall₂_cons_right_iff] at h
    obtain ⟨l, below, hl, hbelow, rfl⟩ := h
    have hopens : Level.entry.opens l = true := by simp [Level.entry, hl.isBare_eq]
    have hle : ∀ m ∈ below, l.indent + Level.entry.depth ≤ m.indent := by
      rw [hl.indent]
      exact forall_le_indent_of_reads hbelow (le_indent_of_mem_linesOf (indent + 2) ds)
    rw [Level.lastArgument?_cons_of_forall hopens hle, hl.argumentOf?_eq, Option.map_none, ite_self]

/-- The lines for one keyword set what that keyword sets, and nothing else. -/
lemma lastArgument?_linesFor (d : Draft)
    (h : List.Forall₂ Line.Reads ls (d.linesFor indent k)) (k' : Keyword) :
    Level.entry.lastArgument? ls k' =
      if k = k' then (d.argument? k').map Phrase.chars else none := by
  by_cases hk : k = .children
  · subst hk
    rw [linesFor, if_pos rfl] at h
    rw [lastArgument?_linesBelow h]
    split
    · next heq =>
      rw [← heq]
      rfl
    · rfl
  · rw [linesFor, if_neg hk] at h
    have hv : ∀ l p, l.Reads ⟨indent, k, some p⟩ → Level.entry.opens l = false := by
      intro l p hl
      simp [Level.entry, hl.isBare_eq]
    rw [← List.append_nil ls, lastArgument?_propertyLine Level.entry h hv,
      Level.lastArgument?_nil, Option.none_or]
    split
    · next heq => rw [heq]
    · rfl

/-- The lines for a property open no list. -/
lemma lastBlock?_linesFor (d : Draft)
    (h : List.Forall₂ Line.Reads ls (d.linesFor indent k)) (hk : k ≠ .children) :
    Level.entry.lastBlock? ls = none := by
  rw [linesFor, if_neg hk] at h
  have hv : ∀ l p, l.Reads ⟨indent, k, some p⟩ → Level.entry.opens l = false := by
    intro l p hl
    simp [Level.entry, hl.isBare_eq]
  rw [← List.append_nil ls, lastBlock?_propertyLine Level.entry h hv, Level.lastBlock?_nil]

/-- Where the lines for one keyword end, the blocks they open do. -/
lemma indent_lt_of_reads (d : Draft) {ks : List Keyword} {as bs : List Line}
    (has : List.Forall₂ Line.Reads as (d.linesFor indent k))
    (hbs : List.Forall₂ Line.Reads bs (ks.flatMap (d.linesFor indent))) :
    ∀ l ∈ as, ∀ b ∈ bs.head?, b.indent < l.indent + Level.entry.depth := by
  intro l hl b hb
  have hle := forall_le_indent_of_reads has (d.le_indent_of_mem_linesFor indent k) l hl
  have hge := forall_head_le_indent_of_reads hbs (d.head_linesFor_le indent ks) b hb
  have hdepth : Level.entry.depth = 2 := rfl
  omega

/-- The properties of an item are read back from the lines below its label, in whatever order they
are written. -/
lemma lastArgument?_flatMap (d : Draft) (ks : List Keyword) (k : Keyword)
    (h : List.Forall₂ Line.Reads ls (ks.flatMap (d.linesFor indent))) :
    Level.entry.lastArgument? ls k =
      if k ∈ ks then (d.argument? k).map Phrase.chars else none := by
  induction ks generalizing ls with
  | nil =>
    rw [List.flatMap_nil, List.forall₂_nil_right_iff] at h
    rw [h]
    rfl
  | cons k' ks ih =>
    rw [List.flatMap_cons] at h
    obtain ⟨as, bs, rfl, has, hbs⟩ := exists_append_of_reads h
    rw [Level.lastArgument?_append (d.indent_lt_of_reads has hbs), ih hbs,
      d.lastArgument?_linesFor has]
    by_cases hk : k' = k
    · subst hk
      rw [if_pos rfl, if_pos List.mem_cons_self]
      split
      · exact Option.or_self
      · exact Option.none_or
    · have hmem : k ∈ k' :: ks ↔ k ∈ ks := by simp [Ne.symm hk]
      rw [if_neg hk, Option.or_none, if_congr hmem rfl rfl]

/-- So is the list of children, if it is read back from its own lines. -/
lemma lastBlock?_flatMap (d : Draft) (ks : List Keyword)
    (hchildren : ∀ ls, List.Forall₂ Line.Reads ls (linesBelow indent d.children) →
      (Level.entry.lastBlock? ls).map itemsOf = toItems? d.children)
    (h : List.Forall₂ Line.Reads ls (ks.flatMap (d.linesFor indent))) :
    (Level.entry.lastBlock? ls).map itemsOf =
      if .children ∈ ks then toItems? d.children else none := by
  induction ks generalizing ls with
  | nil =>
    rw [List.flatMap_nil, List.forall₂_nil_right_iff] at h
    rw [h]
    rfl
  | cons k ks ih =>
    rw [List.flatMap_cons] at h
    obtain ⟨as, bs, rfl, has, hbs⟩ := exists_append_of_reads h
    rw [Level.lastBlock?_append (d.indent_lt_of_reads has hbs), Option.map_or, ih hbs]
    by_cases hk : k = .children
    · subst hk
      rw [hchildren as has, if_pos List.mem_cons_self]
      split
      · exact Option.or_self
      · exact Option.none_or
    · have hmem : Keyword.children ∈ k :: ks ↔ .children ∈ ks := by simp [Ne.symm hk]
      rw [d.lastBlock?_linesFor has hk, Option.map_none, Option.or_none, if_congr hmem rfl rfl]

/-- An item is read back if its list of children is.

**Proof sketch.** The first line opens an entry, and the other ones are the lines below it, since
they are indented further. Every keyword that may stand below it is in the order of its lines. -/
lemma itemsOf_cons_of_reads (d : Draft) {below : List Line}
    (hl : l.Reads ⟨indent, .dash, some (.ofKeyword .label (some d.label))⟩)
    (hbelow : List.Forall₂ Line.Reads below (d.order.val.flatMap (d.linesFor (indent + 2))))
    (hchildren : ∀ ls, List.Forall₂ Line.Reads ls (linesBelow (indent + 2) d.children) →
      (Level.entry.lastBlock? ls).map itemsOf = toItems? d.children) :
    itemsOf (l :: below) = [d.toItem] := by
  have hdash : l.argumentOf? .dash = some (Phrase.ofKeyword .label (some d.label)).chars := by
    rw [hl.argumentOf?_eq]
    rfl
  have hle : ∀ m ∈ below, l.indent + 1 ≤ m.indent := by
    refine forall_le_indent_of_reads hbelow fun w hw => ?_
    obtain ⟨k, -, hw⟩ := List.mem_flatMap.mp hw
    have hindent : l.indent = indent := hl.indent
    have hw := d.le_indent_of_mem_linesFor _ k w hw
    omega
  have hmem : ∀ k ∈ [Keyword.value, .desc, .icon, .children], k ∈ d.order.val :=
    fun k hk => d.order.property.mem_iff.mpr hk
  have hproperty : ∀ k, Level.entry.lastArgument? below k = (d.argument? k).map Phrase.chars := by
    intro k
    rw [d.lastArgument?_flatMap d.order.val k hbelow]
    split
    · rfl
    · next hk =>
      -- a keyword outside the order is one that sets nothing
      cases k <;> first
        | rfl
        | exact absurd (hmem _ (by decide)) hk
  have hlist : (Level.entry.lastBlock? below).map itemsOf = toItems? d.children := by
    rw [d.lastBlock?_flatMap d.order.val hchildren hbelow, if_pos (hmem _ (by decide))]
  rw [itemsOf_cons_of_some hdash, reach_eq_self hle, past_eq_nil hle, itemsOf_eq [], toItem_eq,
    itemOf_eq, hdash, hlist]
  simp only [hproperty, Option.getD_some, argument?, Option.map_none, Option.getD_none,
    headerLabel_ofKeyword, Option.map_map]
  rfl

mutual

/-- **An item is read back.** The lines of an item are read as a list with that item alone. -/
theorem itemsOf_lines (indent : Nat) (d : Draft) (ls : List Line)
    (h : List.Forall₂ Line.Reads ls (d.lines indent)) : itemsOf ls = [d.toItem] := by
  match d with
  | ⟨label, value, desc, icon, children, order⟩ =>
    rw [lines_eq, List.forall₂_cons_right_iff] at h
    obtain ⟨l, below, hl, hbelow, rfl⟩ := h
    exact itemsOf_cons_of_reads ⟨label, value, desc, icon, children, order⟩ hl hbelow
      (lastBlock?_linesBelow (indent + 2) children)

/-- A list of children is read back from its own lines. -/
theorem lastBlock?_linesBelow (indent : Nat) (children : Option (List Draft)) (ls : List Line)
    (h : List.Forall₂ Line.Reads ls (linesBelow indent children)) :
    (Level.entry.lastBlock? ls).map itemsOf = toItems? children := by
  match children with
  | none =>
    rw [linesBelow, List.forall₂_nil_right_iff] at h
    rw [h]
    rfl
  | some ds =>
    rw [linesBelow, List.forall₂_cons_right_iff] at h
    obtain ⟨l, below, hl, hbelow, rfl⟩ := h
    have hopens : Level.entry.opens l = true := by simp [Level.entry, hl.isBare_eq]
    have hle : ∀ m ∈ below, l.indent + Level.entry.depth ≤ m.indent := by
      rw [hl.indent]
      exact forall_le_indent_of_reads hbelow (le_indent_of_mem_linesOf (indent + 2) ds)
    rw [Level.lastBlock?_cons_of_forall hopens hle, Option.map_some,
      itemsOf_linesOf (indent + 2) ds below hbelow]
    rfl

/-- **A list is read back.** The lines of items are read as the list of these items.

**Proof sketch.** Recursion over the list. The first item ends where the second one starts, since no
line of it is indented less. -/
theorem itemsOf_linesOf (indent : Nat) (ds : List Draft) (ls : List Line)
    (h : List.Forall₂ Line.Reads ls (linesOf indent ds)) : itemsOf ls = toItems ds := by
  match ds with
  | [] =>
    rw [linesOf, List.forall₂_nil_right_iff] at h
    rw [h, itemsOf_eq]
    rfl
  | d :: ds =>
    rw [linesOf] at h
    obtain ⟨as, bs, rfl, has, hbs⟩ := exists_append_of_reads h
    have hend : ∀ l ∈ as, ∀ b ∈ bs.head?, b.indent ≤ l.indent := by
      intro l hl b hb
      have hle := forall_le_indent_of_reads has (le_indent_of_mem_lines indent d) l hl
      have hge := forall_head_le_indent_of_reads hbs (head_linesOf_le indent ds) b hb
      omega
    rw [itemsOf_append hend, itemsOf_lines indent d as has, itemsOf_linesOf indent ds bs hbs]
    rfl

end

end Draft

end Reading

/-! ## Reading documents -/

section Sources

lemma reads_ofPieces (number start : Nat) (ws : List WrittenLine) (closed : Bool) :
    List.Forall₂ Line.Reads
      (nonBlank (Line.ofPieces number start
        (ws.map WrittenLine.chars ++ if closed then [[]] else []))) ws := by
  induction ws generalizing number start with
  | nil => cases closed <;> exact List.Forall₂.nil
  | cons w ws ih =>
    have hw := Line.Reads.ofPiece number start w
    rw [List.map_cons, List.cons_append, Line.ofPieces, nonBlank_cons_of_not_isBlank hw.isBlank_eq]
    exact List.Forall₂.cons hw (ih _ _)

/-- **Lines are read back.** The lines of a source that was written line by line are, but for blank
ones, the lines that were written. -/
theorem reads_ofSource (w : WrittenLine) (ws : List WrittenLine) (closed : Bool) :
    List.Forall₂ Line.Reads
      (nonBlank (Line.ofSource (String.ofList (['\n'].intercalate
        ((w :: ws).map WrittenLine.chars ++ if closed then [[]] else []))))) (w :: ws) := by
  rw [Line.ofSource, String.toList_ofList, List.splitOn_intercalate]
  · exact reads_ofPieces 0 0 (w :: ws) closed
  · intro piece hpiece
    obtain hpiece | hpiece := List.mem_append.mp hpiece
    · obtain ⟨v, -, rfl⟩ := List.mem_map.mp hpiece
      exact v.newline_not_mem_chars
    · have hnil : piece = [] := by
        split at hpiece
        · exact List.mem_singleton.mp hpiece
        · exact absurd hpiece List.not_mem_nil
      rw [hnil]
      exact List.not_mem_nil
  · exact List.cons_ne_nil _ _

/-- The data block is read back.

**Proof sketch.** The line of the heading opens no list, so the list is the block of the line below
it, and that line is the last one the block does not cover. -/
lemma data_of_reads (title : Option Phrase) (ds : List Draft) {ls : List Line}
    (h : List.Forall₂ Line.Reads ls
      (propertyLine 2 .title title ++ ⟨2, .items, none⟩ :: Draft.linesOf 4 ds)) :
    Level.data.lastArgument? ls .title = title.map Phrase.chars ∧
      (Level.data.lastBlock? ls).map itemsOf = some (Draft.toItems ds) := by
  obtain ⟨as, bs, rfl, has, hbs⟩ := exists_append_of_reads h
  rw [List.forall₂_cons_right_iff] at hbs
  obtain ⟨l, below, hl, hbelow, rfl⟩ := hbs
  have hv : ∀ l p, l.Reads ⟨2, .title, some p⟩ → Level.data.opens l = false := by
    intro l p hl
    simp [Level.data, hl.isBare_eq]
  have hopens : Level.data.opens l = true := by simp [Level.data, hl.isBare_eq]
  have hle : ∀ m ∈ below, l.indent + Level.data.depth ≤ m.indent := by
    rw [hl.indent]
    exact forall_le_indent_of_reads hbelow (Draft.le_indent_of_mem_linesOf 4 ds)
  constructor
  · rw [lastArgument?_propertyLine _ has hv, Level.lastArgument?_cons_of_forall hopens hle,
      hl.argumentOf?_eq]
    rfl
  · rw [lastBlock?_propertyLine _ has hv, Level.lastBlock?_cons_of_forall hopens hle,
      Option.map_some, Draft.itemsOf_linesOf 4 ds below hbelow]

/-- The lines below the header are read back. -/
lemma documentOf_of_reads (m : Manuscript) {ls : List Line}
    (h : List.Forall₂ Line.Reads ls m.body) :
    documentOf m.template.chars ls = m.toDocument := by
  obtain ⟨as, bs, rfl, has, hbs⟩ := exists_append_of_reads h
  rw [List.forall₂_cons_right_iff] at hbs
  obtain ⟨l, below, hl, hbelow, rfl⟩ := hbs
  obtain ⟨htitle, hitems⟩ := data_of_reads m.title m.items hbelow
  have hv : ∀ l p, l.Reads ⟨0, .theme, some p⟩ → Level.root.opens l = false := by
    intro l p hl
    simp [Level.root, hl.isBare_eq]
  have hopens : Level.root.opens l = true := by simp [Level.root, hl.isBare_eq]
  have hle : ∀ l' ∈ below, l.indent + Level.root.depth ≤ l'.indent := by
    rw [hl.indent]
    exact fun _ _ => Nat.zero_le _
  have htheme : Level.root.lastArgument? (as ++ l :: below) .theme =
      m.theme.map Phrase.chars := by
    rw [lastArgument?_propertyLine _ has hv, Level.lastArgument?_cons_of_forall hopens hle,
      hl.argumentOf?_eq]
    rfl
  have hblock : Level.root.lastBlock? (as ++ l :: below) = some below := by
    rw [lastBlock?_propertyLine _ has hv, Level.lastBlock?_cons_of_forall hopens hle]
  rw [documentOf, htheme, hblock, Option.bind_some, Option.bind_some, htitle, hitems]
  simp only [Option.map_map, Option.getD_some]
  rfl

/-- **A document is read back.** Parsing the text of a document that was written line by line gives
that document.

**Proof sketch.** The lines of the text are those that were written (`reads_ofSource`), and a text
is parsed as the document that its lines stand for by their indentation, which is the one that was
written (`documentOf_of_reads`). -/
theorem parse_text (m : Manuscript) : parse m.text = .ok m.toDocument := by
  have hlines := reads_ofSource ⟨0, .infographic, some m.template⟩ m.body m.closed
  rw [List.forall₂_cons_right_iff] at hlines
  obtain ⟨header, body, hheader, hbody, hsource⟩ := hlines
  have hheaded : headed? m.text = some (m.template.chars, body) := by
    rw [headed?, Manuscript.text, hsource]
    simp only [hheader.argumentOf?_eq, if_true, Option.map_some]
  rw [parse_of_headed? hheaded, documentOf_of_reads m hbody]

end Sources

end Placard
