import Placard.Proofs.Document.DepthFirst
import Placard.Proofs.Document.Edit

set_option relaxedAutoImplicit false
set_option autoImplicit false

/-!
# Items in the order of their lines

Every item of a document stems from a line of its own, and the reader goes through the lines only
once. So the items, listed depth first, come in the order of their lines, whatever lists are read
and then replaced by later ones. This file shows so, and how far the lines of the items are indented
below the keywords that open their lists.

## Main definitions

* `Placard.Entry.depthFirst`: entries and those below them, each before its children.
* `Placard.ListedBelow`: entries are listed in the block that a line opens.
* `Placard.Entry.StemsFrom`: an entry stems from a line, and its children are listed below it.

## Main results

* `Placard.map_line_depthFirst_sublist`: the lines of entries, depth first, are among the given ones
  in the same order.
* `Placard.exists_stands_of_mem_depthFirst`: each entry is what a line opens.
* `Placard.items_in_line_order`: the items of a document keep the order of their lines.
-/

namespace Placard

/-! ## Listing entries -/

namespace Entry

mutual

/-- An entry and those below it, each before its children. -/
def subtree : Entry → List Entry
  | ⟨line, header, properties, children⟩ =>
    ⟨line, header, properties, children⟩ :: subtreesBelow children

/-- The entries below an entry, each before its children. -/
def subtreesBelow : Option (List Entry) → List Entry
  | none => []
  | some entries => depthFirst entries

/-- Entries and those below them, each before its children. -/
def depthFirst : List Entry → List Entry
  | [] => []
  | e :: es => subtree e ++ depthFirst es

end

lemma subtree_eq (e : Entry) : e.subtree = e :: subtreesBelow e.children := by
  obtain ⟨line, header, properties, children⟩ := e
  rfl

lemma mem_depthFirst_iff_exists {e : Entry} {es : List Entry} :
    e ∈ depthFirst es ↔ ∃ a ∈ es, e ∈ a.subtree := by
  induction es with
  | nil => simp [depthFirst]
  | cons a es ih => simp [depthFirst, ih]

mutual

/-- The items below an entry's item are those of the entries below it. -/
lemma subtree_toItem (e : Entry) : Item.subtree e.toItem = e.subtree.map toItem := by
  match e with
  | ⟨line, header, properties, children⟩ =>
    rw [subtree, List.map_cons, toItem, Item.subtree, subtreesBelow_toItems? children]

lemma subtreesBelow_toItems? (children : Option (List Entry)) :
    Item.subtreesBelow (toItems? children) = (subtreesBelow children).map toItem := by
  match children with
  | none => rfl
  | some entries => exact depthFirst_toItems entries

lemma depthFirst_toItems (es : List Entry) :
    Item.depthFirst (toItems es) = (depthFirst es).map toItem := by
  match es with
  | [] => rfl
  | e :: es =>
    rw [depthFirst, toItems, Item.depthFirst, subtree_toItem e, depthFirst_toItems es,
      List.map_append]

end

end Entry

/-! ## Entries of a list of lines -/

section Lists

variable {v : Level} {lines before below behind block : List Line} {l c : Line} {e : Entry}

namespace Level

/-- A block that stands among lines is the extent of the line that opens it. -/
lemma Stands.extent_eq (h : v.Stands lines before c block behind) :
    v.extent lines before.length = block := by
  rw [extent, h.lines_eq, List.drop_left]
  exact reach_append_of_forall h.inside h.ends

lemma Stands.block_sublist (h : v.Stands lines before c block behind) : block.Sublist lines := by
  rw [h.lines_eq]
  exact ((List.sublist_append_left block behind).cons c).trans (List.sublist_append_right before _)

/-- Lines that are numbered in order have larger numbers in a block than on the line opening it. -/
lemma Stands.number_lt (h : v.Stands lines before c block behind)
    (hlines : lines.Pairwise (·.number < ·.number)) : ∀ l ∈ block, c.number < l.number := by
  rw [h.lines_eq, List.pairwise_append, List.pairwise_cons] at hlines
  exact fun l hl => hlines.2.1.1 l (List.mem_append_left _ hl)

lemma exists_stands_of_mem_blocks (h : (c, block) ∈ v.blocks lines) :
    ∃ before behind, v.Stands lines before c block behind := by
  obtain ⟨i, hi⟩ := List.mem_iff_getElem?.mp h
  obtain ⟨before, behind, hstands, -⟩ := blocks_replace hi
  exact ⟨before, behind, hstands⟩

lemma exists_stands_of_lastBlock? (h : v.lastBlock? lines = some block) :
    ∃ before c behind, v.Stands lines before c block behind := by
  obtain ⟨before, c, behind, hstands, -⟩ := lastBlock?_replace h
  exact ⟨before, c, behind, hstands⟩

end Level

/-- **The lines of entries, listed depth first, are among the given ones in the same order.**

**Proof sketch.** Strong induction on the number of lines. The first line that opens an entry comes
first; the entries below it have their lines in its extent, where they come from one block, and the
entries after it have theirs behind the extent. -/
theorem map_line_depthFirst_sublist (lines : List Line) :
    ((Entry.depthFirst (entriesOf lines)).map (·.line)).Sublist lines := by
  induction hn : lines.length using Nat.strong_induction_on generalizing lines with
  | _ n ih =>
    cases lines with
    | nil =>
      rw [entriesOf_nil]
      exact List.Sublist.slnil
    | cons l ls =>
      rw [List.length_cons] at hn
      cases hd : l.argumentOf? .dash with
      | none =>
        rw [entriesOf_cons_of_none hd]
        exact (ih ls.length (by omega) ls rfl).cons l
      | some header =>
        have hsplit := reach_append_past (l.indent + 1) ls
        have hlength := congrArg List.length hsplit
        rw [List.length_append] at hlength
        have hbelow : ((Entry.subtreesBelow
            (entryOf l (reach (l.indent + 1) ls)).children).map (·.line)).Sublist
              (reach (l.indent + 1) ls) := by
          rw [children_entryOf]
          cases hlast : Level.entry.lastBlock? (reach (l.indent + 1) ls) with
          | none => exact List.nil_sublist _
          | some list =>
            have hshort := Level.length_lt_of_lastBlock? hlast
            obtain ⟨before, c, behind, hstands⟩ := Level.exists_stands_of_lastBlock? hlast
            exact (ih list.length (by omega) list rfl).trans hstands.block_sublist
        have hafter := ih (past (l.indent + 1) ls).length (by omega) _ rfl
        rw [entriesOf_cons_of_some hd, Entry.depthFirst, Entry.subtree_eq, List.map_append,
          List.map_cons, line_entryOf, List.cons_append]
        refine List.Sublist.cons_cons l ?_
        conv => rhs; rw [← hsplit]
        exact hbelow.append hafter

/-- **Each entry is what a line opens**, with the lines of its extent.

**Proof sketch.** Strong induction on the number of lines. The entry is opened by a line of the
list, or it is below such an entry, in the last list of children of its extent; that block stands
inside the extent, which stands in the list. -/
theorem exists_stands_of_mem_depthFirst (h : e ∈ Entry.depthFirst (entriesOf lines)) :
    ∃ before below behind, Level.list.Stands lines before e.line below behind ∧
      e = entryOf e.line below := by
  induction hn : lines.length using Nat.strong_induction_on generalizing lines with
  | _ n ih =>
    obtain ⟨a, ha, he⟩ := Entry.mem_depthFirst_iff_exists.mp h
    rw [entriesOf_eq] at ha
    obtain ⟨⟨c, block⟩, hblock, rfl⟩ := List.mem_map.mp ha
    obtain ⟨before, behind, hstands⟩ := Level.exists_stands_of_mem_blocks hblock
    rw [Entry.subtree_eq, List.mem_cons] at he
    rcases he with rfl | he
    · rw [line_entryOf]
      exact ⟨before, block, behind, hstands, rfl⟩
    · rw [children_entryOf] at he
      cases hlast : Level.entry.lastBlock? block with
      | none =>
        rw [hlast] at he
        cases he
      | some list =>
        rw [hlast] at he
        have hshort : list.length < n := by
          rw [← hn]
          exact Nat.lt_trans (Level.length_lt_of_lastBlock? hlast)
            (Level.length_lt_of_mem_blocks hblock)
        obtain ⟨before', below, behind', hinner, heq⟩ := ih list.length hshort he rfl
        obtain ⟨before'', c', behind'', hlist⟩ := Level.exists_stands_of_lastBlock? hlast
        exact ⟨_, below, _, (hstands.nest hlist).nest hinner, heq⟩

/-- An entry is the item that its line and the lines of its extent stand for. -/
lemma toItem_entryOf {header : List Char} (hd : l.argumentOf? .dash = some header)
    (hblank : ∀ m ∈ below, m.isBlank = false) (hinside : ∀ m ∈ below, l.indent < m.indent) :
    (entryOf l below).toItem = itemOf l below := by
  have hself : reach (l.indent + 1) (nonBlank below) = below := by
    rw [nonBlank, List.filter_eq_self.mpr (by simpa using hblank), reach_eq_self hinside]
  have hdescribed := describedBy_readEntry l.indent { line := l, header } below
  rw [readEntry_value, hself] at hdescribed
  rw [entryOf_eq_extend hd]
  exact hdescribed.toItem_eq_itemOf hd

end Lists

/-! ## Where entries are listed -/

/-- Whether entries are those listed in the block that the line `c` opens with a keyword. -/
structure ListedBelow (lines : List Line) (k : Keyword) (c : Line) (entries : List Entry) :
    Prop where
  /-- The line is the keyword and nothing else. -/
  bare : c.isBare k = true
  /-- The entries are read from the lines behind it that are indented far enough. -/
  block : ∃ i, lines[i]? = some c ∧
    entries = entriesOf (reach (c.indent + nestedIndent) (lines.drop (i + 1)))
  /-- Their lines come after it. -/
  behind : ∀ e ∈ entries, c.number < e.line.number
  /-- They are indented by two more, at least. -/
  deeper : ∀ e ∈ entries, c.indent + 2 ≤ e.line.indent
  /-- They come one after the other. -/
  ordered : entries.Pairwise (·.line.number < ·.line.number)

/-- Whether an entry stems from the line at a position, and its children are listed below it. -/
structure Entry.StemsFrom (lines : List Line) (i : Nat) (e : Entry) : Prop where
  /-- The line is the one at the position. -/
  line : lines[i]? = some e.line
  /-- It has a dash and a header. -/
  header : e.line.argumentOf? .dash = some e.header
  /-- The item is the one that the line stands for, with the lines of its extent. -/
  item : e.toItem = itemOf e.line (Level.list.extent lines i)
  /-- The children stand in a list that a line of the extent opens, three columns to the right of
  the entry at least. -/
  children : ∀ entries, e.children = some entries → ∃ c ∈ Level.list.extent lines i,
    ListedBelow lines .children c entries ∧ e.line.number < c.number ∧
      ∀ child ∈ entries, e.line.indent + 3 ≤ child.line.indent

/-- Whether the entries of an outline keep the order of the lines that they stem from. -/
structure Outline.InLineOrder (outline : Outline) (body : List Line) : Prop where
  /-- The lines are numbered in order. -/
  numbered : body.Pairwise (·.number < ·.number)
  /-- The entries, depth first, have their lines among those with a dash and a header, in the same
  order. -/
  lines : ((Entry.depthFirst outline.data.entries).map (·.line)).Sublist
    (body.filter fun l => (l.argumentOf? .dash).isSome)
  /-- So no two of them have the same line, and they come one after the other. -/
  ordered : (Entry.depthFirst outline.data.entries).Pairwise (·.line.number < ·.line.number)
  /-- Each stems from its line, and its children are listed below that one. -/
  stems : ∀ e ∈ Entry.depthFirst outline.data.entries, ∃ i, e.StemsFrom body i
  /-- Those at the top are listed below an `items` line. -/
  listed : outline.data.entries ≠ [] → ∃ c, ListedBelow body .items c outline.data.entries

section Listed

variable {v : Level} {k : Keyword} {lines before block below behind : List Line} {c : Line}
  {e : Entry}

/-- Entries are among themselves and those below them, in the same order. -/
lemma sublist_depthFirst (es : List Entry) : es.Sublist (Entry.depthFirst es) := by
  induction es with
  | nil => exact List.Sublist.slnil
  | cons e es ih =>
    rw [Entry.depthFirst, Entry.subtree_eq]
    exact (ih.trans (List.sublist_append_right _ _)).cons_cons e

/-- Entries come in order if their lines are among lines that do. -/
lemma pairwise_number_of_sublist {es : List Entry} (h : (es.map (·.line)).Sublist lines)
    (hlines : lines.Pairwise (·.number < ·.number)) :
    es.Pairwise (·.line.number < ·.line.number) := by
  have hmap := hlines.sublist h
  rw [List.pairwise_map] at hmap
  exact hmap

lemma line_mem_of_mem_entriesOf (he : e ∈ entriesOf block) : e.line ∈ block :=
  (map_line_depthFirst_sublist block).subset
    (List.mem_map_of_mem ((sublist_depthFirst _).subset he))

/-- The entries of a block are listed below the line that opens it. -/
lemma Level.Stands.listedBelow (h : v.Stands lines before c block behind)
    (hdepth : v.depth = nestedIndent) (hopens : v.opens c = c.isBare k)
    (hlines : lines.Pairwise (·.number < ·.number)) :
    ListedBelow lines k c (entriesOf block) where
  bare := hopens.symm.trans h.opens
  block := by
    refine ⟨before.length, getElem?_length_stands h, ?_⟩
    have hdrop : lines.drop (before.length + 1) = block ++ behind := by
      rw [h.lines_eq, ← List.drop_drop, List.drop_left, List.drop_one, List.tail_cons]
    rw [hdrop, ← hdepth, reach_append_of_forall h.inside h.ends]
  behind := fun e he => h.number_lt hlines e.line (line_mem_of_mem_entriesOf he)
  deeper := by
    intro e he
    have hle := h.inside e.line (line_mem_of_mem_entriesOf he)
    rwa [hdepth] at hle
  ordered := pairwise_number_of_sublist
    (((sublist_depthFirst _).map _).trans (map_line_depthFirst_sublist block))
    (hlines.sublist h.block_sublist)

/-- **An entry that a line opens stems from that line.**

**Proof sketch.** The list of children is a block of the extent, so that it stands among the lines
as well: behind the line of the entry and one column to its right at least, and its entries stand
two columns further. -/
theorem stemsFrom_of_stands (h : Level.list.Stands lines before e.line below behind)
    (he : e = entryOf e.line below) (hlines : lines.Pairwise (·.number < ·.number))
    (hblank : ∀ l ∈ lines, l.isBlank = false) : e.StemsFrom lines before.length := by
  have hopens : (e.line.argumentOf? .dash).isSome = true := h.opens
  obtain ⟨header, hheader⟩ := Option.isSome_iff_exists.mp hopens
  refine ⟨getElem?_length_stands h, ?_, ?_, fun entries hentries => ?_⟩
  · rw [he, entryOf_eq, hheader]
    rfl
  · rw [h.extent_eq, ← toItem_entryOf hheader (fun m hm => hblank m (h.block_sublist.subset hm))
      h.inside, ← he]
  · rw [he, children_entryOf, Option.map_eq_some_iff] at hentries
    obtain ⟨list, hlast, rfl⟩ := hentries
    obtain ⟨before', c, behind', hlist⟩ := Level.exists_stands_of_lastBlock? hlast
    have hc : e.line.indent < c.indent := h.inside c hlist.mem_lines
    have hlisted := (h.nest hlist).listedBelow (k := .children) rfl rfl hlines
    rw [h.extent_eq]
    refine ⟨c, hlist.mem_lines, hlisted, h.number_lt hlines c hlist.mem_lines,
      fun child hchild => ?_⟩
    have hdeeper := hlisted.deeper child hchild
    omega

end Listed

/-! ## The entries of a document -/

section Documents

variable {source : String} {template : List Char} {lines body : List Line} {e : Entry}
  {d : Document}

/-- The entries of a document are those of a list that stands among the lines below its header, or
there are none. -/
lemma documentEntries_cases (lines : List Line) :
    documentEntries lines = [] ∨ ∃ before c block behind,
      Level.data.Stands lines before c block behind ∧ documentEntries lines = entriesOf block := by
  rw [documentEntries]
  cases hroot : Level.root.lastBlock? lines with
  | none => exact .inl rfl
  | some block =>
    rw [Option.bind_some]
    cases hdata : Level.data.lastBlock? block with
    | none => exact .inl rfl
    | some list =>
      obtain ⟨before, c, behind, hstands⟩ := Level.exists_stands_of_lastBlock? hroot
      obtain ⟨before', c', behind', hlist⟩ := Level.exists_stands_of_lastBlock? hdata
      exact .inr ⟨_, c', list, _, hstands.nest hlist, rfl⟩

lemma map_line_documentEntries_sublist (lines : List Line) :
    ((Entry.depthFirst (documentEntries lines)).map (·.line)).Sublist lines := by
  obtain hnil | ⟨before, c, block, behind, hstands, hentries⟩ := documentEntries_cases lines
  · rw [hnil]
    exact List.nil_sublist _
  · rw [hentries]
    exact (map_line_depthFirst_sublist block).trans hstands.block_sublist

lemma exists_stands_of_mem_documentEntries (h : e ∈ Entry.depthFirst (documentEntries lines)) :
    ∃ before below behind, Level.list.Stands lines before e.line below behind ∧
      e = entryOf e.line below := by
  obtain hnil | ⟨before, c, block, behind, hstands, hentries⟩ := documentEntries_cases lines
  · rw [hnil] at h
    cases h
  · rw [hentries] at h
    obtain ⟨before', below, behind', hinner, he⟩ := exists_stands_of_mem_depthFirst h
    exact ⟨_, below, _, hstands.nest hinner, he⟩

/-- The lines of a source are numbered in order. -/
lemma pairwise_number_ofSource (source : String) :
    (Line.ofSource source).Pairwise (·.number < ·.number) := by
  have hnumbers : (List.range' 0 (piecesOf source).length).Pairwise (· < ·) :=
    List.pairwise_lt_range'
  rw [← map_number_ofPieces 0 0, List.pairwise_map] at hnumbers
  exact hnumbers

/-- The lines below a header are numbered in order, and none of them is blank. -/
lemma body_of_headed? (h : headed? source = some (template, body)) :
    body.Pairwise (·.number < ·.number) ∧ ∀ l ∈ body, l.isBlank = false := by
  obtain ⟨header, hlines, -⟩ := nonBlank_of_headed? h
  have hpairwise := (pairwise_number_ofSource source).filter (!·.isBlank)
  rw [← nonBlank, hlines] at hpairwise
  refine ⟨hpairwise.of_cons, fun l hl => ?_⟩
  have hmem : l ∈ nonBlank (Line.ofSource source) := by
    rw [hlines]
    exact List.mem_cons_of_mem _ hl
  simpa using (List.mem_filter.mp hmem).2

/-- The entries of the outline of a source keep the order of their lines.

**Proof sketch.** The entries are those of one list among the lines (`documentEntries_cases`). Each
stands among the lines with its extent (`exists_stands_of_mem_depthFirst`), and stems from its line
therefore (`stemsFrom_of_stands`). -/
theorem inLineOrder_of_headed? {outline : Outline} (h : headed? source = some (template, body))
    (hentries : outline.data.entries = documentEntries body) : outline.InLineOrder body := by
  obtain ⟨hnumbers, hblank⟩ := body_of_headed? h
  have hstems : ∀ e ∈ Entry.depthFirst outline.data.entries, ∃ i, e.StemsFrom body i := by
    intro e he
    rw [hentries] at he
    obtain ⟨before, below, behind, hstands, hfrom⟩ := exists_stands_of_mem_documentEntries he
    exact ⟨_, stemsFrom_of_stands hstands hfrom hnumbers hblank⟩
  have hsublist := map_line_documentEntries_sublist body
  rw [← hentries] at hsublist
  have hdash : ∀ l ∈ (Entry.depthFirst outline.data.entries).map (·.line),
      (l.argumentOf? .dash).isSome = true := by
    intro l hl
    obtain ⟨e, he, rfl⟩ := List.mem_map.mp hl
    obtain ⟨i, hstem⟩ := hstems e he
    rw [hstem.header, Option.isSome_some]
  refine ⟨hnumbers, ?_, pairwise_number_of_sublist hsublist hnumbers, hstems, fun hne => ?_⟩
  · rw [← List.filter_eq_self.mpr hdash]
    exact hsublist.filter _
  · rw [hentries] at hne ⊢
    obtain hnil | ⟨before, c, block, behind, hstands, hblock⟩ := documentEntries_cases body
    · exact absurd hnil hne
    · rw [hblock]
      exact ⟨c, hstands.listedBelow rfl rfl hnumbers⟩

/-- **The items of a document keep the order of their lines.** Take a source that is parsed, and the
lines below its header that are not blank, which are numbered in order. Each item of the document,
at any depth, is that of an entry which stems from one of these lines, with a dash and a header; and
listed depth first, the entries have their lines in the order of the source, so that no two of them
share one, and there are no more items than such lines. The items at the top are listed below an
`items` line, and the children of an item below a `children` line in its extent. The entries of a
list come in order behind the line that opens it, two columns to its right at least, and children
three columns to the right of the line of their parent.

**Proof sketch.** The lines of the entries are a part of all lines in the same order
(`map_line_depthFirst_sublist`): each entry has the entries below it from its own extent, and those
after it from behind that. The rest follows from where the entries stand
(`inLineOrder_of_headed?`). -/
theorem items_in_line_order (h : parse source = .ok d) :
    ∃ template outline body, Outline.ofSource source = .ok (template, outline) ∧
      d = outline.toDocument template ∧ headed? source = some (template, body) ∧
      outline.InLineOrder body ∧
      Item.depthFirst d.items = (Entry.depthFirst outline.data.entries).map Entry.toItem ∧
      (Item.depthFirst d.items).length ≤ body.countP fun l => (l.argumentOf? .dash).isSome := by
  obtain ⟨template, body, hheaded, -⟩ := exists_headed?_of_parse h
  obtain ⟨outline, houtline, hentries⟩ := exists_outline_of_headed? hheaded
  have hd : d = outline.toDocument template := by
    rw [parse, houtline] at h
    exact (Except.ok.inj h).symm
  have horder := inLineOrder_of_headed? hheaded hentries
  have hitems : Item.depthFirst d.items =
      (Entry.depthFirst outline.data.entries).map Entry.toItem := by
    rw [hd]
    exact Entry.depthFirst_toItems outline.data.entries
  refine ⟨template, outline, body, houtline, hd, hheaded, horder, hitems, ?_⟩
  rw [hitems, List.length_map, List.countP_eq_length_filter, ← List.length_map (f := Entry.line)]
  exact horder.lines.length_le

/-- A source with lists that later ones replace, and with an entry that stands in no list. -/
def replacedSource : String :=
  "infographic x\ndata\n  items\n    - A\n  items\n      - B\n        children\n" ++
  "          - C\n        children\n          - D\n    - E\n      - F"

/-- The items that are left are B with D below it, and E. -/
theorem items_in_line_order_replaced :
    ∃ d template outline body, parse replacedSource = .ok d ∧
      Outline.ofSource replacedSource = .ok (template, outline) ∧
      d = outline.toDocument template ∧ headed? replacedSource = some (template, body) ∧
      (Entry.depthFirst outline.data.entries).map (·.line.number) = [5, 9, 10] ∧
      outline.InLineOrder body ∧
      Item.depthFirst d.items = (Entry.depthFirst outline.data.entries).map Entry.toItem ∧
      (Item.depthFirst d.items).length ≤ body.countP fun l => (l.argumentOf? .dash).isSome := by
  have hnumbers : (Outline.ofSource replacedSource).toOption.map
      (fun found => (Entry.depthFirst found.2.data.entries).map (·.line.number)) =
        some [5, 9, 10] := by
    decide +kernel
  cases hfound : Outline.ofSource replacedSource with
  | error e =>
    rw [hfound] at hnumbers
    cases hnumbers
  | ok found =>
    have hparse : parse replacedSource = .ok (found.2.toDocument found.1) := by
      rw [parse, hfound]
      rfl
    obtain ⟨template, outline, body, houtline, hd, hheaded, horder, hitems, hcount⟩ :=
      items_in_line_order hparse
    rw [houtline] at hnumbers
    exact ⟨_, template, outline, body, hparse, hfound.symm.trans houtline, hd, hheaded,
      Option.some.inj hnumbers, horder, hitems, hcount⟩

end Documents

end Placard
