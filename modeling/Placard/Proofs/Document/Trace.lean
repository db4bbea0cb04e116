import Placard.Proofs.Document.Coverage

set_option relaxedAutoImplicit false
set_option autoImplicit false

/-!
# Entries by coverage

An outline keeps the lines that its entries come from. Coverage tells these lines too: an entry is
opened by a line of its list that no other entry covers, and described by the lines of its extent
that no list of children covers. This file shows that the readers find exactly the entries that
coverage tells, line by line.

## Main definitions

* `Placard.entriesOf`, `Placard.entryOf`: the entries of a list, and the entry of a line.
* `Placard.Entry.extend`: an entry with the lines of its extent added to it.

## Main results

* `Placard.readEntries_value`, `Placard.readEntry_value`: the readers find these entries.
* `Placard.entries_read`: so the entries of an outline are those of its last list.
-/

namespace Placard

/-- The lines of an extent that set a property of its entry. -/
def propertiesOf (below : List Line) : List Line :=
  ((Level.entry.visible below).map (·.1)).filter (·.isProperty)

section Visible

variable {l : Line} {lines below : List Line}

lemma exists_of_mem_visible {v : Level} (h : (l, below) ∈ v.visible lines) :
    ∃ i, lines[i]? = some l ∧ v.covered lines i = false := by
  obtain ⟨i, hi, hsome⟩ := List.mem_filterMap.mp h
  obtain ⟨l', hget, hpair⟩ := Option.map_eq_some_iff.mp hsome
  obtain ⟨rfl, -⟩ := Prod.mk.inj hpair
  have hcovered := (List.mem_filter.mp hi).2
  rw [Bool.not_eq_true'] at hcovered
  exact ⟨i, hget, hcovered⟩

lemma mem_of_mem_visible {v : Level} (h : (l, below) ∈ v.visible lines) : l ∈ lines := by
  obtain ⟨i, hget, -⟩ := exists_of_mem_visible h
  exact List.mem_of_getElem? hget

lemma mem_of_mem_propertiesOf (h : l ∈ propertiesOf below) : l ∈ below := by
  obtain ⟨⟨l, extent⟩, hvisible, rfl⟩ := List.mem_map.mp (List.mem_filter.mp h).1
  exact mem_of_mem_visible hvisible

end Visible

mutual

/-- The entries of a list: one for each line that opens an entry and that no earlier one covers. -/
def entriesOf (lines : List Line) : List Entry :=
  (Level.list.blocks lines).attach.map fun b => entryOf b.1.1 b.1.2
termination_by lines.length
decreasing_by exact Level.length_lt_of_mem_blocks b.2

/-- The entry that a line opens, given the lines of its extent. -/
def entryOf (l : Line) (below : List Line) : Entry :=
  { line := l
    header := (l.argumentOf? .dash).getD []
    properties := propertiesOf below
    children := (Level.entry.lastBlock? below).attach.map fun block => entriesOf block.1 }
termination_by below.length
decreasing_by exact Level.length_lt_of_lastBlock? block.2

end

lemma entriesOf_eq (lines : List Line) :
    entriesOf lines = (Level.list.blocks lines).map fun b => entryOf b.1 b.2 := by
  rw [entriesOf]
  exact List.attach_map_val (f := fun b : Line × List Line => entryOf b.1 b.2)

lemma entryOf_eq (l : Line) (below : List Line) :
    entryOf l below =
      { line := l
        header := (l.argumentOf? .dash).getD []
        properties := propertiesOf below
        children := (Level.entry.lastBlock? below).map entriesOf } := by
  rw [entryOf, Option.attach_map_val (Level.entry.lastBlock? below) entriesOf]

@[simp] lemma line_entryOf (l : Line) (below : List Line) : (entryOf l below).line = l := by
  rw [entryOf_eq]

lemma children_entryOf (l : Line) (below : List Line) :
    (entryOf l below).children = (Level.entry.lastBlock? below).map entriesOf := by
  rw [entryOf_eq]

/-- The entry with the lines of an extent added to it. -/
def Entry.extend (e : Entry) (below : List Line) : Entry :=
  { e with
    properties := e.properties ++ propertiesOf below
    children := ((Level.entry.lastBlock? below).map entriesOf).or e.children }

section Extend

variable {e : Entry} {l : Line} {below ls : List Line}

lemma propertiesOf_nil : propertiesOf [] = [] := rfl

lemma extend_nil (e : Entry) : e.extend [] = e := by
  obtain ⟨line, header, properties, children⟩ := e
  rw [Entry.extend, propertiesOf_nil, List.append_nil, Level.lastBlock?_nil, Option.map_none,
    Option.none_or]

lemma propertiesOf_cons (l : Line) (ls : List Line) :
    propertiesOf (l :: ls) =
      (if l.isProperty then [l] else []) ++ propertiesOf (Level.entry.next l ls) := by
  rw [propertiesOf, Level.visible_cons, List.map_cons, List.filter_cons, propertiesOf]
  split <;> rfl

/-- A line that opens no list comes first. -/
lemma extend_cons (hc : l.isBare .children = false) (e : Entry) (below : List Line) :
    e.extend (l :: below) = (e.describe l).extend below := by
  have hopens : Level.entry.opens l = false := hc
  rw [Entry.extend, Entry.extend, Level.lastBlock?_cons_of_not_opens hopens, propertiesOf_cons,
    Level.next_of_not_opens hopens, children_describe, Entry.describe]
  split <;> simp

/-- A list of children comes first: it counts unless another one follows. -/
lemma extend_cons_children (hc : l.isBare .children = true) (e : Entry) (below : List Line) :
    e.extend (l :: below) =
      Entry.extend
        { e with children := some (entriesOf (reach (l.indent + nestedIndent) below)) }
        (past (l.indent + nestedIndent) below) := by
  have hopens : Level.entry.opens l = true := hc
  have hdepth : Level.entry.depth = nestedIndent := rfl
  have hproperty : l.isProperty = false := by
    rw [Line.isProperty, List.any_eq_false]
    intro k _
    simp [argumentOf?_of_isBare hc]
  rw [Entry.extend, Entry.extend, Level.lastBlock?_cons_of_opens hopens, propertiesOf_cons,
    Level.next_of_opens hopens, hdepth, hproperty]
  cases Level.entry.lastBlock? (past (l.indent + nestedIndent) below) <;> simp

/-- An entry is what its line opens, with its extent added. -/
lemma entryOf_eq_extend {header : List Char} (hd : l.argumentOf? .dash = some header)
    (below : List Line) :
    entryOf l below = Entry.extend { line := l, header } below := by
  rw [entryOf_eq, Entry.extend, hd]
  simp

lemma entriesOf_nil : entriesOf [] = [] := by
  rw [entriesOf_eq]
  rfl

lemma entriesOf_cons_of_none (hd : l.argumentOf? .dash = none) (ls : List Line) :
    entriesOf (l :: ls) = entriesOf ls := by
  have hopens : Level.list.opens l = false := by simp [Level.list, hd]
  rw [entriesOf_eq, entriesOf_eq, Level.blocks_cons_of_not_opens hopens]

lemma entriesOf_cons_of_some {header : List Char} (hd : l.argumentOf? .dash = some header)
    (ls : List Line) :
    entriesOf (l :: ls) =
      entryOf l (reach (l.indent + 1) ls) :: entriesOf (past (l.indent + 1) ls) := by
  have hopens : Level.list.opens l = true := by simp [Level.list, hd]
  rw [entriesOf_eq, entriesOf_eq, Level.blocks_cons_of_opens hopens]
  rfl

end Extend

/-! ## What the readers find -/

mutual

/-- The reader of a list finds the entries of the list's block.

**Proof sketch.** Recursion along the readers. The reader of an entry takes its extent, and the
lines behind it that belong to the list are those behind it in the list's block. -/
theorem readEntries_value (base : Nat) (lines : List Line) :
    (readEntries base lines).value = entriesOf (reach base (nonBlank lines)) := by
  match lines with
  | [] =>
    rw [readEntries_nil]
    exact entriesOf_nil.symm
  | l :: ls =>
    cases h : l.continues base with
    | false =>
      rw [readEntries_of_not_continues h, reach_nonBlank_of_not_continues h]
      exact entriesOf_nil.symm
    | true =>
      cases hb : l.isBlank with
      | true =>
        rw [readEntries_of_none h (argumentOf?_of_isBlank hb _), nonBlank_cons_of_isBlank hb]
        exact readEntries_value base ls
      | false =>
        rw [reach_nonBlank_cons h hb]
        cases hd : l.argumentOf? .dash with
        | none =>
          rw [readEntries_of_none h hd, entriesOf_cons_of_none hd]
          exact readEntries_value base ls
        | some header =>
          have hle : base ≤ l.indent + 1 := Nat.le_succ_of_le (le_indent_of_argumentOf? h hd)
          have hlt := (readEntry l.indent { line := l, header } ls).length_rest_le
          have hfirst := readEntry_value l.indent { line := l, header } ls
          have hlater := readEntries_value base (readEntry l.indent { line := l, header } ls).rest
          rw [readEntry_rest, nonBlank_blockEnd] at hlater
          simp only [readEntries_of_some h hd, Found.value_after, Found.value_map,
            Found.value_andThen]
          rw [entriesOf_cons_of_some hd, entryOf_eq_extend hd, reach_reach hle, past_reach hle,
            ← hlater, hfirst, readEntry_rest]
termination_by lines.length

/-- The reader of an entry adds the lines of its extent to it.

**Proof sketch.** Recursion along the readers. A list of children is read from its own block, which
lies in the extent, and the lines behind it are those behind it in the extent. -/
theorem readEntry_value (indent : Nat) (e : Entry) (lines : List Line) :
    (readEntry indent e lines).value = e.extend (reach (indent + 1) (nonBlank lines)) := by
  match lines with
  | [] =>
    rw [readEntry_nil]
    exact (extend_nil e).symm
  | l :: ls =>
    cases h : l.continues (indent + 1) with
    | false =>
      rw [readEntry_of_not_continues h, reach_nonBlank_of_not_continues h]
      exact (extend_nil e).symm
    | true =>
      cases hb : l.isBlank with
      | true =>
        rw [readEntry_of_not_isBare h (isBare_of_isBlank hb _), nonBlank_cons_of_isBlank hb,
          describe_of_isBlank hb]
        exact readEntry_value indent e ls
      | false =>
        rw [reach_nonBlank_cons h hb]
        cases hc : l.isBare .children with
        | false =>
          rw [readEntry_of_not_isBare h hc, extend_cons hc]
          exact readEntry_value indent (e.describe l) ls
        | true =>
          have hle : indent + 1 ≤ l.indent + nestedIndent :=
            Nat.le_add_right_of_le (le_indent_of_isBare h hc)
          have hlt := (readEntries (l.indent + nestedIndent) ls).length_rest_le
          have hbelow := readEntries_value (l.indent + nestedIndent) ls
          have hlater := readEntry_value indent
            { e with children := some (readEntries (l.indent + nestedIndent) ls).value }
            (readEntries (l.indent + nestedIndent) ls).rest
          have hrest := readEntries_rest (l.indent + nestedIndent) ls
          rw [readEntry_of_isBare h hc, extend_cons_children hc, reach_reach hle, past_reach hle]
          simp only [Found.value_after, Found.value_andThen]
          rw [hlater, hbelow, hrest, nonBlank_blockEnd]
termination_by lines.length

end

/-- The entries of a data block are those of its last list.

**Proof sketch.** Recursion along the reader; a list of the block is read from its own block, which
lies in the data block. -/
theorem entries_readDataBlock (indent : Nat) (block : DataBlock) (lines : List Line) :
    (readDataBlock indent block lines).value.entries =
      ((Level.data.lastBlock? (reach indent (nonBlank lines))).map entriesOf).getD
        block.entries := by
  match lines with
  | [] =>
    rw [readDataBlock_nil]
    rfl
  | l :: ls =>
    cases h : l.continues indent with
    | false =>
      rw [readDataBlock_of_not_continues h, reach_nonBlank_of_not_continues h]
      rfl
    | true =>
      cases hb : l.isBlank with
      | true =>
        rw [readDataBlock_of_other h (argumentOf?_of_isBlank hb _) (isBare_of_isBlank hb _),
          nonBlank_cons_of_isBlank hb]
        exact entries_readDataBlock indent block ls
      | false =>
        rw [reach_nonBlank_cons h hb]
        cases hi : l.isBare .items with
        | true =>
          have hopens : Level.data.opens l = true := hi
          have hdepth : Level.data.depth = nestedIndent := rfl
          have hle : indent ≤ l.indent + nestedIndent :=
            Nat.le_add_right_of_le (le_indent_of_isBare h hi)
          have hlt := (readEntries (l.indent + nestedIndent) ls).length_rest_le
          have hlist := readEntries_value (l.indent + nestedIndent) ls
          have hlater := entries_readDataBlock indent
            { block with entries := (readEntries (l.indent + nestedIndent) ls).value }
            (readEntries (l.indent + nestedIndent) ls).rest
          have hrest := readEntries_rest (l.indent + nestedIndent) ls
          rw [readDataBlock_of_items h (argumentOf?_of_isBare hi _) hi,
            Level.lastBlock?_cons_of_opens hopens, hdepth, reach_reach hle, past_reach hle]
          simp only [Found.value_after, Found.value_andThen]
          rw [hlater, hlist, hrest, nonBlank_blockEnd]
          cases Level.data.lastBlock?
            (reach indent (past (l.indent + nestedIndent) (nonBlank ls))) <;> rfl
        | false =>
          have hopens : Level.data.opens l = false := hi
          rw [Level.lastBlock?_cons_of_not_opens hopens]
          cases ht : l.argumentOf? .title with
          | none =>
            rw [readDataBlock_of_other h ht hi]
            exact entries_readDataBlock indent block ls
          | some title =>
            rw [readDataBlock_of_title h ht]
            exact entries_readDataBlock indent { block with title := some title } ls
termination_by lines.length

/-- **The entries of an outline** are those of the last list of its last data block.

**Proof sketch.** Recursion along the reader; a data block is read from its own block, and takes the
place of the one before it. -/
theorem entries_read (outline : Outline) (lines : List Line) :
    (outline.read lines).data.entries =
      ((Level.root.lastBlock? (nonBlank lines)).map fun block =>
        ((Level.data.lastBlock? block).map entriesOf).getD []).getD outline.data.entries := by
  match lines with
  | [] =>
    rw [read_nil]
    rfl
  | l :: ls =>
    cases hb : l.isBlank with
    | true =>
      rw [read_of_other (isBare_of_isBlank hb _) (argumentOf?_of_isBlank hb _),
        nonBlank_cons_of_isBlank hb]
      exact entries_read outline ls
    | false =>
      rw [nonBlank_cons_of_not_isBlank hb]
      cases hd : l.isBare .data with
      | true =>
        have hopens : Level.root.opens l = true := hd
        have hdepth : Level.root.depth = 0 := rfl
        have hlt := (readDataBlock l.indent {} ls).length_rest_le
        have hblock := entries_readDataBlock l.indent {} ls
        have hlater := entries_read
          { outline with data := (readDataBlock l.indent {} ls).value }
          (readDataBlock l.indent {} ls).rest
        have hrest := readDataBlock_rest l.indent {} ls
        rw [read_of_data hd, Level.lastBlock?_cons_of_opens hopens, hdepth, Nat.add_zero]
        rw [hlater, hblock, hrest, nonBlank_blockEnd]
        cases Level.root.lastBlock? (past l.indent (nonBlank ls)) <;> rfl
      | false =>
        have hopens : Level.root.opens l = false := hd
        rw [Level.lastBlock?_cons_of_not_opens hopens]
        cases ht : l.argumentOf? .theme with
        | none =>
          rw [read_of_other hd ht]
          exact entries_read outline ls
        | some theme =>
          rw [read_of_theme hd ht]
          exact entries_read { outline with theme := some theme } ls
termination_by lines.length

end Placard
