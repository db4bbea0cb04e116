import Mathlib.Tactic.Lemma
import Placard.Document.Outline

set_option relaxedAutoImplicit false
set_option autoImplicit false

/-!
# Extents of blocks

Every block of a document has a baseline: a list of entries the one it is opened with, an entry the
column behind its own indentation, a data block the indentation of its keyword. A line continues the
block if it is blank or indented at least as far as the baseline. This file shows that each reader
leaves exactly the lines from the first one on that does not continue its block, and that what it
finds depends on the lines before that one only.

## Main definitions

* `Placard.Line.continues`: whether a line continues a block with a given baseline.
* `Placard.blockLines`, `Placard.blockEnd`: the lines of a block, and the lines behind it.

## Main results

* `Placard.readEntries_rest`, `Placard.readEntry_rest`, `Placard.readDataBlock_rest`: what the
  readers leave.
-/

namespace Placard

/-- Whether a line continues a block with the given baseline. -/
def Line.continues (base : Nat) (l : Line) : Bool := l.isBlank || decide (base ≤ l.indent)

/-- The lines at the start that continue a block with the given baseline. -/
def blockLines (base : Nat) (lines : List Line) : List Line := lines.takeWhile (·.continues base)

/-- The lines behind a block with the given baseline. -/
def blockEnd (base : Nat) (lines : List Line) : List Line := lines.dropWhile (·.continues base)

section Continues

variable {base base' : Nat} {l : Line} {lines : List Line}

/-- A line ends a block iff it is not blank and is indented less than the baseline. -/
lemma continues_eq_false_iff : l.continues base = false ↔ l.isBlank = false ∧ l.indent < base := by
  simp [Line.continues]

/-- A line that continues a block continues every block with a smaller baseline. -/
lemma continues_mono (h : base' ≤ base) (hl : l.continues base = true) :
    l.continues base' = true := by
  simp only [Line.continues, Bool.or_eq_true, decide_eq_true_eq] at hl ⊢
  exact hl.imp_right fun hle => Nat.le_trans h hle

lemma blockEnd_cons_of_continues (h : l.continues base = true) :
    blockEnd base (l :: lines) = blockEnd base lines := by
  simp [blockEnd, h]

lemma blockEnd_cons_of_not_continues (h : l.continues base = false) :
    blockEnd base (l :: lines) = l :: lines := by
  simp [blockEnd, h]

lemma blockLines_append_blockEnd (base : Nat) (lines : List Line) :
    blockLines base lines ++ blockEnd base lines = lines :=
  List.takeWhile_append_dropWhile

lemma continues_of_mem_blockLines (h : l ∈ blockLines base lines) : l.continues base = true :=
  List.all_eq_true.mp List.all_takeWhile l h

/-- If a block has no line then the first line behind it does not continue it. -/
lemma not_continues_of_blockEnd_eq (h : blockEnd base (l :: lines) = l :: lines) :
    l.continues base = false := by
  cases hl : l.continues base with
  | false => rfl
  | true =>
    rw [blockEnd_cons_of_continues hl] at h
    have hlen : (blockEnd base lines).length ≤ lines.length :=
      (List.dropWhile_suffix _).length_le
    rw [h, List.length_cons] at hlen
    omega

/-- Leaving a block and then one around it is leaving the one around it. -/
lemma blockEnd_blockEnd (h : base' ≤ base) (lines : List Line) :
    blockEnd base' (blockEnd base lines) = blockEnd base' lines := by
  induction lines with
  | nil => rfl
  | cons l lines ih =>
    cases hl : l.continues base with
    | true =>
      rw [blockEnd_cons_of_continues hl, blockEnd_cons_of_continues (continues_mono h hl), ih]
    | false => rw [blockEnd_cons_of_not_continues hl]

end Continues

/-! ## One turn of each reader

A blank line has no head word, so the readers pass over it like over any other line without a
meaning in their block. -/

section Turn

variable {l : Line} {ls : List Line} {base indent : Nat}

lemma head?_of_isBlank (h : l.isBlank = true) : l.head? = none := by
  rw [Line.isBlank, List.isEmpty_iff] at h
  simp [Line.head?, Head.split, h]

lemma argumentOf?_of_isBlank (h : l.isBlank = true) (k : Keyword) : l.argumentOf? k = none := by
  simp [Line.argumentOf?, head?_of_isBlank h]

lemma isBare_of_isBlank (h : l.isBlank = true) (k : Keyword) : l.isBare k = false := by
  simp [Line.isBare, Line.isBareHead, head?_of_isBlank h]

/-- A keyword that stands alone has no argument. -/
lemma argumentOf?_of_isBare {k : Keyword} (h : l.isBare k = true) (k' : Keyword) :
    l.argumentOf? k' = none := by
  have hrest : l.rest = [] := by
    simpa [Line.isBare, Line.isBareHead] using (Bool.and_eq_true_iff.mp h).2
  simp [Line.argumentOf?, Line.argument?, hrest, argumentIn]

/-- A blank line sets no property. -/
lemma describe_of_isBlank (h : l.isBlank = true) (e : Entry) : e.describe l = e := by
  simp [Entry.describe, Line.isProperty, argumentOf?_of_isBlank h]

/-- The two ways to continue a block. -/
lemma isBlank_or_le_of_continues (h : l.continues base = true) :
    l.isBlank = true ∨ l.isBlank = false ∧ base ≤ l.indent := by
  cases hb : l.isBlank with
  | true => exact Or.inl rfl
  | false => exact Or.inr ⟨rfl, by simpa [Line.continues, hb] using h⟩

/-- A line with a keyword is not blank, so it continues a block by its indentation. -/
lemma le_indent_of_argumentOf? {k : Keyword} {argument : List Char} (h : l.continues base = true)
    (hk : l.argumentOf? k = some argument) : base ≤ l.indent := by
  obtain hb | ⟨-, hle⟩ := isBlank_or_le_of_continues h
  · simp [argumentOf?_of_isBlank hb] at hk
  · exact hle

lemma le_indent_of_isBare {k : Keyword} (h : l.continues base = true) (hk : l.isBare k = true) :
    base ≤ l.indent := by
  obtain hb | ⟨-, hle⟩ := isBlank_or_le_of_continues h
  · simp [isBare_of_isBlank hb] at hk
  · exact hle

lemma readEntries_nil : readEntries base [] = .stop [] [] := by
  rw [readEntries]

lemma readEntries_of_not_continues (h : l.continues base = false) :
    readEntries base (l :: ls) = .stop [] (l :: ls) := by
  obtain ⟨hb, hlt⟩ := continues_eq_false_iff.mp h
  rw [readEntries, if_neg (by simp [hb]), if_pos hlt]

lemma readEntries_of_none (h : l.continues base = true) (hd : l.argumentOf? .dash = none) :
    readEntries base (l :: ls) = (readEntries base ls).after l := by
  obtain hb | ⟨hb, hle⟩ := isBlank_or_le_of_continues h
  · rw [readEntries, if_pos hb]
  · rw [readEntries, if_neg (by simp [hb]), if_neg (Nat.not_lt.mpr hle)]
    simp only [hd]

lemma readEntries_of_some {header : List Char} (h : l.continues base = true)
    (hd : l.argumentOf? .dash = some header) :
    readEntries base (l :: ls) =
      let first := readEntry l.indent { line := l, header } ls
      ((first.andThen (readEntries base first.rest)).map (first.value :: ·)).after l := by
  obtain hb | ⟨hb, hle⟩ := isBlank_or_le_of_continues h
  · simp [argumentOf?_of_isBlank hb] at hd
  · rw [readEntries, if_neg (by simp [hb]), if_neg (Nat.not_lt.mpr hle)]
    simp only [hd]

variable {entry : Entry}

lemma readEntry_nil : readEntry indent entry [] = .stop entry [] := by
  rw [readEntry]

lemma readEntry_of_not_continues (h : l.continues (indent + 1) = false) :
    readEntry indent entry (l :: ls) = .stop entry (l :: ls) := by
  obtain ⟨hb, hlt⟩ := continues_eq_false_iff.mp h
  rw [readEntry, if_neg (by simp [hb]), if_pos (Nat.le_of_lt_succ hlt)]

lemma readEntry_of_not_isBare (h : l.continues (indent + 1) = true)
    (hc : l.isBare .children = false) :
    readEntry indent entry (l :: ls) = (readEntry indent (entry.describe l) ls).after l := by
  obtain hb | ⟨hb, hle⟩ := isBlank_or_le_of_continues h
  · rw [readEntry, if_pos hb, describe_of_isBlank hb]
  · rw [readEntry, if_neg (by simp [hb]), if_neg (Nat.not_le.mpr hle), if_neg (by simp [hc])]

lemma readEntry_of_isBare (h : l.continues (indent + 1) = true)
    (hc : l.isBare .children = true) :
    readEntry indent entry (l :: ls) =
      let below := readEntries (l.indent + nestedIndent) ls
      (below.andThen
        (readEntry indent { entry with children := some below.value } below.rest)).after l := by
  obtain hb | ⟨hb, hle⟩ := isBlank_or_le_of_continues h
  · simp [isBare_of_isBlank hb] at hc
  · rw [readEntry, if_neg (by simp [hb]), if_neg (Nat.not_le.mpr hle), if_pos hc]

variable {block : DataBlock}

lemma readDataBlock_nil : readDataBlock indent block [] = .stop block [] := by
  rw [readDataBlock]

lemma readDataBlock_of_not_continues (h : l.continues indent = false) :
    readDataBlock indent block (l :: ls) = .stop block (l :: ls) := by
  obtain ⟨hb, hlt⟩ := continues_eq_false_iff.mp h
  rw [readDataBlock, if_neg (by simp [hb]), if_pos hlt]

lemma readDataBlock_of_title {title : List Char} (h : l.continues indent = true)
    (ht : l.argumentOf? .title = some title) :
    readDataBlock indent block (l :: ls) =
      (readDataBlock indent { block with title := some title } ls).after l := by
  obtain hb | ⟨hb, hle⟩ := isBlank_or_le_of_continues h
  · simp [argumentOf?_of_isBlank hb] at ht
  · rw [readDataBlock, if_neg (by simp [hb]), if_neg (Nat.not_lt.mpr hle)]
    simp only [ht]

lemma readDataBlock_of_items (h : l.continues indent = true)
    (ht : l.argumentOf? .title = none) (hi : l.isBare .items = true) :
    readDataBlock indent block (l :: ls) =
      let list := readEntries (l.indent + nestedIndent) ls
      (list.andThen
        (readDataBlock indent { block with entries := list.value } list.rest)).after l := by
  obtain hb | ⟨hb, hle⟩ := isBlank_or_le_of_continues h
  · simp [isBare_of_isBlank hb] at hi
  · rw [readDataBlock, if_neg (by simp [hb]), if_neg (Nat.not_lt.mpr hle)]
    simp only [ht, hi, if_true]

lemma readDataBlock_of_other (h : l.continues indent = true)
    (ht : l.argumentOf? .title = none) (hi : l.isBare .items = false) :
    readDataBlock indent block (l :: ls) = (readDataBlock indent block ls).after l := by
  obtain hb | ⟨hb, hle⟩ := isBlank_or_le_of_continues h
  · rw [readDataBlock, if_pos hb]
  · rw [readDataBlock, if_neg (by simp [hb]), if_neg (Nat.not_lt.mpr hle)]
    simp [ht, hi]

variable {outline : Outline}

lemma read_nil : outline.read [] = outline := by
  rw [Outline.read]

lemma read_of_data (hd : l.isBare .data = true) :
    outline.read (l :: ls) =
      let block := readDataBlock l.indent {} ls
      Outline.read { outline with data := block.value } block.rest := by
  have hb : l.isBlank = false := by
    cases hb : l.isBlank with
    | false => rfl
    | true => simp [isBare_of_isBlank hb] at hd
  rw [Outline.read, if_neg (by simp [hb]), if_pos hd]

lemma read_of_theme {theme : List Char} (hd : l.isBare .data = false)
    (ht : l.argumentOf? .theme = some theme) :
    outline.read (l :: ls) = Outline.read { outline with theme := some theme } ls := by
  have hb : l.isBlank = false := by
    cases hb : l.isBlank with
    | false => rfl
    | true => simp [argumentOf?_of_isBlank hb] at ht
  rw [Outline.read, if_neg (by simp [hb]), if_neg (by simp [hd])]
  simp only [ht]

lemma read_of_other (hd : l.isBare .data = false) (ht : l.argumentOf? .theme = none) :
    outline.read (l :: ls) = outline.read ls := by
  rw [Outline.read, hd, ht]
  simp

end Turn

/-! ## What the readers leave -/

mutual

/-- The reader of a list leaves the lines behind the list.

**Proof sketch.** Recursion along the readers. An entry in the list is indented at least as far as
the baseline, so its own block lies inside the list and leaving it first changes nothing. -/
theorem readEntries_rest (base : Nat) (lines : List Line) :
    (readEntries base lines).rest = blockEnd base lines := by
  match lines with
  | [] => rw [readEntries_nil]; rfl
  | l :: ls =>
    cases h : l.continues base with
    | false => rw [readEntries_of_not_continues h, blockEnd_cons_of_not_continues h]; rfl
    | true =>
      rw [blockEnd_cons_of_continues h]
      cases hd : l.argumentOf? .dash with
      | none => rw [readEntries_of_none h hd, Found.rest_after, readEntries_rest base ls]
      | some header =>
        have hle : base ≤ l.indent + 1 := Nat.le_succ_of_le (le_indent_of_argumentOf? h hd)
        have hlt := (readEntry l.indent { line := l, header } ls).length_rest_le
        simp only [readEntries_of_some h hd, Found.rest_after, Found.rest_map, Found.rest_andThen]
        rw [readEntries_rest base _, readEntry_rest l.indent _ ls, blockEnd_blockEnd hle]
termination_by lines.length

/-- The reader of an entry leaves the lines behind the entry.

**Proof sketch.** Recursion along the readers. A list of children is opened by a line of the entry,
so its baseline is above that of the entry and leaving it first changes nothing. -/
theorem readEntry_rest (indent : Nat) (entry : Entry) (lines : List Line) :
    (readEntry indent entry lines).rest = blockEnd (indent + 1) lines := by
  match lines with
  | [] => rw [readEntry_nil]; rfl
  | l :: ls =>
    cases h : l.continues (indent + 1) with
    | false => rw [readEntry_of_not_continues h, blockEnd_cons_of_not_continues h]; rfl
    | true =>
      rw [blockEnd_cons_of_continues h]
      cases hc : l.isBare .children with
      | false => rw [readEntry_of_not_isBare h hc, Found.rest_after, readEntry_rest indent _ ls]
      | true =>
        have hle : indent + 1 ≤ l.indent + nestedIndent :=
          Nat.le_add_right_of_le (le_indent_of_isBare h hc)
        have hlt := (readEntries (l.indent + nestedIndent) ls).length_rest_le
        simp only [readEntry_of_isBare h hc, Found.rest_after, Found.rest_andThen]
        rw [readEntry_rest indent _ _, readEntries_rest _ ls, blockEnd_blockEnd hle]
termination_by lines.length

end

/-- The reader of a data block leaves the lines behind the block.

**Proof sketch.** Induction on the number of lines; a list of the block is opened by a line of the
block, so leaving it first changes nothing. -/
theorem readDataBlock_rest (indent : Nat) (block : DataBlock) (lines : List Line) :
    (readDataBlock indent block lines).rest = blockEnd indent lines := by
  match lines with
  | [] => rw [readDataBlock_nil]; rfl
  | l :: ls =>
    cases h : l.continues indent with
    | false => rw [readDataBlock_of_not_continues h, blockEnd_cons_of_not_continues h]; rfl
    | true =>
      rw [blockEnd_cons_of_continues h]
      cases ht : l.argumentOf? .title with
      | some title =>
        rw [readDataBlock_of_title h ht, Found.rest_after, readDataBlock_rest indent _ ls]
      | none =>
        cases hi : l.isBare .items with
        | false =>
          rw [readDataBlock_of_other h ht hi, Found.rest_after, readDataBlock_rest indent _ ls]
        | true =>
          have hle : indent ≤ l.indent + nestedIndent :=
            Nat.le_add_right_of_le (le_indent_of_isBare h hi)
          have hlt := (readEntries (l.indent + nestedIndent) ls).length_rest_le
          simp only [readDataBlock_of_items h ht hi, Found.rest_after, Found.rest_andThen]
          rw [readDataBlock_rest indent _ _, readEntries_rest _ ls, blockEnd_blockEnd hle]
termination_by lines.length

end Placard
