import Placard.Proofs.Document.Extent

set_option relaxedAutoImplicit false
set_option autoImplicit false

/-!
# The walk through the lines

The readers of an outline call each other in the middle of a block. Here the same reading is taken
apart into steps: a state is the stack of blocks that are open and the position of the next line,
and a step either takes that line or closes the innermost block. Every reader is a run of such
steps. It takes the lines of its block one after another, each of them once, and a line is only ever
taken while it continues every block that is open.

## Main definitions

* `Placard.OpenBlock`: a block that is being read, with what has been found in it.
* `Placard.Walk`, `Placard.Walk.step`: a state of the walk and one step of it.
* `Placard.Run`: runs of steps with the positions of the lines that they take.
* `Placard.StopsAt`: the position where a block with a given baseline ends.

## Main results

* `Placard.run_readEntries`, `Placard.run_readEntry`, `Placard.run_readDataBlock`,
  `Placard.run_read`: the readers are runs.
* `Placard.readers_consume_extents`: where the readers stop, and what they take on the way.
-/

namespace Placard

/-- A block that is being read, with what has been found in it. -/
inductive OpenBlock where
  /-- The whole document. -/
  | document (outline : Outline)
  /-- A data block, with the indentation of its keyword. -/
  | data (indent : Nat) (block : DataBlock)
  /-- A list of entries, with its baseline. -/
  | list (base : Nat) (entries : List Entry)
  /-- An entry, with its indentation. -/
  | entry (indent : Nat) (entry : Entry)

namespace OpenBlock

/-- The baseline of a block. Nothing ends the document but the end of the lines. -/
def baseline : OpenBlock → Nat
  | .document _ => 0
  | .data indent _ => indent
  | .list base _ => base
  | .entry indent _ => indent + 1

/-- The block after it has taken a line, below the block that the line opens if it opens one. -/
def take (l : Line) : OpenBlock → List OpenBlock
  | .document outline =>
    if l.isBare .data then [.data l.indent {}, .document outline]
    else
      match l.argumentOf? .theme with
      | some theme => [.document { outline with theme := some theme }]
      | none => [.document outline]
  | .data indent block =>
    match l.argumentOf? .title with
    | some title => [.data indent { block with title := some title }]
    | none =>
      if l.isBare .items then [.list (l.indent + nestedIndent) [], .data indent block]
      else [.data indent block]
  | .list base entries =>
    match l.argumentOf? .dash with
    | some header => [.entry l.indent { line := l, header }, .list base entries]
    | none => [.list base entries]
  | .entry indent e =>
    if l.isBare .children then [.list (l.indent + nestedIndent) [], .entry indent e]
    else [.entry indent (e.describe l)]

/-- The block with what was found in a block inside it, once that one is closed. -/
def receive : OpenBlock → OpenBlock → OpenBlock
  | .document outline, .data _ block => .document { outline with data := block }
  | .data indent block, .list _ entries => .data indent { block with entries }
  | .list base entries, .entry _ e => .list base (entries ++ [e])
  | .entry indent e, .list _ entries => .entry indent { e with children := some entries }
  | outer, _ => outer

end OpenBlock

/-- A state of the walk. -/
structure Walk where
  /-- The blocks that are open, the innermost first. -/
  blocks : List OpenBlock
  /-- The position of the next line. -/
  cursor : Nat

namespace Walk

/-- Closes the innermost block, unless it is the only one. -/
def close : Walk → Option Walk
  | ⟨inner :: outer :: blocks, cursor⟩ => some ⟨outer.receive inner :: blocks, cursor⟩
  | _ => none

/-- One step: the innermost block takes the next line if the line continues it, and is closed if
not. -/
def step (lines : List Line) (w : Walk) : Option Walk :=
  match w.blocks, lines[w.cursor]? with
  | b :: blocks, some l =>
    if l.continues b.baseline then some ⟨b.take l ++ blocks, w.cursor + 1⟩ else w.close
  | _, _ => w.close

end Walk

/-- Runs of steps, with the positions of the lines that are taken on the way, in order. -/
inductive Run (lines : List Line) : Walk → List Nat → Walk → Prop
  /-- No step at all. -/
  | rest (w : Walk) : Run lines w [] w
  /-- A step that takes a line, and further steps. -/
  | take {w w' v : Walk} {positions : List Nat} (hstep : w.step lines = some w')
      (hcursor : w'.cursor = w.cursor + 1) (hrun : Run lines w' positions v) :
      Run lines w (w.cursor :: positions) v
  /-- A step that closes a block, and further steps. -/
  | close {w w' v : Walk} {positions : List Nat} (hstep : w.step lines = some w')
      (hcursor : w'.cursor = w.cursor) (hrun : Run lines w' positions v) :
      Run lines w positions v

section Run

variable {lines ls : List Line} {l : Line} {k : Nat} {b outer : OpenBlock} {blocks : List OpenBlock}

lemma Run.trans {w v u : Walk} {ps qs : List Nat} (h : Run lines w ps v) (h' : Run lines v qs u) :
    Run lines w (ps ++ qs) u := by
  induction h with
  | rest w => exact h'
  | take hstep hcursor _ ih => exact .take hstep hcursor (ih h')
  | close hstep hcursor _ ih => exact .close hstep hcursor (ih h')

lemma getElem?_of_drop_eq_cons (h : lines.drop k = l :: ls) : lines[k]? = some l := by
  rw [← List.head?_drop, h, List.head?_cons]

lemma drop_succ_of_drop_eq_cons (h : lines.drop k = l :: ls) : lines.drop (k + 1) = ls := by
  rw [← List.tail_drop, h, List.tail_cons]

/-- A line that continues the innermost block is taken. -/
lemma run_take (blocks : List OpenBlock) (h : lines.drop k = l :: ls)
    (hl : l.continues b.baseline = true) :
    Run lines ⟨b :: blocks, k⟩ [k] ⟨b.take l ++ blocks, k + 1⟩ := by
  have hstep : Walk.step lines ⟨b :: blocks, k⟩ = some ⟨b.take l ++ blocks, k + 1⟩ := by
    simp [Walk.step, getElem?_of_drop_eq_cons h, hl]
  exact .take hstep rfl (.rest _)

/-- The innermost block is closed when its lines have been taken. -/
lemma run_close (blocks : List OpenBlock)
    (h : blockEnd b.baseline (lines.drop k) = lines.drop k) :
    Run lines ⟨b :: outer :: blocks, k⟩ [] ⟨outer.receive b :: blocks, k⟩ := by
  have hstep : Walk.step lines ⟨b :: outer :: blocks, k⟩ =
      some ⟨outer.receive b :: blocks, k⟩ := by
    cases hk : lines.drop k with
    | nil =>
      have hnone : lines[k]? = none := by rw [← List.head?_drop, hk, List.head?_nil]
      simp [Walk.step, hnone, Walk.close]
    | cons l ls =>
      rw [hk] at h
      simp [Walk.step, getElem?_of_drop_eq_cons hk, not_continues_of_blockEnd_eq h, Walk.close]
  exact .close hstep rfl (.rest _)

end Run

/-! ## What readers take -/

namespace Found

variable {α β : Type} {lines : List Line}

/-- How many lines a reader has taken. -/
def taken (f : Found α lines) : Nat := lines.length - f.rest.length

lemma taken_stop (value : α) (lines : List Line) : (stop value lines).taken = 0 :=
  Nat.sub_self _

lemma taken_after (l : Line) (f : Found α lines) : (f.after l).taken = f.taken + 1 :=
  Nat.succ_sub f.rest_suffix.length_le

lemma taken_andThen (f : Found α lines) (g : Found β f.rest) :
    (f.andThen g).taken = f.taken + g.taken := by
  have hf := f.rest_suffix.length_le
  have hg := g.rest_suffix.length_le
  simp only [taken, rest_andThen]
  omega

lemma drop_taken (f : Found α lines) : lines.drop f.taken = f.rest :=
  (List.suffix_iff_eq_drop.mp f.rest_suffix).symm

end Found

/-- Whether the walk does what a reader does: with the block `b` innermost it takes the lines that
the reader takes from position `k` on, one after another, and then has `b'` in the place of `b`. -/
def Performs {α : Type} {ls : List Line} (lines : List Line) (f : Found α ls) (k : Nat)
    (b b' : OpenBlock) : Prop :=
  ∀ blocks, Run lines ⟨b :: blocks, k⟩ (List.range' k f.taken) ⟨b' :: blocks, k + f.taken⟩

section Performs

variable {α β : Type} {lines ls : List Line} {l : Line} {k : Nat}
  {b b' b'' inner inner' : OpenBlock}

lemma performs_stop (value : α) : Performs lines (.stop value ls) k b b := by
  intro blocks
  rw [Found.taken_stop]
  exact .rest _

lemma Performs.map {f : Found α ls} (hf : Performs lines f k b b') (h : α → β) :
    Performs lines (f.map h) k b b' := hf

/-- A line that opens no block is taken, and the reader goes on. -/
lemma Performs.after {f : Found α ls} (h : lines.drop k = l :: ls)
    (hl : l.continues b.baseline = true) (ht : b.take l = [b'])
    (hf : Performs lines f (k + 1) b' b'') : Performs lines (f.after l) k b b'' := by
  intro blocks
  have htake := run_take blocks h hl
  rw [ht] at htake
  have hrun := htake.trans (hf blocks)
  have hcursor : k + 1 + f.taken = k + (f.taken + 1) := by omega
  rw [hcursor] at hrun
  rw [Found.taken_after, List.range'_succ]
  exact hrun

/-- A line that opens a block is taken; the block inside is read and closed, and the reader goes
on. -/
lemma Performs.nested {f : Found α ls} {g : Found β f.rest} (h : lines.drop k = l :: ls)
    (hl : l.continues b.baseline = true) (ht : b.take l = [inner, b'])
    (hf : Performs lines f (k + 1) inner inner') (hrest : blockEnd inner'.baseline f.rest = f.rest)
    (hg : Performs lines g (k + 1 + f.taken) (b'.receive inner') b'') :
    Performs lines ((f.andThen g).after l) k b b'' := by
  intro blocks
  have htake := run_take blocks h hl
  rw [ht] at htake
  have hdrop : lines.drop (k + 1 + f.taken) = f.rest := by
    rw [← List.drop_drop, drop_succ_of_drop_eq_cons h, f.drop_taken]
  -- the reader of the inner block stops where that block ends, so the walk closes it there
  have hclose : Run lines ⟨inner' :: b' :: blocks, k + 1 + f.taken⟩ []
      ⟨b'.receive inner' :: blocks, k + 1 + f.taken⟩ :=
    run_close blocks (by rw [hdrop, hrest])
  have hrun := ((htake.trans (hf (b' :: blocks))).trans hclose).trans (hg blocks)
  rw [Found.taken_after, Found.taken_andThen]
  have hpositions : [k] ++ List.range' (k + 1) f.taken ++ [] ++
      List.range' (k + 1 + f.taken) g.taken = List.range' k (f.taken + g.taken + 1) := by
    rw [List.append_nil, List.range'_succ, ← List.range'_append_1]
    rfl
  have hcursor : k + 1 + f.taken + g.taken = k + (f.taken + g.taken + 1) := by omega
  rw [hpositions, hcursor] at hrun
  exact hrun

end Performs

/-! ## The readers are runs -/

mutual

/-- Reading a list is a run.

**Proof sketch.** Recursion along the readers: each turn of the reader is one line taken, with an
entry read and closed behind it if the line opens one. -/
theorem run_readEntries (lines : List Line) (base : Nat) (ls : List Line) (k : Nat)
    (entries : List Entry) (h : lines.drop k = ls) :
    Performs lines (readEntries base ls) k (.list base entries)
      (.list base (entries ++ (readEntries base ls).value)) := by
  match ls with
  | [] =>
    rw [readEntries_nil, Found.value_stop, List.append_nil]
    exact performs_stop []
  | l :: ls =>
    have hk := drop_succ_of_drop_eq_cons h
    cases hl : l.continues base with
    | false =>
      rw [readEntries_of_not_continues hl, Found.value_stop, List.append_nil]
      exact performs_stop []
    | true =>
      cases hd : l.argumentOf? .dash with
      | none =>
        rw [readEntries_of_none hl hd, Found.value_after]
        exact (run_readEntries lines base ls (k + 1) entries hk).after h hl
          (by simp [OpenBlock.take, hd])
      | some header =>
        have hlt := (readEntry l.indent { line := l, header } ls).length_rest_le
        have hfirst := run_readEntry lines l.indent ls (k + 1) { line := l, header } hk
        have hlater := run_readEntries lines base
          (readEntry l.indent { line := l, header } ls).rest _
          (entries ++ [(readEntry l.indent { line := l, header } ls).value])
          (by rw [← List.drop_drop, hk, Found.drop_taken])
        rw [readEntries_of_some hl hd]
        simp only [Found.value_after, Found.value_map, Found.value_andThen]
        rw [List.append_cons]
        have htake : OpenBlock.take l (.list base entries) =
            [.entry l.indent { line := l, header }, .list base entries] := by
          simp [OpenBlock.take, hd]
        exact Performs.nested h hl htake hfirst
          (by simp [OpenBlock.baseline, readEntry_rest, blockEnd_blockEnd]) hlater
termination_by ls.length

/-- Reading an entry is a run.

**Proof sketch.** Recursion along the readers: each turn of the reader is one line taken, with a
list read and closed behind it if the line opens one. -/
theorem run_readEntry (lines : List Line) (indent : Nat) (ls : List Line) (k : Nat) (e : Entry)
    (h : lines.drop k = ls) :
    Performs lines (readEntry indent e ls) k (.entry indent e)
      (.entry indent (readEntry indent e ls).value) := by
  match ls with
  | [] =>
    rw [readEntry_nil]
    exact performs_stop e
  | l :: ls =>
    have hk := drop_succ_of_drop_eq_cons h
    cases hl : l.continues (indent + 1) with
    | false =>
      rw [readEntry_of_not_continues hl]
      exact performs_stop e
    | true =>
      cases hc : l.isBare .children with
      | false =>
        rw [readEntry_of_not_isBare hl hc, Found.value_after]
        exact (run_readEntry lines indent ls (k + 1) (e.describe l) hk).after h hl
          (by simp [OpenBlock.take, hc])
      | true =>
        have hlt := (readEntries (l.indent + nestedIndent) ls).length_rest_le
        have hbelow := run_readEntries lines (l.indent + nestedIndent) ls (k + 1) [] hk
        have hlater := run_readEntry lines indent (readEntries (l.indent + nestedIndent) ls).rest _
          { e with children := some (readEntries (l.indent + nestedIndent) ls).value }
          (by rw [← List.drop_drop, hk, Found.drop_taken])
        rw [readEntry_of_isBare hl hc]
        have htake : OpenBlock.take l (.entry indent e) =
            [.list (l.indent + nestedIndent) [], .entry indent e] := by
          simp [OpenBlock.take, hc]
        exact Performs.nested h hl htake hbelow
          (by simp [OpenBlock.baseline, readEntries_rest, blockEnd_blockEnd]) hlater
termination_by ls.length

end

/-- Reading a data block is a run.

**Proof sketch.** Recursion along the reader, with the list of the block by `run_readEntries`. -/
theorem run_readDataBlock (lines : List Line) (indent : Nat) (ls : List Line) (k : Nat)
    (block : DataBlock) (h : lines.drop k = ls) :
    Performs lines (readDataBlock indent block ls) k (.data indent block)
      (.data indent (readDataBlock indent block ls).value) := by
  match ls with
  | [] =>
    rw [readDataBlock_nil]
    exact performs_stop block
  | l :: ls =>
    have hk := drop_succ_of_drop_eq_cons h
    cases hl : l.continues indent with
    | false =>
      rw [readDataBlock_of_not_continues hl]
      exact performs_stop block
    | true =>
      cases ht : l.argumentOf? .title with
      | some title =>
        rw [readDataBlock_of_title hl ht, Found.value_after]
        exact (run_readDataBlock lines indent ls (k + 1) _ hk).after h hl
          (by simp [OpenBlock.take, ht])
      | none =>
        cases hi : l.isBare .items with
        | false =>
          rw [readDataBlock_of_other hl ht hi, Found.value_after]
          exact (run_readDataBlock lines indent ls (k + 1) block hk).after h hl
            (by simp [OpenBlock.take, ht, hi])
        | true =>
          have hlt := (readEntries (l.indent + nestedIndent) ls).length_rest_le
          have hlist := run_readEntries lines (l.indent + nestedIndent) ls (k + 1) [] hk
          have hlater := run_readDataBlock lines indent
            (readEntries (l.indent + nestedIndent) ls).rest _
            { block with entries := (readEntries (l.indent + nestedIndent) ls).value }
            (by rw [← List.drop_drop, hk, Found.drop_taken])
          rw [readDataBlock_of_items hl ht hi]
          have htake : OpenBlock.take l (.data indent block) =
              [.list (l.indent + nestedIndent) [], .data indent block] := by
            simp [OpenBlock.take, ht, hi]
          exact Performs.nested h hl htake hlist
            (by simp [OpenBlock.baseline, readEntries_rest, blockEnd_blockEnd]) hlater
termination_by ls.length

/-- The outline that the lines make, found in all of them. -/
def Outline.found (outline : Outline) (lines : List Line) : Found Outline lines :=
  ⟨outline.read lines, [], List.nil_suffix⟩

lemma found_of_data {outline : Outline} {l : Line} {ls : List Line} (hd : l.isBare .data = true) :
    outline.found (l :: ls) =
      let block := readDataBlock l.indent {} ls
      (block.andThen (Outline.found { outline with data := block.value } block.rest)).after l := by
  simp only [Outline.found, read_of_data hd, Found.andThen, Found.after]

lemma found_of_read_eq {outline outline' : Outline} {l : Line} {ls : List Line}
    (h : outline.read (l :: ls) = outline'.read ls) :
    outline.found (l :: ls) = (outline'.found ls).after l := by
  simp only [Outline.found, h, Found.after]

/-- Reading a document is a run to the end of its lines.

**Proof sketch.** Recursion along the reader, with data blocks by `run_readDataBlock`. -/
theorem run_read (lines ls : List Line) (k : Nat) (outline : Outline) (h : lines.drop k = ls) :
    Performs lines (outline.found ls) k (.document outline) (.document (outline.read ls)) := by
  match ls with
  | [] =>
    rw [read_nil]
    exact performs_stop _
  | l :: ls =>
    have hk := drop_succ_of_drop_eq_cons h
    have hl : l.continues 0 = true := by simp [Line.continues]
    cases hd : l.isBare .data with
    | true =>
      have hlt := (readDataBlock l.indent {} ls).length_rest_le
      have hblock := run_readDataBlock lines l.indent ls (k + 1) {} hk
      have hlater := run_read lines (readDataBlock l.indent {} ls).rest _
        { outline with data := (readDataBlock l.indent {} ls).value }
        (by rw [← List.drop_drop, hk, Found.drop_taken])
      have htake : OpenBlock.take l (.document outline) =
          [.data l.indent {}, .document outline] := by
        simp [OpenBlock.take, hd]
      rw [found_of_data hd, read_of_data hd]
      exact Performs.nested h hl htake hblock
        (by simp [OpenBlock.baseline, readDataBlock_rest, blockEnd_blockEnd]) hlater
    | false =>
      cases ht : l.argumentOf? .theme with
      | some theme =>
        rw [found_of_read_eq (read_of_theme hd ht), read_of_theme hd ht]
        exact (run_read lines ls (k + 1) _ hk).after h hl (by simp [OpenBlock.take, hd, ht])
      | none =>
        rw [found_of_read_eq (read_of_other hd ht), read_of_other hd ht]
        exact (run_read lines ls (k + 1) outline hk).after h hl (by simp [OpenBlock.take, hd, ht])
termination_by ls.length

/-! ## Where the readers stop -/

/-- Whether `stop` is the first position from `start` on with a line that is neither blank nor
indented at least as far as `base`, or the end of the lines if there is none. -/
structure StopsAt (lines : List Line) (base start stop : Nat) : Prop where
  /-- The walk does not go back. -/
  start_le : start ≤ stop
  /-- It does not pass the end. -/
  le_length : stop ≤ lines.length
  /-- The lines in between belong to the block. -/
  inside : ∀ (i : Nat) (h : i < lines.length), start ≤ i → i < stop →
    lines[i].isBlank = true ∨ base ≤ lines[i].indent
  /-- The line at the end does not. -/
  ends : ∀ h : stop < lines.length, lines[stop].isBlank = false ∧ lines[stop].indent < base

section Stops

variable {α : Type} {lines : List Line} {base k : Nat}

/-- A reader that leaves the lines behind a block stops where the block ends.

**Proof sketch.** The lines it takes are the block, all of which continue it; the first one it
leaves does not, since the block ends there. -/
lemma stopsAt_of_rest_eq (f : Found α (lines.drop k)) (hk : k ≤ lines.length)
    (h : f.rest = blockEnd base (lines.drop k)) : StopsAt lines base k (k + f.taken) := by
  have hrest : lines.drop (k + f.taken) = f.rest := by rw [← List.drop_drop, f.drop_taken]
  have hlen : f.taken + f.rest.length = lines.length - k := by
    have hle := f.rest_suffix.length_le
    rw [List.length_drop] at hle
    simp only [Found.taken, List.length_drop]
    omega
  have hcount : (blockLines base (lines.drop k)).length = f.taken := by
    have hsum := congrArg List.length (blockLines_append_blockEnd base (lines.drop k))
    rw [← h, List.length_append, List.length_drop] at hsum
    omega
  have hblock := List.prefix_iff_eq_take.mp
    (List.takeWhile_prefix (·.continues base) (l := lines.drop k))
  rw [← blockLines, hcount] at hblock
  refine ⟨Nat.le_add_right _ _, by omega, fun i hi hki hik => ?_, fun hstop => ?_⟩
  · have hmem : lines[i] ∈ blockLines base (lines.drop k) := by
      rw [hblock, List.mem_take_iff_getElem]
      refine ⟨i - k, by simp only [List.length_drop]; omega, ?_⟩
      simp only [List.getElem_drop, Nat.add_sub_cancel' hki]
    exact (isBlank_or_le_of_continues (continues_of_mem_blockLines hmem)).imp_right And.right
  · rw [← continues_eq_false_iff]
    have hend : blockEnd base (lines.drop (k + f.taken)) = lines.drop (k + f.taken) := by
      rw [hrest, h, blockEnd_blockEnd (Nat.le_refl base)]
    rw [← List.getElem_cons_drop hstop] at hend
    exact not_continues_of_blockEnd_eq hend

end Stops

/-! ## Steps -/

namespace Walk

/-- Whether no open block has a larger baseline than one inside it. -/
def Nested (w : Walk) : Prop :=
  w.blocks.Pairwise fun inner outer => outer.baseline ≤ inner.baseline

/-- A bound on the steps that are left: each line can open one block, and both are dealt with
once. -/
def remaining (lines : List Line) (w : Walk) : Nat :=
  2 * (lines.length - w.cursor) + w.blocks.length

section Step

variable {lines : List Line} {w w' : Walk} {l : Line} {b : OpenBlock}

/-- What a block does with a line that continues it: it keeps its baseline, and a block that the
line opens has at least that baseline. -/
lemma take_cases (hl : l.continues b.baseline = true) :
    ∃ b', b'.baseline = b.baseline ∧
      (b.take l = [b'] ∨ ∃ inner, b.take l = [inner, b'] ∧ b.baseline ≤ inner.baseline) := by
  cases b with
  | document outline =>
    simp only [OpenBlock.take]
    split
    · exact ⟨.document outline, rfl, Or.inr ⟨_, rfl, Nat.zero_le _⟩⟩
    · split
      · next theme _ =>
        exact ⟨.document { outline with theme := some theme }, rfl, Or.inl rfl⟩
      · exact ⟨.document outline, rfl, Or.inl rfl⟩
  | data indent block =>
    simp only [OpenBlock.take]
    split
    · next title _ =>
      exact ⟨.data indent { block with title := some title }, rfl, Or.inl rfl⟩
    · split
      · next hi =>
        exact ⟨.data indent block, rfl,
          Or.inr ⟨_, rfl, Nat.le_add_right_of_le (le_indent_of_isBare hl hi)⟩⟩
      · exact ⟨.data indent block, rfl, Or.inl rfl⟩
  | list base entries =>
    simp only [OpenBlock.take]
    split
    · next hd =>
      exact ⟨.list base entries, rfl,
        Or.inr ⟨_, rfl, Nat.le_succ_of_le (le_indent_of_argumentOf? hl hd)⟩⟩
    · exact ⟨.list base entries, rfl, Or.inl rfl⟩
  | entry indent e =>
    simp only [OpenBlock.take]
    split
    · next hc =>
      exact ⟨.entry indent e, rfl,
        Or.inr ⟨_, rfl, Nat.le_add_right_of_le (le_indent_of_isBare hl hc)⟩⟩
    · exact ⟨.entry indent (e.describe l), rfl, Or.inl rfl⟩

/-- A block keeps its baseline when it receives what was found inside it. -/
lemma baseline_receive (outer inner : OpenBlock) :
    (outer.receive inner).baseline = outer.baseline := by
  cases outer <;> cases inner <;> rfl

/-- **What a step can do**: take the next line, which continues the innermost block, or close the
innermost block, which the next line does not continue if there is one. -/
lemma step_cases (h : w.step lines = some w') :
    (∃ b blocks l, w.blocks = b :: blocks ∧ lines[w.cursor]? = some l ∧
      l.continues b.baseline = true ∧ w' = ⟨b.take l ++ blocks, w.cursor + 1⟩) ∨
    ∃ inner outer blocks, w.blocks = inner :: outer :: blocks ∧
      (∀ l, lines[w.cursor]? = some l → l.continues inner.baseline = false) ∧
      w' = ⟨outer.receive inner :: blocks, w.cursor⟩ := by
  obtain ⟨stack, cursor⟩ := w
  cases stack with
  | nil => simp [step, close] at h
  | cons b blocks =>
    cases hl : lines[cursor]? with
    | none =>
      cases blocks with
      | nil => simp [step, hl, close] at h
      | cons outer blocks =>
        simp only [step, hl, close, Option.some.injEq] at h
        exact Or.inr ⟨b, outer, blocks, rfl, by simp, h.symm⟩
    | some l =>
      cases hc : l.continues b.baseline with
      | true =>
        simp only [step, hl, hc, if_true, Option.some.injEq] at h
        exact Or.inl ⟨b, blocks, l, rfl, rfl, hc, h.symm⟩
      | false =>
        cases blocks with
        | nil => simp [step, hl, hc, close] at h
        | cons outer blocks =>
          simp only [step, hl, hc, close, Bool.false_eq_true, if_false, Option.some.injEq] at h
          refine Or.inr ⟨b, outer, blocks, rfl, fun l' hl' => ?_, h.symm⟩
          obtain rfl : l = l' := by simpa using hl'
          exact hc

/-- Steps keep the blocks nested. -/
lemma nested_step (h : w.step lines = some w') (hw : w.Nested) : w'.Nested := by
  obtain ⟨b, blocks, l, hblocks, -, hl, rfl⟩ | ⟨inner, outer, blocks, hblocks, -, rfl⟩ :=
    step_cases h
  · rw [Nested, hblocks, List.pairwise_cons] at hw
    obtain ⟨b', hb', htake | ⟨inner, htake, hinner⟩⟩ := take_cases hl
    · simp only [Nested, htake, List.singleton_append, List.pairwise_cons, hb']
      exact hw
    · simp only [Nested, htake, List.cons_append, List.nil_append, List.pairwise_cons, hb']
      refine ⟨fun outer houter => ?_, hw⟩
      rcases List.mem_cons.mp houter with rfl | houter
      · rw [hb']
        exact hinner
      · exact Nat.le_trans (hw.1 outer houter) hinner
  · rw [Nested, hblocks, List.pairwise_cons, List.pairwise_cons] at hw
    simp only [Nested, List.pairwise_cons, baseline_receive]
    exact hw.2

/-- Every step brings the end nearer. -/
lemma remaining_step (h : w.step lines = some w') : w'.remaining lines < w.remaining lines := by
  obtain ⟨b, blocks, l, hblocks, hcursor, hl, rfl⟩ | ⟨inner, outer, blocks, hblocks, -, rfl⟩ :=
    step_cases h
  · have hlt : w.cursor < lines.length := (List.getElem?_eq_some_iff.mp hcursor).1
    have hlen : (b.take l).length ≤ 2 := by
      obtain ⟨b', -, htake | ⟨inner, htake, -⟩⟩ := take_cases hl
      · simp [htake]
      · simp [htake]
    simp only [remaining, hblocks, List.length_append, List.length_cons]
    omega
  · simp only [remaining, hblocks, List.length_cons]
    omega

end Step

end Walk

/-- The walk before its first step. -/
def Walk.start : Walk := ⟨[.document {}], 0⟩

/-- The walk behind its last step, with the outline that it has found. -/
def Walk.finish (lines : List Line) (outline : Outline) : Walk :=
  ⟨[.document outline], lines.length⟩

/-- Whether a step either takes the next line, which continues every open block, or closes the
innermost block, which has no more lines, and in both cases brings the end nearer. -/
structure StepAdvances (lines : List Line) (w w' : Walk) : Prop where
  /-- The end comes nearer. -/
  remaining_lt : w'.remaining lines < w.remaining lines
  /-- A line is taken or a block is closed. -/
  takes_or_closes :
    (w'.cursor = w.cursor + 1 ∧ ∃ l, lines[w.cursor]? = some l ∧
      ∀ b ∈ w.blocks, l.continues b.baseline = true) ∨
    (w'.cursor = w.cursor ∧ ∃ inner, w.blocks.head? = some inner ∧
      ∀ l, lines[w.cursor]? = some l → l.continues inner.baseline = false)

section Reachable

variable {lines : List Line} {w w' v : Walk} {positions : List Nat}

/-- A line that continues the innermost block continues every block around it. -/
lemma stepAdvances_of_nested (h : w.step lines = some w') (hw : w.Nested) :
    StepAdvances lines w w' := by
  refine ⟨Walk.remaining_step h, ?_⟩
  obtain ⟨b, blocks, l, hblocks, hcursor, hl, rfl⟩ | ⟨inner, outer, blocks, hblocks, hend, rfl⟩ :=
    Walk.step_cases h
  · rw [Walk.Nested, hblocks, List.pairwise_cons] at hw
    refine Or.inl ⟨rfl, l, hcursor, fun c hc => ?_⟩
    rw [hblocks] at hc
    rcases List.mem_cons.mp hc with rfl | hc
    · exact hl
    · exact continues_mono (hw.1 c hc) hl
  · exact Or.inr ⟨rfl, inner, by rw [hblocks]; rfl, hend⟩

/-- Runs keep the blocks nested. -/
lemma nested_run (h : Run lines w positions v) (hw : w.Nested) : v.Nested := by
  induction h with
  | rest w => exact hw
  | take hstep _ _ ih => exact ih (Walk.nested_step hstep hw)
  | close hstep _ _ ih => exact ih (Walk.nested_step hstep hw)

/-- The walk does not pass the end of the lines. -/
lemma cursor_le_run (h : Run lines w positions v) (hw : w.cursor ≤ lines.length) :
    v.cursor ≤ lines.length := by
  induction h with
  | rest w => exact hw
  | take hstep _ _ ih =>
    apply ih
    obtain ⟨b, blocks, l, -, hcursor, -, rfl⟩ | ⟨inner, outer, blocks, -, -, rfl⟩ :=
      Walk.step_cases hstep
    · exact (List.getElem?_eq_some_iff.mp hcursor).1
    · exact hw
  | close _ hcursor _ ih => exact ih (by rw [hcursor]; exact hw)

/-- A run takes the lines between its two positions, each of them once and in order. -/
lemma positions_run (h : Run lines w positions v) :
    w.cursor ≤ v.cursor ∧ positions = List.range' w.cursor (v.cursor - w.cursor) := by
  induction h with
  | rest w => simp
  | @take w w' v positions _ hcursor _ ih =>
    obtain ⟨hle, hpositions⟩ := ih
    have hcount : v.cursor - w.cursor = v.cursor - w'.cursor + 1 := by omega
    refine ⟨by omega, ?_⟩
    rw [hcount, List.range'_succ, hpositions, hcursor]
  | close _ hcursor _ ih =>
    rw [hcursor] at ih
    exact ih

end Reachable

/-- **The readers consume the extents of their blocks.** From any position of any lines on, a reader
stops at the first line that is not blank and is indented less than the baseline of its block; it
takes the lines before that one, each of them once and in order, whatever blocks are open around it.
Reading a document takes every line once and comes to an end. On the way every step takes a line
that continues all open blocks or closes a block without any further line, it never passes the last
line, and the number of steps that are left decreases.

**Proof sketch.** The stopping points are what the readers leave (`readEntries_rest` and its
siblings), read as positions. The runs are those of `run_readEntries` and its siblings. That blocks
are nested is an invariant of the steps: a line opens a block only if it continues the block it
stands in, and the baseline of the new block is at least the line's indentation. -/
theorem readers_consume_extents (lines : List Line) :
    (∀ (k : Fin (lines.length + 1)) (base : Nat) (entries : List Entry),
      let f := readEntries base (lines.drop k)
      f.rest = lines.drop (k + f.taken) ∧ StopsAt lines base k (k + f.taken) ∧
        Performs lines f k (.list base entries) (.list base (entries ++ f.value))) ∧
    (∀ (k : Fin lines.length) (indent : Nat) (e : Entry),
      let f := readEntry indent e (lines.drop (k + 1))
      f.rest = lines.drop (k + 1 + f.taken) ∧
        StopsAt lines (indent + 1) (k + 1) (k + 1 + f.taken) ∧
        Performs lines f (k + 1) (.entry indent e) (.entry indent f.value)) ∧
    (∀ (k : Fin (lines.length + 1)) (indent : Nat) (block : DataBlock),
      let f := readDataBlock indent block (lines.drop k)
      f.rest = lines.drop (k + f.taken) ∧ StopsAt lines indent k (k + f.taken) ∧
        Performs lines f k (.data indent block) (.data indent f.value)) ∧
    Run lines .start (List.range lines.length) (.finish lines (Outline.read {} lines)) ∧
    (Walk.finish lines (Outline.read {} lines)).step lines = none ∧
    ∀ (w : Walk) (positions : List Nat), Run lines .start positions w →
      w.cursor ≤ lines.length ∧ positions = List.range w.cursor ∧
        ∀ w', w.step lines = some w' → StepAdvances lines w w' := by
  have hdrop : ∀ {α : Type} (k : Nat) (f : Found α (lines.drop k)),
      f.rest = lines.drop (k + f.taken) := by
    intro α k f
    rw [← List.drop_drop, f.drop_taken]
  refine ⟨fun k base entries => ?_, fun k indent e => ?_, fun k indent block => ?_, ?_, ?_,
    fun w positions hrun => ?_⟩
  · exact ⟨hdrop k _, stopsAt_of_rest_eq _ (Nat.le_of_lt_succ k.isLt) (readEntries_rest base _),
      run_readEntries lines base _ k entries rfl⟩
  · exact ⟨hdrop (k + 1) _, stopsAt_of_rest_eq _ k.isLt (readEntry_rest indent e _),
      run_readEntry lines indent _ (k + 1) e rfl⟩
  · exact ⟨hdrop k _,
      stopsAt_of_rest_eq _ (Nat.le_of_lt_succ k.isLt) (readDataBlock_rest indent block _),
      run_readDataBlock lines indent _ k block rfl⟩
  · have hrun := run_read lines lines 0 {} rfl []
    have htaken : (Outline.found {} lines).taken = lines.length := rfl
    rw [htaken, Nat.zero_add] at hrun
    rw [List.range_eq_range']
    exact hrun
  · simp [Walk.finish, Walk.step, Walk.close]
  · have hnested : Walk.start.Nested := List.pairwise_singleton _ _
    obtain ⟨-, hpositions⟩ := positions_run hrun
    refine ⟨cursor_le_run hrun (Nat.zero_le _), ?_, fun w' hstep => ?_⟩
    · rw [List.range_eq_range']
      exact hpositions
    · exact stepAdvances_of_nested hstep (nested_run hrun hnested)

end Placard
