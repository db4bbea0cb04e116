import Mathlib.Data.List.FinRange
import Mathlib.Data.List.TakeWhile
import Placard.Document.Parse
import Placard.Proofs.Document.Extent

set_option relaxedAutoImplicit false
set_option autoImplicit false

/-!
# Reading by coverage

What a document says can be told from the indentation of its lines alone, without following any
reader. At each level of a document some lines open a block: `data` lines at the root, `items` lines
in a data block, entries in a list, and `children` lines in an entry. Such a line covers the lines
below it up to the first one that is indented too little. Read from the top, a covered line opens
nothing at its level, and only the lines that no block covers count. This file states that reading
and shows that it is what `parse` computes.

## Main definitions

* `Placard.Level`: a level of a document.
* `Placard.Level.covered`, `Placard.Level.visible`: the lines that a block of the level covers, and
  the other ones with the lines that they cover themselves.
* `Placard.itemsOf`, `Placard.documentOf`: the items and the document that lines stand for.

## Main results

* `Placard.Level.visible_cons`: the lines that count, from the first line on.
* `Placard.parse_eq_documentOf`: parsing is reading by coverage.
-/

namespace Placard

/-! ## Levels -/

/-- The lines at the start that are indented at least as far as `base`. -/
def reach (base : Nat) (lines : List Line) : List Line :=
  lines.takeWhile fun l => decide (base ≤ l.indent)

/-- The lines behind those. -/
def past (base : Nat) (lines : List Line) : List Line :=
  lines.dropWhile fun l => decide (base ≤ l.indent)

/-- A level of a document. -/
structure Level where
  /-- The lines that open a block at the level. -/
  opens : Line → Bool
  /-- How much deeper than such a line the lines of its block stand at least. -/
  depth : Nat

namespace Level

/-- The root of a document, with its data blocks. -/
def root : Level := ⟨(·.isBare .data), 0⟩

/-- A data block, with its lists. -/
def data : Level := ⟨(·.isBare .items), nestedIndent⟩

/-- A list, with its entries. -/
def list : Level := ⟨fun l => (l.argumentOf? .dash).isSome, 1⟩

/-- An entry, with its lists of children. -/
def entry : Level := ⟨(·.isBare .children), nestedIndent⟩

/-- Whether the line at position `i` opens a block. -/
def opensAt (v : Level) (lines : List Line) (i : Nat) : Bool := lines[i]?.any v.opens

/-- The lines that follow the one at position `i` up to the first that is not indented far enough to
belong to a block opened there. -/
def extent (v : Level) (lines : List Line) (i : Nat) : List Line :=
  match lines.drop i with
  | [] => []
  | l :: ls => reach (l.indent + v.depth) ls

/-- Whether the line at position `i` is covered: a line above it that is not covered itself opens a
block that extends to it. -/
def covered (v : Level) (lines : List Line) (i : Nat) : Bool :=
  (List.finRange i).any fun j =>
    v.opensAt lines j && !v.covered lines j && decide (i ≤ j + (v.extent lines j).length)
termination_by i
decreasing_by exact j.isLt

/-- The lines that are not covered, in order, each with its extent. -/
def visible (v : Level) (lines : List Line) : List (Line × List Line) :=
  ((List.range lines.length).filter (!v.covered lines ·)).filterMap fun i =>
    lines[i]?.map (·, v.extent lines i)

/-- The blocks that are opened, in order, each with the line that opens it. -/
def blocks (v : Level) (lines : List Line) : List (Line × List Line) :=
  (v.visible lines).filter (v.opens ·.1)

/-- The last block that is opened. -/
def lastBlock? (v : Level) (lines : List Line) : Option (List Line) :=
  ((v.blocks lines).map (·.2)).getLast?

/-- The argument of the last line with the given keyword that is not covered. -/
def lastArgument? (v : Level) (lines : List Line) (k : Keyword) : Option (List Char) :=
  ((v.visible lines).filterMap (·.1.argumentOf? k)).getLast?

end Level

section Reach

variable {base base' : Nat} {l : Line} {ls : List Line}

lemma reach_cons_of_le (h : base ≤ l.indent) : reach base (l :: ls) = l :: reach base ls := by
  simp [reach, h]

lemma reach_cons_of_lt (h : l.indent < base) : reach base (l :: ls) = [] := by
  simp [reach, h]

lemma past_cons_of_le (h : base ≤ l.indent) : past base (l :: ls) = past base ls := by
  simp [past, h]

lemma past_cons_of_lt (h : l.indent < base) : past base (l :: ls) = l :: ls := by
  simp [past, h]

lemma drop_length_reach (base : Nat) (ls : List Line) :
    ls.drop (reach base ls).length = past base ls := by
  induction ls with
  | nil => rfl
  | cons l ls ih =>
    rcases Nat.lt_or_ge l.indent base with h | h
    · rw [reach_cons_of_lt h, past_cons_of_lt h]
      rfl
    · rw [reach_cons_of_le h, past_cons_of_le h, List.length_cons, List.drop_succ_cons, ih]

/-- Of a block, the lines at the start that reach further are those that do so anyway. -/
lemma reach_reach (h : base ≤ base') (ls : List Line) :
    reach base' (reach base ls) = reach base' ls := by
  induction ls with
  | nil => rfl
  | cons l ls ih =>
    rcases Nat.lt_or_ge l.indent base' with hl | hl
    · rw [reach_cons_of_lt hl]
      rcases Nat.lt_or_ge l.indent base with hb | hb
      · rw [reach_cons_of_lt hb]
        rfl
      · rw [reach_cons_of_le hb, reach_cons_of_lt hl]
    · rw [reach_cons_of_le (Nat.le_trans h hl), reach_cons_of_le hl, reach_cons_of_le hl, ih]

/-- A block inside another one may be left out before or after the end of the outer one is looked
for. -/
lemma past_reach (h : base ≤ base') (ls : List Line) :
    past base' (reach base ls) = reach base (past base' ls) := by
  induction ls with
  | nil => rfl
  | cons l ls ih =>
    rcases Nat.lt_or_ge l.indent base' with hl | hl
    · rw [past_cons_of_lt hl]
      rcases Nat.lt_or_ge l.indent base with hb | hb
      · rw [reach_cons_of_lt hb]
        rfl
      · rw [reach_cons_of_le hb, past_cons_of_lt hl]
    · rw [reach_cons_of_le (Nat.le_trans h hl), past_cons_of_le hl, past_cons_of_le hl, ih]

variable {as bs : List Line}

/-- A block ends before a line that is indented too little, whatever stands behind it. -/
lemma reach_append (h : ∀ b ∈ bs.head?, b.indent < base) :
    reach base (as ++ bs) = reach base as := by
  induction as with
  | nil =>
    cases bs with
    | nil => rfl
    | cons b bs => exact reach_cons_of_lt (h b rfl)
  | cons l as ih =>
    rw [List.cons_append]
    rcases Nat.lt_or_ge l.indent base with hl | hl
    · rw [reach_cons_of_lt hl, reach_cons_of_lt hl]
    · rw [reach_cons_of_le hl, reach_cons_of_le hl, ih]

lemma past_append (h : ∀ b ∈ bs.head?, b.indent < base) :
    past base (as ++ bs) = past base as ++ bs := by
  induction as with
  | nil =>
    cases bs with
    | nil => rfl
    | cons b bs => exact past_cons_of_lt (h b rfl)
  | cons l as ih =>
    rw [List.cons_append]
    rcases Nat.lt_or_ge l.indent base with hl | hl
    · rw [past_cons_of_lt hl, past_cons_of_lt hl, List.cons_append]
    · rw [past_cons_of_le hl, past_cons_of_le hl, ih]

lemma reach_eq_self (h : ∀ l ∈ ls, base ≤ l.indent) : reach base ls = ls := by
  rw [reach, List.takeWhile_eq_self_iff]
  exact fun l hl => decide_eq_true (h l hl)

lemma past_eq_nil (h : ∀ l ∈ ls, base ≤ l.indent) : past base ls = [] := by
  rw [past, List.dropWhile_eq_nil_iff]
  exact fun l hl => decide_eq_true (h l hl)

end Reach

section Covered

variable {v : Level} {lines ls : List Line} {l : Line} {i j k n m : Nat}

namespace Level

lemma covered_iff :
    v.covered lines i = true ↔ ∃ j < i, v.opensAt lines j = true ∧ v.covered lines j = false ∧
      i ≤ j + (v.extent lines j).length := by
  rw [covered, List.any_eq_true]
  constructor
  · rintro ⟨⟨j, hj⟩, -, h⟩
    simp only [Bool.and_eq_true, Bool.not_eq_true', decide_eq_true_eq] at h
    exact ⟨j, hj, h.1.1, h.1.2, h.2⟩
  · rintro ⟨j, hj, hopens, hcovered, hle⟩
    exact ⟨⟨j, hj⟩, List.mem_finRange _, by simp [hopens, hcovered, hle]⟩

lemma opensAt_add : v.opensAt lines (k + j) = v.opensAt (lines.drop k) j := by
  rw [opensAt, opensAt, List.getElem?_drop]

lemma extent_add : v.extent lines (k + j) = v.extent (lines.drop k) j := by
  rw [extent, extent, List.drop_drop]

/-- Behind the block of the first line, coverage starts afresh.

**Proof sketch.** Strong induction on the position. A line that covers the position is not the first
one, which reaches only over its block, and none in that block, which are covered; so it stands
behind the block, where the induction hypothesis applies to it. -/
lemma covered_add (hblock : ∀ i < n, v.covered (l :: ls) (i + 1) = true)
    (hfirst : v.opensAt (l :: ls) 0 = true → (v.extent (l :: ls) 0).length ≤ n) (m : Nat) :
    v.covered (l :: ls) (n + 1 + m) = v.covered (ls.drop n) m := by
  induction m using Nat.strong_induction_on with
  | _ m ih =>
    have hdrop : (l :: ls).drop (n + 1) = ls.drop n := rfl
    rw [Bool.eq_iff_iff, covered_iff, covered_iff]
    constructor
    · rintro ⟨j, hj, hopens, hcovered, hle⟩
      -- the covering line is the first one, one of the `n` covered ones, or one behind them
      rcases Nat.lt_or_ge j (n + 1) with hjn | hjn
      · rcases Nat.eq_zero_or_pos j with rfl | hpos
        · have := hfirst hopens
          omega
        · obtain ⟨i, rfl⟩ : ∃ i, j = i + 1 := ⟨j - 1, by omega⟩
          rw [hblock i (by omega)] at hcovered
          simp at hcovered
      · obtain ⟨k, rfl⟩ : ∃ k, j = n + 1 + k := ⟨j - (n + 1), by omega⟩
        rw [opensAt_add, hdrop] at hopens
        rw [extent_add, hdrop] at hle
        rw [ih k (by omega)] at hcovered
        exact ⟨k, by omega, hopens, hcovered, by omega⟩
    · rintro ⟨k, hk, hopens, hcovered, hle⟩
      refine ⟨n + 1 + k, by omega, ?_, ?_, ?_⟩
      · rw [opensAt_add, hdrop]
        exact hopens
      · rw [ih k hk]
        exact hcovered
      · rw [extent_add, hdrop]
        omega

lemma covered_zero : v.covered lines 0 = false := by
  rw [← Bool.not_eq_true, covered_iff]
  rintro ⟨j, hj, -⟩
  exact Nat.not_lt_zero j hj

/-- If the lines up to position `n` are covered and the first line reaches no further, then the
lines behind them count as they would on their own. -/
lemma visible_cons_of_covered (hn : n ≤ ls.length)
    (hblock : ∀ i < n, v.covered (l :: ls) (i + 1) = true)
    (hfirst : v.opensAt (l :: ls) 0 = true → (v.extent (l :: ls) 0).length ≤ n) :
    v.visible (l :: ls) = (l, reach (l.indent + v.depth) ls) :: v.visible (ls.drop n) := by
  have hlen : (l :: ls).length = n + 1 + (ls.drop n).length := by
    rw [List.length_cons, List.length_drop]
    omega
  have hstart : (List.range (n + 1)).filter (!v.covered (l :: ls) ·) = [0] := by
    rw [List.range_succ_eq_map, List.filter_cons_of_pos (by simp [covered_zero]), List.filter_map]
    have hnone : (List.range n).filter ((!v.covered (l :: ls) ·) ∘ Nat.succ) = [] := by
      rw [List.filter_eq_nil_iff]
      intro i hi
      simp [hblock i (List.mem_range.mp hi)]
    rw [hnone, List.map_nil]
  have hend : ((List.range (ls.drop n).length).map (n + 1 + ·)).filter
        (!v.covered (l :: ls) ·) =
      ((List.range (ls.drop n).length).filter (!v.covered (ls.drop n) ·)).map (n + 1 + ·) := by
    rw [List.filter_map]
    congr 1
    apply List.filter_congr
    intro m _
    rw [Function.comp_apply, covered_add hblock hfirst]
  have hpair : (fun i => ((l :: ls)[i]?).map (·, v.extent (l :: ls) i)) ∘ (n + 1 + ·) =
      fun i => ((ls.drop n)[i]?).map (·, v.extent (ls.drop n) i) := by
    funext m
    have hget : (l :: ls)[n + 1 + m]? = (ls.drop n)[m]? := by
      rw [List.getElem?_drop, Nat.add_right_comm, List.getElem?_cons_succ]
    have hextent : v.extent (l :: ls) (n + 1 + m) = v.extent (ls.drop n) m := extent_add
    rw [Function.comp_apply, hget, hextent]
  rw [visible, hlen, List.range_add, List.filter_append, List.filterMap_append, hstart, hend,
    List.filterMap_map, hpair]
  rfl

/-- The lines behind `l` that it does not cover. -/
def next (v : Level) (l : Line) (ls : List Line) : List Line :=
  if v.opens l then past (l.indent + v.depth) ls else ls

/-- **The lines that count, from the first one on.** The first line counts, and of the others those
that it does not cover count as they would on their own. -/
theorem visible_cons (v : Level) (l : Line) (ls : List Line) :
    v.visible (l :: ls) = (l, reach (l.indent + v.depth) ls) :: v.visible (v.next l ls) := by
  have hextent : v.extent (l :: ls) 0 = reach (l.indent + v.depth) ls := rfl
  have hopens : v.opensAt (l :: ls) 0 = v.opens l := rfl
  cases h : v.opens l with
  | false =>
    rw [next, h, if_neg Bool.false_ne_true]
    refine visible_cons_of_covered (Nat.zero_le _) (fun i hi => absurd hi (Nat.not_lt_zero i)) ?_
    rw [hopens, h]
    exact fun hfalse => absurd hfalse Bool.false_ne_true
  | true =>
    rw [next, h, if_pos rfl, ← drop_length_reach]
    refine visible_cons_of_covered (List.takeWhile_prefix _).length_le (fun i hi => ?_) ?_
    · rw [covered_iff]
      exact ⟨0, Nat.succ_pos i, by rw [hopens, h], covered_zero, by rw [hextent]; omega⟩
    · rw [hextent]
      exact fun _ => Nat.le_refl _

/-- Lines behind a line that is too little indented for every block before it count as they would on
their own, and so do those before it.

**Proof sketch.** Induction on the number of lines before it. The block of the first line ends
before that line as well, so leaving it out leaves a shorter list of lines of which the same is
true. -/
theorem visible_append (v : Level) {as bs : List Line}
    (h : ∀ l ∈ as, ∀ b ∈ bs.head?, b.indent < l.indent + v.depth) :
    v.visible (as ++ bs) = v.visible as ++ v.visible bs := by
  -- not on `as` itself: the block of the first line may leave out many lines at once
  induction hn : as.length using Nat.strong_induction_on generalizing as with
  | _ n ih =>
    cases as with
    | nil => rfl
    | cons l as =>
      have hend : ∀ b ∈ bs.head?, b.indent < l.indent + v.depth := h l List.mem_cons_self
      have hsuffix : v.next l as <:+ as := by
        rw [next]
        split
        · exact List.dropWhile_suffix _
        · exact List.suffix_rfl
      have hnext : v.next l (as ++ bs) = v.next l as ++ bs := by
        rw [next, next]
        split
        · exact past_append hend
        · rfl
      have hshort : (v.next l as).length < n := by
        rw [← hn, List.length_cons]
        exact Nat.lt_succ_of_le hsuffix.length_le
      rw [List.cons_append, visible_cons, visible_cons, reach_append hend, hnext, List.cons_append,
        ih _ hshort (fun m hm => h m (List.mem_cons_of_mem l (hsuffix.subset hm))) rfl]

lemma length_lt_of_mem_visible {below : List Line} (h : (l, below) ∈ v.visible lines) :
    below.length < lines.length := by
  obtain ⟨i, -, hi⟩ := List.mem_filterMap.mp h
  obtain ⟨l', hget, hpair⟩ := Option.map_eq_some_iff.mp hi
  obtain ⟨hlt, -⟩ := List.getElem?_eq_some_iff.mp hget
  obtain rfl : v.extent lines i = below := congrArg Prod.snd hpair
  rw [extent, List.drop_eq_getElem_cons hlt]
  have hle := (List.takeWhile_prefix (l := lines.drop (i + 1))
    fun m => decide (lines[i].indent + v.depth ≤ m.indent)).length_le
  rw [List.length_drop] at hle
  exact Nat.lt_of_le_of_lt hle (by omega)

lemma length_lt_of_mem_blocks {below : List Line} (h : (l, below) ∈ v.blocks lines) :
    below.length < lines.length :=
  length_lt_of_mem_visible (List.mem_filter.mp h).1

lemma length_lt_of_lastBlock? {block : List Line} (h : v.lastBlock? lines = some block) :
    block.length < lines.length := by
  obtain ⟨⟨l, below⟩, hmem, rfl⟩ := List.mem_map.mp (List.mem_of_getLast? h)
  exact length_lt_of_mem_blocks hmem

end Level

end Covered

/-! ## What lines stand for -/

mutual

/-- The items that the lines of a list stand for: one for each entry that no earlier entry
covers. -/
def itemsOf (lines : List Line) : List Item :=
  (Level.list.blocks lines).attach.map fun b => itemOf b.1.1 b.1.2
termination_by lines.length
decreasing_by exact Level.length_lt_of_mem_blocks b.2

/-- The item that an entry stands for, given its line and the lines below it. -/
def itemOf (l : Line) (below : List Line) : Item :=
  let header := (l.argumentOf? .dash).getD []
  let argument? := Level.entry.lastArgument? below
  { label := String.ofList ((argument? .label).getD (Entry.headerLabel { line := l, header }))
    value := (argument? .value).map Value.coerce
    desc := (argument? .desc).map String.ofList
    icon := (argument? .icon).map String.ofList
    children := (Level.entry.lastBlock? below).attach.map fun block => itemsOf block.1 }
termination_by below.length
decreasing_by exact Level.length_lt_of_lastBlock? block.2

end

/-- The document that the lines below a header stand for, none of them blank. -/
def documentOf (template : List Char) (lines : List Line) : Document :=
  let block := Level.root.lastBlock? lines
  let list := block.bind Level.data.lastBlock?
  { template := String.ofList template
    title := (block.bind (Level.data.lastArgument? · .title)).map String.ofList
    theme := (Level.root.lastArgument? lines .theme).map String.ofList
    items := (list.map itemsOf).getD [] }

/-! ## The readers read by coverage -/

section Next

variable {v : Level} {l : Line} {ls : List Line} {k : Keyword}

namespace Level

@[simp] lemma lastBlock?_nil (v : Level) : v.lastBlock? [] = none := rfl

@[simp] lemma lastArgument?_nil (v : Level) (k : Keyword) : v.lastArgument? [] k = none := rfl

lemma next_of_opens (h : v.opens l = true) : v.next l ls = past (l.indent + v.depth) ls := by
  rw [next, if_pos h]

lemma next_of_not_opens (h : v.opens l = false) : v.next l ls = ls := by
  rw [next, if_neg (by simp [h])]

lemma blocks_cons_of_opens (h : v.opens l = true) :
    v.blocks (l :: ls) =
      (l, reach (l.indent + v.depth) ls) :: v.blocks (past (l.indent + v.depth) ls) := by
  simp only [blocks, visible_cons, List.filter_cons, next, h, if_true]

lemma blocks_cons_of_not_opens (h : v.opens l = false) :
    v.blocks (l :: ls) = v.blocks ls := by
  simp only [blocks, visible_cons, List.filter_cons, next, h, Bool.false_eq_true, if_false]

lemma lastBlock?_cons_of_opens (h : v.opens l = true) :
    v.lastBlock? (l :: ls) =
      (v.lastBlock? (past (l.indent + v.depth) ls)).or (some (reach (l.indent + v.depth) ls)) := by
  rw [lastBlock?, blocks_cons_of_opens h, List.map_cons, List.getLast?_cons, lastBlock?]
  cases ((v.blocks (past (l.indent + v.depth) ls)).map (·.2)).getLast? <;> rfl

lemma lastBlock?_cons_of_not_opens (h : v.opens l = false) :
    v.lastBlock? (l :: ls) = v.lastBlock? ls := by
  rw [lastBlock?, blocks_cons_of_not_opens h, lastBlock?]

lemma lastArgument?_cons :
    v.lastArgument? (l :: ls) k = (v.lastArgument? (v.next l ls) k).or (l.argumentOf? k) := by
  simp only [lastArgument?, visible_cons, List.filterMap_cons]
  cases l.argumentOf? k with
  | none => rw [Option.or_none]
  | some argument =>
    rw [List.getLast?_cons]
    cases ((v.visible (v.next l ls)).filterMap (·.1.argumentOf? k)).getLast? <;> rfl

/-- The argument of a keyword is told by the lines that count alone. -/
lemma lastArgument?_eq (v : Level) (lines : List Line) (k : Keyword) :
    v.lastArgument? lines k =
      (((v.visible lines).map (·.1.argumentOf? k)).filterMap id).getLast? := by
  rw [lastArgument?, List.filterMap_map]
  rfl

/-- A block that covers all lines below the one that opens it is the only one. -/
lemma lastBlock?_cons_of_forall (h : v.opens l = true)
    (hle : ∀ m ∈ ls, l.indent + v.depth ≤ m.indent) : v.lastBlock? (l :: ls) = some ls := by
  rw [lastBlock?_cons_of_opens h, reach_eq_self hle, past_eq_nil hle, lastBlock?_nil,
    Option.none_or]

/-- Only the line that opens such a block counts. -/
lemma lastArgument?_cons_of_forall (h : v.opens l = true)
    (hle : ∀ m ∈ ls, l.indent + v.depth ≤ m.indent) (k : Keyword) :
    v.lastArgument? (l :: ls) k = l.argumentOf? k := by
  rw [lastArgument?_cons, next_of_opens h, past_eq_nil hle, lastArgument?_nil, Option.none_or]

lemma lastBlock?_append {as bs : List Line}
    (h : ∀ l ∈ as, ∀ b ∈ bs.head?, b.indent < l.indent + v.depth) :
    v.lastBlock? (as ++ bs) = (v.lastBlock? bs).or (v.lastBlock? as) := by
  rw [lastBlock?, blocks, visible_append v h, List.filter_append, List.map_append,
    List.getLast?_append]
  rfl

lemma lastArgument?_append {as bs : List Line}
    (h : ∀ l ∈ as, ∀ b ∈ bs.head?, b.indent < l.indent + v.depth) (k : Keyword) :
    v.lastArgument? (as ++ bs) k = (v.lastArgument? bs k).or (v.lastArgument? as k) := by
  rw [lastArgument?, visible_append v h, List.filterMap_append, List.getLast?_append]
  rfl

end Level

end Next

/-- The lines that are not blank. -/
def nonBlank (lines : List Line) : List Line := lines.filter (!·.isBlank)

section NonBlank

variable {base : Nat} {l : Line} {ls : List Line}

lemma nonBlank_cons_of_isBlank (h : l.isBlank = true) : nonBlank (l :: ls) = nonBlank ls := by
  simp [nonBlank, h]

lemma nonBlank_cons_of_not_isBlank (h : l.isBlank = false) :
    nonBlank (l :: ls) = l :: nonBlank ls := by
  simp [nonBlank, h]

/-- The lines behind a block are told by their indentation, once blank lines are left out. -/
lemma nonBlank_blockEnd (base : Nat) (ls : List Line) :
    nonBlank (blockEnd base ls) = past base (nonBlank ls) := by
  induction ls with
  | nil => rfl
  | cons l ls ih =>
    cases h : l.continues base with
    | false =>
      obtain ⟨hb, hlt⟩ := continues_eq_false_iff.mp h
      rw [blockEnd_cons_of_not_continues h, nonBlank_cons_of_not_isBlank hb, past_cons_of_lt hlt]
    | true =>
      rw [blockEnd_cons_of_continues h, ih]
      obtain hb | ⟨hb, hle⟩ := isBlank_or_le_of_continues h
      · rw [nonBlank_cons_of_isBlank hb]
      · rw [nonBlank_cons_of_not_isBlank hb, past_cons_of_le hle]

/-- A block starts with a line that continues it and is not blank. -/
lemma reach_nonBlank_cons (h : l.continues base = true) (hb : l.isBlank = false) :
    reach base (nonBlank (l :: ls)) = l :: reach base (nonBlank ls) := by
  obtain hb' | ⟨-, hle⟩ := isBlank_or_le_of_continues h
  · simp [hb] at hb'
  · rw [nonBlank_cons_of_not_isBlank hb, reach_cons_of_le hle]

/-- A block without a line. -/
lemma reach_nonBlank_of_not_continues (h : l.continues base = false) :
    reach base (nonBlank (l :: ls)) = [] := by
  obtain ⟨hb, hlt⟩ := continues_eq_false_iff.mp h
  rw [nonBlank_cons_of_not_isBlank hb, reach_cons_of_lt hlt]

end NonBlank

/-! ### Entries -/

section Described

variable {e : Entry} {l : Line} {k : Keyword}

/-- A line below an entry sets the property whose keyword it starts with, and no other. -/
lemma property?_describe (hk : k ∈ propertyKeywords) :
    (e.describe l).property? k = (l.argumentOf? k).or (e.property? k) := by
  cases h : l.isProperty with
  | false =>
    have hnone : l.argumentOf? k = none := by
      simpa using List.any_eq_false.mp h k hk
    rw [Entry.describe, h, if_neg Bool.false_ne_true, hnone, Option.none_or]
  | true =>
    rw [Entry.describe, h, if_pos rfl, Entry.property?, Entry.property?, List.filterMap_append,
      List.getLast?_append]
    cases ha : l.argumentOf? k with
    | none => simp only [List.filterMap_cons, ha, List.filterMap_nil, List.getLast?_nil]
    | some argument =>
      simp only [List.filterMap_cons, ha, List.filterMap_nil, List.getLast?_singleton]

lemma line_describe (e : Entry) (l : Line) : (e.describe l).line = e.line := by
  rw [Entry.describe]
  split <;> rfl

lemma header_describe (e : Entry) (l : Line) : (e.describe l).header = e.header := by
  rw [Entry.describe]
  split <;> rfl

lemma children_describe (e : Entry) (l : Line) : (e.describe l).children = e.children := by
  rw [Entry.describe]
  split <;> rfl

/-- An entry as an item. -/
lemma toItem_eq (e : Entry) :
    e.toItem =
      { label := String.ofList ((e.property? .label).getD e.headerLabel)
        value := (e.property? .value).map Value.coerce
        desc := (e.property? .desc).map String.ofList
        icon := (e.property? .icon).map String.ofList
        children := Entry.toItems? e.children } := by
  obtain ⟨line, header, properties, children⟩ := e
  rw [Entry.toItem]
  rfl

end Described

/-- Whether an entry has become another one by the lines below it: each property is set by the last
line that counts, and so are the children. -/
structure DescribedBy (e e' : Entry) (below : List Line) : Prop where
  /-- The line that opens it stays. -/
  line : e'.line = e.line
  /-- So does what stands on it. -/
  header : e'.header = e.header
  /-- Properties are set. -/
  property : ∀ k ∈ propertyKeywords,
    e'.property? k = (Level.entry.lastArgument? below k).or (e.property? k)
  /-- Children are set. -/
  children : Entry.toItems? e'.children =
    ((Level.entry.lastBlock? below).map itemsOf).or (Entry.toItems? e.children)

lemma describedBy_nil (e : Entry) : DescribedBy e e [] := ⟨rfl, rfl, fun _ _ => rfl, rfl⟩

lemma itemOf_eq (l : Line) (below : List Line) :
    itemOf l below =
      let header := (l.argumentOf? .dash).getD []
      let argument? := Level.entry.lastArgument? below
      { label := String.ofList ((argument? .label).getD (Entry.headerLabel { line := l, header }))
        value := (argument? .value).map Value.coerce
        desc := (argument? .desc).map String.ofList
        icon := (argument? .icon).map String.ofList
        children := (Level.entry.lastBlock? below).map itemsOf } := by
  rw [itemOf, Option.attach_map_val (Level.entry.lastBlock? below) itemsOf]

section DescribedBy

variable {e e' : Entry} {l : Line} {below : List Line}

/-- A line that opens no list comes first. -/
lemma DescribedBy.cons (hc : l.isBare .children = false)
    (h : DescribedBy (e.describe l) e' below) : DescribedBy e e' (l :: below) := by
  have hopens : Level.entry.opens l = false := hc
  refine ⟨h.line.trans (line_describe e l), h.header.trans (header_describe e l),
    fun k hk => ?_, ?_⟩
  · rw [h.property k hk, property?_describe hk, Level.lastArgument?_cons,
      Level.next_of_not_opens hopens, Option.or_assoc]
  · rw [h.children, children_describe, Level.lastBlock?_cons_of_not_opens hopens]

/-- A list of children comes first. -/
lemma DescribedBy.cons_children {entries : List Entry} (hc : l.isBare .children = true)
    (hentries : Entry.toItems entries = itemsOf (reach (l.indent + nestedIndent) below))
    (h : DescribedBy { e with children := some entries } e'
      (past (l.indent + nestedIndent) below)) : DescribedBy e e' (l :: below) := by
  have hopens : Level.entry.opens l = true := hc
  have hdepth : Level.entry.depth = nestedIndent := rfl
  refine ⟨h.line, h.header, fun k hk => ?_, ?_⟩
  · rw [h.property k hk, Level.lastArgument?_cons, Level.next_of_opens hopens, hdepth,
      argumentOf?_of_isBare hc, Option.or_none]
    rfl
  · rw [h.children, Entry.toItems?, hentries, Level.lastBlock?_cons_of_opens hopens, hdepth]
    cases Level.entry.lastBlock? (past (l.indent + nestedIndent) below) <;> rfl

/-- An entry with no property yet is described by the lines below it alone. -/
lemma DescribedBy.toItem_eq_itemOf {header : List Char} (hd : l.argumentOf? .dash = some header)
    (h : DescribedBy { line := l, header } e' below) : e'.toItem = itemOf l below := by
  have hproperty : ∀ k ∈ propertyKeywords,
      e'.property? k = Level.entry.lastArgument? below k := by
    intro k hk
    rw [h.property k hk]
    exact Option.or_none
  have hlabel : e'.headerLabel = Entry.headerLabel { line := l, header } := by
    rw [Entry.headerLabel, Entry.headerLabel, h.header]
  have hchildren : Entry.toItems? e'.children = (Level.entry.lastBlock? below).map itemsOf := by
    rw [h.children, Entry.toItems?, Option.or_none]
  rw [toItem_eq, itemOf_eq, hlabel, hchildren, hd]
  simp only [hproperty _ (by decide : Keyword.label ∈ propertyKeywords),
    hproperty _ (by decide : Keyword.value ∈ propertyKeywords),
    hproperty _ (by decide : Keyword.desc ∈ propertyKeywords),
    hproperty _ (by decide : Keyword.icon ∈ propertyKeywords), Option.getD_some]

end DescribedBy

lemma itemsOf_eq (lines : List Line) :
    itemsOf lines = (Level.list.blocks lines).map fun b => itemOf b.1 b.2 := by
  rw [itemsOf]
  exact List.attach_map_val (f := fun b : Line × List Line => itemOf b.1 b.2)

/-! ### Lists and entries -/

section Lists

variable {base indent : Nat} {l : Line} {ls : List Line}

lemma itemsOf_cons_of_none (hd : l.argumentOf? .dash = none) (lines : List Line) :
    itemsOf (l :: lines) = itemsOf lines := by
  have hopens : Level.list.opens l = false := by simp [Level.list, hd]
  rw [itemsOf_eq, itemsOf_eq, Level.blocks_cons_of_not_opens hopens]

lemma itemsOf_cons_of_some {header : List Char} (hd : l.argumentOf? .dash = some header)
    (lines : List Line) :
    itemsOf (l :: lines) =
      itemOf l (reach (l.indent + 1) lines) :: itemsOf (past (l.indent + 1) lines) := by
  have hopens : Level.list.opens l = true := by simp [Level.list, hd]
  rw [itemsOf_eq, itemsOf_eq, Level.blocks_cons_of_opens hopens]
  rfl

lemma itemsOf_append {as bs : List Line}
    (h : ∀ l ∈ as, ∀ b ∈ bs.head?, b.indent ≤ l.indent) :
    itemsOf (as ++ bs) = itemsOf as ++ itemsOf bs := by
  have hvisible := Level.visible_append Level.list
    fun l hl b hb => Nat.lt_succ_of_le (h l hl b hb)
  rw [itemsOf_eq, itemsOf_eq, itemsOf_eq, Level.blocks, hvisible, List.filter_append,
    List.map_append]
  rfl

end Lists

mutual

/-- The entries that the reader of a list finds are those of the list's block.

**Proof sketch.** Recursion along the readers. An entry is described by the lines of its extent, and
the lines behind it that belong to the list are those behind it in the list's block. -/
theorem toItems_readEntries (base : Nat) (lines : List Line) :
    Entry.toItems (readEntries base lines).value = itemsOf (reach base (nonBlank lines)) := by
  match lines with
  | [] =>
    rw [readEntries_nil, itemsOf_eq]
    rfl
  | l :: ls =>
    cases h : l.continues base with
    | false =>
      rw [readEntries_of_not_continues h, reach_nonBlank_of_not_continues h, itemsOf_eq]
      rfl
    | true =>
      cases hb : l.isBlank with
      | true =>
        rw [readEntries_of_none h (argumentOf?_of_isBlank hb _), nonBlank_cons_of_isBlank hb,
          Found.value_after, toItems_readEntries base ls]
      | false =>
        rw [reach_nonBlank_cons h hb]
        cases hd : l.argumentOf? .dash with
        | none =>
          rw [readEntries_of_none h hd, itemsOf_cons_of_none hd, Found.value_after,
            toItems_readEntries base ls]
        | some header =>
          have hle : base ≤ l.indent + 1 := Nat.le_succ_of_le (le_indent_of_argumentOf? h hd)
          have hlt := (readEntry l.indent { line := l, header } ls).length_rest_le
          have hfirst := describedBy_readEntry l.indent { line := l, header } ls
          simp only [readEntries_of_some h hd, Found.value_after, Found.value_map,
            Found.value_andThen, Entry.toItems]
          rw [hfirst.toItem_eq_itemOf hd, toItems_readEntries base _, readEntry_rest,
            nonBlank_blockEnd, itemsOf_cons_of_some hd, reach_reach hle, past_reach hle]
termination_by lines.length

/-- The reader of an entry describes it by the lines of its extent.

**Proof sketch.** Recursion along the readers. A list of children is read from its own block, which
lies in the extent, and the lines behind it are those behind it in the extent. -/
theorem describedBy_readEntry (indent : Nat) (e : Entry) (lines : List Line) :
    DescribedBy e (readEntry indent e lines).value (reach (indent + 1) (nonBlank lines)) := by
  match lines with
  | [] =>
    rw [readEntry_nil]
    exact describedBy_nil e
  | l :: ls =>
    cases h : l.continues (indent + 1) with
    | false =>
      rw [readEntry_of_not_continues h, reach_nonBlank_of_not_continues h]
      exact describedBy_nil e
    | true =>
      cases hb : l.isBlank with
      | true =>
        rw [readEntry_of_not_isBare h (isBare_of_isBlank hb _), nonBlank_cons_of_isBlank hb,
          describe_of_isBlank hb]
        exact describedBy_readEntry indent e ls
      | false =>
        rw [reach_nonBlank_cons h hb]
        cases hc : l.isBare .children with
        | false =>
          rw [readEntry_of_not_isBare h hc]
          exact (describedBy_readEntry indent (e.describe l) ls).cons hc
        | true =>
          have hle : indent + 1 ≤ l.indent + nestedIndent :=
            Nat.le_add_right_of_le (le_indent_of_isBare h hc)
          have hlt := (readEntries (l.indent + nestedIndent) ls).length_rest_le
          have hbelow := toItems_readEntries (l.indent + nestedIndent) ls
          have hlater := describedBy_readEntry indent
            { e with children := some (readEntries (l.indent + nestedIndent) ls).value }
            (readEntries (l.indent + nestedIndent) ls).rest
          have hpast : reach (indent + 1)
              (nonBlank (readEntries (l.indent + nestedIndent) ls).rest) =
                past (l.indent + nestedIndent) (reach (indent + 1) (nonBlank ls)) := by
            rw [readEntries_rest, nonBlank_blockEnd, past_reach hle]
          rw [← reach_reach hle] at hbelow
          rw [hpast] at hlater
          rw [readEntry_of_isBare h hc]
          exact DescribedBy.cons_children hc hbelow hlater
termination_by lines.length

end

/-! ### Data blocks and the root -/

/-- What the reader of a data block finds in the block.

**Proof sketch.** Recursion along the reader; a list of the block is read from its own block, which
lies in the data block. -/
theorem readDataBlock_value (indent : Nat) (block : DataBlock) (lines : List Line) :
    (readDataBlock indent block lines).value.title =
      (Level.data.lastArgument? (reach indent (nonBlank lines)) .title).or block.title ∧
    Entry.toItems (readDataBlock indent block lines).value.entries =
      ((Level.data.lastBlock? (reach indent (nonBlank lines))).map itemsOf).getD
        (Entry.toItems block.entries) := by
  match lines with
  | [] =>
    rw [readDataBlock_nil]
    exact ⟨rfl, rfl⟩
  | l :: ls =>
    cases h : l.continues indent with
    | false =>
      rw [readDataBlock_of_not_continues h, reach_nonBlank_of_not_continues h]
      exact ⟨rfl, rfl⟩
    | true =>
      cases hb : l.isBlank with
      | true =>
        rw [readDataBlock_of_other h (argumentOf?_of_isBlank hb _) (isBare_of_isBlank hb _),
          nonBlank_cons_of_isBlank hb]
        exact readDataBlock_value indent block ls
      | false =>
        rw [reach_nonBlank_cons h hb]
        cases hi : l.isBare .items with
        | true =>
          have ht := argumentOf?_of_isBare hi .title
          have hopens : Level.data.opens l = true := hi
          have hdepth : Level.data.depth = nestedIndent := rfl
          have hle : indent ≤ l.indent + nestedIndent :=
            Nat.le_add_right_of_le (le_indent_of_isBare h hi)
          have hlt := (readEntries (l.indent + nestedIndent) ls).length_rest_le
          have hlist := toItems_readEntries (l.indent + nestedIndent) ls
          have hpast : reach indent (nonBlank (readEntries (l.indent + nestedIndent) ls).rest) =
              past (l.indent + nestedIndent) (reach indent (nonBlank ls)) := by
            rw [readEntries_rest, nonBlank_blockEnd, past_reach hle]
          obtain ⟨htitle, hentries⟩ := readDataBlock_value indent
            { block with entries := (readEntries (l.indent + nestedIndent) ls).value }
            (readEntries (l.indent + nestedIndent) ls).rest
          rw [hpast] at htitle hentries
          rw [readDataBlock_of_items h ht hi]
          simp only [Found.value_after, Found.value_andThen]
          constructor
          · rw [htitle, Level.lastArgument?_cons, Level.next_of_opens hopens, hdepth, ht,
              Option.or_none]
          · rw [hentries, hlist, Level.lastBlock?_cons_of_opens hopens, hdepth, reach_reach hle]
            cases Level.data.lastBlock?
              (past (l.indent + nestedIndent) (reach indent (nonBlank ls))) <;> rfl
        | false =>
          have hopens : Level.data.opens l = false := hi
          rw [Level.lastArgument?_cons, Level.next_of_not_opens hopens,
            Level.lastBlock?_cons_of_not_opens hopens]
          cases ht : l.argumentOf? .title with
          | none =>
            rw [readDataBlock_of_other h ht hi, Option.or_none]
            exact readDataBlock_value indent block ls
          | some title =>
            obtain ⟨htitle, hentries⟩ :=
              readDataBlock_value indent { block with title := some title } ls
            rw [readDataBlock_of_title h ht]
            refine ⟨?_, hentries⟩
            rw [Found.value_after, htitle, Option.or_assoc]
            rfl
termination_by lines.length

/-- What the reader of a document finds below the header.

**Proof sketch.** Recursion along the reader; a data block is read from its own block, and takes the
place of the one before it. -/
theorem read_value (outline : Outline) (lines : List Line) :
    (outline.read lines).theme =
      (Level.root.lastArgument? (nonBlank lines) .theme).or outline.theme ∧
    (outline.read lines).data.title =
      ((Level.root.lastBlock? (nonBlank lines)).map (Level.data.lastArgument? · .title)).getD
        outline.data.title ∧
    Entry.toItems (outline.read lines).data.entries =
      ((Level.root.lastBlock? (nonBlank lines)).map fun block =>
        ((Level.data.lastBlock? block).map itemsOf).getD []).getD
          (Entry.toItems outline.data.entries) := by
  match lines with
  | [] =>
    rw [read_nil]
    exact ⟨rfl, rfl, rfl⟩
  | l :: ls =>
    cases hb : l.isBlank with
    | true =>
      rw [read_of_other (isBare_of_isBlank hb _) (argumentOf?_of_isBlank hb _),
        nonBlank_cons_of_isBlank hb]
      exact read_value outline ls
    | false =>
      rw [nonBlank_cons_of_not_isBlank hb]
      cases hd : l.isBare .data with
      | true =>
        have hopens : Level.root.opens l = true := hd
        have hdepth : Level.root.depth = 0 := rfl
        have hlt := (readDataBlock l.indent {} ls).length_rest_le
        have hpast : nonBlank (readDataBlock l.indent {} ls).rest =
            past l.indent (nonBlank ls) := by
          rw [readDataBlock_rest, nonBlank_blockEnd]
        obtain ⟨hblockTitle, hblockEntries⟩ := readDataBlock_value l.indent {} ls
        obtain ⟨htheme, htitle, hentries⟩ := read_value
          { outline with data := (readDataBlock l.indent {} ls).value }
          (readDataBlock l.indent {} ls).rest
        rw [hpast] at htheme htitle hentries
        rw [read_of_data hd, Level.lastArgument?_cons, Level.next_of_opens hopens,
          Level.lastBlock?_cons_of_opens hopens, hdepth, Nat.add_zero, argumentOf?_of_isBare hd,
          Option.or_none]
        refine ⟨htheme, ?_, ?_⟩
        · rw [htitle, hblockTitle]
          cases Level.root.lastBlock? (past l.indent (nonBlank ls)) with
          | none => simp
          | some block => rfl
        · rw [hentries, hblockEntries]
          cases Level.root.lastBlock? (past l.indent (nonBlank ls)) with
          | none => rfl
          | some block => rfl
      | false =>
        have hopens : Level.root.opens l = false := hd
        rw [Level.lastArgument?_cons, Level.next_of_not_opens hopens,
          Level.lastBlock?_cons_of_not_opens hopens]
        cases ht : l.argumentOf? .theme with
        | none =>
          rw [read_of_other hd ht, Option.or_none]
          exact read_value outline ls
        | some theme =>
          obtain ⟨htheme, hdata⟩ := read_value { outline with theme := some theme } ls
          rw [read_of_theme hd ht]
          refine ⟨?_, hdata⟩
          rw [htheme, Option.or_assoc]
          rfl
termination_by lines.length

/-- The document that the reader finds is the one that the lines stand for. -/
lemma toDocument_read (template : List Char) (lines : List Line) :
    (Outline.read {} lines).toDocument template = documentOf template (nonBlank lines) := by
  obtain ⟨htheme, htitle, hentries⟩ := read_value {} lines
  rw [Outline.toDocument, documentOf, htheme, htitle, hentries, Option.or_none]
  cases Level.root.lastBlock? (nonBlank lines) with
  | none => rfl
  | some block => rfl

/-! ### Whole sources -/

/-- The template that the header of a source names, and the lines below the header that are not
blank; nothing if the header is missing or malformed. -/
def headed? (source : String) : Option (List Char × List Line) :=
  match nonBlank (Line.ofSource source) with
  | [] => none
  | header :: body => (header.argumentOf? .infographic).map (·, body)

lemma nonBlank_dropWhile (lines : List Line) :
    nonBlank lines =
      match lines.dropWhile (·.isBlank) with
      | [] => []
      | header :: body => header :: nonBlank body := by
  induction lines with
  | nil => rfl
  | cons l lines ih =>
    cases hb : l.isBlank with
    | true => rw [nonBlank_cons_of_isBlank hb, ih, List.dropWhile_cons_of_pos hb]
    | false =>
      rw [nonBlank_cons_of_not_isBlank hb, List.dropWhile_cons_of_neg (by simp [hb])]

/-- A source with a valid header is the document that the lines below the header stand for. -/
lemma parse_of_headed? {source : String} {template : List Char} {body : List Line}
    (h : headed? source = some (template, body)) :
    parse source = .ok (documentOf template body) := by
  rw [headed?, nonBlank_dropWhile] at h
  rw [parse, Outline.ofSource]
  cases hdrop : (Line.ofSource source).dropWhile (·.isBlank) with
  | nil =>
    rw [hdrop] at h
    exact absurd h (by simp)
  | cons header below =>
    rw [hdrop] at h
    obtain ⟨found, hfound, hpair⟩ := Option.map_eq_some_iff.mp h
    obtain ⟨rfl, rfl⟩ := Prod.mk.inj hpair
    simp only [hfound, Except.map, toDocument_read]

/-- A source without a valid header is rejected. -/
lemma parse_of_not_headed {source : String} (h : headed? source = none) :
    ∃ e, parse source = .error e := by
  rw [headed?, nonBlank_dropWhile] at h
  rw [parse, Outline.ofSource]
  cases hdrop : (Line.ofSource source).dropWhile (·.isBlank) with
  | nil => exact ⟨_, rfl⟩
  | cons header below =>
    rw [hdrop] at h
    have hnone : header.argumentOf? .infographic = none := Option.map_eq_none_iff.mp h
    simp only [hnone]
    exact ⟨_, rfl⟩

/-- **Parsing is reading by coverage.** A source is parsed iff it has a valid header, and then as
the document that the lines below the header stand for by their indentation alone.

**Proof sketch.** The first line that is not blank is the header for both readings, and
`toDocument_read` is the statement for the lines below it. -/
theorem parse_eq_documentOf (source : String) :
    (parse source).toOption =
      (headed? source).map fun (template, body) => documentOf template body := by
  cases h : headed? source with
  | none =>
    obtain ⟨e, he⟩ := parse_of_not_headed h
    rw [he]
    rfl
  | some found =>
    obtain ⟨template, body⟩ := found
    rw [parse_of_headed? h]
    rfl

end Placard
