import Placard.Proofs.Document.Path
import Placard.Proofs.Document.Place
import Placard.Proofs.Document.Trace

set_option relaxedAutoImplicit false
set_option autoImplicit false

/-!
# Replacing blocks

A block stands behind the line that opens it, up to the first line that is indented too little. Any
other lines that are indented far enough can stand there instead: they do not end a block around
theirs, nor do they open one that reaches further, so only what is read from the block changes.

## Main definitions

* `Placard.documentEntries`: the entries that the lines below a header stand for.

## Main results

* `Placard.Level.blocks_replace`: a block can be replaced without changing another one.
* `Placard.itemsOf_replace`: so can the extent of an entry of a list, at any depth.
* `Placard.documentOf_replace`: the document changes in the item of that entry only.
-/

namespace Placard

/-! ## Blocks -/

namespace Level

variable {v : Level} {lines block ls : List Line} {i : Nat} {c l : Line}

/-- Behind a line that opens no block, coverage is as without it. -/
lemma covered_cons_of_not_opens (h : v.opens l = false) (m : Nat) :
    v.covered (l :: ls) (m + 1) = v.covered ls m := by
  have hfirst : v.opensAt (l :: ls) 0 = v.opens l := rfl
  have hadd : v.covered (l :: ls) (0 + 1 + m) = v.covered (ls.drop 0) m :=
    covered_add (fun i hi => absurd hi (Nat.not_lt_zero i)) (by simp [hfirst, h]) m
  rw [Nat.zero_add, Nat.add_comm 1 m] at hadd
  exact hadd

/-- Behind the block of the first line, it is as without that block. -/
lemma covered_cons_of_opens (h : v.opens l = true) (m : Nat) :
    v.covered (l :: ls) ((reach (l.indent + v.depth) ls).length + 1 + m) =
      v.covered (past (l.indent + v.depth) ls) m := by
  have hextent : v.extent (l :: ls) 0 = reach (l.indent + v.depth) ls := rfl
  rw [← drop_length_reach]
  refine covered_add (n := (reach (l.indent + v.depth) ls).length)
    (fun i hi => covered_iff.mpr ?_) (fun _ => Nat.le_of_eq (by rw [hextent])) m
  exact ⟨0, Nat.succ_pos i, h, covered_zero, by rw [hextent]; omega⟩

/-- **A block can be replaced** by any other lines that are indented far enough: the other blocks
stay, and the same lines count.

**Proof sketch.** Induction on the number of lines. The block of the first line is replaced as it
stands; or the replaced block lies behind that of the first line, which ends where it did. -/
theorem blocks_replace (h : (v.blocks lines)[i]? = some (c, block)) :
    ∃ before behind, v.Stands lines before c block behind ∧
      v.covered lines before.length = false ∧
      ∀ block', (∀ l ∈ block', c.indent + v.depth ≤ l.indent) →
        v.blocks (before ++ c :: (block' ++ behind)) = (v.blocks lines).set i (c, block') ∧
        (v.visible (before ++ c :: (block' ++ behind))).map (·.1) =
          (v.visible lines).map (·.1) := by
  -- not on the lines themselves: the block of the first line may leave out many lines at once
  induction hn : lines.length using Nat.strong_induction_on generalizing lines i with
  | _ n ih =>
    cases lines with
    | nil => simp [blocks, visible] at h
    | cons l ls =>
      cases hopens : v.opens l with
      | false =>
        rw [blocks_cons_of_not_opens hopens] at h
        obtain ⟨before, behind, hstands, hcovered, hreplace⟩ :=
          ih ls.length (by rw [← hn]; exact Nat.lt_succ_self _) h rfl
        refine ⟨l :: before, behind, hstands.cons l, ?_, ?_⟩
        · rw [List.length_cons, covered_cons_of_not_opens hopens, hcovered]
        · intro block' hblock'
          obtain ⟨hblocks, hvisible⟩ := hreplace block' hblock'
          rw [List.cons_append, blocks_cons_of_not_opens hopens, blocks_cons_of_not_opens hopens,
            visible_cons, visible_cons, next_of_not_opens hopens, next_of_not_opens hopens,
            List.map_cons, List.map_cons, hvisible]
          exact ⟨hblocks, rfl⟩
      | true =>
        have hblocks : v.blocks (l :: ls) = (l, reach (l.indent + v.depth) ls) ::
            v.blocks (past (l.indent + v.depth) ls) := blocks_cons_of_opens hopens
        cases i with
        | zero =>
          rw [hblocks, List.getElem?_cons_zero, Option.some.injEq, Prod.mk.injEq] at h
          obtain ⟨rfl, rfl⟩ := h
          refine ⟨[], past (l.indent + v.depth) ls, ⟨?_, hopens, ?_, head_past_lt⟩,
            covered_zero, ?_⟩
          · rw [reach_append_past, List.nil_append]
          · exact fun m hm => le_indent_of_mem_reach hm
          · intro block' hblock'
            rw [List.nil_append, hblocks, blocks_cons_of_opens hopens, visible_cons, visible_cons,
              next_of_opens hopens, next_of_opens hopens,
              reach_append_of_forall hblock' head_past_lt,
              past_append_of_forall hblock' head_past_lt]
            exact ⟨rfl, rfl⟩
        | succ i =>
          rw [hblocks, List.getElem?_cons_succ] at h
          have hlen := (List.dropWhile_suffix (l := ls)
            fun m => decide (l.indent + v.depth ≤ m.indent)).length_le
          obtain ⟨before, behind, hstands, hcovered, hreplace⟩ :=
            ih _ (by rw [← hn]; exact Nat.lt_succ_of_le hlen) h rfl
          refine ⟨l :: (reach (l.indent + v.depth) ls ++ before), behind, hstands.cons_past l,
            ?_, ?_⟩
          · rw [List.length_cons, List.length_append, Nat.add_right_comm,
              covered_cons_of_opens hopens, hcovered]
          · intro block' hblock'
            obtain ⟨hlater, hvisible⟩ := hreplace block' hblock'
            -- the first block ends where it did
            have hhead := hstands.head_lt block'
            have hfirst : ∀ m ∈ reach (l.indent + v.depth) ls, l.indent + v.depth ≤ m.indent :=
              fun m hm => le_indent_of_mem_reach hm
            rw [List.cons_append, List.append_assoc, hblocks, blocks_cons_of_opens hopens,
              visible_cons, visible_cons, next_of_opens hopens, next_of_opens hopens,
              reach_append_of_forall hfirst hhead, past_append_of_forall hfirst hhead,
              List.map_cons, List.map_cons, hlater, hvisible]
            exact ⟨rfl, rfl⟩

/-- **The last block can be replaced**, and the same lines count. -/
theorem lastBlock?_replace (h : v.lastBlock? lines = some block) :
    ∃ before c behind, v.Stands lines before c block behind ∧
      v.covered lines before.length = false ∧
      ∀ block', (∀ l ∈ block', c.indent + v.depth ≤ l.indent) →
        v.lastBlock? (before ++ c :: (block' ++ behind)) = some block' ∧
        (v.visible (before ++ c :: (block' ++ behind))).map (·.1) =
          (v.visible lines).map (·.1) := by
  rw [lastBlock?, List.getLast?_map, Option.map_eq_some_iff] at h
  obtain ⟨⟨c, block⟩, hlast, rfl⟩ := h
  have hget := hlast
  rw [List.getLast?_eq_getElem?] at hget
  obtain ⟨before, behind, hstands, hcovered, hreplace⟩ := blocks_replace hget
  refine ⟨before, c, behind, hstands, hcovered, fun block' hblock' => ?_⟩
  obtain ⟨hblocks, hvisible⟩ := hreplace block' hblock'
  refine ⟨?_, hvisible⟩
  rw [lastBlock?, hblocks, List.getLast?_map, List.getLast?_eq_getElem?, List.length_set,
    List.getElem?_set_self (List.getElem?_eq_some_iff.mp hget).1, Option.map_some]

/-- The argument of a keyword is told by the lines that count. -/
lemma lastArgument?_of_visible {ls : List Line}
    (h : (v.visible ls).map (·.1) = (v.visible lines).map (·.1)) (k : Keyword) :
    v.lastArgument? ls k = v.lastArgument? lines k := by
  have hmap : ∀ ms : List (Line × List Line),
      ms.map (·.1.argumentOf? k) = (ms.map (·.1)).map (·.argumentOf? k) := by
    intro ms
    rw [List.map_map]
    rfl
  rw [lastArgument?_eq, lastArgument?_eq, hmap, hmap, h]

end Level

/-! ## Lists -/

section Lists

variable {lines below : List Line} {path : List Nat} {e : Entry}

/-- The item of an entry whose last list of children is another one. -/
lemma itemOf_of_lastBlock? {below' list' : List Line} (l : Line)
    (hlast : Level.entry.lastBlock? below' = some list')
    (hvisible : (Level.entry.visible below').map (·.1) = (Level.entry.visible below).map (·.1)) :
    itemOf l below' = { itemOf l below with children := some (itemsOf list') } := by
  rw [itemOf_eq, itemOf_eq, hlast]
  simp only [Level.lastArgument?_of_visible hvisible, Option.map_some]

/-- **The extent of an entry can be replaced** by any other lines that are indented deeper than the
entry, and only the item of the entry changes.

**Proof sketch.** Induction on the path. The entry is one of the list, and then its extent is a
block of the list (`Level.blocks_replace`). Or it is below such an entry, in its last list of
children; the induction hypothesis changes that list, which is the last block of an extent, and the
lines that set the properties there stay (`Level.lastBlock?_replace`). -/
theorem itemsOf_replace (h : pick? Entry.childList (entriesOf lines) path = some e) :
    ∃ before below behind, Placed .list lines before e.line below behind .list ∧
      e = entryOf e.line below ∧
      ∀ below', (∀ l ∈ below', e.line.indent < l.indent) →
        Item.Replaced path (itemsOf lines)
          (itemsOf (before ++ e.line :: (below' ++ behind))) := by
  induction path generalizing lines with
  | nil => cases h
  | cons i path ih =>
    rw [pick?, entriesOf_eq, List.getElem?_map] at h
    cases hget : (Level.list.blocks lines)[i]? with
    | none =>
      rw [hget] at h
      exact absurd h (by simp)
    | some found =>
      obtain ⟨c, block⟩ := found
      rw [hget, Option.map_some, Option.bind_some] at h
      obtain ⟨before, behind, hstands, hcovered, hreplace⟩ := Level.blocks_replace hget
      have hplaced := placed_of_not_covered (p := .list) hstands hcovered
      have hi : i < (itemsOf lines).length := by
        rw [itemsOf_eq, List.length_map]
        exact (List.getElem?_eq_some_iff.mp hget).1
      have hitems : ∀ block', (∀ l ∈ block', c.indent < l.indent) →
          itemsOf (before ++ c :: (block' ++ behind)) =
            (itemsOf lines).set i (itemOf c block') := by
        intro block' hblock'
        rw [itemsOf_eq, (hreplace block' hblock').1, List.map_set, ← itemsOf_eq]
      cases path with
      | nil =>
        obtain rfl := Option.some.inj h
        rw [line_entryOf]
        refine ⟨before, block, behind, hplaced, rfl, fun below' hbelow' => ?_⟩
        rw [hitems below' hbelow']
        exact .here hi _
      | cons j path =>
        rw [descend?, Entry.childList, children_entryOf] at h
        cases hlast : Level.entry.lastBlock? block with
        | none =>
          rw [hlast] at h
          exact absurd h (by simp)
        | some list =>
          rw [hlast, Option.map_some, Option.getD_some] at h
          obtain ⟨before₂, below, behind₂, hinner, he, hinnerReplace⟩ := ih h
          obtain ⟨before₁, c₁, behind₁, hlist, hlistCovered, hlistReplace⟩ :=
            Level.lastBlock?_replace hlast
          have hlistPlaced := placed_of_not_covered (p := .entry) hlist hlistCovered
          refine ⟨_, below, _, (hplaced.nest hlistPlaced).nest hinner, he,
            fun below' hbelow' => ?_⟩
          have hlist' := hlist.inside_nest hinner.stands hbelow'
          have hblock' := hstands.inside_nest hlist hlist'
          obtain ⟨hlast', hvisible⟩ := hlistReplace _ hlist'
          rw [Level.append_nest, hitems _ hblock', itemOf_of_lastBlock? c hlast' hvisible]
          refine .inside ?_ ?_ (hinnerReplace below' hbelow')
          · rw [itemsOf_eq, List.getElem?_map, hget, Option.map_some]
          · rw [itemOf_eq, hlast, Option.map_some]

end Lists

/-! ## Documents -/

section Documents

variable {source : String} {template : List Char} {lines body : List Line} {path : List Nat}
  {e : Entry}

/-- The entries that the lines below a header stand for. -/
def documentEntries (lines : List Line) : List Entry :=
  (((Level.root.lastBlock? lines).bind Level.data.lastBlock?).map entriesOf).getD []

/-- Documents with the same title and the like, in whose items one is replaced. -/
lemma differsAt_of_replaced {d d' : Document} (htemplate : d'.template = d.template)
    (htitle : d'.title = d.title) (htheme : d'.theme = d.theme)
    (hitems : Item.Replaced path d.items d'.items) : d.DiffersAt path d' where
  template := htemplate
  title := htitle
  theme := htheme
  length := hitems.length_eq
  there := hitems.there
  elsewhere := fun _ => hitems.elsewhere
  above := fun _ hq hne _ => hitems.above hq hne

/-- **The extent of an entry can be replaced** by any other lines that are indented deeper than the
entry, and the document changes in the item of the entry only.

**Proof sketch.** The list of the document is the last block of its data block, and that one the
last block of all lines. Both last as long as before (`Level.lastBlock?_replace`), and the list
changes in the item only (`itemsOf_replace`). -/
theorem documentOf_replace (template : List Char)
    (h : pick? Entry.childList (documentEntries lines) path = some e) :
    ∃ before below behind, Placed .root lines before e.line below behind .list ∧
      e = entryOf e.line below ∧
      ∀ below', (∀ l ∈ below', e.line.indent < l.indent) →
        (documentOf template lines).DiffersAt path
          (documentOf template (before ++ e.line :: (below' ++ behind))) := by
  cases hroot : Level.root.lastBlock? lines with
  | none =>
    rw [documentEntries, hroot] at h
    exact absurd h (pick?_nil_ne_some path)
  | some block =>
    cases hdata : Level.data.lastBlock? block with
    | none =>
      rw [documentEntries, hroot, Option.bind_some, hdata] at h
      exact absurd h (pick?_nil_ne_some path)
    | some list =>
      rw [documentEntries, hroot, Option.bind_some, hdata, Option.map_some, Option.getD_some] at h
      obtain ⟨before₀, c₀, behind₀, hblock, hblockCovered, hblockReplace⟩ :=
        Level.lastBlock?_replace hroot
      obtain ⟨before₁, c₁, behind₁, hlist, hlistCovered, hlistReplace⟩ :=
        Level.lastBlock?_replace hdata
      have hblockPlaced := placed_of_not_covered (p := .root) hblock hblockCovered
      have hlistPlaced := placed_of_not_covered (p := .data) hlist hlistCovered
      obtain ⟨before₂, below, behind₂, hinner, he, hitems⟩ := itemsOf_replace h
      refine ⟨_, below, _, (hblockPlaced.nest hlistPlaced).nest hinner, he,
        fun below' hbelow' => ?_⟩
      have hlist' := hlist.inside_nest hinner.stands hbelow'
      have hblock' := hblock.inside_nest hlist hlist'
      obtain ⟨hdata', hvisible₁⟩ := hlistReplace _ hlist'
      obtain ⟨hroot', hvisible₀⟩ := hblockReplace _ hblock'
      rw [Level.append_nest]
      apply differsAt_of_replaced
      · rfl
      · simp only [documentOf, hroot, hroot', Option.bind_some,
          Level.lastArgument?_of_visible hvisible₁]
      · simp only [documentOf, Level.lastArgument?_of_visible hvisible₀]
      · simp only [documentOf, hroot, hroot', Option.bind_some, hdata, hdata', Option.map_some,
          Option.getD_some]
        exact hitems below' hbelow'

/-- A document is what the lines below a header stand for. -/
lemma exists_headed?_of_parse {d : Document} (h : parse source = .ok d) :
    ∃ template body, headed? source = some (template, body) ∧ d = documentOf template body := by
  cases hheaded : headed? source with
  | none =>
    obtain ⟨e, he⟩ := parse_of_not_headed hheaded
    rw [he] at h
    cases h
  | some found =>
    obtain ⟨template, body⟩ := found
    rw [parse_of_headed? hheaded] at h
    exact ⟨template, body, rfl, (Except.ok.inj h).symm⟩

/-- The outline of a source with a header has the entries that the lines below the header stand
for. -/
lemma exists_outline_of_headed? (h : headed? source = some (template, body)) :
    ∃ outline, Outline.ofSource source = .ok (template, outline) ∧
      outline.data.entries = documentEntries body := by
  rw [headed?, nonBlank_dropWhile] at h
  rw [Outline.ofSource]
  cases hdrop : (Line.ofSource source).dropWhile (·.isBlank) with
  | nil =>
    rw [hdrop] at h
    exact absurd h (by simp)
  | cons header below =>
    rw [hdrop] at h
    obtain ⟨found, hfound, hpair⟩ := Option.map_eq_some_iff.mp h
    obtain ⟨rfl, rfl⟩ := Prod.mk.inj hpair
    refine ⟨Outline.read {} below, by simp only [hfound], ?_⟩
    rw [entries_read, documentEntries]
    cases Level.root.lastBlock? (nonBlank below) <;> rfl

/-- The entries of a source are those that the lines below its header stand for. -/
lemma entryAt?_of_headed? (h : headed? source = some (template, body)) (path : List Nat) :
    entryAt? source path = pick? Entry.childList (documentEntries body) path := by
  obtain ⟨outline, houtline, hentries⟩ := exists_outline_of_headed? h
  rw [entryAt?, houtline]
  simp only [Except.toOption, Option.bind_some, Outline.at?, hentries]

end Documents

end Placard
