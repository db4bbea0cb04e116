import Mathlib.Data.List.Forall2
import Placard.Proofs.Document.Coverage

set_option relaxedAutoImplicit false
set_option autoImplicit false

/-!
# Lines that say the same

What lines stand for is told by the keywords on them, the arguments of these keywords and how far
the lines are indented against each other. So lines that say the same one by one, all of them
indented further by the same amount, stand for the same document. In particular this holds of lines
with the same texts. Where a line stands in the source does not matter at all.

## Main definitions

* `Placard.Line.Shifted`: two lines with the same text, the second indented further by `d`.
* `Placard.Line.Alike`: two lines that say the same, the second indented further by `d`.

## Main results

* `Placard.Level.visible_alike`: at every level the same lines count.
* `Placard.documentOf_alike`: lines that say the same stand for the same document.
* `Placard.documentOf_shifted`: so do shifted lines.
-/

namespace Placard

/-- Two lines with the same text, the second indented further by `d`, which may be negative. -/
structure Line.Shifted (d : ℤ) (l l' : Line) : Prop where
  /-- The texts are the same. -/
  text : l'.text = l.text
  /-- The indentations differ by `d`. -/
  indent : (l'.indent : ℤ) = l.indent + d

/-- The label on a line that opens an entry. -/
def Line.label? (l : Line) : Option (List Char) :=
  (l.argumentOf? .dash).map fun header => Entry.headerLabel { line := l, header }

/-- Two lines that say the same, the second indented further by `d`, which may be negative. What
stands behind a dash is compared by the label it gives. -/
structure Line.Alike (d : ℤ) (l l' : Line) : Prop where
  /-- The same keyword stands alone on both. -/
  bare : ∀ k, l'.isBare k = l.isBare k
  /-- The same keyword has the same argument on both. -/
  argument : ∀ k, k ≠ .dash → l'.argumentOf? k = l.argumentOf? k
  /-- Both open an entry with the same label, or none does. -/
  label : l'.label? = l.label?
  /-- The indentations differ by `d`. -/
  indent : (l'.indent : ℤ) = l.indent + d

/-- Blocks opened by lines that say the same and made of lines that say the same. -/
def AlikeBlock (d : ℤ) (b b' : Line × List Line) : Prop :=
  Line.Alike d b.1 b'.1 ∧ List.Forall₂ (Line.Alike d) b.2 b'.2

section Alike

variable {d : ℤ} {l l' : Line} {ls ls' : List Line} {base base' : Nat}

lemma head?_of_text (h : l'.text = l.text) : l'.head? = l.head? := by
  rw [Line.head?, Line.head?, h]

lemma rest_of_text (h : l'.text = l.text) : l'.rest = l.rest := by
  rw [Line.rest, Line.rest, h]

lemma argumentOf?_of_text (h : l'.text = l.text) (k : Keyword) :
    l'.argumentOf? k = l.argumentOf? k := by
  rw [Line.argumentOf?, Line.argumentOf?, Line.argument?, Line.argument?, head?_of_text h,
    rest_of_text h]

lemma isBare_of_text (h : l'.text = l.text) (k : Keyword) : l'.isBare k = l.isBare k := by
  rw [Line.isBare, Line.isBare, Line.isBareHead, Line.isBareHead, head?_of_text h, rest_of_text h]

/-- Lines with the same text say the same. -/
lemma Line.Shifted.alike (h : Line.Shifted d l l') : Line.Alike d l l' where
  bare := isBare_of_text h.text
  argument k _ := argumentOf?_of_text h.text k
  label := by
    rw [Line.label?, Line.label?, argumentOf?_of_text h.text]
    rfl
  indent := h.indent

/-- A line reaches a baseline iff the line that says the same reaches the shifted baseline. -/
lemma Line.Alike.le_indent_iff (h : Line.Alike d l l') (hbase : (base' : ℤ) = base + d) :
    base' ≤ l'.indent ↔ base ≤ l.indent := by
  have hindent := h.indent
  omega

/-- The baseline of a block is shifted with the line that opens the block. -/
lemma Line.Alike.baseline (h : Line.Alike d l l') (depth : Nat) :
    ((l'.indent + depth : Nat) : ℤ) = (l.indent + depth : Nat) + d := by
  have hindent := h.indent
  omega

lemma reach_alike (hbase : (base' : ℤ) = base + d) (h : List.Forall₂ (Line.Alike d) ls ls') :
    List.Forall₂ (Line.Alike d) (reach base ls) (reach base' ls') := by
  induction h with
  | nil => exact .nil
  | @cons l l' ls ls' hl _ ih =>
    rcases Nat.lt_or_ge l.indent base with hlt | hle
    · have hlt' : l'.indent < base' :=
        Nat.lt_of_not_le fun hle => Nat.not_le_of_lt hlt ((hl.le_indent_iff hbase).mp hle)
      rw [reach_cons_of_lt hlt, reach_cons_of_lt hlt']
      exact .nil
    · rw [reach_cons_of_le hle, reach_cons_of_le ((hl.le_indent_iff hbase).mpr hle)]
      exact .cons hl ih

lemma past_alike (hbase : (base' : ℤ) = base + d) (h : List.Forall₂ (Line.Alike d) ls ls') :
    List.Forall₂ (Line.Alike d) (past base ls) (past base' ls') := by
  induction h with
  | nil => exact .nil
  | @cons l l' ls ls' hl hls ih =>
    rcases Nat.lt_or_ge l.indent base with hlt | hle
    · have hlt' : l'.indent < base' :=
        Nat.lt_of_not_le fun hle => Nat.not_le_of_lt hlt ((hl.le_indent_iff hbase).mp hle)
      rw [past_cons_of_lt hlt, past_cons_of_lt hlt']
      exact .cons hl hls
    · rw [past_cons_of_le hle, past_cons_of_le ((hl.le_indent_iff hbase).mpr hle)]
      exact ih

end Alike

/-! ## Levels -/

namespace Level

/-- Whether lines that say the same open a block at the level alike. -/
def OpensAlike (v : Level) : Prop :=
  ∀ (d : ℤ) (l l' : Line), Line.Alike d l l' → v.opens l' = v.opens l

lemma opensAlike_root : root.OpensAlike := fun _ _ _ h => h.bare .data

lemma opensAlike_data : data.OpensAlike := fun _ _ _ h => h.bare .items

lemma opensAlike_list : list.OpensAlike := by
  intro d l l' h
  have hlabel := congrArg Option.isSome h.label
  rwa [Line.label?, Line.label?, Option.isSome_map, Option.isSome_map] at hlabel

lemma opensAlike_entry : entry.OpensAlike := fun _ _ _ h => h.bare .children

variable {v : Level} {d : ℤ} {ls ls' : List Line}

/-- **The lines that count say the same.**

**Proof sketch.** Induction on the number of lines. The first line counts in both lists. It opens a
block in both or in none, and the lines behind its block say the same again. -/
lemma visible_alike (hv : v.OpensAlike) (h : List.Forall₂ (Line.Alike d) ls ls') :
    List.Forall₂ (AlikeBlock d) (v.visible ls) (v.visible ls') := by
  -- not on the relation itself: the block of the first line may leave out many lines at once
  induction hn : ls.length using Nat.strong_induction_on generalizing ls ls' with
  | _ n ih =>
    cases h with
    | nil => exact .nil
    | @cons l l' ls ls' hl hls =>
      have hbase := hl.baseline v.depth
      rw [visible_cons, visible_cons]
      refine .cons ⟨hl, reach_alike hbase hls⟩ ?_
      cases hopens : v.opens l with
      | true =>
        rw [next_of_opens hopens, next_of_opens ((hv d l l' hl).trans hopens)]
        have hlen := (List.dropWhile_suffix (l := ls)
          fun m => decide (l.indent + v.depth ≤ m.indent)).length_le
        exact ih _ (by rw [← hn]; exact Nat.lt_succ_of_le hlen) (past_alike hbase hls) rfl
      | false =>
        rw [next_of_not_opens hopens, next_of_not_opens ((hv d l l' hl).trans hopens)]
        exact ih _ (by rw [← hn]; exact Nat.lt_succ_self _) hls rfl

lemma blocks_alike (hv : v.OpensAlike) (h : List.Forall₂ (Line.Alike d) ls ls') :
    List.Forall₂ (AlikeBlock d) (v.blocks ls) (v.blocks ls') := by
  refine List.rel_filter (fun b b' hb => ?_) (visible_alike hv h)
  show v.opens b.1 = true ↔ v.opens b'.1 = true
  rw [hv d b.1 b'.1 hb.1]

end Level

section Last

variable {α β γ : Type}

/-- Lists related member by member end alike. -/
lemma getLast?_rel {R : α → β → Prop} {as : List α} {bs : List β} (h : List.Forall₂ R as bs) :
    Option.Rel R as.getLast? bs.getLast? := by
  induction h with
  | nil => exact .none
  | @cons a b as bs hab _ ih =>
    rw [List.getLast?_cons, List.getLast?_cons]
    generalize as.getLast? = last, bs.getLast? = last' at ih
    cases ih with
    | none => exact .some hab
    | some hlast => exact .some hlast

/-- Related members with equal images make equal lists. -/
lemma map_eq_of_forall₂ {R : α → β → Prop} {f : α → γ} {g : β → γ} {as : List α} {bs : List β}
    (h : List.Forall₂ R as bs) (hfg : ∀ a ∈ as, ∀ b, R a b → f a = g b) :
    as.map f = bs.map g := by
  induction h with
  | nil => rfl
  | cons hab _ ih =>
    rw [List.map_cons, List.map_cons, hfg _ List.mem_cons_self _ hab,
      ih fun a ha => hfg a (List.mem_cons_of_mem _ ha)]

/-- So do related members of which there may be none. -/
lemma map_eq_of_rel {R : α → β → Prop} {f : α → γ} {g : β → γ} {a : Option α} {b : Option β}
    (h : Option.Rel R a b) (hfg : ∀ x, a = some x → ∀ y, R x y → g y = f x) :
    b.map g = a.map f := by
  cases h with
  | none => rfl
  | some hxy => exact congrArg some (hfg _ rfl _ hxy)

end Last

namespace Level

variable {v : Level} {d : ℤ} {ls ls' : List Line}

/-- The last blocks say the same. -/
lemma lastBlock?_alike (hv : v.OpensAlike) (h : List.Forall₂ (Line.Alike d) ls ls') :
    Option.Rel (List.Forall₂ (Line.Alike d)) (v.lastBlock? ls) (v.lastBlock? ls') := by
  refine getLast?_rel ?_
  rw [List.forall₂_map_left_iff, List.forall₂_map_right_iff]
  exact (blocks_alike hv h).imp fun _ _ hb => hb.2

/-- The last argument stays. -/
lemma lastArgument?_alike {k : Keyword} (hk : k ≠ .dash) (hv : v.OpensAlike)
    (h : List.Forall₂ (Line.Alike d) ls ls') :
    v.lastArgument? ls' k = v.lastArgument? ls k := by
  rw [lastArgument?_eq, lastArgument?_eq]
  congr 2
  exact (map_eq_of_forall₂ (visible_alike hv h) fun _ _ _ hb => (hb.1.argument k hk).symm).symm

end Level

/-! ## Items and documents -/

section Document

variable {d : ℤ} {l l' : Line} {ls ls' : List Line}

/-- The labels that the lines of two entries give are the same, also if there is none. -/
lemma headerLabel_alike (h : Line.Alike d l l') :
    Entry.headerLabel { line := l', header := (l'.argumentOf? .dash).getD [] } =
      Entry.headerLabel { line := l, header := (l.argumentOf? .dash).getD [] } := by
  have hlabel := h.label
  rw [Line.label?, Line.label?] at hlabel
  cases hdash : l.argumentOf? .dash <;> cases hdash' : l'.argumentOf? .dash
  all_goals rw [hdash, hdash'] at hlabel
  · rfl
  · cases hlabel
  · cases hlabel
  · exact Option.some_inj.mp hlabel

/-- Lines of a list that say the same stand for the same items.

**Proof sketch.** Induction on the number of lines. The entries are opened by lines with the same
labels, and the lines below them say the same. So their properties are the same, and their lists of
children are made of fewer lines that say the same. -/
lemma itemsOf_alike (h : List.Forall₂ (Line.Alike d) ls ls') : itemsOf ls' = itemsOf ls := by
  induction hn : ls.length using Nat.strong_induction_on generalizing ls ls' with
  | _ n ih =>
    rw [itemsOf_eq, itemsOf_eq]
    refine (map_eq_of_forall₂ (Level.blocks_alike Level.opensAlike_list h) ?_).symm
    rintro ⟨l, below⟩ hmem ⟨l', below'⟩ ⟨hl, hbelow⟩
    have hlt : below.length < n := hn ▸ Level.length_lt_of_mem_blocks hmem
    have hargument : ∀ k : Keyword, k ≠ .dash →
        Level.entry.lastArgument? below' k = Level.entry.lastArgument? below k :=
      fun k hk => Level.lastArgument?_alike hk Level.opensAlike_entry hbelow
    have hchildren : (Level.entry.lastBlock? below').map itemsOf =
        (Level.entry.lastBlock? below).map itemsOf := by
      refine map_eq_of_rel (Level.lastBlock?_alike Level.opensAlike_entry hbelow) ?_
      intro block hblock block' hrel
      exact ih _ (Nat.lt_trans (Level.length_lt_of_lastBlock? hblock) hlt) hrel rfl
    simp only [itemOf_eq, hargument .label (by decide), hargument .value (by decide),
      hargument .desc (by decide), hargument .icon (by decide), headerLabel_alike hl, hchildren]

/-- **Lines that say the same stand for the same document.** -/
theorem documentOf_alike (template : List Char) (h : List.Forall₂ (Line.Alike d) ls ls') :
    documentOf template ls' = documentOf template ls := by
  have htheme : Level.root.lastArgument? ls' .theme = Level.root.lastArgument? ls .theme :=
    Level.lastArgument?_alike (by decide) Level.opensAlike_root h
  have hblock := Level.lastBlock?_alike Level.opensAlike_root h
  rw [documentOf, documentOf, htheme]
  generalize Level.root.lastBlock? ls = block, Level.root.lastBlock? ls' = block' at hblock
  cases hblock with
  | none => rfl
  | @some lines lines' hlines =>
    have htitle : Level.data.lastArgument? lines' .title = Level.data.lastArgument? lines .title :=
      Level.lastArgument?_alike (by decide) Level.opensAlike_data hlines
    have hlist := Level.lastBlock?_alike Level.opensAlike_data hlines
    have hitems := map_eq_of_rel (f := itemsOf) (g := itemsOf) hlist
      fun _ _ _ hrel => itemsOf_alike hrel
    simp only [Option.bind_some, htitle, hitems]

/-- **Shifted lines stand for the same document.** -/
theorem documentOf_shifted (template : List Char) (h : List.Forall₂ (Line.Shifted d) ls ls') :
    documentOf template ls' = documentOf template ls :=
  documentOf_alike template (h.imp fun _ _ hl => hl.alike)

end Document

end Placard
