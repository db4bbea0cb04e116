import Mathlib.Data.Fin.Basic
import Placard.Proofs.Document.Coverage

set_option relaxedAutoImplicit false
set_option autoImplicit false

/-!
# Where lines stand

Every line of a document stands in a block, and the innermost one is that of the nearest line above
it which opens a block where it stands itself and whose block extends to the line. Inside a block
the lines stand where they would stand on their own, so the place of a line can be found from block
to block.

## Main definitions

* `Placard.Level.Stands`: where a block stands among the lines of a level.
* `Placard.Place`, `Placard.placeAt`: the kinds of blocks, and that of the innermost one around a
  line.
* `Placard.Placed`: where a block stands among lines of a known place.

## Main results

* `Placard.covers_eq_false_of_not_covered`: no block extends to a line that counts.
* `Placard.placeAt_stands`: inside a block, lines stand where they would stand on their own.
-/

namespace Placard

/-! ## Blocks among lines -/

section Reach

variable {base : Nat}

lemma reach_append_of_forall {as bs : List Line} (h : ∀ l ∈ as, base ≤ l.indent)
    (hbs : ∀ b ∈ bs.head?, b.indent < base) : reach base (as ++ bs) = as := by
  rw [reach_append hbs, reach_eq_self h]

lemma past_append_of_forall {as bs : List Line} (h : ∀ l ∈ as, base ≤ l.indent)
    (hbs : ∀ b ∈ bs.head?, b.indent < base) : past base (as ++ bs) = bs := by
  rw [past_append hbs, past_eq_nil h, List.nil_append]

lemma reach_append_past (base : Nat) (ls : List Line) : reach base ls ++ past base ls = ls :=
  List.takeWhile_append_dropWhile

lemma le_indent_of_mem_reach {ls : List Line} {l : Line} (h : l ∈ reach base ls) :
    base ≤ l.indent :=
  of_decide_eq_true (List.mem_takeWhile_imp (p := fun m : Line => decide (base ≤ m.indent)) h)

lemma head_past_lt {ls : List Line} : ∀ b ∈ (past base ls).head?, b.indent < base := by
  intro b hb
  have hfalse := List.head?_dropWhile_not (fun l : Line => decide (base ≤ l.indent)) ls
  rw [past] at hb
  rw [Option.mem_def.mp hb] at hfalse
  simpa using hfalse

end Reach

namespace Level

variable {v w : Level} {lines before block behind : List Line} {c c' : Line}

/-- Where a block stands among the lines of a level: behind the line that opens it, up to the first
line that is indented too little. -/
structure Stands (v : Level) (lines before : List Line) (c : Line) (block behind : List Line) :
    Prop where
  /-- The lines are those before it, its own ones and those behind it. -/
  lines_eq : lines = before ++ c :: (block ++ behind)
  /-- The line opens it. -/
  opens : v.opens c = true
  /-- Its lines are indented far enough. -/
  inside : ∀ l ∈ block, c.indent + v.depth ≤ l.indent
  /-- The line behind it is not. -/
  ends : ∀ b ∈ behind.head?, b.indent < c.indent + v.depth

namespace Stands

variable {before' block' behind' : List Line}

lemma mem_lines (h : v.Stands lines before c block behind) : c ∈ lines := by
  rw [h.lines_eq]
  exact List.mem_append_right _ List.mem_cons_self

/-- A line in front that opens no block is one more line before it. -/
lemma cons (l : Line) (h : v.Stands lines before c block behind) :
    v.Stands (l :: lines) (l :: before) c block behind :=
  ⟨by rw [h.lines_eq, List.cons_append], h.opens, h.inside, h.ends⟩

/-- So is a block in front. -/
lemma cons_past {ls : List Line} {base : Nat} (l : Line)
    (h : v.Stands (past base ls) before c block behind) :
    v.Stands (l :: ls) (l :: (reach base ls ++ before)) c block behind := by
  refine ⟨?_, h.opens, h.inside, h.ends⟩
  rw [List.cons_append, List.append_assoc, ← h.lines_eq, reach_append_past]

/-- The lines behind a block in front start alike, whatever stands in the blocks among them. -/
lemma head_lt {ls : List Line} {base : Nat} (h : v.Stands (past base ls) before c block behind)
    (block' : List Line) : ∀ b ∈ (before ++ c :: (block' ++ behind)).head?, b.indent < base := by
  intro b hb
  have hpast : b ∈ (past base ls).head? := by
    rw [h.lines_eq]
    cases before <;> exact hb
  exact head_past_lt b hpast

/-- A block inside a block stands among the lines around the outer one. -/
lemma nest (h : v.Stands lines before c block behind)
    (h' : w.Stands block before' c' block' behind') :
    w.Stands lines (before ++ c :: before') c' block' (behind' ++ behind) := by
  refine ⟨?_, h'.opens, h'.inside, ?_⟩
  · rw [h.lines_eq, h'.lines_eq]
    simp only [List.append_assoc, List.cons_append]
  · intro b hb
    cases behind' with
    | cons b' behind' => exact h'.ends b hb
    | nil =>
      have hc' := h.inside c' h'.mem_lines
      have hlt := h.ends b hb
      omega

/-- A block inside a block keeps the outer one going, whatever it is replaced by. -/
lemma inside_nest (h : v.Stands lines before c block behind)
    (h' : w.Stands block before' c' block' behind') {ls : List Line}
    (hls : ∀ l ∈ ls, c'.indent + w.depth ≤ l.indent) :
    ∀ l ∈ before' ++ c' :: (ls ++ behind'), c.indent + v.depth ≤ l.indent := by
  have hc' := h.inside c' h'.mem_lines
  have hlines := h'.lines_eq
  intro l hl
  simp only [List.mem_append, List.mem_cons] at hl
  obtain hl | rfl | hl | hl := hl
  · exact h.inside l (by simp [hlines, hl])
  · exact hc'
  · exact Nat.le_trans (Nat.le_add_right_of_le hc') (hls l hl)
  · exact h.inside l (by simp [hlines, hl])

end Stands

/-- The lines around a block inside a block inside a block, from the outside and from the inside. -/
lemma append_nest (before before' before'' : List Line) (c c' l : Line)
    (below behind'' behind' behind : List Line) :
    (before ++ c :: before') ++ c' :: before'' ++
        l :: (below ++ (behind'' ++ (behind' ++ behind))) =
      before ++ c ::
        ((before' ++ c' :: ((before'' ++ l :: (below ++ behind'')) ++ behind')) ++ behind) := by
  simp only [List.append_assoc, List.cons_append]

end Level

/-! ## Places -/

/-- The kinds of blocks. -/
inductive Place where
  /-- The whole document below the header. -/
  | root
  /-- A data block. -/
  | data
  /-- A list of entries. -/
  | list
  /-- An entry. -/
  | entry
deriving DecidableEq, Repr

namespace Place

/-- What opens a block inside a block of the kind. -/
def level : Place → Level
  | .root => .root
  | .data => .data
  | .list => .list
  | .entry => .entry

/-- The kind of the blocks that are opened inside a block of the kind. -/
def inner : Place → Place
  | .root => .data
  | .data => .list
  | .list => .entry
  | .entry => .list

end Place

/-- Whether the line at position `j` opens a block at the level that extends to position `i`. -/
def Level.covers (v : Level) (lines : List Line) (j i : Nat) : Bool :=
  v.opensAt lines j && decide (i ≤ j + (v.extent lines j).length)

/-- The kind of the innermost block around the line at position `i`, given the kind of the block
that all of the lines stand in: the nearest line above opens it that opens a block where it stands
and extends to the line. -/
def placeAt (p : Place) (lines : List Line) (i : Nat) : Place :=
  match Fin.findRev? fun j : Fin i => (placeAt p lines j).level.covers lines j i with
  | none => p
  | some j => (placeAt p lines j).inner
termination_by i
decreasing_by all_goals exact j.isLt

section Covers

variable {v : Level} {lines ls : List Line} {i j n base : Nat}

lemma le_length_reach_iff :
    n ≤ (reach base ls).length ↔ ∀ m < n, ∃ l, ls[m]? = some l ∧ base ≤ l.indent := by
  induction ls generalizing n with
  | nil =>
    cases n with
    | zero => simp
    | succ n =>
      refine ⟨fun h => absurd h (Nat.not_succ_le_zero n), fun h => ?_⟩
      obtain ⟨l, hl, -⟩ := h 0 (Nat.succ_pos n)
      cases hl
  | cons l ls ih =>
    cases n with
    | zero => simp
    | succ n =>
      rcases Nat.lt_or_ge l.indent base with hlt | hle
      · rw [reach_cons_of_lt hlt]
        simp only [List.length_nil, Nat.le_zero, Nat.add_one_ne_zero, false_iff, not_forall]
        refine ⟨0, Nat.succ_pos n, ?_⟩
        simpa using hlt
      · rw [reach_cons_of_le hle, List.length_cons, Nat.add_le_add_iff_right, ih]
        constructor
        · intro h m hm
          cases m with
          | zero => exact ⟨l, rfl, hle⟩
          | succ m => exact h m (Nat.lt_of_succ_lt_succ hm)
        · intro h m hm
          exact h (m + 1) (Nat.succ_lt_succ hm)

/-- A block extends to a line iff all lines up to it are indented far enough. -/
lemma Level.covers_iff :
    v.covers lines j i = true ↔ ∃ c, lines[j]? = some c ∧ v.opens c = true ∧
      ∀ m, j < m → m ≤ i → ∃ l, lines[m]? = some l ∧ c.indent + v.depth ≤ l.indent := by
  have hcount : ∀ c : Line, (i ≤ j + (reach (c.indent + v.depth) (lines.drop (j + 1))).length ↔
      ∀ m, j < m → m ≤ i → ∃ l, lines[m]? = some l ∧ c.indent + v.depth ≤ l.indent) := by
    intro c
    rw [← Nat.sub_le_iff_le_add', le_length_reach_iff]
    constructor
    · intro h m hjm hmi
      have hm := h (m - (j + 1)) (by omega)
      rw [List.getElem?_drop, Nat.add_sub_cancel' hjm] at hm
      exact hm
    · intro h m hm
      rw [List.getElem?_drop]
      exact h (j + 1 + m) (by omega) (by omega)
  rw [covers, opensAt, extent]
  rcases Nat.lt_or_ge j lines.length with hlt | hge
  · rw [List.drop_eq_getElem_cons hlt, List.getElem?_eq_getElem hlt]
    simp [hcount]
  · rw [List.drop_eq_nil_of_le hge, List.getElem?_eq_none hge]
    simp

end Covers

section PlaceAt

variable {p q : Place} {lines before block behind : List Line} {c : Line} {i j m : Nat}

/-- A line that no block extends to stands where all lines do. -/
lemma placeAt_of_forall (h : ∀ j < i, (placeAt p lines j).level.covers lines j i = false) :
    placeAt p lines i = p := by
  have hnone : (Fin.findRev? fun j : Fin i => (placeAt p lines j).level.covers lines j i) =
      none := Fin.findRev?_eq_none_iff.mpr fun j => h j j.isLt
  rw [placeAt, hnone]

/-- The nearest line above with a block that extends to a line tells where the line stands. -/
lemma placeAt_of_covers (hj : j < i) (h : (placeAt p lines j).level.covers lines j i = true)
    (hnearest : ∀ k, j < k → k < i → (placeAt p lines k).level.covers lines k i = false) :
    placeAt p lines i = (placeAt p lines j).inner := by
  have hsome : (Fin.findRev? fun j : Fin i => (placeAt p lines j).level.covers lines j i) =
      some ⟨j, hj⟩ := Fin.findRev?_eq_some_iff.mpr ⟨h, fun k hk => hnearest k hk k.isLt⟩
  rw [placeAt, hsome]

/-- Either no block extends to a line, or there is a nearest line above that opens one. -/
lemma exists_nearest (p : Place) (lines : List Line) (i : Nat) :
    (∀ j < i, (placeAt p lines j).level.covers lines j i = false) ∨
    ∃ j < i, (placeAt p lines j).level.covers lines j i = true ∧
      ∀ k, j < k → k < i → (placeAt p lines k).level.covers lines k i = false := by
  cases h : Fin.findRev? fun j : Fin i => (placeAt p lines j).level.covers lines j i with
  | none => exact Or.inl fun j hj => Fin.findRev?_eq_none_iff.mp h ⟨j, hj⟩
  | some j =>
    obtain ⟨hcovers, hnearest⟩ := Fin.findRev?_eq_some_iff.mp h
    exact Or.inr ⟨j, j.isLt, hcovers, fun k hjk hki => hnearest ⟨k, hki⟩ hjk⟩

/-- **No block extends to a line that counts.** Whatever the lines above it open where they stand
has ended before it.

**Proof sketch.** Strong induction on the position. A line above that counts itself stands where all
lines do, so its block ends or the line would be covered. A line above that is covered stands in a
block that reaches at least as far as its own one, and that block ends too. -/
lemma covers_eq_false_of_not_covered (h : p.level.covered lines i = false) :
    ∀ j < i, (placeAt p lines j).level.covers lines j i = false := by
  induction i using Nat.strong_induction_on with
  | _ i ih =>
    intro j hj
    rw [← Bool.not_eq_true]
    intro hcovers
    have hnot : ∀ k < i, p.level.covered lines k = false →
        p.level.covers lines k i = true → False := by
      intro k hk hcovered hextends
      rw [Level.covers, Bool.and_eq_true, decide_eq_true_eq] at hextends
      have htrue := Level.covered_iff.mpr ⟨k, hk, hextends.1, hcovered, hextends.2⟩
      rw [h] at htrue
      cases htrue
    cases hcovered : p.level.covered lines j with
    | false =>
      have hplace := placeAt_of_forall (ih j hj hcovered)
      rw [hplace] at hcovers
      exact hnot j hj hcovered hcovers
    | true =>
      obtain ⟨k, hkj, hopens, hcovered, hle⟩ := Level.covered_iff.mp hcovered
      have houter : p.level.covers lines k j = true := by
        rw [Level.covers, hopens, Bool.true_and, decide_eq_true_eq]
        exact hle
      refine hnot k (Nat.lt_trans hkj hj) hcovered (Level.covers_iff.mpr ?_)
      obtain ⟨c, hc, hcopens, hcinside⟩ := Level.covers_iff.mp houter
      obtain ⟨l, hl, -, hlinside⟩ := Level.covers_iff.mp hcovers
      obtain ⟨l', hl', hle'⟩ := hcinside j hkj (Nat.le_refl j)
      obtain rfl : l = l' := Option.some.inj (hl.symm.trans hl')
      refine ⟨c, hc, hcopens, fun m hkm hmi => ?_⟩
      rcases Nat.lt_or_ge j m with hjm | hmj
      · obtain ⟨n, hn, hnle⟩ := hlinside m hjm hmi
        exact ⟨n, hn, by omega⟩
      · exact hcinside m hkm hmj

/-! ## Lines inside a block -/

lemma getElem?_stands {v : Level} (h : v.Stands lines before c block behind)
    (hm : m < block.length) : lines[before.length + 1 + m]? = block[m]? := by
  rw [h.lines_eq, Nat.add_assoc, Nat.add_comm 1 m, List.getElem?_append_right (by omega),
    Nat.add_sub_cancel_left, List.getElem?_cons_succ, List.getElem?_append_left hm]

lemma getElem?_length_stands {v : Level} (h : v.Stands lines before c block behind) :
    lines[before.length]? = some c := by
  rw [h.lines_eq]
  simp

/-- A block extends to all of its lines. -/
lemma covers_stands {v : Level} (h : v.Stands lines before c block behind)
    (hm : m < block.length) : v.covers lines before.length (before.length + 1 + m) = true := by
  refine Level.covers_iff.mpr ⟨c, getElem?_length_stands h, h.opens, fun k hk hkm => ?_⟩
  obtain ⟨n, rfl⟩ : ∃ n, k = before.length + 1 + n := ⟨k - (before.length + 1), by omega⟩
  have hn : n < block.length := by omega
  rw [getElem?_stands h hn, List.getElem?_eq_getElem hn]
  exact ⟨_, rfl, h.inside _ (List.getElem_mem hn)⟩

/-- Whether a line in a block extends to another one can be told from the block alone. -/
lemma covers_inside {v w : Level} (h : v.Stands lines before c block behind) {k : Nat}
    (hkm : k < m) (hm : m < block.length) :
    w.covers lines (before.length + 1 + k) (before.length + 1 + m) = w.covers block k m := by
  rw [Bool.eq_iff_iff, Level.covers_iff, Level.covers_iff,
    getElem?_stands h (Nat.lt_trans hkm hm)]
  have hlines : ∀ n, k < n → n ≤ m → lines[before.length + 1 + n]? = block[n]? :=
    fun n _ hnm => getElem?_stands h (Nat.lt_of_le_of_lt hnm hm)
  constructor
  · rintro ⟨l, hl, hopens, hinside⟩
    refine ⟨l, hl, hopens, fun n hkn hnm => ?_⟩
    have hn := hinside (before.length + 1 + n) (by omega) (by omega)
    rw [hlines n hkn hnm] at hn
    exact hn
  · rintro ⟨l, hl, hopens, hinside⟩
    refine ⟨l, hl, hopens, fun n hkn hnm => ?_⟩
    obtain ⟨n, rfl⟩ : ∃ n', n = before.length + 1 + n' := ⟨n - (before.length + 1), by omega⟩
    rw [hlines n (by omega) (by omega)]
    exact hinside n (by omega) (by omega)

/-- **Inside a block, lines stand where they would stand on their own.**

**Proof sketch.** Strong induction on the position. A line of the block that extends to the line
does so on its own too, and the nearest one is the same. If there is none then the nearest line is
the one that opens the block. -/
theorem placeAt_stands (h : q.level.Stands lines before c block behind)
    (hplace : placeAt p lines before.length = q) (hm : m < block.length) :
    placeAt p lines (before.length + 1 + m) = placeAt q.inner block m := by
  induction m using Nat.strong_induction_on with
  | _ m ih =>
    have hcovers : ∀ k < m, (placeAt p lines (before.length + 1 + k)).level.covers lines
        (before.length + 1 + k) (before.length + 1 + m) =
          (placeAt q.inner block k).level.covers block k m := by
      intro k hk
      rw [ih k hk (Nat.lt_trans hk hm), covers_inside h hk hm]
    obtain hnone | ⟨k, hk, hkcovers, hnearest⟩ := exists_nearest q.inner block m
    · rw [placeAt_of_forall hnone, ← hplace]
      apply placeAt_of_covers (by omega)
      · rw [hplace]
        exact covers_stands h hm
      · intro k hk hkm
        obtain ⟨n, rfl⟩ : ∃ n, k = before.length + 1 + n := ⟨k - (before.length + 1), by omega⟩
        rw [hcovers n (by omega)]
        exact hnone n (by omega)
    · rw [placeAt_of_covers hk hkcovers hnearest, ← ih k hk (Nat.lt_trans hk hm)]
      apply placeAt_of_covers (by omega)
      · rw [hcovers k hk]
        exact hkcovers
      · intro n hn hnm
        obtain ⟨n, rfl⟩ : ∃ n', n = before.length + 1 + n' := ⟨n - (before.length + 1), by omega⟩
        rw [hcovers n (by omega)]
        exact hnearest n (by omega) (by omega)

end PlaceAt

/-- Where a block stands among lines that themselves stand in a block of the kind `p`: the line that
opens it stands in one of the kind `q`. -/
structure Placed (p : Place) (lines before : List Line) (c : Line) (block behind : List Line)
    (q : Place) : Prop where
  /-- It is a block of the lines. -/
  stands : q.level.Stands lines before c block behind
  /-- The line that opens it stands in a block of the kind `q`. -/
  place : placeAt p lines before.length = q

section Placed

variable {p q : Place} {lines before block behind : List Line} {c : Line} {m : Nat}

/-- A block that is opened by a line that counts. -/
lemma placed_of_not_covered (h : p.level.Stands lines before c block behind)
    (hcovered : p.level.covered lines before.length = false) :
    Placed p lines before c block behind p :=
  ⟨h, placeAt_of_forall (covers_eq_false_of_not_covered hcovered)⟩

lemma Placed.placeAt_eq (h : Placed p lines before c block behind q) (hm : m < block.length) :
    placeAt p lines (before.length + 1 + m) = placeAt q.inner block m :=
  placeAt_stands h.stands h.place hm

/-- A block inside a block. -/
lemma Placed.nest {before' block' behind' : List Line} {c' : Line} {q' : Place}
    (h : Placed p lines before c block behind q)
    (h' : Placed q.inner block before' c' block' behind' q') :
    Placed p lines (before ++ c :: before') c' block' (behind' ++ behind) q' := by
  refine ⟨h.stands.nest h'.stands, ?_⟩
  have hlt : before'.length < block.length := by
    rw [h'.stands.lines_eq]
    simp
  have hlength : (before ++ c :: before').length = before.length + 1 + before'.length := by
    rw [List.length_append, List.length_cons]
    omega
  rw [hlength, h.placeAt_eq hlt, h'.place]

end Placed

end Placard
