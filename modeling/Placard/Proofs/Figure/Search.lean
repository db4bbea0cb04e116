import Mathlib.Data.List.Basic
import Placard.Figure.Basic
import Placard.Proofs.Document.Path

set_option relaxedAutoImplicit false
set_option autoImplicit false

/-!
# Search by class name

All figures of a tree that carry a class name can be collected, or the search can stop at the first
one. Equal figures can stand in several places of a tree, so this file says what is found by place:
the path that leads to a figure, which numbers one of the figures inside at each step. In the
lexicographic order of the places a figure comes before those inside it, and these come before
everything behind it.

## Main definitions

* `Placard.Figure.figureAt?`: the figure at a place of a tree.
* `Placard.Figure.placesOf`: the places of the figures that carry a class name.
* `Placard.Figure.ListsPlaces`: a list has just these places, each once and in order.

## Main results

* `Placard.Figure.map_placesOf`: the figures at the places are those that are collected.
* `Placard.Figure.collect_eq`: they can be collected in a list that grows.
* `Placard.Figure.find?_eq_head?`: the search that stops finds the first of them.
* `Placard.Figure.searches_agree`: what the searches find, place by place.
-/

namespace Placard.Figure

section Search

variable {α : Type} {name : String} {f g : Figure} {fs gs : List Figure}

/-! ## All figures -/

lemma mem_findAllIn : g ∈ findAllIn name fs ↔ ∃ f ∈ fs, g ∈ f.findAll name := by
  induction fs with
  | nil => simp [findAllIn]
  | cons f fs ih => simp [findAllIn, ih]

lemma findAllIn_eq_flatMap (name : String) (fs : List Figure) :
    findAllIn name fs = fs.flatMap (findAll name) := by
  induction fs with
  | nil => rfl
  | cons f fs ih => rw [findAllIn, ih, List.flatMap_cons]

lemma findAllIn_append (fs gs : List Figure) :
    findAllIn name (fs ++ gs) = findAllIn name fs ++ findAllIn name gs := by
  simp only [findAllIn_eq_flatMap, List.flatMap_append]

lemma findAllIn_eq_nil (h : ∀ f ∈ fs, f.findAll name = []) : findAllIn name fs = [] := by
  rw [findAllIn_eq_flatMap, List.flatMap_eq_nil_iff]
  exact h

/-- In figures with one that carries the name each, these are found. -/
lemma findAllIn_map {draw found : α → Figure} (h : ∀ a, (draw a).findAll name = [found a])
    (as : List α) : findAllIn name (as.map draw) = as.map found := by
  rw [findAllIn_eq_flatMap, List.flatMap_map]
  simp only [h]
  exact List.map_eq_flatMap.symm

/-- A figure with the name is found in front of the figures inside. -/
lemma findAll_of_hasClass (h : f.hasClass name = true) :
    f.findAll name = f :: findAllIn name f.children := by
  obtain ⟨shape, classes, text, styles, children⟩ := f
  rw [hasClass] at h
  rw [findAll]
  simp only [h, if_true]

/-- In a figure without the name only the figures inside are found. -/
lemma findAll_of_not_hasClass (h : f.hasClass name = false) :
    f.findAll name = findAllIn name f.children := by
  obtain ⟨shape, classes, text, styles, children⟩ := f
  rw [hasClass] at h
  rw [findAll]
  simp only [h, Bool.false_eq_true, if_false]

/-- Among figures with nothing inside, those with the name are found. -/
lemma findAllIn_of_leaves (h : ∀ f ∈ fs, f.children = []) :
    findAllIn name fs = fs.filter (·.hasClass name) := by
  induction fs with
  | nil => rfl
  | cons f fs ih =>
    rw [List.forall_mem_cons] at h
    rw [findAllIn, ih h.2, List.filter_cons]
    cases hname : f.hasClass name with
    | true =>
      rw [findAll_of_hasClass hname, h.1]
      rfl
    | false =>
      rw [findAll_of_not_hasClass hname, h.1]
      rfl

mutual

/-- The figures in the tree are collected behind those found before. -/
lemma collect_eq (found : List Figure) (f : Figure) :
    collect name found f = found ++ f.findAll name := by
  match f with
  | ⟨shape, classes, text, styles, children⟩ =>
    rw [collect, findAll, collectIn_eq _ children]
    cases classes.contains name with
    | true => exact List.append_assoc _ _ _
    | false => rfl

lemma collectIn_eq (found : List Figure) (fs : List Figure) :
    collectIn name found fs = found ++ findAllIn name fs := by
  match fs with
  | [] => exact (List.append_nil found).symm
  | f :: fs => rw [collectIn, collect_eq found f, collectIn_eq _ fs, findAllIn, List.append_assoc]

end

/-! ## The first figure -/

lemma find?_of_hasClass (h : f.hasClass name = true) : f.find? name = some f := by
  obtain ⟨shape, classes, text, styles, children⟩ := f
  rw [hasClass] at h
  rw [find?, if_pos h]

lemma find?_of_not_hasClass (h : f.hasClass name = false) :
    f.find? name = findIn? name f.children := by
  obtain ⟨shape, classes, text, styles, children⟩ := f
  rw [hasClass] at h
  rw [find?, if_neg (Bool.eq_false_iff.mp h)]

lemma findIn?_cons (f : Figure) (fs : List Figure) :
    findIn? name (f :: fs) = (f.find? name).or (findIn? name fs) := by
  rw [findIn?]
  cases f.find? name <;> rfl

/-- Behind a figure without the name, and with nothing inside, the search goes on. -/
lemma findIn?_cons_of_leaf (h : f.hasClass name = false) (hleaf : f.children = [])
    (fs : List Figure) : findIn? name (f :: fs) = findIn? name fs := by
  rw [findIn?_cons, find?_of_not_hasClass h, hleaf, findIn?, Option.none_or]

/-- The first figure with the name is found. -/
lemma findIn?_cons_of_hasClass (h : f.hasClass name = true) (fs : List Figure) :
    findIn? name (f :: fs) = some f := by
  rw [findIn?_cons, find?_of_hasClass h, Option.some_or]

/-- What is found inside the first figure is found. -/
lemma findIn?_cons_of_eq_some {found : Figure} (h : f.hasClass name = false)
    (hfound : findIn? name f.children = some found) (fs : List Figure) :
    findIn? name (f :: fs) = some found := by
  rw [findIn?_cons, find?_of_not_hasClass h, hfound, Option.some_or]

mutual

/-- **The search that stops finds the first of all figures with the name**, and nothing if there is
none. -/
theorem find?_eq_head? (name : String) (f : Figure) :
    f.find? name = (f.findAll name).head? := by
  match f with
  | ⟨shape, classes, text, styles, children⟩ =>
    rw [find?, findAll]
    cases classes.contains name with
    | true => rfl
    | false => exact findIn?_eq_head? name children

lemma findIn?_eq_head? (name : String) (fs : List Figure) :
    findIn? name fs = (findAllIn name fs).head? := by
  match fs with
  | [] => rfl
  | f :: fs =>
    rw [findIn?_cons, find?_eq_head? name f, findIn?_eq_head? name fs, findAllIn, List.head?_append]

end

end Search

/-! ## Places -/

/-- The figure at a place of the tree. The empty place is that of the tree itself. -/
def figureAt? (f : Figure) (place : List Nat) : Option Figure := descend? children f place

mutual

/-- The places of the figures in the tree that carry the class name. -/
def placesOf (name : String) : Figure → List (List Nat)
  | ⟨_, classes, _, _, children⟩ =>
    let below := placesFrom name 0 children
    if classes.contains name then [] :: below else below

/-- The places of the figures in the trees that carry the class name, where the first of the trees
has the given number. -/
def placesFrom (name : String) (i : Nat) : List Figure → List (List Nat)
  | [] => []
  | f :: fs => (placesOf name f).map (i :: ·) ++ placesFrom name (i + 1) fs

end

/-- Whether a list has the places of the figures in a tree that carry a class name. -/
structure ListsPlaces (f : Figure) (name : String) (places : List (List Nat)) : Prop where
  /-- They stand in lexicographic order, so none of them stands there twice. -/
  ordered : places.Pairwise (· < ·)
  /-- They are the places of just these figures. -/
  mem_iff : ∀ place, place ∈ places ↔ ∃ g, f.figureAt? place = some g ∧ g.hasClass name = true

section Places

variable {name : String} {f c : Figure} {before fs : List Figure} {place : List Nat} {i : Nat}

lemma placesOf_of_hasClass (h : f.hasClass name = true) :
    placesOf name f = [] :: placesFrom name 0 f.children := by
  obtain ⟨shape, classes, text, styles, children⟩ := f
  rw [hasClass] at h
  rw [placesOf]
  simp only [h, if_true]

lemma placesOf_of_not_hasClass (h : f.hasClass name = false) :
    placesOf name f = placesFrom name 0 f.children := by
  obtain ⟨shape, classes, text, styles, children⟩ := f
  rw [hasClass] at h
  rw [placesOf]
  simp only [h, Bool.false_eq_true, if_false]

/-- A step into the figures inside leads to the one with that number. -/
lemma figureAt?_cons (h : f.children = before ++ c :: fs) (place : List Nat) :
    f.figureAt? (before.length :: place) = c.figureAt? place := by
  rw [figureAt?, descend?, h, List.getElem?_append_right (Nat.le_refl _), Nat.sub_self,
    List.getElem?_cons_zero, Option.bind_some]
  rfl

lemma mem_placesFrom :
    place ∈ placesFrom name i fs ↔
      ∃ j rest, ∃ c, place = (i + j) :: rest ∧ fs[j]? = some c ∧ rest ∈ placesOf name c := by
  induction fs generalizing i with
  | nil => simp [placesFrom]
  | cons f fs ih =>
    have hsucc : ∀ j, i + 1 + j = i + (j + 1) := fun j => by omega
    rw [placesFrom, List.mem_append, List.mem_map, ih]
    constructor
    · rintro (⟨rest, hrest, rfl⟩ | ⟨j, rest, c, rfl, hc, hrest⟩)
      · exact ⟨0, rest, f, rfl, rfl, hrest⟩
      · exact ⟨j + 1, rest, c, by rw [hsucc], hc, hrest⟩
    · rintro ⟨_ | j, rest, c, rfl, hc, hrest⟩
      · obtain rfl := Option.some.inj hc
        exact Or.inl ⟨rest, hrest, rfl⟩
      · exact Or.inr ⟨j, rest, c, by rw [hsucc], hc, hrest⟩

lemma nil_not_mem_placesFrom : [] ∉ placesFrom name i fs := by
  intro h
  obtain ⟨j, rest, c, hplace, -, -⟩ := mem_placesFrom.mp h
  cases hplace

/-- The places are those of the figures with the name. -/
lemma mem_placesOf :
    place ∈ placesOf name f ↔ ∃ g, f.figureAt? place = some g ∧ g.hasClass name = true := by
  induction place generalizing f with
  | nil =>
    have hself : f.figureAt? [] = some f := rfl
    cases h : f.hasClass name with
    | true => simp [placesOf_of_hasClass h, hself, h]
    | false => simp [placesOf_of_not_hasClass h, hself, h, nil_not_mem_placesFrom]
  | cons i place ih =>
    -- the place of the figure itself is empty, so the name of the figure plays no part
    have hbelow : i :: place ∈ placesOf name f ↔ i :: place ∈ placesFrom name 0 f.children := by
      cases h : f.hasClass name with
      | true => simp [placesOf_of_hasClass h]
      | false => rw [placesOf_of_not_hasClass h]
    rw [hbelow, mem_placesFrom, figureAt?, descend?]
    constructor
    · rintro ⟨j, rest, c, hplace, hc, hrest⟩
      obtain ⟨rfl, rfl⟩ := List.cons.inj hplace
      rw [Nat.zero_add, hc]
      exact ih.mp hrest
    · rintro ⟨g, hg, hname⟩
      obtain ⟨c, hc, hplace⟩ := Option.bind_eq_some_iff.mp hg
      exact ⟨i, place, c, by rw [Nat.zero_add], hc, ih.mpr ⟨g, hplace, hname⟩⟩

mutual

lemma pairwise_placesOf (name : String) (f : Figure) : (placesOf name f).Pairwise (· < ·) := by
  match f with
  | ⟨shape, classes, text, styles, children⟩ =>
    have hbelow := pairwise_placesFrom name 0 children
    rw [placesOf]
    cases classes.contains name with
    | true =>
      refine List.pairwise_cons.mpr ⟨fun place hplace => ?_, hbelow⟩
      obtain ⟨j, rest, c, rfl, -, -⟩ := mem_placesFrom.mp hplace
      exact List.nil_lt_cons _ _
    | false => exact hbelow

lemma pairwise_placesFrom (name : String) (i : Nat) (fs : List Figure) :
    (placesFrom name i fs).Pairwise (· < ·) := by
  match fs with
  | [] => exact List.Pairwise.nil
  | f :: fs =>
    rw [placesFrom, List.pairwise_append, List.pairwise_map]
    refine ⟨?_, pairwise_placesFrom name (i + 1) fs, ?_⟩
    · exact (pairwise_placesOf name f).imp fun h => List.cons_lt_cons_iff.mpr (Or.inr ⟨rfl, h⟩)
    · intro place hplace place' hplace'
      obtain ⟨rest, -, rfl⟩ := List.mem_map.mp hplace
      obtain ⟨j, rest', c, rfl, -, -⟩ := mem_placesFrom.mp hplace'
      exact List.cons_lt_cons_iff.mpr (Or.inl (by omega))

end

/-- The places of the figures with a class name, in order. -/
lemma listsPlaces_placesOf (name : String) (f : Figure) : f.ListsPlaces name (placesOf name f) :=
  ⟨pairwise_placesOf name f, fun _ => mem_placesOf⟩

mutual

/-- **The figures at the places are those that are found.** -/
theorem map_placesOf (name : String) (f : Figure) :
    (placesOf name f).map f.figureAt? = (f.findAll name).map some := by
  match f with
  | ⟨shape, classes, text, styles, children⟩ =>
    have hbelow := map_placesFrom name ⟨shape, classes, text, styles, children⟩ [] children rfl
    rw [placesOf, findAll]
    cases classes.contains name with
    | true => exact congrArg (some _ :: ·) hbelow
    | false => exact hbelow

lemma map_placesFrom (name : String) (f : Figure) (before fs : List Figure)
    (h : f.children = before ++ fs) :
    (placesFrom name before.length fs).map f.figureAt? = (findAllIn name fs).map some := by
  match fs with
  | [] => rfl
  | c :: fs =>
    have hlater := map_placesFrom name f (before ++ [c]) fs (by rw [h, List.append_assoc]; rfl)
    rw [List.length_append, List.length_singleton] at hlater
    rw [placesFrom, findAllIn, List.map_append, List.map_append, List.map_map, hlater,
      ← map_placesOf name c]
    congr 1
    exact List.map_congr_left fun place _ => figureAt?_cons h place

end

/-! ### Figures directly inside -/

lemma filter_ne_nil_placesOf (name : String) (f : Figure) :
    (placesOf name f).filter (· ≠ []) = placesFrom name 0 f.children := by
  have hbelow : (placesFrom name 0 f.children).filter (· ≠ []) = placesFrom name 0 f.children := by
    refine List.filter_eq_self.mpr fun place hplace => decide_eq_true ?_
    rintro rfl
    exact nil_not_mem_placesFrom hplace
  cases h : f.hasClass name with
  | true => rw [placesOf_of_hasClass h, List.filter_cons_of_neg (by simp), hbelow]
  | false => rw [placesOf_of_not_hasClass h, hbelow]

/-- The figures found inside a figure. -/
lemma map_filter_ne_nil_placesOf (name : String) (f : Figure) :
    ((placesOf name f).filter (· ≠ [])).map f.figureAt? =
      (f.children.flatMap (findAll name)).map some := by
  rw [filter_ne_nil_placesOf, ← findAllIn_eq_flatMap]
  exact map_placesFrom name f [] f.children rfl

/-- Of the places in a tree only that of the tree itself is one step from where the tree stands. -/
lemma filter_length_placesOf (i : Nat) (c : Figure) :
    ((placesOf name c).map (i :: ·)).filter (·.length = 1) =
      if c.hasClass name then [[i]] else [] := by
  have hbelow : ((placesFrom name 0 c.children).map (i :: ·)).filter (·.length = 1) = [] := by
    refine List.filter_eq_nil_iff.mpr fun place hplace => ?_
    obtain ⟨rest, hrest, rfl⟩ := List.mem_map.mp hplace
    have hne : rest ≠ [] := fun h => nil_not_mem_placesFrom (h ▸ hrest)
    simpa using hne
  cases h : c.hasClass name with
  | true =>
    rw [placesOf_of_hasClass h, List.map_cons, List.filter_cons_of_pos (by simp), hbelow]
    rfl
  | false =>
    rw [placesOf_of_not_hasClass h, hbelow]
    rfl

lemma map_filter_length_placesFrom (f : Figure) (before fs : List Figure)
    (h : f.children = before ++ fs) :
    ((placesFrom name before.length fs).filter (·.length = 1)).map f.figureAt? =
      (fs.filter (·.hasClass name)).map some := by
  induction fs generalizing before with
  | nil => rfl
  | cons c fs ih =>
    have hlater := ih (before ++ [c]) (by rw [h, List.append_assoc]; rfl)
    rw [List.length_append, List.length_singleton] at hlater
    have hself : f.figureAt? [before.length] = some c := figureAt?_cons h []
    rw [placesFrom, List.filter_append, filter_length_placesOf, List.map_append, hlater,
      List.filter_cons]
    cases c.hasClass name with
    | true => rw [if_pos rfl, if_pos rfl, List.map_singleton, hself]; rfl
    | false => rfl

/-- The figures with the name directly inside a figure are those one step from it. -/
lemma map_filter_length_placesOf (name : String) (f : Figure) :
    ((placesOf name f).filter (·.length = 1)).map f.figureAt? =
      (f.childrenWithClass name).map some := by
  have hfilter : (placesOf name f).filter (·.length = 1) =
      (placesFrom name 0 f.children).filter (·.length = 1) := by
    cases h : f.hasClass name with
    | true => rw [placesOf_of_hasClass h, List.filter_cons_of_neg (by simp)]
    | false => rw [placesOf_of_not_hasClass h]
  rw [hfilter]
  exact map_filter_length_placesFrom f [] f.children rfl

end Places

/-- **The searches agree.** The figures with a class name are found at their places, each of which
is visited once, a figure before those inside it. The search that stops finds the first of them.
Those found inside the figure are at all places but its own, and those directly inside it are the
ones among these that are one step away.

**Proof sketch.** The places are listed by the recursion of the search (`placesOf`), in which the
number of a figure grows along the figures beside it (`pairwise_placesOf`). -/
theorem searches_agree (f : Figure) (name : String) :
    ∃ places, f.ListsPlaces name places ∧
      (f.findAll name).map some = places.map f.figureAt? ∧
      collect name [] f = f.findAll name ∧
      f.find? name = (f.findAll name).head? ∧
      (f.children.flatMap (findAll name)).map some = (places.filter (· ≠ [])).map f.figureAt? ∧
      (f.childrenWithClass name).map some = (places.filter (·.length = 1)).map f.figureAt? := by
  refine ⟨placesOf name f, listsPlaces_placesOf name f, (map_placesOf name f).symm, ?_,
    find?_eq_head? name f, (map_filter_ne_nil_placesOf name f).symm,
    (map_filter_length_placesOf name f).symm⟩
  rw [collect_eq, List.nil_append]

/-- An item inside an item is found behind it, and in front of the next one. -/
example :
    placesOf "item"
        (block "group" [block "item" [block "text" [], block "item" []], textBlock "item" "b"]) =
      [[0], [0, 1], [1]] := by
  decide

end Placard.Figure
