import Placard.Proofs.Document.Pieces
import Placard.Proofs.Document.Shift

set_option relaxedAutoImplicit false
set_option autoImplicit false

/-!
# White space in sources

Of the white space in a source only the indentation of the lines against each other says anything.
Two sources with the same texts on their lines, the lines below the header of the second all of them
indented further by the same amount, are both rejected or stand for the same document. So blank
lines, white space at the end of a line, carriage returns, the kind of white space a line is
indented with and the place of the whole body do not matter.

## Main definitions

* `Placard.Realigned`: two sources with the same texts and the same relative indentation.
* `Placard.Reformatting`: the ways to change white space in a source that are listed above.

## Main results

* `Placard.realigned_of_reformatting`: a source is realigned by reformatting it.
* `Placard.parse_toOption_of_realigned`: realigned sources stand for the same document.
-/

namespace Placard

open Text

/-- Whether two sources have the same texts on their lines, apart from blank ones, and the lines
below the header of the second one are all indented further by the same amount, which may be
negative. -/
structure Realigned (source source' : String) : Prop where
  /-- The texts are the same. -/
  texts : (nonBlank (Line.ofSource source')).map (·.text) =
    (nonBlank (Line.ofSource source)).map (·.text)
  /-- The indentations below the header differ by a constant. -/
  indents : ∃ d : ℤ, (nonBlank (Line.ofSource source')).tail.map (fun l => (l.indent : ℤ)) =
    (nonBlank (Line.ofSource source)).tail.map (fun l => l.indent + d)

/-- A change of white space in the pieces of a source. -/
inductive Reformatting : List (List Char) → List (List Char) → Prop
  /-- A blank line is inserted. -/
  | insertBlank (as bs : List (List Char)) {w : List Char} (hw : ∀ c ∈ w, isWhite c = true) :
    Reformatting (as ++ bs) (as ++ w :: bs)
  /-- White space is added at the end of a line. -/
  | addTrailing (as bs : List (List Char)) (p : List Char) {w : List Char}
    (hw : ∀ c ∈ w, isWhite c = true) : Reformatting (as ++ p :: bs) (as ++ (p ++ w) :: bs)
  /-- A carriage return is put in front of every line feed. -/
  | addReturns (as : List (List Char)) (last : List Char) :
    Reformatting (as ++ [last]) (as.map (· ++ ['\r']) ++ [last])
  /-- A character that a line is indented with is replaced by another one. -/
  | replaceWhite (as bs : List (List Char)) {u : List Char} (v : List Char) {c c' : Char}
    (hu : ∀ x ∈ u, isWhite x = true) (hc : isWhite c = true) (hc' : isWhite c' = true) :
    Reformatting (as ++ (u ++ c :: v) :: bs) (as ++ (u ++ c' :: v) :: bs)
  /-- The first line that is not blank is indented further. -/
  | indentHeader {as : List (List Char)} (bs : List (List Char)) (header : List Char)
    {w : List Char} (has : ∀ p ∈ as, ∀ c ∈ p, isWhite c = true) (hw : ∀ c ∈ w, isWhite c = true) :
    Reformatting (as ++ header :: bs) (as ++ (w ++ header) :: bs)
  /-- All lines below that one are indented further by the same white space. -/
  | indentBody {as : List (List Char)} (bs : List (List Char)) (header : List Char)
    {w : List Char} (has : ∀ p ∈ as, ∀ c ∈ p, isWhite c = true) (hw : ∀ c ∈ w, isWhite c = true) :
    Reformatting (as ++ header :: bs) (as ++ header :: bs.map (w ++ ·))

/-! ## Lines of pieces -/

/-- The texts and indentations of the lines that pieces of a source make, apart from blank ones. -/
def marginsOf (pieces : List (List Char)) : List (List Char × Nat) :=
  pieces.filterMap fun p =>
    if (trim p).isEmpty then none else some (trim p, (p.takeWhile isWhite).length)

section Margins

variable {p q w : List Char} {ps qs : List (List Char)}

/-- The carriage return at the end of a line that is not blank is no part of its indentation. -/
lemma indent_ofPiece (number start : Nat) (h : trim p ≠ []) :
    (Line.ofPiece number start p).indent = (p.takeWhile isWhite).length := by
  obtain ⟨w, hw, hp⟩ := exists_stripReturn_append p
  have htrim := trim_append_white hw (Line.stripReturn p)
  rw [hp] at htrim
  have htake := takeWhile_append_of_trim_ne_nil (htrim ▸ h) w
  rw [hp] at htake
  rw [htake]
  rfl

lemma nonBlank_ofPieces (number start : Nat) (ps : List (List Char)) :
    (nonBlank (Line.ofPieces number start ps)).map (fun l => (l.text, l.indent)) =
      marginsOf ps := by
  induction ps generalizing number start with
  | nil => rfl
  | cons p ps ih =>
    have htext := text_ofPiece number start p
    rw [Line.ofPieces, marginsOf, List.filterMap_cons]
    cases hempty : (trim p).isEmpty with
    | true =>
      have hblank : (Line.ofPiece number start p).isBlank = true := by
        rw [Line.isBlank, htext, hempty]
      rw [nonBlank_cons_of_isBlank hblank, ih]
      rfl
    | false =>
      have hblank : (Line.ofPiece number start p).isBlank = false := by
        rw [Line.isBlank, htext, hempty]
      have hindent := indent_ofPiece number start (List.isEmpty_eq_false_iff.mp hempty)
      rw [nonBlank_cons_of_not_isBlank hblank, List.map_cons, ih, htext, hindent]
      rfl

lemma marginsOf_append (ps qs : List (List Char)) :
    marginsOf (ps ++ qs) = marginsOf ps ++ marginsOf qs :=
  List.filterMap_append

lemma marginsOf_cons (p : List Char) (ps : List (List Char)) :
    marginsOf (p :: ps) = marginsOf [p] ++ marginsOf ps :=
  marginsOf_append [p] ps

lemma marginsOf_of_white (h : ∀ p ∈ ps, ∀ c ∈ p, isWhite c = true) : marginsOf ps = [] := by
  rw [marginsOf, List.filterMap_eq_nil_iff]
  intro p hp
  rw [trim_eq_nil_iff.mpr (h p hp)]
  rfl

lemma marginsOf_of_trim_ne_nil (h : trim p ≠ []) :
    marginsOf [p] = [(trim p, (p.takeWhile isWhite).length)] := by
  simp [marginsOf, h]

lemma marginsOf_of_trim_eq_nil (h : trim p = []) : marginsOf [p] = [] := by
  simp [marginsOf, h]

/-- Two pieces with the same text and the same white space in front of it. -/
lemma marginsOf_singleton_eq (htrim : trim q = trim p)
    (hmargin : trim p ≠ [] → (q.takeWhile isWhite).length = (p.takeWhile isWhite).length) :
    marginsOf [q] = marginsOf [p] := by
  by_cases h : trim p = []
  · rw [marginsOf_of_trim_eq_nil h, marginsOf_of_trim_eq_nil (htrim.trans h)]
  · rw [marginsOf_of_trim_ne_nil h, marginsOf_of_trim_ne_nil (htrim ▸ h), htrim, hmargin h]

lemma marginsOf_addTrailing (hw : ∀ c ∈ w, isWhite c = true) (p : List Char) :
    marginsOf [p ++ w] = marginsOf [p] :=
  marginsOf_singleton_eq (trim_append_white hw p) fun h => by
    rw [takeWhile_append_of_trim_ne_nil h]

lemma marginsOf_addReturns (ps : List (List Char)) :
    marginsOf (ps.map (· ++ ['\r'])) = marginsOf ps := by
  induction ps with
  | nil => rfl
  | cons p ps ih =>
    rw [List.map_cons, marginsOf_cons, marginsOf_cons p, ih,
      marginsOf_addTrailing forall_mem_return]

lemma marginsOf_replaceWhite {u v : List Char} {c c' : Char} (hu : ∀ x ∈ u, isWhite x = true)
    (hc : isWhite c = true) (hc' : isWhite c' = true) :
    marginsOf [u ++ c' :: v] = marginsOf [u ++ c :: v] := by
  have hwhite : ∀ x, isWhite x = true → ∀ y ∈ u ++ [x], isWhite y = true := by
    intro x hx
    exact List.forall_mem_append.mpr ⟨hu, List.forall_mem_singleton.mpr hx⟩
  rw [List.append_cons, List.append_cons u c]
  apply marginsOf_singleton_eq
  · rw [trim_white_append (hwhite c' hc'), trim_white_append (hwhite c hc)]
  · intro _
    rw [List.takeWhile_append_of_pos (hwhite c' hc'), List.takeWhile_append_of_pos (hwhite c hc)]
    simp

/-- White space in front of a line indents it further. -/
lemma marginsOf_indent (hw : ∀ c ∈ w, isWhite c = true) (ps : List (List Char)) :
    marginsOf (ps.map (w ++ ·)) =
      (marginsOf ps).map fun margin => (margin.1, margin.2 + w.length) := by
  induction ps with
  | nil => rfl
  | cons p ps ih =>
    rw [List.map_cons, marginsOf_cons, marginsOf_cons p, List.map_append, ih]
    congr 1
    have htrim := trim_white_append hw p
    by_cases h : trim p = []
    · rw [marginsOf_of_trim_eq_nil h, marginsOf_of_trim_eq_nil (htrim.trans h), List.map_nil]
    · rw [marginsOf_of_trim_ne_nil h, marginsOf_of_trim_ne_nil (htrim ▸ h), htrim,
        List.takeWhile_append_of_pos hw, List.length_append, Nat.add_comm, List.map_singleton]

end Margins

/-! ## Reformatted sources -/

section Reformatting

variable {source source' : String}

/-- Sources are realigned if the margins of their lines are. -/
lemma realigned_of_margins (d : ℤ)
    (htexts : (marginsOf (piecesOf source')).map Prod.fst =
      (marginsOf (piecesOf source)).map Prod.fst)
    (hindents : (marginsOf (piecesOf source')).tail.map (fun margin => (margin.2 : ℤ)) =
      (marginsOf (piecesOf source)).tail.map (fun margin => margin.2 + d)) :
    Realigned source source' := by
  have hsource := nonBlank_ofPieces 0 0 (piecesOf source)
  have hsource' := nonBlank_ofPieces 0 0 (piecesOf source')
  rw [← hsource, ← hsource'] at htexts hindents
  rw [← List.map_tail, ← List.map_tail] at hindents
  simp only [List.map_map] at htexts hindents
  exact ⟨htexts, d, hindents⟩

lemma realigned_of_margins_eq (h : marginsOf (piecesOf source') = marginsOf (piecesOf source)) :
    Realigned source source' :=
  realigned_of_margins 0 (by rw [h]) (by simp [h])

/-- **A source is realigned by reformatting it.**

**Proof sketch.** All changes but the last two keep text and indentation of every line that is not
blank. Of those two, one changes the indentation of the first such line only, the other those of all
lines below by the same amount. -/
theorem realigned_of_reformatting (h : Reformatting (piecesOf source) (piecesOf source')) :
    Realigned source source' := by
  generalize hpieces : piecesOf source = ps, hpieces' : piecesOf source' = ps' at h
  cases h with
  | insertBlank as bs hw =>
    apply realigned_of_margins_eq
    rw [hpieces, hpieces', marginsOf_append, marginsOf_append, marginsOf_cons,
      marginsOf_of_white (List.forall_mem_singleton.mpr hw), List.nil_append]
  | addTrailing as bs p hw =>
    apply realigned_of_margins_eq
    rw [hpieces, hpieces', marginsOf_append, marginsOf_append, marginsOf_cons,
      marginsOf_addTrailing hw, ← marginsOf_cons]
  | addReturns as last =>
    apply realigned_of_margins_eq
    rw [hpieces, hpieces', marginsOf_append, marginsOf_append, marginsOf_addReturns]
  | replaceWhite as bs v hu hc hc' =>
    apply realigned_of_margins_eq
    rw [hpieces, hpieces', marginsOf_append, marginsOf_append, marginsOf_cons,
      marginsOf_replaceWhite hu hc hc', ← marginsOf_cons]
  | @indentHeader as bs header w has hw =>
    have hheader := marginsOf_indent hw [header]
    rw [List.map_singleton] at hheader
    apply realigned_of_margins 0
    all_goals
      rw [hpieces, hpieces', marginsOf_append, marginsOf_append, marginsOf_cons,
        marginsOf_cons header, marginsOf_of_white has, hheader]
    · simp
    · -- there is a tail below the header only if the header is not blank
      by_cases h : trim header = []
      · simp [marginsOf_of_trim_eq_nil h]
      · simp [marginsOf_of_trim_ne_nil h]
  | @indentBody as bs header w has hw =>
    apply realigned_of_margins w.length
    all_goals
      rw [hpieces, hpieces', marginsOf_append, marginsOf_append, marginsOf_cons,
        marginsOf_cons header bs, marginsOf_of_white has, marginsOf_indent hw]
    · simp
    · by_cases h : trim header = []
      · simp [marginsOf_of_trim_eq_nil h, ← List.map_tail]
      · simp [marginsOf_of_trim_ne_nil h]

end Reformatting

/-! ## Realigned sources -/

section Realigned

variable {source source' : String}

lemma forall₂_shifted {d : ℤ} {ls ls' : List Line} (htexts : ls'.map (·.text) = ls.map (·.text))
    (hindents : ls'.map (fun l => (l.indent : ℤ)) = ls.map (fun l => l.indent + d)) :
    List.Forall₂ (Line.Shifted d) ls ls' := by
  induction ls generalizing ls' with
  | nil =>
    rw [List.map_nil, List.map_eq_nil_iff] at htexts
    rw [htexts]
    exact .nil
  | cons l ls ih =>
    obtain ⟨l', ls', rfl, htext, htexts⟩ := List.map_eq_cons_iff.mp htexts
    rw [List.map_cons, List.map_cons, List.cons.injEq] at hindents
    exact .cons ⟨htext, hindents.1⟩ (ih htexts hindents.2)

/-- **Realigned sources stand for the same document**, or both are rejected.

**Proof sketch.** The headers have the same text, so both name the same template or none. The lines
below them are shifted (`documentOf_shifted`). -/
theorem parse_toOption_of_realigned (h : Realigned source source') :
    (parse source').toOption = (parse source).toOption := by
  obtain ⟨htexts, d, hindents⟩ := h
  rw [parse_eq_documentOf, parse_eq_documentOf, headed?, headed?]
  generalize nonBlank (Line.ofSource source) = ls, nonBlank (Line.ofSource source') = ls'
    at htexts hindents
  cases ls with
  | nil =>
    rw [List.map_nil, List.map_eq_nil_iff] at htexts
    rw [htexts]
  | cons header body =>
    obtain ⟨header', body', rfl, htext, htexts⟩ := List.map_eq_cons_iff.mp htexts
    have hbody := forall₂_shifted htexts hindents
    simp only [argumentOf?_of_text htext, Option.map_map, Function.comp_def,
      documentOf_shifted _ hbody]

/-- **A document depends only on the texts of the lines and their indentation against each other.**
Two sources whose lines that are not blank have the same texts in the same order, and whose lines
below the header are indented differently by the same amount, are both rejected or parsed as the
same document; and so are two sources of which one is the other one with blank lines inserted, white
space added at the end of a line, carriage returns in front of the line feeds, another kind of white
space in an indentation, a header that is indented further, or a body that is.

**Proof sketch.** `parse_toOption_of_realigned`, and `realigned_of_reformatting` for the changes. -/
theorem parse_of_realigned_or_reformatted :
    (∀ source source', Realigned source source' →
      (parse source').toOption = (parse source).toOption) ∧
    ∀ source source', Reformatting (piecesOf source) (piecesOf source') →
      (parse source').toOption = (parse source).toOption := by
  constructor
  · intro source source' h
    exact parse_toOption_of_realigned h
  · intro source source' h
    exact parse_toOption_of_realigned (realigned_of_reformatting h)

/-- A source with an indented header, a blank line, carriage returns, white space behind a line and
a shifted body, and one with a tab in an indentation. -/
theorem parse_sample_reformatted :
    (parse " infographic x\r\n \r\n   data \r\n     items\r\n       - A").toOption =
      (parse "infographic x\ndata\n  items\n    - A").toOption ∧
    (parse "infographic x\ndata\n \titems\n    - A").toOption =
      (parse "infographic x\ndata\n  items\n    - A").toOption := by
  constructor
  · exact parse_of_realigned_or_reformatted.1 _ _ ⟨by decide +kernel, 3, by decide +kernel⟩
  · have hspaces : piecesOf "infographic x\ndata\n  items\n    - A" =
        ["infographic x".toList, "data".toList] ++
          ([' '] ++ ' ' :: "items".toList) :: ["    - A".toList] := by
      decide +kernel
    have htab : piecesOf "infographic x\ndata\n \titems\n    - A" =
        ["infographic x".toList, "data".toList] ++
          ([' '] ++ '\t' :: "items".toList) :: ["    - A".toList] := by
      decide +kernel
    apply parse_of_realigned_or_reformatted.2
    rw [hspaces, htab]
    exact .replaceWhite _ _ _ (List.forall_mem_singleton.mpr rfl) rfl rfl

end Realigned

end Placard
