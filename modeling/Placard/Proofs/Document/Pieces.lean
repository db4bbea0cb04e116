import Mathlib.Data.List.Basic
import Placard.Line
import Placard.Proofs.Text.Trim

set_option relaxedAutoImplicit false
set_option autoImplicit false

/-!
# Pieces of a source

A source is cut at its line feeds, and each piece makes one line. Where the line stands depends on
the pieces before it, and what it says on its own piece only.

## Main definitions

* `Placard.piecesOf`: the pieces of a source.
* `Placard.terminated`: pieces with the line feeds behind them.
* `Placard.returnAtEnd`: the carriage return that the line of a piece leaves out.

## Main results

* `Placard.exists_ofPiece_of_mem`: each line is made by one of the pieces.
* `Placard.ofPieces_append`: the lines behind other lines start behind the bytes of these.
-/

namespace Placard

open Text

/-- The pieces of a source between its line feeds. -/
def piecesOf (source : String) : List (List Char) := source.toList.splitOn '\n'

/-- Pieces with a line feed behind each of them. -/
def terminated (pieces : List (List Char)) : List Char := pieces.flatMap (· ++ ['\n'])

/-- The carriage return at the end of a text, if there is one. -/
def returnAtEnd (text : List Char) : List Char := if text.getLast? = some '\r' then ['\r'] else []

section Pieces

variable {number start k : Nat} {ps qs : List (List Char)} {l : Line}

lemma newline_not_mem_splitOn (chars : List Char) : ∀ p ∈ chars.splitOn '\n', '\n' ∉ p := by
  induction chars with
  | nil => decide
  | cons c chars ih =>
    rw [List.splitOn, List.splitOnP_cons_eq_if_modifyHead]
    split
    · intro p hp
      obtain rfl | hp := List.mem_cons.mp hp
      · exact List.not_mem_nil
      · exact ih p hp
    · next hc =>
      intro p hp
      rw [List.splitOn] at ih
      cases hsplit : chars.splitOnP (· == '\n') with
      | nil => simp [hsplit] at hp
      | cons q qs =>
        rw [hsplit] at ih hp
        obtain rfl | hp := List.mem_cons.mp hp
        · have hq := ih q List.mem_cons_self
          simp only [beq_iff_eq] at hc
          simp [hq, Ne.symm hc]
        · exact ih p (List.mem_cons_of_mem q hp)

/-! ### Lines of pieces -/

lemma forall_mem_return : ∀ c ∈ ['\r'], isWhite c = true :=
  List.forall_mem_singleton.mpr rfl

/-- A piece is its content and the carriage return at its end. -/
lemma stripReturn_append_returnAtEnd (p : List Char) : Line.stripReturn p ++ returnAtEnd p = p := by
  rw [Line.stripReturn, returnAtEnd]
  split
  · next hlast => exact List.dropLast_append_getLast? _ hlast
  · exact List.append_nil p

/-- A piece is its content and white space behind it. -/
lemma exists_stripReturn_append (p : List Char) :
    ∃ w, (∀ c ∈ w, isWhite c = true) ∧ Line.stripReturn p ++ w = p := by
  refine ⟨returnAtEnd p, ?_, stripReturn_append_returnAtEnd p⟩
  rw [returnAtEnd]
  split
  · exact forall_mem_return
  · exact fun _ h => nomatch h

lemma text_ofPiece (number start : Nat) (p : List Char) :
    (Line.ofPiece number start p).text = trim p := by
  obtain ⟨w, hw, hp⟩ := exists_stripReturn_append p
  have htrim := trim_append_white hw (Line.stripReturn p)
  rw [hp] at htrim
  exact htrim.symm

lemma length_ofPieces (number start : Nat) (ps : List (List Char)) :
    (Line.ofPieces number start ps).length = ps.length := by
  induction ps generalizing number start with
  | nil => rfl
  | cons p ps ih => rw [Line.ofPieces, List.length_cons, List.length_cons, ih]

/-- Each line is made by one of the pieces. -/
lemma exists_ofPiece_of_mem (h : l ∈ Line.ofPieces number start ps) :
    ∃ p ∈ ps, ∃ number' start', l = Line.ofPiece number' start' p := by
  induction ps generalizing number start with
  | nil => exact absurd h List.not_mem_nil
  | cons p ps ih =>
    rw [Line.ofPieces, List.mem_cons] at h
    obtain rfl | h := h
    · exact ⟨p, List.mem_cons_self, number, start, rfl⟩
    · obtain ⟨q, hq, hl⟩ := ih h
      exact ⟨q, List.mem_cons_of_mem p hq, hl⟩

/-- Lines are numbered in order. -/
lemma map_number_ofPieces (number start : Nat) (ps : List (List Char)) :
    (Line.ofPieces number start ps).map (·.number) = List.range' number ps.length := by
  induction ps generalizing number start with
  | nil => rfl
  | cons p ps ih =>
    rw [Line.ofPieces, List.map_cons, ih, List.length_cons, List.range'_succ]
    rfl

/-- The number of a line is its index. -/
lemma number_of_getElem? {source : String} {i : Nat} (h : (Line.ofSource source)[i]? = some l) :
    l.number = i := by
  have hnumbers := congrArg (·[i]?) (map_number_ofPieces 0 0 (piecesOf source))
  have hlines : Line.ofPieces 0 0 (piecesOf source) = Line.ofSource source := rfl
  simp only [hlines, List.getElem?_map, h, Option.map_some] at hnumbers
  obtain ⟨_, hnumber⟩ := List.getElem?_eq_some_iff.mp hnumbers.symm
  rw [List.getElem_range', Nat.one_mul, Nat.zero_add] at hnumber
  exact hnumber.symm

lemma take_ofPieces (number start k : Nat) (ps : List (List Char)) :
    (Line.ofPieces number start ps).take k = Line.ofPieces number start (ps.take k) := by
  induction ps generalizing number start k with
  | nil => rw [Line.ofPieces, List.take_nil, List.take_nil, Line.ofPieces]
  | cons p ps ih =>
    cases k with
    | zero => rfl
    | succ k => rw [Line.ofPieces, List.take_succ_cons, List.take_succ_cons, Line.ofPieces, ih]

lemma exists_drop_ofPieces (number start k : Nat) (ps : List (List Char)) :
    ∃ number' start', (Line.ofPieces number start ps).drop k =
      Line.ofPieces number' start' (ps.drop k) := by
  induction ps generalizing number start k with
  | nil => exact ⟨number, start, by rw [Line.ofPieces, List.drop_nil, List.drop_nil, Line.ofPieces]⟩
  | cons p ps ih =>
    cases k with
    | zero => exact ⟨number, start, rfl⟩
    | succ k =>
      rw [Line.ofPieces, List.drop_succ_cons, List.drop_succ_cons]
      exact ih _ _ k

/-- The line at an index is made by the piece there. -/
lemma getElem?_ofPieces (number start i : Nat) (ps : List (List Char)) :
    ∃ number' start', (Line.ofPieces number start ps)[i]? =
      ps[i]?.map (Line.ofPiece number' start') := by
  obtain ⟨number', start', hdrop⟩ := exists_drop_ofPieces number start i ps
  refine ⟨number', start', ?_⟩
  rw [← List.head?_drop, hdrop, ← List.head?_drop]
  cases ps.drop i <;> rfl

lemma utf8Length_append (cs ds : List Char) :
    utf8Length (cs ++ ds) = utf8Length cs + utf8Length ds := by
  induction cs with
  | nil => exact (Nat.zero_add _).symm
  | cons c cs ih =>
    have hcons : ∀ cs, utf8Length (c :: cs) = c.utf8Size + utf8Length cs := fun _ => rfl
    rw [List.cons_append, hcons, hcons, ih, Nat.add_assoc]

/-- The lines behind other lines start behind the bytes of these. -/
lemma ofPieces_append (number start : Nat) (ps qs : List (List Char)) :
    Line.ofPieces number start (ps ++ qs) =
      Line.ofPieces number start ps ++
        Line.ofPieces (number + ps.length) (start + utf8Length (terminated ps)) qs := by
  induction ps generalizing number start with
  | nil => rfl
  | cons p ps ih =>
    have hbytes : utf8Length (terminated (p :: ps)) =
        utf8Length p + 1 + utf8Length (terminated ps) := by
      rw [terminated, List.flatMap_cons, utf8Length_append, utf8Length_append]
      rfl
    rw [List.cons_append, Line.ofPieces, ih, Line.ofPieces, List.cons_append, hbytes,
      List.length_cons]
    congr 3 <;> omega

end Pieces

end Placard
