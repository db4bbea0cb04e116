import Mathlib.Data.List.TakeWhile
import Placard.Proofs.Text.Trim

set_option relaxedAutoImplicit false
set_option autoImplicit false

/-!
# Words

The words of a text are its parts between white space. What is written in front of a text, without
white space, becomes the start of its first word.

## Main definitions

* `Placard.Text.words`: the words of a text.
* `Placard.Text.isWord`: a text that is one word.

## Main results

* `Placard.Text.words_intercalate`: the words of texts with spaces between them.
* `Placard.Text.exists_words_append`: the words of a text with more in front of the first one.
-/

namespace Placard.Text

/-- The parts of a text between white space. -/
def words (cs : List Char) : List (List Char) := (cs.splitOnP isWhite).filter (!·.isEmpty)

/-- Whether a text is one word: not empty and without white space. -/
def isWord (cs : List Char) : Bool := !cs.isEmpty && cs.all (!isWhite ·)

section Words

variable {as bs cs us : List Char} {c : Char}

lemma isWord_iff : isWord cs = true ↔ cs ≠ [] ∧ ∀ c ∈ cs, isWhite c = false := by
  simp [isWord]

@[simp] lemma words_nil : words [] = [] := by
  rw [words, List.splitOnP_nil]
  rfl

/-- White space ends a word. -/
lemma words_append_cons (hc : isWhite c = true) (as bs : List Char) :
    words (as ++ c :: bs) = words as ++ words bs := by
  rw [words, List.splitOnP_append_cons as bs hc, List.filter_append]
  rfl

lemma words_of_isWord (h : isWord cs = true) : words cs = [cs] := by
  obtain ⟨hne, hwhite⟩ := isWord_iff.mp h
  rw [words, List.splitOnP_eq_singleton hwhite]
  simp [hne]

/-- The words of texts with spaces between them are those of the texts. -/
lemma words_intercalate (names : List String) :
    words (" ".intercalate names).toList = names.flatMap (words ·.toList) := by
  induction names with
  | nil => rw [String.intercalate_nil, List.flatMap_nil, String.toList_empty, words_nil]
  | cons name names ih =>
    cases names with
    | nil => simp [String.intercalate_singleton]
    | cons other names =>
      have hspace : (name ++ " " ++ " ".intercalate (other :: names)).toList =
          name.toList ++ ' ' :: (" ".intercalate (other :: names)).toList := by
        simp
      rw [String.intercalate_cons_cons, hspace, words_append_cons isWhite_space, ih]
      rfl

lemma isWord_append (hus : ∀ c ∈ us, isWhite c = false) (hcs : isWord cs = true) :
    isWord (us ++ cs) = true := by
  obtain ⟨hne, hwhite⟩ := isWord_iff.mp hcs
  exact isWord_iff.mpr ⟨List.append_ne_nil_of_right_ne_nil us hne,
    List.forall_mem_append.mpr ⟨hus, hwhite⟩⟩

/-- What a text starts with up to the first white space is a word. -/
lemma isWord_takeWhile (hne : cs ≠ []) (hhead : ∀ c ∈ cs.head?, isWhite c = false) :
    isWord (cs.takeWhile (!isWhite ·)) = true := by
  refine isWord_iff.mpr ⟨?_, fun c hc => by simpa using List.mem_takeWhile_imp hc⟩
  obtain ⟨c, rest, rfl⟩ := List.exists_cons_of_ne_nil hne
  rw [List.takeWhile_cons_of_pos (by simp [hhead c rfl])]
  exact List.cons_ne_nil _ _

/-- **What is written in front of a text becomes the start of its first word.** -/
lemma exists_words_append (hus : ∀ c ∈ us, isWhite c = false) (hne : cs ≠ [])
    (hhead : ∀ c ∈ cs.head?, isWhite c = false) :
    ∃ first others, words cs = first :: others ∧ words (us ++ cs) = (us ++ first) :: others := by
  set first := cs.takeWhile (!isWhite ·)
  have hword : isWord first = true := isWord_takeWhile hne hhead
  have hlonger : isWord (us ++ first) = true := isWord_append hus hword
  have hparts : first ++ cs.dropWhile (!isWhite ·) = cs := List.takeWhile_append_dropWhile
  cases hrest : cs.dropWhile (!isWhite ·) with
  | nil =>
    rw [hrest, List.append_nil] at hparts
    rw [← hparts, words_of_isWord hword, words_of_isWord hlonger]
    exact ⟨first, [], rfl, rfl⟩
  | cons c rest =>
    have hc : isWhite c = true := by
      have hnot := List.head?_dropWhile_not (!isWhite ·) cs
      rw [hrest] at hnot
      simpa using hnot
    rw [hrest] at hparts
    rw [← hparts, ← List.append_assoc, words_append_cons hc, words_append_cons hc,
      words_of_isWord hword, words_of_isWord hlonger]
    exact ⟨first, words rest, rfl, rfl⟩

end Words

end Placard.Text
