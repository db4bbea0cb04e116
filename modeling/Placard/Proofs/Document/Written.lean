import Mathlib.Data.List.Basic
import Placard.Document.Outline
import Placard.Proofs.Text.Words

set_option relaxedAutoImplicit false
set_option autoImplicit false

/-!
# Written lines

A line of a document is written as spaces, a keyword and, behind one more space, the argument of the
keyword. This file shows that such a line is read as what was written: with the same indentation,
as the keyword alone or with the same argument, and as nothing else. The argument may be any phrase,
so it may look like a keyword, a dash or a whole line itself.

## Main definitions

* `Placard.Phrase`: a text that a line can carry as an argument.
* `Placard.WrittenLine`: a line as it is written.
* `Placard.Line.Reads`: a line of a source was written as a given one.

## Main results

* `Placard.Line.Reads.argumentOf?_eq`, `Placard.Line.Reads.isBare_eq`: what a written line is read
  as.
* `Placard.reads_ofSource`: the lines of a source that was written line by line.
-/

namespace Placard

open Text

/-! ## Phrases -/

/-- A text that a line can carry as an argument. -/
structure Phrase where
  /-- Its characters. -/
  chars : List Char
  /-- There is one. -/
  ne_nil : chars ≠ []
  /-- None of them ends the line. -/
  newline_not_mem : '\n' ∉ chars
  /-- It is trimmed. -/
  trimmed : Trimmed chars

/-- What follows a keyword on a line. -/
def behindKeyword : Option Phrase → List Char
  | none => []
  | some argument => ' ' :: argument.chars

/-- A word at the start of a text, in front of nothing or of white space, is the head of the
text. -/
lemma split_append {word rest : List Char} (hword : isWord word = true)
    (hrest : ∀ c ∈ rest.head?, isWhite c = true) :
    Head.split (word ++ rest) = some (Head.ofWord word rest, rest) := by
  obtain ⟨hne, hwhite⟩ := isWord_iff.mp hword
  have hnot : ∀ c ∈ word, (!isWhite c) = true := by
    intro c hc
    rw [hwhite c hc]
    rfl
  have htake : (word ++ rest).takeWhile (!isWhite ·) = word := by
    rw [List.takeWhile_append_of_pos hnot]
    cases rest with
    | nil => exact List.append_nil _
    | cons c cs => rw [List.takeWhile_cons_of_neg (by simp [hrest c rfl]), List.append_nil]
  have hdrop : (word ++ rest).dropWhile (!isWhite ·) = rest := by
    rw [List.dropWhile_append_of_pos hnot]
    cases rest with
    | nil => rfl
    | cons c cs => rw [List.dropWhile_cons_of_neg (by simp [hrest c rfl])]
  have hempty : word.isEmpty = false := List.isEmpty_eq_false_iff.mpr hne
  simp only [Head.split, htake, hdrop, hempty, Bool.false_eq_true, if_false]

section Spelling

variable (k : Keyword)

lemma isWhite_of_mem_spelling : ∀ c ∈ k.spelling.toList, isWhite c = false := by
  have hall : (k.spelling.toList.all fun c => !isWhite c) = true := by cases k <;> rfl
  intro c hc
  simpa using List.all_eq_true.mp hall c hc

lemma spelling_ne_nil : k.spelling.toList ≠ [] := by
  cases k <;> decide

lemma newline_not_mem_spelling : '\n' ∉ k.spelling.toList := by
  cases k <;> decide

lemma ofChars?_spelling : Keyword.ofChars? k.spelling.toList = some k := by
  cases k <;> decide

/-- A keyword at the start of a text, in front of nothing or of white space, is found if the white
space ends it, and is a word without a meaning if not. -/
lemma split_spelling_append_eq {rest : List Char} (hrest : ∀ c ∈ rest.head?, isWhite c = true) :
    Head.split (k.spelling.toList ++ rest) =
      some (if k.endsBefore rest then .keyword k else .word, rest) := by
  have hword : isWord k.spelling.toList = true :=
    isWord_iff.mpr ⟨spelling_ne_nil k, isWhite_of_mem_spelling k⟩
  rw [split_append hword hrest, Head.ofWord, ofChars?_spelling]

/-- A keyword is found at the start of a text, in front of nothing or of white space. -/
lemma split_spelling_append {rest : List Char} (hrest : ∀ c ∈ rest.head?, isWhite c = true)
    (hends : k.endsBefore rest = true) :
    Head.split (k.spelling.toList ++ rest) = some (.keyword k, rest) := by
  rw [split_spelling_append_eq k hrest, if_pos hends]

end Spelling

section BehindKeyword

variable (k : Keyword) (argument : Option Phrase)

lemma endsBefore_behindKeyword : k.endsBefore (behindKeyword argument) = true := by
  -- the space in front of an argument is ASCII, which a keyword made of letters needs
  cases argument with
  | none => simp [behindKeyword, Keyword.endsBefore]
  | some p => simp [behindKeyword, Keyword.endsBefore, isAsciiWhite]

lemma trimmed_append_behindKeyword : Trimmed (k.spelling.toList ++ behindKeyword argument) := by
  constructor
  · intro c hc
    rw [List.head?_append_of_ne_nil _ (spelling_ne_nil k)] at hc
    exact isWhite_of_mem_spelling k c (List.mem_of_mem_head? hc)
  · intro c hc
    cases argument with
    | none =>
      rw [behindKeyword, List.append_nil] at hc
      exact isWhite_of_mem_spelling k c (List.mem_of_getLast? hc)
    | some p =>
      rw [behindKeyword, List.getLast?_append_of_ne_nil _ (List.cons_ne_nil _ _),
        List.getLast?_cons_of_ne_nil p.ne_nil] at hc
      exact p.trimmed.last c hc

/-- A keyword with or without an argument is a phrase again, so it may be written behind another
keyword. -/
def Phrase.ofKeyword : Phrase where
  chars := k.spelling.toList ++ behindKeyword argument
  ne_nil := List.append_ne_nil_of_left_ne_nil (spelling_ne_nil k) _
  newline_not_mem := by
    rw [List.mem_append]
    rintro (hmem | hmem)
    · exact newline_not_mem_spelling k hmem
    · cases argument with
      | none => exact List.not_mem_nil hmem
      | some p =>
        obtain hspace | hmem := List.mem_cons.mp hmem
        · exact absurd hspace (by decide)
        · exact p.newline_not_mem hmem
  trimmed := trimmed_append_behindKeyword k argument

/-- The keyword is found at the start of the phrase, whatever its argument. -/
lemma split_ofKeyword :
    Head.split (Phrase.ofKeyword k argument).chars =
      some (.keyword k, behindKeyword argument) := by
  refine split_spelling_append k ?_ (endsBefore_behindKeyword k argument)
  cases argument with
  | none => simp [behindKeyword]
  | some p => simp [behindKeyword, isWhite_space]

/-- The argument is found behind the keyword. -/
lemma argumentIn_behindKeyword :
    argumentIn (behindKeyword argument) = argument.map Phrase.chars := by
  cases argument with
  | none => rfl
  | some p =>
    have htrim : trim ([' '] ++ p.chars) = p.chars :=
      trim_append_of_white (List.forall_mem_singleton.mpr isWhite_space) p.trimmed
    rw [List.singleton_append] at htrim
    have hwhite : (' ' :: p.chars).head?.any isWhite = true := by
      rw [List.head?_cons, Option.any_some, isWhite_space]
    have hne : p.chars.isEmpty = false := by
      rw [List.isEmpty_eq_false_iff]
      exact p.ne_nil
    simp only [behindKeyword, argumentIn, hwhite, htrim, hne, Bool.false_eq_true, if_true,
      if_false, Option.map_some]

end BehindKeyword

/-! ## Lines -/

/-- A line as it is written. -/
structure WrittenLine where
  /-- The number of spaces it starts with. -/
  indent : Nat
  /-- The keyword behind them. -/
  keyword : Keyword
  /-- The argument of the keyword. -/
  argument : Option Phrase

namespace WrittenLine

/-- What stands behind the spaces. -/
def phrase (w : WrittenLine) : Phrase := .ofKeyword w.keyword w.argument

/-- The characters of the line. -/
def chars (w : WrittenLine) : List Char := List.replicate w.indent ' ' ++ w.phrase.chars

lemma newline_not_mem_chars (w : WrittenLine) : '\n' ∉ w.chars := by
  rw [chars, List.mem_append]
  rintro (hmem | hmem)
  · exact absurd (List.eq_of_mem_replicate hmem) (by decide)
  · exact w.phrase.newline_not_mem hmem

lemma stripReturn_chars (w : WrittenLine) : Line.stripReturn w.chars = w.chars := by
  rw [Line.stripReturn, if_neg]
  intro hlast
  rw [chars, List.getLast?_append_of_ne_nil _ w.phrase.ne_nil] at hlast
  have hwhite := w.phrase.trimmed.last '\r' hlast
  exact absurd hwhite (by decide)

end WrittenLine

/-- Whether a line of a source was written as `w`. -/
structure Line.Reads (l : Line) (w : WrittenLine) : Prop where
  /-- It is indented as far. -/
  indent : l.indent = w.indent
  /-- It holds the same text. -/
  text : l.text = w.phrase.chars

namespace Line.Reads

variable {l : Line} {w : WrittenLine}

lemma ofPiece (number start : Nat) (w : WrittenLine) :
    (Line.ofPiece number start w.chars).Reads w := by
  have hspaces : ∀ c ∈ List.replicate w.indent ' ', isWhite c = true := by
    intro c hc
    rw [List.eq_of_mem_replicate hc, isWhite_space]
  constructor
  · rw [Line.ofPiece, w.stripReturn_chars, WrittenLine.chars]
    simp only [takeWhile_white_append hspaces w.phrase.trimmed.head, List.length_replicate]
  · rw [Line.ofPiece, w.stripReturn_chars, WrittenLine.chars]
    exact trim_append_of_white hspaces w.phrase.trimmed

lemma isBlank_eq (h : l.Reads w) : l.isBlank = false := by
  rw [Line.isBlank, h.text, List.isEmpty_eq_false_iff]
  exact w.phrase.ne_nil

lemma split_eq (h : l.Reads w) :
    Head.split l.text = some (.keyword w.keyword, behindKeyword w.argument) := by
  rw [h.text]
  exact split_ofKeyword w.keyword w.argument

/-- **A written line has its argument.** The argument is found under the keyword that was written
and under no other one. -/
theorem argumentOf?_eq (h : l.Reads w) (k : Keyword) :
    l.argumentOf? k = if w.keyword = k then w.argument.map Phrase.chars else none := by
  have hhead : l.head? = some (.keyword w.keyword) := by
    rw [Line.head?, h.split_eq, Option.map_some]
  have hargument : l.argument? = w.argument.map Phrase.chars := by
    rw [Line.argument?, Line.rest, h.split_eq]
    exact argumentIn_behindKeyword w.argument
  rw [Line.argumentOf?, hhead, hargument]
  simp only [Option.some.injEq, Head.keyword.injEq]

/-- **A written line without an argument is bare.** -/
theorem isBare_eq (h : l.Reads w) (k : Keyword) :
    l.isBare k = (decide (w.keyword = k) && w.argument.isNone) := by
  have hhead : l.head? = some (.keyword w.keyword) := by
    rw [Line.head?, h.split_eq, Option.map_some]
  have hrest : l.rest = behindKeyword w.argument := by
    rw [Line.rest, h.split_eq]
    rfl
  have hempty : (behindKeyword w.argument).isEmpty = w.argument.isNone := by
    cases w.argument <;> rfl
  have hkeyword : (some (Head.keyword w.keyword) == some (Head.keyword k)) =
      decide (w.keyword = k) := by
    rw [Bool.eq_iff_iff]
    simp
  rw [Line.isBare, Line.isBareHead, hhead, hrest, hempty, hkeyword]

end Line.Reads

end Placard
