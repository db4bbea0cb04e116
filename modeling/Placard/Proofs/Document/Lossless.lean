import Mathlib.Data.List.Basic
import Placard.Proofs.Document.Argument
import Placard.Proofs.Document.Extent
import Placard.Proofs.Text.Bytes
import Placard.Proofs.Text.Words

set_option relaxedAutoImplicit false
set_option autoImplicit false

/-!
# Lines and their source

A line knows where it stands in the source. What stands there is a piece of the source, and between
two lines stands the line feed, perhaps with a carriage return in front of it. So nothing of the
source is lost but a carriage return at its very end: it belongs to the last piece, but neither to
the last line nor to the text between two lines.

A line that is not blank starts with a word. If the word is not all of the line then white space
follows it, and behind that an argument.

## Main definitions

* `Placard.BehindHead`: a text can stand behind a head word.
* `Placard.Line.HeadedBy`: a line starts with a word.
* `Placard.Line.Transcribes`: a line tells all about a piece of the source.
* `Placard.lineTexts`, `Placard.gapTexts`: what stands at the bounds of lines, and between them.
* `Placard.KeepSource`: lines tell all about a source.

## Main results

* `Placard.Line.exists_headedBy`: a line that is not blank starts with a word.
* `Placard.lines_keep_source`: the lines of a source tell all about it.
* `Placard.not_source_recoverable`: but for a carriage return at its end.
-/

namespace Placard

open Text

/-! ## Head words -/

/-- Whether a text can stand behind a head word: it is empty, or it starts with white space and has
something else in it. -/
def BehindHead (rest : List Char) : Prop :=
  rest = [] ∨ (∃ c ∈ rest.head?, isWhite c = true) ∧ ∃ c ∈ rest, isWhite c = false

namespace Line

/-- Whether a line starts with a word, and whatever else stands on it is an argument. -/
structure HeadedBy (l : Line) (word : List Char) : Prop where
  /-- The word and the rest are all of the line. -/
  text_eq : l.text = word ++ l.rest
  /-- The word is not empty and has no white space in it. -/
  isWord : isWord word = true
  /-- It is the head of the line. -/
  head?_eq : l.head? = some (Head.ofWord word l.rest)
  /-- The rest is empty, or it starts with white space and has something else in it. -/
  behindHead : BehindHead l.rest
  /-- The head stands alone or has an argument, but not both. -/
  bare_xor_argument : (l.isBareHead (Head.ofWord word l.rest) ^^ l.argument?.isSome) = true
  /-- The argument is the rest, trimmed. -/
  argument_eq : ∀ argument ∈ l.argument?, argument = trim l.rest

section Headed

variable {l : Line} {text rest : List Char}

/-- A trimmed text is a word and what can stand behind it. -/
lemma exists_word_append (h : Trimmed text) (hne : text ≠ []) :
    ∃ word rest, text = word ++ rest ∧ isWord word = true ∧ BehindHead rest := by
  refine ⟨text.takeWhile (!isWhite ·), text.dropWhile (!isWhite ·),
    List.takeWhile_append_dropWhile.symm, isWord_takeWhile hne h.head, ?_⟩
  have hnot := List.head?_dropWhile_not (!isWhite ·) text
  have hparts : text.takeWhile (!isWhite ·) ++ text.dropWhile (!isWhite ·) = text :=
    List.takeWhile_append_dropWhile
  cases hrest : text.dropWhile (!isWhite ·) with
  | nil => exact Or.inl rfl
  | cons c rest =>
    rw [hrest] at hnot hparts
    refine Or.inr ⟨⟨c, rfl, by simpa using hnot⟩, ?_⟩
    -- the text ends where the rest ends, and not in white space
    have hlong : c :: rest ≠ [] := List.cons_ne_nil _ _
    refine ⟨(c :: rest).getLast hlong, List.getLast_mem hlong, h.last _ ?_⟩
    rw [← hparts, List.getLast?_append_of_ne_nil _ hlong]
    exact List.getLast?_eq_some_getLast hlong

/-- What stands behind a head word is its argument, unless nothing does. -/
lemma argumentIn_of_behindHead (h : BehindHead rest) :
    argumentIn rest = if rest.isEmpty then none else some (trim rest) := by
  rcases h with rfl | ⟨hwhite, c, hc, hother⟩
  · rfl
  · have hany : rest.head?.any isWhite = true := (Option.any_eq_true _ _).mpr hwhite
    have hlong : rest.isEmpty = false := List.isEmpty_eq_false_iff.mpr (List.ne_nil_of_mem hc)
    have hempty : (trim rest).isEmpty = false := by
      refine List.isEmpty_eq_false_iff.mpr fun hnil => ?_
      rw [trim_eq_nil_iff.mp hnil c hc] at hother
      cases hother
    simp only [argumentIn, hany, hlong, hempty, if_true, Bool.false_eq_true, if_false]

/-- **A line that is not blank starts with a word.** -/
theorem exists_headedBy (htrimmed : Trimmed l.text) (hblank : l.isBlank = false) :
    ∃ word, l.HeadedBy word := by
  obtain ⟨word, rest, htext, hword, hbehind⟩ :=
    exists_word_append htrimmed (List.isEmpty_eq_false_iff.mp hblank)
  have hwhite : ∀ c ∈ rest.head?, isWhite c = true := by
    rcases hbehind with rfl | ⟨⟨c, hc, hwhite⟩, -⟩
    · exact fun _ h => nomatch h
    · exact fun d hd => Option.some.inj (hc.symm.trans hd) ▸ hwhite
  have hsplit : Head.split l.text = some (Head.ofWord word rest, rest) :=
    htext ▸ split_append hword hwhite
  obtain rfl : l.rest = rest := by rw [Line.rest, hsplit, Option.map_some, Option.getD_some]
  have hhead : l.head? = some (Head.ofWord word l.rest) := by
    rw [head?, hsplit, Option.map_some]
  refine ⟨word, htext, hword, hhead, hbehind, ?_, fun argument hargument => ?_⟩
  · rw [isBareHead, hhead, beq_self_eq_true, Bool.true_and, argument?,
      argumentIn_of_behindHead hbehind]
    cases l.rest.isEmpty <;> rfl
  · rw [argument?, argumentIn_of_behindHead hbehind] at hargument
    split at hargument
    · cases hargument
    · exact (Option.some.inj hargument).symm

/-- A blank line has no argument. -/
lemma argument?_of_isBlank (h : l.isBlank = true) : l.argument? = none := by
  rw [isBlank, List.isEmpty_iff] at h
  rw [argument?, rest, h]
  rfl

end Headed

/-- Whether a line tells all about the piece of a source with the given index. -/
structure Transcribes (l : Line) (source : String) (i : Nat) (piece : List Char) : Prop where
  /-- The index is the number of the line. -/
  number_eq : l.number = i
  /-- The line ends no earlier than it starts. -/
  start_le : l.start ≤ l.stop
  /-- Between its bounds stands the piece, but for one carriage return if it ends in some. The line
  is what stands there, trimmed. -/
  content : ∃ content, slice? source.toList l.start l.stop = some content ∧
    content ++ returnAtEnd piece = piece ∧ l.text = trim content
  /-- If the line is blank then there is no head and no argument. -/
  blank : l.isBlank = true → l.head? = none ∧ l.argument? = none
  /-- If it is not then it starts with its head. -/
  headed : l.isBlank = false → ∃ word, l.HeadedBy word

end Line

/-! ## Bounds -/

/-- What stands in a source between the bounds of each line. -/
def lineTexts (source : String) (lines : List Line) : List (Option (List Char)) :=
  lines.map fun l => slice? source.toList l.start l.stop

/-- What stands in a source between each line and the next one. -/
def gapTexts (source : String) (lines : List Line) : List (Option (List Char)) :=
  List.zipWith (fun l next => slice? source.toList l.stop next.start) lines lines.tail

/-- Texts one behind the other, with a gap between each and the next one. -/
def weave : List (List Char) → List (List Char) → List Char
  | text :: texts, gap :: gaps => text ++ (gap ++ weave texts gaps)
  | texts, _ => texts.flatten

/-- Whether lines tell all about a source, one for each of its pieces. -/
structure KeepSource (source : String) (lines : List Line) : Prop where
  /-- There are as many lines as pieces. -/
  length_eq : lines.length = (piecesOf source).length
  /-- Each piece has its line. -/
  transcribes : ∀ i piece, (piecesOf source)[i]? = some piece →
    ∃ l : Line, lines[i]? = some l ∧ l.Transcribes source i piece
  /-- A line ends before the later ones start. -/
  disjoint : lines.Pairwise fun l later => l.stop < later.start
  /-- Between the lines stand line feeds, with or without a carriage return. The lines and what
  stands between them are the source, but for a carriage return at its end. -/
  recovered : ∃ texts gaps, lineTexts source lines = texts.map some ∧
    gapTexts source lines = gaps.map some ∧
    (∀ gap ∈ gaps, gap = ['\n'] ∨ gap = ['\r', '\n']) ∧
    source.toList = weave texts gaps ++ returnAtEnd source.toList

section Bounds

variable {number start : Nat} {ps : List (List Char)}

lemma utf8Length_stripReturn (piece : List Char) :
    utf8Length (Line.stripReturn piece) + utf8Length (returnAtEnd piece) = utf8Length piece := by
  rw [← utf8Length_append, stripReturn_append_returnAtEnd]

/-- The end of a text is that of its last line. -/
lemma returnAtEnd_newline (front back : List Char) :
    returnAtEnd (front ++ '\n' :: back) = returnAtEnd back := by
  rw [returnAtEnd, returnAtEnd, List.getLast?_append_of_ne_nil _ (List.cons_ne_nil _ _)]
  cases back with
  | nil => rfl
  | cons c back => rw [List.getLast?_cons_cons]

lemma slice?_of_append (front mid back : List Char) :
    slice? (front ++ (mid ++ back)) (utf8Length front) (utf8Length front + utf8Length mid) =
      some mid :=
  slice?_eq_some_iff.mpr ⟨front, back, List.append_assoc _ _ _, rfl, utf8Length_append front mid⟩

/-- Lines start no earlier than the first piece. -/
lemma le_start_of_mem_ofPieces {l : Line} (h : l ∈ Line.ofPieces number start ps) :
    start ≤ l.start := by
  induction ps generalizing number start with
  | nil => cases h
  | cons p ps ih =>
    rw [Line.ofPieces, List.mem_cons] at h
    obtain rfl | h := h
    · exact Nat.le_refl _
    · have := ih h
      omega

/-- A line ends before the line feed behind its piece, so before the later lines start. -/
lemma pairwise_ofPieces (number start : Nat) (ps : List (List Char)) :
    (Line.ofPieces number start ps).Pairwise fun l later => l.stop < later.start := by
  induction ps generalizing number start with
  | nil => exact List.Pairwise.nil
  | cons p ps ih =>
    rw [Line.ofPieces]
    refine List.pairwise_cons.mpr ⟨fun later hlater => ?_, ih _ _⟩
    have hle := le_start_of_mem_ofPieces hlater
    have hbytes := utf8Length_stripReturn p
    have hstop : (Line.ofPiece number start p).stop =
        start + utf8Length (Line.stripReturn p) := rfl
    omega

/-- A text that is cut at line feeds goes on behind the first one where the second piece starts. -/
lemma intercalate_newline_cons (front p q : List Char) (ps : List (List Char)) :
    front ++ ['\n'].intercalate (p :: q :: ps) =
      front ++ p ++ ['\n'] ++ ['\n'].intercalate (q :: ps) := by
  rw [List.intercalate_cons_cons]
  simp only [List.append_assoc]

lemma utf8Length_newline (front p : List Char) :
    utf8Length (front ++ p ++ ['\n']) = utf8Length front + utf8Length p + 1 := by
  rw [utf8Length_append, utf8Length_append]
  rfl

/-- A text that is cut at line feeds starts with the content of the first piece. -/
lemma exists_intercalate_eq (p : List Char) (ps : List (List Char)) :
    ∃ back, ['\n'].intercalate (p :: ps) = Line.stripReturn p ++ back := by
  cases ps with
  | nil => exact ⟨returnAtEnd p, by simp [stripReturn_append_returnAtEnd]⟩
  | cons q qs =>
    refine ⟨returnAtEnd p ++ (['\n'] ++ ['\n'].intercalate (q :: qs)), ?_⟩
    rw [← List.append_assoc, stripReturn_append_returnAtEnd, List.intercalate_cons_cons,
      List.append_assoc]

/-- **Between the bounds of a line stands its piece**, without a carriage return at its end.

**Proof sketch.** Induction on the pieces, with the text in front of them: its bytes are the offset
of the first line. -/
lemma map_slice?_ofPieces (number : Nat) (front : List Char) (ps : List (List Char)) :
    (Line.ofPieces number (utf8Length front) ps).map
        (fun l => slice? (front ++ ['\n'].intercalate ps) l.start l.stop) =
      (ps.map Line.stripReturn).map some := by
  induction ps generalizing number front with
  | nil => rfl
  | cons p ps ih =>
    rw [Line.ofPieces, List.map_cons, List.map_cons, List.map_cons]
    refine List.cons_eq_cons.mpr ⟨?_, ?_⟩
    · obtain ⟨back, hback⟩ := exists_intercalate_eq p ps
      rw [hback]
      exact slice?_of_append front _ back
    · cases ps with
      | nil => rfl
      | cons q qs => rw [intercalate_newline_cons, ← utf8Length_newline, ih]

/-- Behind the content of a piece stands a carriage return, if the piece ends in one, and the line
feed. -/
lemma slice?_gap (front p back : List Char) :
    slice? (front ++ p ++ ['\n'] ++ back) (utf8Length front + utf8Length (Line.stripReturn p))
      (utf8Length front + utf8Length p + 1) = some (returnAtEnd p ++ ['\n']) := by
  rw [← utf8Length_stripReturn p]
  have htext : front ++ p ++ ['\n'] ++ back =
      front ++ Line.stripReturn p ++ (returnAtEnd p ++ ['\n'] ++ back) := by
    conv_lhs => rw [← stripReturn_append_returnAtEnd p]
    simp only [List.append_assoc]
  have hgap := slice?_of_append (front ++ Line.stripReturn p) (returnAtEnd p ++ ['\n']) back
  rw [utf8Length_append, utf8Length_append] at hgap
  rw [htext, ← hgap, ← Nat.add_assoc, ← Nat.add_assoc]
  rfl

/-- **Between a line and the next one stands the line feed**, and in front of it the carriage return
that the line leaves out. -/
lemma zipWith_slice?_ofPieces (number : Nat) (front : List Char) (ps : List (List Char)) :
    List.zipWith (fun l next => slice? (front ++ ['\n'].intercalate ps) l.stop next.start)
        (Line.ofPieces number (utf8Length front) ps)
        (Line.ofPieces number (utf8Length front) ps).tail =
      (ps.dropLast.map (returnAtEnd · ++ ['\n'])).map some := by
  induction ps generalizing number front with
  | nil => rfl
  | cons p ps ih =>
    cases ps with
    | nil => rfl
    | cons q qs =>
      have hlater := ih (number + 1) (front ++ p ++ ['\n'])
      rw [utf8Length_newline] at hlater
      rw [intercalate_newline_cons, List.dropLast_cons_cons, List.map_cons, List.map_cons,
        ← slice?_gap front p (['\n'].intercalate (q :: qs)), ← hlater]
      rfl

/-- The pieces without their carriage returns, and what stands between them, make up the text but
for a carriage return at its end. -/
lemma weave_append_returnAtEnd (p : List Char) (ps : List (List Char)) :
    weave ((p :: ps).map Line.stripReturn) ((p :: ps).dropLast.map (returnAtEnd · ++ ['\n'])) ++
        returnAtEnd (['\n'].intercalate (p :: ps)) =
      ['\n'].intercalate (p :: ps) := by
  induction ps generalizing p with
  | nil => simp [weave, stripReturn_append_returnAtEnd]
  | cons q qs ih =>
    have hjoin : ['\n'].intercalate (p :: q :: qs) = p ++ '\n' :: ['\n'].intercalate (q :: qs) := by
      rw [List.intercalate_cons_cons, List.append_assoc, List.singleton_append]
    rw [hjoin, returnAtEnd_newline]
    calc
      _ = Line.stripReturn p ++ returnAtEnd p ++ '\n' ::
          (weave ((q :: qs).map Line.stripReturn)
            ((q :: qs).dropLast.map (returnAtEnd · ++ ['\n'])) ++
            returnAtEnd (['\n'].intercalate (q :: qs))) := by
        simp [weave, List.append_assoc]
      _ = p ++ '\n' :: ['\n'].intercalate (q :: qs) := by
        rw [stripReturn_append_returnAtEnd, ih q]

end Bounds

section Lines

variable {source : String} {i : Nat} {piece : List Char}

lemma intercalate_piecesOf (source : String) :
    ['\n'].intercalate (piecesOf source) = source.toList := by
  rw [piecesOf, List.intercalate_splitOn]

lemma lineTexts_ofSource (source : String) :
    lineTexts source (Line.ofSource source) =
      ((piecesOf source).map Line.stripReturn).map some := by
  have htexts := map_slice?_ofPieces 0 [] (piecesOf source)
  rw [List.nil_append, intercalate_piecesOf] at htexts
  exact htexts

lemma gapTexts_ofSource (source : String) :
    gapTexts source (Line.ofSource source) =
      ((piecesOf source).dropLast.map (returnAtEnd · ++ ['\n'])).map some := by
  have hgaps := zipWith_slice?_ofPieces 0 [] (piecesOf source)
  rw [List.nil_append, intercalate_piecesOf] at hgaps
  exact hgaps

/-- **The line at an index tells all about the piece there.** -/
theorem exists_transcribes (h : (piecesOf source)[i]? = some piece) :
    ∃ l, (Line.ofSource source)[i]? = some l ∧ l.Transcribes source i piece := by
  obtain ⟨number, start, hline⟩ : ∃ number start,
      (Line.ofSource source)[i]? = some (Line.ofPiece number start piece) := by
    obtain ⟨number, start, hline⟩ := getElem?_ofPieces 0 0 i (piecesOf source)
    exact ⟨number, start, by rw [Line.ofSource, ← piecesOf, hline, h, Option.map_some]⟩
  have htrimmed := (text_of_mem_ofSource (List.mem_of_getElem? hline)).1
  have htext : (lineTexts source (Line.ofSource source))[i]? =
      some (some (Line.stripReturn piece)) := by
    rw [lineTexts_ofSource, List.getElem?_map, List.getElem?_map, h, Option.map_some,
      Option.map_some]
  rw [lineTexts, List.getElem?_map, hline, Option.map_some, Option.some_inj] at htext
  exact ⟨_, hline,
    { number_eq := number_of_getElem? hline
      start_le := Nat.le_add_right _ _
      content := ⟨Line.stripReturn piece, htext, stripReturn_append_returnAtEnd piece, rfl⟩
      blank := fun hblank => ⟨head?_of_isBlank hblank, Line.argument?_of_isBlank hblank⟩
      headed := Line.exists_headedBy htrimmed }⟩

/-- **The lines of a source tell all about it**, but for a carriage return at its end.

**Proof sketch.** What stands at the bounds of the lines and between them follows from the pieces by
induction (`map_slice?_ofPieces`, `zipWith_slice?_ofPieces`), and these make up the source
(`weave_append_returnAtEnd`). -/
theorem lines_keep_source (source : String) : KeepSource source (Line.ofSource source) where
  length_eq := length_ofPieces 0 0 (piecesOf source)
  transcribes := fun _ _ => exists_transcribes
  disjoint := pairwise_ofPieces 0 0 (piecesOf source)
  recovered := by
    refine ⟨_, _, lineTexts_ofSource source, gapTexts_ofSource source, ?_, ?_⟩
    · intro gap hgap
      obtain ⟨p, -, rfl⟩ := List.mem_map.mp hgap
      rw [returnAtEnd]
      split
      · exact Or.inr rfl
      · exact Or.inl rfl
    · obtain ⟨p, ps, hpieces⟩ := List.exists_cons_of_ne_nil (List.splitOn_ne_nil '\n' source.toList)
      have hsource := intercalate_piecesOf source
      rw [piecesOf, hpieces] at hsource
      rw [piecesOf, hpieces, ← hsource, weave_append_returnAtEnd]

/-- A carriage return at the end of a source leaves no trace: neither in the lines, nor at their
bounds, nor between them. -/
theorem not_source_recoverable :
    Line.ofSource "a\r" = Line.ofSource "a" ∧
      lineTexts "a\r" (Line.ofSource "a\r") = lineTexts "a" (Line.ofSource "a") ∧
      gapTexts "a\r" (Line.ofSource "a\r") = gapTexts "a" (Line.ofSource "a") ∧
      ¬ ∃ recover : List Line → List (Option (List Char)) → List (Option (List Char)) → String,
        ∀ source, recover (Line.ofSource source) (lineTexts source (Line.ofSource source))
          (gapTexts source (Line.ofSource source)) = source := by
  have hlines : Line.ofSource "a\r" = Line.ofSource "a" := by decide +kernel
  have htexts : lineTexts "a\r" (Line.ofSource "a\r") = lineTexts "a" (Line.ofSource "a") := by
    decide +kernel
  have hgaps : gapTexts "a\r" (Line.ofSource "a\r") = gapTexts "a" (Line.ofSource "a") := by
    decide +kernel
  refine ⟨hlines, htexts, hgaps, ?_⟩
  rintro ⟨recover, hrecover⟩
  have hsame : "a\r" = "a" := by
    rw [← hrecover "a\r", htexts, hgaps, hlines, hrecover "a"]
  exact absurd hsame (by decide)

end Lines

end Placard
