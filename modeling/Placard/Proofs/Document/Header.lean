import Mathlib.Data.String.Basic
import Placard.Document.Parse
import Placard.Proofs.Document.Argument

set_option relaxedAutoImplicit false
set_option autoImplicit false

/-!
# Headers

A source is read iff its first line that is not blank names a template, and that line alone decides
so. If it does not, the error points at it: its bounds are offsets of bytes in the source, and what
stands between them is the line, without the line feed and a carriage return behind it.

## Main definitions

* `Placard.FirstPiece`: the first piece of a source that is not blank.
* `Placard.HeaderError.PointsAt`: an error gives the bounds of a piece.

## Main results

* `Placard.Line.pointsAt_of_pieces`: the bounds of a line are those of its piece.
* `Placard.parse_header`: when reading fails, and where the error points.
-/

namespace Placard

open Text

/-- Whether a piece of a source is blank. -/
def Blank (piece : List Char) : Prop := ∀ c ∈ piece, isWhite c = true

instance : DecidablePred Blank := List.decidableBAll fun c => isWhite c = true

/-- The first piece of a source that is not blank, between those before and behind it. -/
structure FirstPiece (source : String) (before : List (List Char)) (piece : List Char)
    (behind : List (List Char)) : Prop where
  /-- These are all pieces. -/
  pieces_eq : piecesOf source = before ++ piece :: behind
  /-- Those before it are blank. -/
  blank : ∀ p ∈ before, Blank p
  /-- It is not. -/
  not_blank : ¬ Blank piece

/-- Whether an error gives the bounds of a piece of a source that stands behind others, the carriage
return at its end excluded. -/
structure HeaderError.PointsAt (e : HeaderError) (source : String) (before : List (List Char))
    (piece : List Char) : Prop where
  /-- It starts behind the bytes of the pieces before it and the line feeds behind them. -/
  start_eq : e.start = (String.ofList (terminated before)).utf8ByteSize
  /-- It ends no earlier. -/
  start_le : e.start ≤ e.stop
  /-- It ends in the source. -/
  stop_le : e.stop ≤ source.utf8ByteSize
  /-- It starts at a character. -/
  start_valid : String.Pos.Raw.IsValid source ⟨e.start⟩
  /-- It ends at one. -/
  stop_valid : String.Pos.Raw.IsValid source ⟨e.stop⟩
  /-- What stands there is the piece. -/
  slice : String.Pos.Raw.extract source ⟨e.start⟩ ⟨e.stop⟩ = String.ofList (Line.stripReturn piece)

/-! ## Bounds -/

section Bounds

variable {source : String} {before behind : List (List Char)} {piece : List Char}

lemma utf8Length_eq (cs : List Char) : utf8Length cs = (String.ofList cs).utf8ByteSize := by
  rw [String.utf8ByteSize_ofList]
  induction cs with
  | nil => rfl
  | cons c cs ih =>
    have hcons : utf8Length (c :: cs) = c.utf8Size + utf8Length cs := rfl
    rw [hcons, ih, String.utf8Len_cons, Nat.add_comm]

/-- A source is its pieces before one of them, that piece, and more text behind a line feed. -/
lemma exists_toList_eq (h : piecesOf source = before ++ piece :: behind) :
    ∃ rest, source.toList = terminated before ++ (piece ++ rest) ∧ ∀ c ∈ rest.head?, c = '\n' := by
  have hsource : source.toList = ['\n'].intercalate (before ++ piece :: behind) := by
    rw [← h, piecesOf, List.intercalate_splitOn]
  rw [hsource]
  clear h hsource
  induction before with
  | nil =>
    cases behind with
    | nil => exact ⟨[], by simp [terminated], fun _ h => nomatch h⟩
    | cons q qs =>
      refine ⟨['\n'] ++ ['\n'].intercalate (q :: qs), ?_, fun c hc => (Option.some.inj hc).symm⟩
      rw [List.nil_append, List.intercalate_cons_cons, List.append_assoc]
      rfl
  | cons p ps ih =>
    obtain ⟨rest, hrest, hfeed⟩ := ih
    obtain ⟨q, qs, hne⟩ : ∃ q qs, ps ++ piece :: behind = q :: qs := by
      cases ps <;> exact ⟨_, _, rfl⟩
    refine ⟨rest, ?_, hfeed⟩
    have hcons : terminated (p :: ps) = p ++ ['\n'] ++ terminated ps := List.flatMap_cons
    rw [List.cons_append, hne, List.intercalate_cons_cons, ← hne, hrest, hcons]
    simp only [List.append_assoc]

/-- What stands between two offsets of a source that are the lengths of texts at its start. -/
lemma bounds_of_append {pre mid rest : List Char} (h : source.toList = pre ++ (mid ++ rest)) :
    utf8Length pre + utf8Length mid ≤ source.utf8ByteSize ∧
      String.Pos.Raw.IsValid source ⟨utf8Length pre⟩ ∧
      String.Pos.Raw.IsValid source ⟨utf8Length pre + utf8Length mid⟩ ∧
      String.Pos.Raw.extract source ⟨utf8Length pre⟩ ⟨utf8Length pre + utf8Length mid⟩ =
        String.ofList mid := by
  have hsource : source = String.ofList (pre ++ mid ++ rest) := by
    rw [List.append_assoc, ← h, String.ofList_toList]
  have hpre := utf8Length_eq pre
  have hmid := utf8Length_eq mid
  refine ⟨?_, ?_, ?_, ?_⟩
  · rw [hsource, ← utf8Length_eq, utf8Length_append, utf8Length_append]
    omega
  · rw [String.Pos.Raw.isValid_iff_exists_append]
    refine ⟨String.ofList pre, String.ofList (mid ++ rest), ?_, ?_⟩
    · rw [hsource, List.append_assoc, String.ofList_append]
    · rw [hpre]
      rfl
  · rw [String.Pos.Raw.isValid_iff_exists_append]
    refine ⟨String.ofList (pre ++ mid), String.ofList rest, ?_, ?_⟩
    · rw [hsource, String.ofList_append]
    · rw [← utf8Length_append, utf8Length_eq]
      rfl
  · rw [hsource, utf8Length_eq, utf8Length_eq, String.utf8ByteSize_ofList,
      String.utf8ByteSize_ofList]
    exact String.extract_of_valid pre mid rest

/-- **The bounds of a line are those of its piece.** -/
theorem Line.pointsAt_of_pieces (h : piecesOf source = before ++ piece :: behind) (number : Nat) :
    HeaderError.PointsAt
      { start := (Line.ofPiece number (utf8Length (terminated before)) piece).start
        stop := (Line.ofPiece number (utf8Length (terminated before)) piece).stop }
      source before piece := by
  obtain ⟨rest, hrest, -⟩ := exists_toList_eq h
  obtain ⟨w, -, hpiece⟩ := exists_stripReturn_append piece
  have hsource : source.toList = terminated before ++ (Line.stripReturn piece ++ (w ++ rest)) := by
    rw [hrest, ← List.append_assoc (Line.stripReturn piece), hpiece]
  obtain ⟨hle, hstart, hstop, hslice⟩ := bounds_of_append hsource
  exact ⟨utf8Length_eq _, Nat.le_add_right _ _, hle, hstart, hstop, hslice⟩

end Bounds

/-! ## The first line -/

section First

variable {source : String} {before behind : List (List Char)} {piece template : List Char}

lemma isBlank_ofPiece (number start : Nat) (piece : List Char) :
    (Line.ofPiece number start piece).isBlank = true ↔ Blank piece := by
  rw [Line.isBlank, text_ofPiece, List.isEmpty_iff, trim_eq_nil_iff, Blank]

lemma isBlank_of_mem_ofPieces {number start : Nat} {pieces : List (List Char)}
    (h : ∀ p ∈ pieces, Blank p) : ∀ l ∈ Line.ofPieces number start pieces, l.isBlank = true := by
  intro l hl
  obtain ⟨p, hp, number', start', rfl⟩ := exists_ofPiece_of_mem hl
  exact (isBlank_ofPiece number' start' p).mpr (h p hp)

/-- All pieces are blank, or there is a first one that is not. -/
lemma blank_or_exists_firstPiece (source : String) :
    (∀ p ∈ piecesOf source, Blank p) ∨
      ∃ before piece behind, FirstPiece source before piece behind := by
  by_cases hall : ∀ p ∈ piecesOf source, Blank p
  · exact .inl hall
  · right
    push Not at hall
    obtain ⟨p, hp, hblank⟩ := hall
    obtain ⟨q, hq⟩ : ∃ q, (piecesOf source).find? (fun p => !p.all isWhite) = some q := by
      rw [← Option.isSome_iff_exists, List.find?_isSome]
      exact ⟨p, hp, by simpa [Blank] using hblank⟩
    obtain ⟨hnot, before, behind, hpieces, hbefore⟩ := List.find?_eq_some_iff_append.mp hq
    refine ⟨before, q, behind, hpieces, fun p hp => ?_, ?_⟩
    · simpa [Blank] using hbefore p hp
    · simpa [Blank] using hnot

/-- A source without text is rejected, and the error points at its start. -/
lemma parse_of_blank (h : ∀ p ∈ piecesOf source, Blank p) :
    parse source = .error { start := 0, stop := 0 } := by
  have hdrop : (Line.ofSource source).dropWhile (·.isBlank) = [] :=
    List.dropWhile_eq_nil_iff.mpr (isBlank_of_mem_ofPieces h)
  rw [parse, Outline.ofSource, hdrop]
  rfl

/-- The header is the line that the first piece makes that is not blank. -/
lemma FirstPiece.dropWhile_eq (h : FirstPiece source before piece behind) :
    ∃ body, (Line.ofSource source).dropWhile (·.isBlank) =
      Line.ofPiece before.length (utf8Length (terminated before)) piece :: body := by
  have hlines := ofPieces_append 0 0 before (piece :: behind)
  rw [← h.pieces_eq, Line.ofPieces, Nat.zero_add, Nat.zero_add] at hlines
  have hnot :
      ¬ (Line.ofPiece before.length (utf8Length (terminated before)) piece).isBlank = true :=
    fun hblank => h.not_blank ((isBlank_ofPiece _ _ _).mp hblank)
  have hsource : Line.ofSource source = Line.ofPieces 0 0 (piecesOf source) := rfl
  rw [hsource, hlines, List.dropWhile_append_of_pos (isBlank_of_mem_ofPieces h.blank),
    List.dropWhile_cons_of_neg hnot]
  exact ⟨_, rfl⟩

/-- The template on a line, as the line is written. -/
lemma argumentOf?_ofPiece_iff (number start : Nat) (k : Keyword) :
    (Line.ofPiece number start piece).argumentOf? k = some template ↔
      k.Introduces (trim piece) template := by
  rw [argumentOf?_eq_some_iff, text_ofPiece, splitArgument_eq_some_iff (trimmed_trim piece)]

lemma FirstPiece.parse_of_introduces (h : FirstPiece source before piece behind)
    (htemplate : Keyword.infographic.Introduces (trim piece) template) :
    ∃ d, parse source = .ok d ∧ d.template = String.ofList template := by
  obtain ⟨body, hdrop⟩ := h.dropWhile_eq
  have hargument := (argumentOf?_ofPiece_iff before.length (utf8Length (terminated before)) _).mpr
    htemplate
  refine ⟨(Outline.read {} body).toDocument template, ?_, rfl⟩
  rw [parse, Outline.ofSource, hdrop]
  simp only [hargument]
  rfl

lemma FirstPiece.parse_of_not_introduces (h : FirstPiece source before piece behind)
    (hnot : ∀ template, ¬ Keyword.infographic.Introduces (trim piece) template) :
    ∃ e, parse source = .error e ∧ e.PointsAt source before piece := by
  obtain ⟨body, hdrop⟩ := h.dropWhile_eq
  have hargument : (Line.ofPiece before.length (utf8Length (terminated before)) piece).argumentOf?
      .infographic = none := by
    rw [Option.eq_none_iff_forall_ne_some]
    intro template htemplate
    exact hnot template ((argumentOf?_ofPiece_iff _ _ _).mp htemplate)
  refine ⟨_, ?_, Line.pointsAt_of_pieces h.pieces_eq before.length⟩
  rw [parse, Outline.ofSource, hdrop]
  simp only [hargument]
  rfl

/-- An error about a line has the bounds of the bytes of that line. -/
lemma FirstPiece.bounds_of_parse {e : HeaderError} (h : FirstPiece source before piece behind)
    (he : parse source = .error e) :
    e.start = utf8Length (terminated before) ∧
      e.stop = e.start + utf8Length (Line.stripReturn piece) := by
  obtain ⟨body, hdrop⟩ := h.dropWhile_eq
  rw [parse, Outline.ofSource, hdrop] at he
  cases hargument : (Line.ofPiece before.length (utf8Length (terminated before)) piece).argumentOf?
      .infographic with
  | some template =>
    simp only [hargument] at he
    cases he
  | none =>
    simp only [hargument] at he
    cases he
    exact ⟨rfl, rfl⟩

/-- **Reading fails only at the header, and the error points at it.** A source is rejected iff all
its lines are blank or the first one that is not has no template, whatever stands before and behind
that line; otherwise the template is the one on that line. If all lines are blank, then the error
points at the start of the source. Else it points at the first line that is not blank: its bounds
lie in the source at characters, and the line stands between them.

**Proof sketch.** The reader leaves out the blank lines and looks for the argument of the line that
follows (`FirstPiece.dropWhile_eq`, `argumentOf?_ofPiece_iff`); the lines below it are read in any
case. The line starts behind the bytes before it (`ofPieces_append`), and the source is the text
before the line, the line and the text behind it (`exists_toList_eq`). -/
theorem parse_header (source : String) :
    ((∃ e, parse source = .error e) ↔
      (∀ p ∈ piecesOf source, Blank p) ∨
        ∃ before piece behind, FirstPiece source before piece behind ∧
          ∀ template, ¬ Keyword.infographic.Introduces (trim piece) template) ∧
    ((∀ p ∈ piecesOf source, Blank p) → parse source = .error { start := 0, stop := 0 }) ∧
    ∀ before piece behind, FirstPiece source before piece behind →
      (∀ template, Keyword.infographic.Introduces (trim piece) template →
        ∃ d, parse source = .ok d ∧ d.template = String.ofList template) ∧
      ((∀ template, ¬ Keyword.infographic.Introduces (trim piece) template) →
        ∃ e, parse source = .error e ∧ e.PointsAt source before piece) ∧
      ∀ source' before' behind', FirstPiece source' before' piece behind' →
        (parse source').toOption.map (·.template) = (parse source).toOption.map (·.template) := by
  refine ⟨⟨?_, ?_⟩, parse_of_blank, fun before piece behind hfirst => ⟨?_, ?_, ?_⟩⟩
  · rintro ⟨e, he⟩
    rcases blank_or_exists_firstPiece source with hblank | ⟨before, piece, behind, hfirst⟩
    · exact .inl hblank
    · refine .inr ⟨before, piece, behind, hfirst, fun template htemplate => ?_⟩
      obtain ⟨d, hd, -⟩ := hfirst.parse_of_introduces htemplate
      rw [he] at hd
      cases hd
  · rintro (hblank | ⟨before, piece, behind, hfirst, hnot⟩)
    · exact ⟨_, parse_of_blank hblank⟩
    · obtain ⟨e, he, -⟩ := hfirst.parse_of_not_introduces hnot
      exact ⟨e, he⟩
  · exact fun template => hfirst.parse_of_introduces
  · exact hfirst.parse_of_not_introduces
  · intro source' before' behind' hfirst'
    by_cases htemplate : ∃ template, Keyword.infographic.Introduces (trim piece) template
    · obtain ⟨template, htemplate⟩ := htemplate
      obtain ⟨d, hd, hname⟩ := hfirst.parse_of_introduces htemplate
      obtain ⟨d', hd', hname'⟩ := hfirst'.parse_of_introduces htemplate
      rw [hd, hd']
      exact congrArg some (hname'.trans hname.symm)
    · push Not at htemplate
      obtain ⟨e, he, -⟩ := hfirst.parse_of_not_introduces htemplate
      obtain ⟨e', he', -⟩ := hfirst'.parse_of_not_introduces htemplate
      rw [he, he']
      rfl

/-- A blank line with white space of three bytes, and a line that names no template since white
space beyond ASCII follows the keyword. -/
example : (match parse "\u3000\r\n\tinfographic\u2003x\r\ndata" with
    | .ok _ => none
    | .error e => some e) = some { start := 5, stop := 21 } := by
  decide +kernel

end First

end Placard
