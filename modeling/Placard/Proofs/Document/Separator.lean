import Placard.Proofs.Document.Argument
import Placard.Proofs.Document.Realign
import Placard.Proofs.Document.Shift

set_option relaxedAutoImplicit false
set_option autoImplicit false

/-!
# White space behind keywords

A keyword and its argument are separated by white space. The dash is recognised in front of any
white space, and a keyword made of letters in front of white space below U+0080 only: in front of
any other white space its letters are a word without a meaning, and the line says nothing. Apart
from that it does not matter which white space stands behind a keyword, nor how much of it.

## Main definitions

* `Placard.Respaced`: two pieces of a source that differ in the white space behind keywords.

## Main results

* `Placard.splitArgument_separated`: a keyword and its argument, separated by white space.
* `Placard.alike_of_respaced`: respaced pieces make lines that say the same.
* `Placard.parse_respaced`: how keywords are recognised, and that respaced sources stand for the
  same document or are rejected at the same byte.
-/

namespace Placard

open Text

/-- White space that separates a keyword from its argument. -/
structure IsGap (gap : List Char) : Prop where
  /-- There is some. -/
  ne_nil : gap ≠ []
  /-- It is white. -/
  white : ∀ c ∈ gap, isWhite c = true

/-- Two pieces of a source that differ at most in the white space behind the keyword at the start of
the line, or behind the dash and the keyword `label` that follows it. White space that ends the
keyword is replaced by white space that ends it. -/
inductive Respaced : List Char → List Char → Prop
  /-- Nothing is replaced. -/
  | refl (piece : List Char) : Respaced piece piece
  /-- White space behind a keyword is replaced. -/
  | behindKeyword {us gap gap' : List Char} (k : Keyword) (rest : List Char)
    (hus : ∀ c ∈ us, isWhite c = true) (hgap : IsGap gap) (hgap' : IsGap gap')
    (hends : k.endsBefore gap' = k.endsBefore gap) :
    Respaced (us ++ (k.spelling.toList ++ (gap ++ rest)))
      (us ++ (k.spelling.toList ++ (gap' ++ rest)))
  /-- White space behind a dash and behind the keyword of a label is replaced. -/
  | behindLabel {us between between' gap gap' : List Char} (rest : List Char)
    (hus : ∀ c ∈ us, isWhite c = true) (hbetween : IsGap between) (hbetween' : IsGap between')
    (hgap : IsGap gap) (hgap' : IsGap gap') (hends : Keyword.label.endsBefore gap = true)
    (hends' : Keyword.label.endsBefore gap' = true) :
    Respaced
      (us ++ (Keyword.dash.spelling.toList ++
        (between ++ (Keyword.label.spelling.toList ++ (gap ++ rest)))))
      (us ++ (Keyword.dash.spelling.toList ++
        (between' ++ (Keyword.label.spelling.toList ++ (gap' ++ rest)))))

/-- What a keyword is read as in front of a white space character: the dash as itself, and a keyword
made of letters as itself if the character is below U+0080, else as a word without a meaning. -/
def Keyword.readBefore (k : Keyword) (w : Char) : Head :=
  if k = .dash ∨ isAsciiWhite w = true then .keyword k else .word

section Trim

variable {ws us gap gap' rest : List Char} {k : Keyword}

lemma trimEnd_append_of_forall (h : ∀ c ∈ ws, isWhite c = false) (cs : List Char) :
    trimEnd (ws ++ cs) = ws ++ trimEnd cs := by
  induction ws with
  | nil => rfl
  | cons c ws ih =>
    obtain ⟨hc, hws⟩ := List.forall_mem_cons.mp h
    rw [List.cons_append, trimEnd_cons, ih hws, hc, Bool.and_false]
    rfl

/-- What trimming leaves of a text that starts with white space and a keyword. -/
lemma trim_keyword_append (hus : ∀ c ∈ us, isWhite c = true) (k : Keyword) (rest : List Char) :
    trim (us ++ (k.spelling.toList ++ rest)) = k.spelling.toList ++ trimEnd rest := by
  have hspelling := isWhite_of_mem_spelling k
  have hhead : ∀ c ∈ (k.spelling.toList ++ rest).head?, isWhite c = false := by
    rw [List.head?_append_of_ne_nil _ (spelling_ne_nil k)]
    exact fun c hc => hspelling c (List.mem_of_mem_head? hc)
  rw [trim_white_append hus, trim, trimStart_of_head hhead, trimEnd_append_of_forall hspelling]

lemma trim_trimEnd (cs : List Char) : trim (trimEnd cs) = trim cs := by
  obtain ⟨ws, hws, hcs⟩ := exists_trimEnd_append cs
  rw [← trim_append_white hws, hcs]

lemma trimEnd_append_of_ne_nil {cs : List Char} (h : trimEnd cs ≠ []) (ws : List Char) :
    trimEnd (ws ++ cs) = ws ++ trimEnd cs := by
  induction ws with
  | nil => rfl
  | cons c ws ih =>
    have hne : (ws ++ trimEnd cs).isEmpty = false :=
      List.isEmpty_eq_false_iff.mpr (List.append_ne_nil_of_right_ne_nil _ h)
    rw [List.cons_append, trimEnd_cons, ih, hne, Bool.false_and]
    rfl

/-- What is left of a separator and an argument when the white space behind them is trimmed away:
nothing, or a text that starts like the separator and has the argument in it. -/
lemma trimEnd_gap_append (hgap : IsGap gap) (rest : List Char) :
    (trim rest = [] ∧ trimEnd (gap ++ rest) = []) ∨
      (trim rest ≠ [] ∧ trimEnd (gap ++ rest) ≠ [] ∧
        (trimEnd (gap ++ rest)).head? = gap.head? ∧
        argumentIn (trimEnd (gap ++ rest)) = some (trim rest)) := by
  by_cases hblank : trim rest = []
  · have hall : ∀ c ∈ gap ++ rest, isWhite c = true :=
      List.forall_mem_append.mpr ⟨hgap.white, trim_eq_nil_iff.mp hblank⟩
    exact .inl ⟨hblank, trimEnd_eq_nil hall⟩
  · have hrest : trimEnd rest ≠ [] := by
      intro hnil
      have htrim := trim_trimEnd rest
      rw [hnil] at htrim
      exact hblank htrim.symm
    have hhead : (gap ++ trimEnd rest).head? = gap.head? :=
      List.head?_append_of_ne_nil _ hgap.ne_nil
    have hany : (gap ++ trimEnd rest).head?.any isWhite = true := by
      obtain ⟨c, cs, rfl⟩ := List.exists_cons_of_ne_nil hgap.ne_nil
      exact hgap.white c List.mem_cons_self
    have hargument : trim (gap ++ trimEnd rest) = trim rest := by
      rw [trim_white_append hgap.white, trim_trimEnd]
    have hempty : (trim rest).isEmpty = false := List.isEmpty_eq_false_iff.mpr hblank
    rw [trimEnd_append_of_ne_nil hrest]
    refine .inr ⟨hblank, List.append_ne_nil_of_left_ne_nil hgap.ne_nil _, hhead, ?_⟩
    simp only [argumentIn, hany, hargument, hempty, if_true, Bool.false_eq_true, if_false]

/-- Of what is left, only the start depends on the separator. -/
lemma trimEnd_gap_append_congr (hgap : IsGap gap) (hgap' : IsGap gap') (rest : List Char) :
    (trimEnd (gap' ++ rest)).isEmpty = (trimEnd (gap ++ rest)).isEmpty ∧
      argumentIn (trimEnd (gap' ++ rest)) = argumentIn (trimEnd (gap ++ rest)) := by
  rcases trimEnd_gap_append hgap rest with ⟨hblank, hnil⟩ | ⟨hblank, hne, -, hargument⟩
  · rcases trimEnd_gap_append hgap' rest with ⟨-, hnil'⟩ | ⟨hblank', -⟩
    · exact ⟨by rw [hnil, hnil'], by rw [hnil, hnil']⟩
    · exact absurd hblank hblank'
  · rcases trimEnd_gap_append hgap' rest with ⟨hblank', -⟩ | ⟨-, hne', -, hargument'⟩
    · exact absurd hblank' hblank
    · refine ⟨?_, by rw [hargument, hargument']⟩
      rw [List.isEmpty_eq_false_iff.mpr hne, List.isEmpty_eq_false_iff.mpr hne']

end Trim

/-! ### Lines with a separator -/

section Lines

variable {us gap gap' rest : List Char} {k : Keyword} {l l' : Line} {number start : Nat}

/-- What the line of a piece with a separator behind a keyword says: the keyword alone, or what the
keyword is read as in front of the separator, with its argument. -/
lemma split_separated (hgap : IsGap gap) (k : Keyword) (rest : List Char) :
    Head.split (k.spelling.toList ++ trimEnd (gap ++ rest)) =
      some (if trim rest = [] ∨ k.endsBefore gap = true then .keyword k else .word,
        trimEnd (gap ++ rest)) := by
  rcases trimEnd_gap_append hgap rest with ⟨hblank, hnil⟩ | ⟨hblank, -, hhead, -⟩
  · have hends : k.endsBefore [] = true := by simp [Keyword.endsBefore]
    rw [hnil, split_spelling_append k (by simp) hends, if_pos (.inl hblank)]
  · have hwhite : ∀ c ∈ (trimEnd (gap ++ rest)).head?, isWhite c = true := by
      rw [hhead]
      exact fun c hc => hgap.white c (List.mem_of_mem_head? hc)
    have hends : k.endsBefore (trimEnd (gap ++ rest)) = k.endsBefore gap := by
      rw [Keyword.endsBefore, Keyword.endsBefore, hhead]
    rw [split_spelling_append_eq k hwhite, hends]
    simp [hblank]

lemma text_separated (hus : ∀ c ∈ us, isWhite c = true) (number start : Nat) (rest : List Char) :
    (Line.ofPiece number start (us ++ (k.spelling.toList ++ rest))).text =
      k.spelling.toList ++ trimEnd rest := by
  rw [text_ofPiece, trim_keyword_append hus]

lemma indent_separated (hus : ∀ c ∈ us, isWhite c = true) (number start : Nat) (rest : List Char) :
    (Line.ofPiece number start (us ++ (k.spelling.toList ++ rest))).indent = us.length := by
  have hhead : ∀ c ∈ (k.spelling.toList ++ rest).head?, isWhite c = false := by
    rw [List.head?_append_of_ne_nil _ (spelling_ne_nil k)]
    exact fun c hc => isWhite_of_mem_spelling k c (List.mem_of_mem_head? hc)
  have hne : trim (us ++ (k.spelling.toList ++ rest)) ≠ [] := by
    rw [trim_keyword_append hus]
    exact List.append_ne_nil_of_left_ne_nil (spelling_ne_nil k) _
  rw [indent_ofPiece number start hne, takeWhile_white_append hus hhead]

lemma isBlank_separated (hus : ∀ c ∈ us, isWhite c = true) (number start : Nat)
    (rest : List Char) :
    (Line.ofPiece number start (us ++ (k.spelling.toList ++ rest))).isBlank = false := by
  rw [Line.isBlank, text_separated hus, List.isEmpty_eq_false_iff]
  exact List.append_ne_nil_of_left_ne_nil (spelling_ne_nil k) _

/-- Lines with the same head and the same argument say the same. -/
lemma alike_of_split {head : Head} {behind behind' : List Char}
    (h : Head.split l.text = some (head, behind)) (h' : Head.split l'.text = some (head, behind'))
    (hempty : behind'.isEmpty = behind.isEmpty) (hargument : argumentIn behind' = argumentIn behind)
    (hindent : l'.indent = l.indent) : Line.Alike 0 l l' := by
  have hargumentOf : ∀ k, l'.argumentOf? k = l.argumentOf? k := by
    intro k
    simp only [Line.argumentOf?, Line.head?, Line.argument?, Line.rest, h, h', Option.map_some,
      Option.getD_some, hargument]
  refine ⟨fun k => ?_, fun k _ => hargumentOf k, ?_, ?_⟩
  · simp only [Line.isBare, Line.isBareHead, Line.head?, Line.rest, h, h', Option.map_some,
      Option.getD_some, hempty]
  · rw [Line.label?, Line.label?, hargumentOf]
    rfl
  · rw [hindent, Int.add_zero]

/-- What a line with a dash and something behind it says: the label, and nothing else. -/
lemma says_of_split_dash {behind header : List Char}
    (h : Head.split l.text = some (.keyword .dash, behind)) (hbehind : behind ≠ [])
    (hheader : argumentIn behind = some header) :
    (∀ k, l.isBare k = false) ∧ (∀ k, k ≠ .dash → l.argumentOf? k = none) ∧
      l.label? = some (Entry.headerLabel { line := l, header }) := by
  have hempty : behind.isEmpty = false := List.isEmpty_eq_false_iff.mpr hbehind
  refine ⟨fun k => ?_, fun k hk => ?_, ?_⟩
  · simp [Line.isBare, Line.isBareHead, Line.rest, h, hempty]
  · simp [Line.argumentOf?, Line.head?, h, Ne.symm hk]
  · simp [Line.label?, Line.argumentOf?, Line.head?, Line.argument?, Line.rest, h, hheader]

/-- The label behind a dash, written with the keyword: the argument of the keyword, or the keyword
itself if it has none. -/
lemma headerLabel_separated (hgap : IsGap gap) (hends : Keyword.label.endsBefore gap = true)
    (l : Line) (rest : List Char) :
    Entry.headerLabel
        { line := l, header := Keyword.label.spelling.toList ++ trimEnd (gap ++ rest) } =
      if trim rest = [] then Keyword.label.spelling.toList else trim rest := by
  have hsplit := split_separated hgap .label rest
  rw [if_pos (.inr hends)] at hsplit
  rw [Entry.headerLabel, Head.splitArgument, hsplit]
  rcases trimEnd_gap_append hgap rest with ⟨hblank, hnil⟩ | ⟨hblank, -, -, hargument⟩
  · simp [hblank, hnil, argumentIn]
  · simp [hblank, hargument]

/-- What a line with a dash and the keyword of a label says does not depend on the separators. -/
lemma says_of_label {between : List Char} (hus : ∀ c ∈ us, isWhite c = true)
    (hbetween : IsGap between) (hgap : IsGap gap) (hends : Keyword.label.endsBefore gap = true)
    (number start : Nat) (rest : List Char) :
    let l := Line.ofPiece number start (us ++ (Keyword.dash.spelling.toList ++
      (between ++ (Keyword.label.spelling.toList ++ (gap ++ rest)))))
    (∀ k, l.isBare k = false) ∧ (∀ k, k ≠ .dash → l.argumentOf? k = none) ∧
      l.label? = some (if trim rest = [] then Keyword.label.spelling.toList else trim rest) := by
  intro l
  have hheader : trim (Keyword.label.spelling.toList ++ (gap ++ rest)) =
      Keyword.label.spelling.toList ++ trimEnd (gap ++ rest) :=
    trim_keyword_append (List.forall_mem_nil _) .label (gap ++ rest)
  have hne : trim (Keyword.label.spelling.toList ++ (gap ++ rest)) ≠ [] := by
    rw [hheader]
    exact List.append_ne_nil_of_left_ne_nil (spelling_ne_nil .label) _
  have hsplit := split_separated hbetween .dash (Keyword.label.spelling.toList ++ (gap ++ rest))
  rw [if_pos (.inr rfl), ← text_separated hus number start] at hsplit
  rcases trimEnd_gap_append hbetween (Keyword.label.spelling.toList ++ (gap ++ rest)) with
    ⟨hblank, -⟩ | ⟨-, hbehind, -, hargument⟩
  · exact absurd hblank hne
  · rw [hheader] at hargument
    obtain ⟨hbare, hnone, hlabel⟩ := says_of_split_dash hsplit hbehind hargument
    exact ⟨hbare, hnone, hlabel.trans (congrArg some (headerLabel_separated hgap hends l rest))⟩

end Lines

/-! ### Respaced sources -/

section Respaced

variable {p p' : List Char} {ps ps' : List (List Char)} {source source' : String}

/-- Respaced pieces make lines that say the same, and both are blank or none. -/
lemma alike_of_respaced (h : Respaced p p') (number start number' start' : Nat) :
    Line.Alike 0 (Line.ofPiece number start p) (Line.ofPiece number' start' p') ∧
      (Line.ofPiece number' start' p').isBlank = (Line.ofPiece number start p).isBlank := by
  cases h with
  | refl =>
    have htext := (text_ofPiece number' start' p).trans (text_ofPiece number start p).symm
    exact ⟨Line.Shifted.alike ⟨htext, (Int.add_zero _).symm⟩, congrArg List.isEmpty htext⟩
  | behindKeyword k rest hus hgap hgap' hends =>
    rename_i us gap gap'
    have hsplit := split_separated hgap k rest
    have hsplit' := split_separated hgap' k rest
    rw [hends, ← text_separated hus number' start'] at hsplit'
    rw [← text_separated hus number start] at hsplit
    obtain ⟨hempty, hargument⟩ := trimEnd_gap_append_congr hgap hgap' rest
    refine ⟨alike_of_split hsplit hsplit' hempty hargument ?_, ?_⟩
    · rw [indent_separated hus, indent_separated hus]
    · rw [isBlank_separated hus, isBlank_separated hus]
  | behindLabel rest hus hbetween hbetween' hgap hgap' hends hends' =>
    have hline := says_of_label hus hbetween hgap hends number start rest
    have hline' := says_of_label hus hbetween' hgap' hends' number' start' rest
    refine ⟨⟨fun k => ?_, fun k hk => ?_, ?_, ?_⟩, ?_⟩
    · rw [hline.1, hline'.1]
    · rw [hline.2.1 k hk, hline'.2.1 k hk]
    · rw [hline.2.2, hline'.2.2]
    · rw [indent_separated hus, indent_separated hus, Int.add_zero]
    · rw [isBlank_separated hus, isBlank_separated hus]

lemma nonBlank_respaced (h : List.Forall₂ Respaced ps ps') (number start number' start' : Nat) :
    List.Forall₂ (Line.Alike 0) (nonBlank (Line.ofPieces number start ps))
      (nonBlank (Line.ofPieces number' start' ps')) := by
  induction h generalizing number start number' start' with
  | nil => exact .nil
  | @cons p p' ps ps' hp _ ih =>
    obtain ⟨halike, hblank⟩ := alike_of_respaced hp number start number' start'
    rw [Line.ofPieces, Line.ofPieces]
    cases hb : (Line.ofPiece number start p).isBlank with
    | true =>
      rw [nonBlank_cons_of_isBlank hb, nonBlank_cons_of_isBlank (hblank.trans hb)]
      exact ih _ _ _ _
    | false =>
      rw [nonBlank_cons_of_not_isBlank hb, nonBlank_cons_of_not_isBlank (hblank.trans hb)]
      exact .cons halike (ih _ _ _ _)

/-- Respaced sources stand for the same document, or both are rejected. -/
lemma parse_toOption_of_respaced (h : List.Forall₂ Respaced (piecesOf source) (piecesOf source')) :
    (parse source').toOption = (parse source).toOption := by
  have hlines : List.Forall₂ (Line.Alike 0) (nonBlank (Line.ofSource source))
      (nonBlank (Line.ofSource source')) := nonBlank_respaced h 0 0 0 0
  rw [parse_eq_documentOf, parse_eq_documentOf, headed?, headed?]
  generalize nonBlank (Line.ofSource source) = ls, nonBlank (Line.ofSource source') = ls' at hlines
  cases hlines with
  | nil => rfl
  | @cons header header' body body' hheader hbody =>
    simp only [hheader.argument .infographic (by decide), Option.map_map, Function.comp_def,
      documentOf_alike _ hbody]

/-- A line that is blank has no keyword, so nothing is replaced on it. -/
lemma eq_of_respaced_of_isBlank {number start : Nat} (h : Respaced p p')
    (hblank : (Line.ofPiece number start p).isBlank = true) : p' = p := by
  cases h with
  | refl => rfl
  | behindKeyword k rest hus hgap hgap' hends =>
    rw [isBlank_separated hus] at hblank
    cases hblank
  | behindLabel rest hus hbetween hbetween' hgap hgap' hends hends' =>
    rw [isBlank_separated hus] at hblank
    cases hblank

/-- The first line that is not blank starts at the same byte. -/
lemma start_respaced (h : List.Forall₂ Respaced ps ps') (number start : Nat) :
    ((Line.ofPieces number start ps').dropWhile (·.isBlank)).head?.map (·.start) =
      ((Line.ofPieces number start ps).dropWhile (·.isBlank)).head?.map (·.start) := by
  induction h generalizing number start with
  | nil => rfl
  | @cons p p' ps ps' hp _ ih =>
    obtain ⟨-, hblank⟩ := alike_of_respaced hp number start number start
    rw [Line.ofPieces, Line.ofPieces]
    cases hb : (Line.ofPiece number start p).isBlank with
    | true =>
      obtain rfl := eq_of_respaced_of_isBlank hp hb
      rw [List.dropWhile_cons_of_pos hb, List.dropWhile_cons_of_pos hb]
      exact ih _ _
    | false =>
      rw [List.dropWhile_cons_of_neg (by simp [hblank, hb]),
        List.dropWhile_cons_of_neg (by simp [hb])]
      rfl

/-- A rejected source is rejected at its first line that is not blank. -/
lemma start_of_parse_eq_error {e : HeaderError} (h : parse source = .error e) :
    e.start = (((Line.ofSource source).dropWhile (·.isBlank)).head?.map (·.start)).getD 0 := by
  rw [parse, Outline.ofSource] at h
  cases hlines : (Line.ofSource source).dropWhile (·.isBlank) with
  | nil =>
    rw [hlines] at h
    cases h
    rfl
  | cons header body =>
    rw [hlines] at h
    cases hargument : header.argumentOf? .infographic with
    | none =>
      simp only [hargument] at h
      cases h
      rfl
    | some template =>
      simp only [hargument] at h
      cases h

/-- Respaced sources stand for the same document, or both are rejected at the same byte. -/
lemma parse_mapError_of_respaced
    (h : List.Forall₂ Respaced (piecesOf source) (piecesOf source')) :
    (parse source').mapError (·.start) = (parse source).mapError (·.start) := by
  have hdocument := parse_toOption_of_respaced h
  have hstart := start_respaced h 0 0
  cases hparse : parse source with
  | ok document =>
    cases hparse' : parse source' with
    | ok document' =>
      rw [hparse, hparse'] at hdocument
      exact congrArg Except.ok (Option.some_inj.mp hdocument)
    | error e' =>
      rw [hparse, hparse'] at hdocument
      cases hdocument
  | error e =>
    cases hparse' : parse source' with
    | ok document' =>
      rw [hparse, hparse'] at hdocument
      cases hdocument
    | error e' =>
      have he := start_of_parse_eq_error hparse
      have he' := start_of_parse_eq_error hparse'
      rw [Line.ofSource, ← piecesOf] at he he'
      rw [hstart, ← he] at he'
      exact congrArg Except.error he'

end Respaced

/-! ### How keywords are recognised -/

section Recognised

variable {us rest : List Char} {k : Keyword} {w : Char}

lemma isGap_singleton (hw : isWhite w = true) : IsGap [w] :=
  ⟨List.cons_ne_nil _ _, List.forall_mem_singleton.mpr hw⟩

lemma readBefore_eq (k : Keyword) (w : Char) (rest : List Char) :
    (if k.endsBefore (w :: rest) = true then .keyword k else .word) = k.readBefore w := by
  unfold Keyword.readBefore Keyword.endsBefore
  simp

lemma readBefore_eq_keyword_iff :
    k.readBefore w = .keyword k ↔ k = .dash ∨ isAsciiWhite w = true := by
  unfold Keyword.readBefore
  split <;> simp [*]

/-- A keyword at the start of a text, and its argument. -/
lemma splitArgument_separated (k : Keyword) (hw : isWhite w = true) (hrest : trim rest ≠ []) :
    Head.splitArgument (k.spelling.toList ++ w :: rest) =
      (some (k.readBefore w), some (trim rest)) := by
  have hwhite : ∀ c ∈ (w :: rest).head?, isWhite c = true := by simpa using hw
  have htrim : trim ([w] ++ rest) = trim rest :=
    trim_white_append (List.forall_mem_singleton.mpr hw) rest
  rw [List.singleton_append] at htrim
  rw [Head.splitArgument, split_spelling_append_eq k hwhite, readBefore_eq]
  simp [argumentIn, hw, htrim, hrest]

/-- The line of a piece with a keyword and an argument. -/
lemma ofPiece_separated (hus : ∀ c ∈ us, isWhite c = true) (hw : isWhite w = true)
    (hrest : trim rest ≠ []) (k : Keyword) (number start : Nat) :
    let l := Line.ofPiece number start (us ++ (k.spelling.toList ++ w :: rest))
    l.head? = some (k.readBefore w) ∧ l.argument? = some (trim rest) := by
  have hgap := isGap_singleton hw
  have hsplit := split_separated hgap k rest
  rw [← text_separated hus number start, List.singleton_append] at hsplit
  rcases trimEnd_gap_append hgap rest with ⟨hblank, -⟩ | ⟨-, -, -, hargument⟩
  · exact absurd hblank hrest
  · rw [List.singleton_append] at hargument
    simp only [Line.head?, Line.argument?, Line.rest, hsplit, hargument, hrest, false_or,
      readBefore_eq, Option.map_some, Option.getD_some, and_self]

end Recognised

/-- **White space behind keywords.** On a line with a keyword, white space and a text that is not
blank, the text is the argument of the keyword iff the first of the white space characters ends the
keyword: any does behind the dash, and behind a keyword made of letters those below U+0080 do. In
front of the others the letters are a word without a meaning. It is the same behind the dash of an
entry. Replacing the white space behind keywords, here and on any other line of the source, by other
white space that ends them changes neither the document nor, if the source is rejected, the place
where the error starts.

**Proof sketch.** The head of a text is its longest run of characters that are not white, and the
argument is trimmed (`splitArgument_separated`, `ofPiece_separated`). So respaced lines say the same
(`alike_of_respaced`), and stand for the same document (`documentOf_alike`). -/
theorem parse_respaced {source : String} {i : Nat} {us rest : List Char} {k : Keyword} {w : Char}
    (hus : ∀ c ∈ us, isWhite c = true) (hw : isWhite w = true) (hrest : trim rest ≠ [])
    (hpiece : (piecesOf source)[i]? = some (us ++ (k.spelling.toList ++ w :: rest))) :
    (Head.splitArgument (k.spelling.toList ++ w :: rest) =
        (some (.keyword k), some (trim rest)) ↔ k = .dash ∨ isAsciiWhite w = true) ∧
      Head.splitArgument (k.spelling.toList ++ w :: rest) =
        (some (k.readBefore w), some (trim rest)) ∧
      (∃ l, (Line.ofSource source)[i]? = some l ∧ l.head? = some (k.readBefore w) ∧
        l.argument? = some (trim rest) ∧
        ∀ k', l.argumentOf? k' =
          if k.readBefore w = .keyword k' then some (trim rest) else none) ∧
      ∀ source' : String, List.Forall₂ Respaced (piecesOf source) (piecesOf source') →
        (parse source').mapError (·.start) = (parse source).mapError (·.start) := by
  have hsplit := splitArgument_separated k hw hrest
  refine ⟨?_, hsplit, ?_, fun source' h => parse_mapError_of_respaced h⟩
  · rw [hsplit, Prod.mk.injEq, Option.some_inj, ← readBefore_eq_keyword_iff]
    exact and_iff_left rfl
  · obtain ⟨number, start, hline⟩ := getElem?_ofPieces 0 0 i (piecesOf source)
    obtain ⟨hhead, hargument⟩ := ofPiece_separated hus hw hrest k number start
    rw [hpiece, Option.map_some] at hline
    refine ⟨_, hline, hhead, hargument, fun k' => ?_⟩
    rw [Line.argumentOf?, hhead, hargument]
    simp only [Option.some_inj]

/-- A source with spaces behind its keywords, and one with other white space behind two of them and
a dash. -/
theorem parse_respaced_sample :
    Head.splitArgument "theme dark".toList = (some (.keyword .theme), some "dark".toList) ∧
    (parse "infographic x\ntheme \u3000dark\ndata\n  items\n    -\u3000label\t A").mapError
        (·.start) =
      (parse "infographic x\ntheme dark\ndata\n  items\n    - label A").mapError (·.start) := by
  have hspaces : piecesOf "infographic x\ntheme dark\ndata\n  items\n    - label A" =
      ["infographic x".toList,
        [] ++ (Keyword.theme.spelling.toList ++ ([' '] ++ "dark".toList)),
        "data".toList, "  items".toList,
        "    ".toList ++ (Keyword.dash.spelling.toList ++
          ([' '] ++ (Keyword.label.spelling.toList ++ ([' '] ++ ['A']))))] := by
    decide +kernel
  have hothers :
      piecesOf "infographic x\ntheme \u3000dark\ndata\n  items\n    -\u3000label\t A" =
        ["infographic x".toList,
          [] ++ (Keyword.theme.spelling.toList ++ ([' ', '\u3000'] ++ "dark".toList)),
          "data".toList, "  items".toList,
          "    ".toList ++ (Keyword.dash.spelling.toList ++
            (['\u3000'] ++ (Keyword.label.spelling.toList ++ (['\t', ' '] ++ ['A']))))] := by
    decide +kernel
  have hpiece : (piecesOf "infographic x\ntheme dark\ndata\n  items\n    - label A")[1]? =
      some ([] ++ (Keyword.theme.spelling.toList ++ ' ' :: "dark".toList)) := by
    rw [hspaces]
    rfl
  have hsample := parse_respaced (List.forall_mem_nil _) rfl (by decide) hpiece
  refine ⟨hsample.1.mpr (.inr rfl), hsample.2.2.2 _ ?_⟩
  have htheme : IsGap [' ', '\u3000'] := ⟨List.cons_ne_nil _ _, List.all_eq_true.mp rfl⟩
  have hlabel : IsGap ['\t', ' '] := ⟨List.cons_ne_nil _ _, List.all_eq_true.mp rfl⟩
  rw [hspaces, hothers]
  refine .cons (.refl _) (.cons (.behindKeyword .theme _ ?_ (isGap_singleton rfl) htheme rfl)
    (.cons (.refl _) (.cons (.refl _) (.cons (.behindLabel _ ?_ (isGap_singleton rfl)
      (isGap_singleton rfl) (isGap_singleton rfl) hlabel rfl rfl) .nil))))
  · exact List.forall_mem_nil _
  · exact List.all_eq_true.mp rfl

/-- In front of an ideographic space a keyword made of letters is not recognised, and the color
scheme that the line asks for is lost. -/
theorem not_keyword_before_ideographicSpace :
    ¬ (∀ (k : Keyword) (w : Char) (rest : List Char), isWhite w = true → w ≠ '\n' →
      '\n' ∉ rest → trim rest ≠ [] →
      Head.splitArgument (k.spelling.toList ++ w :: rest) =
        (some (.keyword k), some (trim rest))) ∧
    (parse "infographic x\ntheme dark").toOption.bind (·.theme) = some "dark" ∧
    (parse "infographic x\ntheme\u3000dark").toOption.bind (·.theme) = none := by
  refine ⟨fun h => ?_, by decide +kernel, by decide +kernel⟩
  have htheme := h .theme '\u3000' "dark".toList (by decide) (by decide) (by decide) (by decide)
  revert htheme
  decide

end Placard
