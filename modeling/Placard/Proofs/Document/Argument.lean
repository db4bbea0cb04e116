import Placard.Proofs.Document.Pieces
import Placard.Proofs.Document.Written

set_option relaxedAutoImplicit false
set_option autoImplicit false

/-!
# Arguments

A line carries an argument if it is a keyword, white space and the argument, and nothing else. This
file shows that the reader finds an argument on exactly these lines, and that every argument found
on a line of a source is a phrase: it is not empty, stays on its line and is trimmed.

## Main definitions

* `Placard.IsPhrase`: a text is a phrase.
* `Placard.Keyword.Introduces`: a text is a keyword with an argument.

## Main results

* `Placard.splitArgument_eq_some_iff`: the argument that the reader finds on a trimmed text.
* `Placard.isPhrase_of_argumentOf?`: the arguments on the lines of a source are phrases.
-/

namespace Placard

open Text

/-- Whether a text is a phrase: it is not empty, on one line and trimmed. -/
def IsPhrase (cs : List Char) : Prop := ∃ p : Phrase, p.chars = cs

/-- Whether a text is the keyword with an argument behind it. -/
structure Keyword.Introduces (k : Keyword) (text argument : List Char) : Prop where
  /-- The argument is not empty. -/
  ne_nil : argument ≠ []
  /-- It has no white space at its ends. -/
  trimmed : Trimmed argument
  /-- White space stands between the two, of a kind that ends the keyword. -/
  spaced : ∃ gap, gap ≠ [] ∧ (∀ c ∈ gap, isWhite c = true) ∧ k.endsBefore gap = true ∧
    text = k.spelling.toList ++ (gap ++ argument)

section Split

variable {k : Keyword} {text rest argument : List Char}

/-- The keyword that the reader finds at the start of a text is written there. -/
lemma eq_of_split (h : Head.split text = some (.keyword k, rest)) :
    text = k.spelling.toList ++ rest ∧ k.endsBefore rest = true := by
  simp only [Head.split] at h
  split at h
  · cases h
  · obtain ⟨hhead, hrest⟩ := Prod.mk.inj (Option.some.inj h)
    rw [hrest] at hhead
    simp only [Head.ofWord] at hhead
    split at hhead
    · next k' hword =>
      split at hhead
      · next hends =>
        obtain rfl : k' = k := Head.keyword.inj hhead
        have hspelling := List.find?_some hword
        rw [beq_iff_eq] at hspelling
        refine ⟨?_, hends⟩
        rw [hspelling, ← hrest, List.takeWhile_append_dropWhile]
      · cases hhead
    · cases hhead

/-- White space in front of a text and a text that is not empty end a keyword alike. -/
lemma endsBefore_append (hne : rest ≠ []) :
    k.endsBefore (rest ++ argument) = k.endsBefore rest := by
  rw [Keyword.endsBefore, Keyword.endsBefore, List.head?_append_of_ne_nil _ hne]

/-- The argument found in a text is all of the text but the white space that it starts with. -/
lemma argumentIn_eq_some_iff (hlast : ∀ c ∈ rest.getLast?, isWhite c = false) :
    argumentIn rest = some argument ↔
      argument ≠ [] ∧ Trimmed argument ∧
        ∃ gap, gap ≠ [] ∧ (∀ c ∈ gap, isWhite c = true) ∧ rest = gap ++ argument := by
  constructor
  · intro h
    rw [argumentIn] at h
    split at h
    · next hhead =>
      simp only at h
      split at h
      · cases h
      · next hempty =>
        obtain rfl : trim rest = argument := Option.some.inj h
        have hne : trim rest ≠ [] := by simpa using hempty
        obtain ⟨us, hus, hrest⟩ := exists_append_trim hlast
        refine ⟨hne, trimmed_trim rest, us, ?_, hus, hrest.symm⟩
        rintro rfl
        -- then the text would start with what trimming leaves, so with no white space
        rw [List.nil_append] at hrest
        rw [Option.any_eq_true] at hhead
        obtain ⟨c, hc, hwhite⟩ := hhead
        rw [← hrest] at hc
        rw [(trimmed_trim rest).head c hc] at hwhite
        cases hwhite
    · cases h
  · rintro ⟨hne, htrimmed, gap, hgap, hwhite, rfl⟩
    have hhead : (gap ++ argument).head?.any isWhite = true := by
      obtain ⟨c, cs, rfl⟩ := List.exists_cons_of_ne_nil hgap
      exact hwhite c List.mem_cons_self
    have hempty : argument.isEmpty = false := List.isEmpty_eq_false_iff.mpr hne
    simp only [argumentIn, hhead, trim_append_of_white hwhite htrimmed, hempty, if_true,
      Bool.false_eq_true, if_false]

/-- **The argument that the reader finds.** On a trimmed text it finds a keyword and its argument
iff the text is the keyword, white space that ends the keyword, and the argument.

**Proof sketch.** The reader cuts the text behind the keyword (`eq_of_split`,
`split_spelling_append`), and what is left is white space and the argument
(`argumentIn_eq_some_iff`). -/
theorem splitArgument_eq_some_iff (h : Trimmed text) :
    Head.splitArgument text = (some (.keyword k), some argument) ↔ k.Introduces text argument := by
  constructor
  · intro hsplit
    rw [Head.splitArgument] at hsplit
    split at hsplit
    · next head rest hfound =>
      obtain ⟨hhead, hargument⟩ := Prod.mk.inj hsplit
      obtain rfl := Option.some.inj hhead
      obtain ⟨rfl, hends⟩ := eq_of_split hfound
      have hrest : rest ≠ [] := by
        rintro rfl
        cases hargument
      have hlast : ∀ c ∈ rest.getLast?, isWhite c = false := by
        intro c hc
        apply h.last c
        rw [List.getLast?_append_of_ne_nil _ hrest]
        exact hc
      obtain ⟨hne, htrimmed, gap, hgap, hwhite, rfl⟩ := (argumentIn_eq_some_iff hlast).mp hargument
      rw [endsBefore_append hgap] at hends
      exact ⟨hne, htrimmed, gap, hgap, hwhite, hends, rfl⟩
    · cases hsplit
  · rintro ⟨hne, htrimmed, gap, hgap, hwhite, hends, rfl⟩
    have hhead : ∀ c ∈ (gap ++ argument).head?, isWhite c = true := by
      rw [List.head?_append_of_ne_nil _ hgap]
      exact fun c hc => hwhite c (List.mem_of_mem_head? hc)
    have hlast : ∀ c ∈ (gap ++ argument).getLast?, isWhite c = false := by
      rw [List.getLast?_append_of_ne_nil _ hne]
      exact htrimmed.last
    have hfound := split_spelling_append k hhead ((endsBefore_append hgap).trans hends)
    have hargument := (argumentIn_eq_some_iff hlast).mpr ⟨hne, htrimmed, gap, hgap, hwhite, rfl⟩
    simp only [Head.splitArgument, hfound, hargument]

/-- An argument stands in the text that it is found in. -/
lemma Keyword.Introduces.mem {c : Char} (h : k.Introduces text argument) (hc : c ∈ argument) :
    c ∈ text := by
  obtain ⟨gap, -, -, -, rfl⟩ := h.spaced
  exact List.mem_append_right _ (List.mem_append_right _ hc)

/-- The argument of a keyword on a line of text is a phrase. -/
lemma Keyword.Introduces.isPhrase (h : k.Introduces text argument) (hline : '\n' ∉ text) :
    IsPhrase argument :=
  ⟨⟨argument, h.ne_nil, fun hmem => hline (h.mem hmem), h.trimmed⟩, rfl⟩

end Split

section Lines

variable {source : String} {k : Keyword} {l : Line} {argument : List Char}

lemma argumentOf?_eq_some_iff :
    l.argumentOf? k = some argument ↔
      Head.splitArgument l.text = (some (.keyword k), some argument) := by
  rw [Line.argumentOf?, Line.head?, Line.argument?, Line.rest, Head.splitArgument]
  cases Head.split l.text with
  | none => simp
  | some found =>
    obtain ⟨head, rest⟩ := found
    simp

/-- The text of a line of a source is trimmed and ends no line. -/
lemma text_of_mem_ofSource (h : l ∈ Line.ofSource source) : Trimmed l.text ∧ '\n' ∉ l.text := by
  obtain ⟨p, hp, number, start, rfl⟩ := exists_ofPiece_of_mem h
  rw [text_ofPiece]
  exact ⟨trimmed_trim p, fun hmem => newline_not_mem_splitOn _ p hp (mem_of_mem_trim hmem)⟩

/-- The argument found on a line of a source, as the line is written. -/
lemma introduces_of_argumentOf? (hl : l ∈ Line.ofSource source)
    (h : l.argumentOf? k = some argument) : k.Introduces l.text argument :=
  (splitArgument_eq_some_iff (text_of_mem_ofSource hl).1).mp (argumentOf?_eq_some_iff.mp h)

/-- **Arguments are phrases**, whatever line of a source they are found on. -/
theorem isPhrase_of_argumentOf? (hl : l ∈ Line.ofSource source)
    (h : l.argumentOf? k = some argument) : IsPhrase argument :=
  (introduces_of_argumentOf? hl h).isPhrase (text_of_mem_ofSource hl).2

end Lines

end Placard
