import Placard.Proofs.Document.Realign
import Placard.Proofs.Document.Replace

set_option relaxedAutoImplicit false
set_option autoImplicit false

/-!
# Edits below an entry

The lines of a source that stand below an entry, up to the first one that is neither blank nor
indented deeper, can be replaced by any other lines of that kind. Whatever they hold, the source is
still parsed, and the document changes in the item of the entry only.

## Main definitions

* `Placard.StandsBelow`: the lines that may be written below an entry.
* `Placard.replaceBelow`: a source with new lines in the place of those below one of its lines.

## Main results

* `Placard.nonBlank_take_drop`: where a line stands in the source and among those that count.
* `Placard.parse_replaceBelow`: edits below an entry change nothing but its item.
-/

namespace Placard

open Text

/-! ## Sources -/

/-- Whether a piece of a source may be written below an entry that is indented by `indent`: it is
one line, blank or indented deeper. -/
def StandsBelow (indent : Nat) (piece : List Char) : Prop :=
  '\n' ∉ piece ∧ (Line.ofPiece 0 0 piece).continues (indent + 1) = true

instance (indent : Nat) (piece : List Char) : Decidable (StandsBelow indent piece) :=
  inferInstanceAs (Decidable (_ ∧ _))

/-- How many lines of a source stand below one of its lines: those up to the first one that is
neither blank nor indented deeper. -/
def belowCount (source : String) (l : Line) : Nat :=
  (blockLines (l.indent + 1) ((Line.ofSource source).drop (l.number + 1))).length

/-- The source with other lines in the place of those below one of its lines. -/
def replaceBelow (source : String) (l : Line) (pieces : List (List Char)) : String :=
  String.ofList (['\n'].intercalate ((piecesOf source).take (l.number + 1) ++ pieces ++
    (piecesOf source).drop (l.number + 1 + belowCount source l)))

section Pieces

variable {number start : Nat} {ps : List (List Char)} {l : Line}

lemma piecesOf_replaceBelow (source : String) (l : Line) {pieces : List (List Char)}
    (h : ∀ p ∈ pieces, '\n' ∉ p) (hl : l.number < (piecesOf source).length) :
    piecesOf (replaceBelow source l pieces) =
      (piecesOf source).take (l.number + 1) ++ pieces ++
        (piecesOf source).drop (l.number + 1 + belowCount source l) := by
  rw [piecesOf, replaceBelow, String.toList_ofList, List.splitOn_intercalate]
  · intro p hp
    simp only [List.mem_append] at hp
    obtain (hp | hp) | hp := hp
    · exact newline_not_mem_splitOn _ p (List.mem_of_mem_take hp)
    · exact h p hp
    · exact newline_not_mem_splitOn _ p (List.mem_of_mem_drop hp)
  · intro hnil
    have hlen := congrArg List.length hnil
    simp only [List.length_append, List.length_take, List.length_nil] at hlen
    omega

/-- A line comes from one of the pieces, and neither its place nor its number tell if it continues a
block. -/
lemma exists_of_mem_ofPieces (h : l ∈ Line.ofPieces number start ps) (base : Nat) :
    ∃ p ∈ ps, l.continues base = (Line.ofPiece 0 0 p).continues base := by
  obtain ⟨p, hp, number', start', rfl⟩ := exists_ofPiece_of_mem h
  exact ⟨p, hp, rfl⟩

end Pieces

section Sources

variable {source source' : String} {template : List Char} {header l : Line}
  {body before behind : List Line} {path : List Nat}

lemma margins_take (source : String) (k : Nat) :
    (nonBlank ((Line.ofSource source).take k)).map (fun l => (l.text, l.indent)) =
      marginsOf ((piecesOf source).take k) := by
  rw [Line.ofSource, take_ofPieces, nonBlank_ofPieces]
  rfl

lemma margins_drop (source : String) (k : Nat) :
    (nonBlank ((Line.ofSource source).drop k)).map (fun l => (l.text, l.indent)) =
      marginsOf ((piecesOf source).drop k) := by
  obtain ⟨number, start, hdrop⟩ := exists_drop_ofPieces 0 0 k (piecesOf source)
  rw [← nonBlank_ofPieces number start, ← hdrop]
  rfl

lemma nodup_ofSource (source : String) : (Line.ofSource source).Nodup := by
  apply List.Nodup.of_map (·.number)
  rw [Line.ofSource, map_number_ofPieces]
  exact List.nodup_range'

/-- A line stands where its number says. -/
lemma getElem?_number (h : l ∈ Line.ofSource source) :
    (Line.ofSource source)[l.number]? = some l := by
  obtain ⟨i, hi⟩ := List.mem_iff_getElem?.mp h
  rw [number_of_getElem? hi, hi]

lemma nonBlank_append (as bs : List Line) : nonBlank (as ++ bs) = nonBlank as ++ nonBlank bs :=
  List.filter_append as bs

/-- The lines before and behind one of the lines that are not blank. -/
lemma nonBlank_take_drop (h : nonBlank (Line.ofSource source) = before ++ l :: behind) :
    (Line.ofSource source)[l.number]? = some l ∧
      nonBlank ((Line.ofSource source).take (l.number + 1)) = before ++ [l] ∧
      nonBlank ((Line.ofSource source).drop (l.number + 1)) = behind := by
  have hmem : l ∈ nonBlank (Line.ofSource source) := by
    rw [h]
    exact List.mem_append_right _ List.mem_cons_self
  obtain ⟨hl, hblank⟩ := List.mem_filter.mp hmem
  have hget := getElem?_number hl
  have hnodup : (before ++ l :: behind).Nodup := h ▸ (nodup_ofSource source).filter _
  have hnotMem := List.nodup_middle.mp hnodup
  rw [List.nodup_cons, List.mem_append, not_or] at hnotMem
  have hsingle : nonBlank [l] = [l] :=
    nonBlank_cons_of_not_isBlank (by simpa using hblank)
  have htake : (Line.ofSource source).take (l.number + 1) =
      (Line.ofSource source).take l.number ++ [l] := by
    rw [List.take_add_one, hget]
    rfl
  have hsplit : nonBlank (Line.ofSource source) =
      nonBlank ((Line.ofSource source).take l.number) ++
        l :: nonBlank ((Line.ofSource source).drop (l.number + 1)) := by
    conv_lhs => rw [← List.take_append_drop (l.number + 1) (Line.ofSource source), htake]
    rw [nonBlank_append, nonBlank_append, hsingle, List.append_assoc, List.singleton_append]
  rw [h, List.append_cons_inj_of_notMem hnotMem.1.1 hnotMem.1.2] at hsplit
  refine ⟨hget, ?_, hsplit.2.2.symm⟩
  rw [htake, nonBlank_append, hsingle, hsplit.1]

/-- Leaving out the lines below a line leaves those behind the block that it opens. -/
lemma drop_belowCount (source : String) (l : Line) :
    (Line.ofSource source).drop (l.number + 1 + belowCount source l) =
      blockEnd (l.indent + 1) ((Line.ofSource source).drop (l.number + 1)) := by
  rw [← List.drop_drop, belowCount]
  generalize (Line.ofSource source).drop (l.number + 1) = ls
  conv_lhs =>
    arg 2
    rw [← blockLines_append_blockEnd (l.indent + 1) ls]
  exact List.drop_left

/-- A source is told by the margins of its lines. -/
lemma parse_of_margins (hheader : header.argumentOf? .infographic = some template)
    (h : marginsOf (piecesOf source') =
      (header :: body).map fun l => (l.text, l.indent)) :
    parse source' = .ok (documentOf template body) := by
  rw [← nonBlank_ofPieces 0 0] at h
  have hlines : Line.ofPieces 0 0 (piecesOf source') = Line.ofSource source' := rfl
  rw [hlines] at h
  have htexts := congrArg (List.map Prod.fst) h
  have hindents := congrArg (List.map fun margin => (margin.2 : ℤ)) h
  simp only [List.map_map, Function.comp_def] at htexts hindents
  have hshifted := forall₂_shifted (d := 0) htexts (by simpa using hindents)
  rw [List.forall₂_cons_left_iff] at hshifted
  obtain ⟨header', body', hheader', hbody', hsource'⟩ := hshifted
  have hheaded : headed? source' = some (template, body') := by
    rw [headed?, hsource']
    simp only [argumentOf?_of_text hheader'.text, hheader, Option.map_some]
  rw [parse_of_headed? hheaded, documentOf_shifted template hbody']

/-- The lines of a source with a valid header that are not blank. -/
lemma nonBlank_of_headed? (h : headed? source = some (template, body)) :
    ∃ header, nonBlank (Line.ofSource source) = header :: body ∧
      header.argumentOf? .infographic = some template := by
  rw [headed?] at h
  cases hlines : nonBlank (Line.ofSource source) with
  | nil =>
    rw [hlines] at h
    cases h
  | cons header below =>
    rw [hlines] at h
    obtain ⟨found, hfound, hpair⟩ := Option.map_eq_some_iff.mp h
    obtain ⟨rfl, rfl⟩ := Prod.mk.inj hpair
    exact ⟨header, rfl, hfound⟩

/-- **Edits below an entry change nothing but its item.** Take a source that is parsed, an item of
the document at any depth, and the line of its entry. The lines below that one, up to the first that
is neither blank nor indented deeper, may be replaced by any lines that are: the source is still
parsed, as a document that differs in that item only.

**Proof sketch.** The lines that are not blank are the same as before but for those in the extent of
the entry, which is a block of the document (`documentOf_replace`). -/
theorem parse_replaceBelow {d : Document} {path : List Nat} {item : Item}
    (h : parse source = .ok d) (hitem : d.item? path = some item) :
    ∃ e, entryAt? source path = some e ∧ e.toItem = item ∧
      e.line.argumentOf? .dash = some e.header ∧
      (Line.ofSource source)[e.line.number]? = some e.line ∧
      ∀ pieces, (∀ p ∈ pieces, StandsBelow e.line.indent p) →
        ∃ d', parse (replaceBelow source e.line pieces) = .ok d' ∧ d.DiffersAt path d' := by
  rw [item?_of_parse h, Option.map_eq_some_iff] at hitem
  obtain ⟨e, he, rfl⟩ := hitem
  obtain ⟨template, body, hheaded, rfl⟩ := exists_headed?_of_parse h
  have hentry := he
  rw [entryAt?_of_headed? hheaded] at hentry
  obtain ⟨before, below, behind, ⟨hstands, -⟩, hfrom, hreplace⟩ :=
    documentOf_replace template hentry
  obtain ⟨header, hlines, hheader⟩ := nonBlank_of_headed? hheaded
  rw [hstands.lines_eq, ← List.cons_append] at hlines
  obtain ⟨hget, htake, hdrop⟩ := nonBlank_take_drop hlines
  have hdash : e.line.argumentOf? .dash = some e.header := by
    have hopens : (e.line.argumentOf? .dash).isSome = true := hstands.opens
    obtain ⟨argument, hargument⟩ := Option.isSome_iff_exists.mp hopens
    rw [hfrom, entryOf_eq, hargument]
    rfl
  refine ⟨e, he, rfl, hdash, hget, fun pieces hpieces => ?_⟩
  -- the lines of the replacement that count, wherever they stand
  set below' := nonBlank (Line.ofPieces 0 0 pieces) with hbelow'
  have hinside : ∀ l ∈ below', e.line.indent < l.indent := by
    intro l hl
    obtain ⟨hmem, hblank⟩ := List.mem_filter.mp hl
    obtain ⟨p, hp, hpiece⟩ := exists_of_mem_ofPieces hmem (e.line.indent + 1)
    obtain hb | ⟨-, hle⟩ := isBlank_or_le_of_continues (hpiece.trans (hpieces p hp).2)
    · simp [hb] at hblank
    · exact hle
  refine ⟨_, parse_of_margins hheader ?_, hreplace below' hinside⟩
  have hrest : nonBlank ((Line.ofSource source).drop
      (e.line.number + 1 + belowCount source e.line)) = behind := by
    rw [drop_belowCount, nonBlank_blockEnd, hdrop]
    exact past_append_of_forall hstands.inside hstands.ends
  have hlt : e.line.number < (piecesOf source).length := by
    rw [← length_ofPieces 0 0]
    exact (List.getElem?_eq_some_iff.mp hget).1
  rw [piecesOf_replaceBelow source e.line (fun p hp => (hpieces p hp).1) hlt, marginsOf_append,
    marginsOf_append, ← margins_take, ← margins_drop, htake, ← nonBlank_ofPieces 0 0 pieces,
    ← hbelow', hrest, ← List.map_append, ← List.map_append]
  congr 1
  simp only [List.append_assoc, List.cons_append, List.nil_append]

/-- A source with an entry inside another one. -/
def nestedSource : String :=
  "infographic x\ndata\n  items\n    - A\n      children\n        - B\n          desc b\n    - C"

/-- Lines that look like those of a document with another list, once they stand below an entry. -/
def strayPieces : List (List Char) :=
  ["          items".toList, [], "         data".toList, "                - D".toList]

/-- The inner entry with such lines below it. -/
theorem parse_replaceBelow_nested :
    ∃ d d' e, parse nestedSource = .ok d ∧ entryAt? nestedSource [0, 0] = some e ∧
      parse (replaceBelow nestedSource e.line strayPieces) = .ok d' ∧ d.DiffersAt [0, 0] d' := by
  have hitem : ((parse nestedSource).toOption.bind (·.item? [0, 0])).isSome = true := by
    decide +kernel
  have hindent : (entryAt? nestedSource [0, 0]).map (·.line.indent) = some 8 := by
    decide +kernel
  cases h : parse nestedSource with
  | error e =>
    rw [h] at hitem
    cases hitem
  | ok d =>
    rw [h] at hitem
    obtain ⟨item, hitem⟩ := Option.isSome_iff_exists.mp hitem
    obtain ⟨e, he, -, -, -, hreplace⟩ := parse_replaceBelow h hitem
    rw [he, Option.map_some, Option.some.injEq] at hindent
    have hpieces : ∀ p ∈ strayPieces, StandsBelow e.line.indent p := by
      rw [hindent]
      decide +kernel
    obtain ⟨d', hd', hdiffers⟩ := hreplace strayPieces hpieces
    exact ⟨d, d', e, rfl, he, hd', hdiffers⟩

end Sources

end Placard
