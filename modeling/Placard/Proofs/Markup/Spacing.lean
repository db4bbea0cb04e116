import Placard.Proofs.Markup.Tree

set_option relaxedAutoImplicit false
set_option autoImplicit false

/-!
# Rows on lines of their own

Markup may have its rows one behind the other, or each on a line of its own and indented. In the
second case there is white space between the tags, which is read as text. This file shows that the
tags are the same, with the same attributes.

## Main definitions

* `Placard.Markup.Token.attributes?`: the attributes of a tag that starts an element.
* `Placard.Markup.ScansTags`: a piece of markup that has given tags wherever it stands between tags.

## Main results

* `Placard.Figure.RowsScan.scansTags`: the tags of rows, however they are put together.
* `Placard.Figure.scan_page`: the tags of a figure.
-/

namespace Placard

namespace Markup

/-- The attributes of a token, if it starts an element. -/
def Token.attributes? : Token → Option (List (String × String))
  | .start _ attributes => some attributes
  | .empty _ attributes => some attributes
  | _ => none

/-- The attributes of the elements that tokens start, in order. -/
def tagsOf (tokens : List Token) : List (List (String × String)) :=
  tokens.filterMap Token.attributes?

/-- Whether a piece of markup has elements with the given attributes wherever it stands between
tags, whatever texts are around them. -/
def ScansTags (markup : String) (tags : List (List (String × String))) : Prop :=
  ∀ (s : Scanner) (before : List Token), s.finish = some before →
    ∃ s' after, s.run markup.toList = some s' ∧ s'.finish = some after ∧
      tagsOf after = tagsOf before ++ tags

section ScansTags

open Scanner

variable {markup markup' : String} {tags tags' : List (List (String × String))}
  {tokens tokens' : List Token}

lemma tagsOf_append (tokens tokens' : List Token) :
    tagsOf (tokens ++ tokens') = tagsOf tokens ++ tagsOf tokens' :=
  List.filterMap_append

lemma tagsOf_textTokens (s : String) : tagsOf (textTokens s) = [] := by
  rw [textTokens]
  split <;> rfl

lemma Scans.scansTags (h : Scans markup tokens) : ScansTags markup (tagsOf tokens) := by
  intro s before hs
  obtain ⟨s', hrun, hfinish⟩ := h s before hs
  exact ⟨s', before ++ tokens, hrun, hfinish, tagsOf_append before tokens⟩

lemma ScansTags.append (h : ScansTags markup tags) (h' : ScansTags markup' tags') :
    ScansTags (markup ++ markup') (tags ++ tags') := by
  intro s before hs
  obtain ⟨s₁, after₁, hrun, hfinish, htags⟩ := h s before hs
  obtain ⟨s₂, after₂, hrun', hfinish', htags'⟩ := h' s₁ after₁ hfinish
  refine ⟨s₂, after₂, ?_, hfinish', ?_⟩
  · rw [String.toList_append, run_append_of_eq hrun, hrun']
  · rw [htags', htags, List.append_assoc]

/-- A text without characters that have a meaning in markup has no tags. -/
lemma scansTags_plain (h : Plain markup) : ScansTags markup [] := by
  intro s before hs
  obtain ⟨tokens, place⟩ := s
  cases place with
  | text read =>
    rw [finish, Option.map_eq_some_iff] at hs
    obtain ⟨text, hread, rfl⟩ := hs
    have hrun : run ⟨tokens, .text read⟩ markup.toList =
        some ⟨tokens, .text (read ++ markup.toList)⟩ := by
      refine run_gather .text (fun c hc read => ?_) read
      have hne : c ≠ '<' := by
        rintro rfl
        exact absurd (h '<' hc) (by decide)
      simp only [step, if_neg hne]
    have hall : unescape? (read ++ markup.toList) = some (text ++ markup.toList) := by
      rw [unescape?_append hread, h.encodes.unescape?_eq, Option.map_some]
    refine ⟨_, tokens ++ textTokens (String.ofList (text ++ markup.toList)), hrun, ?_, ?_⟩
    · simp only [finish, hall, Option.map_some]
    · rw [tagsOf_append, tagsOf_append, tagsOf_textTokens, tagsOf_textTokens, List.append_nil,
        List.append_nil]
  | _ => cases hs

lemma ScansTags.scan_eq (h : ScansTags markup tags) :
    ∃ tokens, scan markup.toList = some tokens ∧ tagsOf tokens = tags := by
  obtain ⟨s, tokens, hrun, hfinish, htags⟩ := h ⟨[], .text []⟩ [] (finish_tag [])
  refine ⟨tokens, ?_, htags⟩
  rw [scan, hrun, Option.bind_some, hfinish]

end ScansTags

/-! ## Rows -/

lemma plain_indentation (pretty : Bool) (depth : Nat) : Plain (indentation pretty depth) := by
  intro c hc
  rw [indentation] at hc
  split at hc
  · rw [String.toList_ofList] at hc
    rw [List.eq_of_mem_replicate hc]
    rfl
  · cases hc

lemma plain_lineEnd (pretty : Bool) : Plain (lineEnd pretty) := by
  cases pretty <;> exact plain_of_all rfl

end Markup

namespace Figure

open Markup

/-- **The tags of rows are theirs**, whether or not each row has a line of its own.

**Proof sketch.** Induction on the rows. What is written between two rows has no meaning in markup,
so it is part of a text (`scansTags_plain`). -/
theorem RowsScan.scansTags {rows : List Row} {tokens : List Token} (h : RowsScan rows tokens)
    (pretty : Bool) : ScansTags (writeRows pretty rows) (tagsOf tokens) := by
  obtain ⟨parts, hparts, rfl⟩ := h
  have hrow : ∀ (row : Row) part, Scans row.tag.write part →
      ScansTags (row.write pretty) (tagsOf part) :=
    fun row part hscans => (scansTags_plain (plain_indentation pretty row.depth)).append
      hscans.scansTags
  rw [writeRows]
  induction hparts with
  | nil => exact scansTags_plain (plain_of_all rfl)
  | @cons row part rows parts hscans hlater ih =>
    rw [List.map_cons, List.flatten_cons, tagsOf_append]
    cases hlater with
    | nil =>
      rw [List.map_nil, String.intercalate_singleton, List.flatten_nil]
      have hsingle := hrow row part hscans
      rwa [← List.append_nil (tagsOf part)] at hsingle
    | @cons row' part' rows parts hscans' hlater =>
      have hend := (hrow row part hscans).append (scansTags_plain (plain_lineEnd pretty))
      rw [List.append_nil] at hend
      rw [List.map_cons, String.intercalate_cons_cons, ← List.map_cons]
      exact hend.append ih

/-- **The tags of a figure are those of its tree**, whether or not each row has a line of its
own. -/
theorem scan_page (f : Figure) (pretty : Bool) (classPrefix : String) (h : f.PlainSigns) :
    ∃ tokens, scan (f.page { standalone := false, pretty, classPrefix }).toList = some tokens ∧
      tagsOf tokens = tagsOf (f.drawn classPrefix).tokens := by
  have hrows : tagRowsAll classPrefix 0 [f] = f.tagRows classPrefix 0 := List.append_nil _
  rw [page, pageOfAll, if_neg Bool.false_ne_true, if_neg Bool.false_ne_true, hrows]
  exact ((rowsScan_tagRows classPrefix 0 f h).scansTags pretty).scan_eq

end Figure

end Placard
