import Mathlib.Data.List.Forall2
import Placard.Markup.Tag
import Placard.Proofs.Markup.Escape

set_option relaxedAutoImplicit false
set_option autoImplicit false

/-!
# Scanning markup

A scanner reads markup character by character. It knows start tags with quoted attributes, tags that
close themselves, end tags and the text between tags, and takes entities for their characters; at
anything else it gives up. This file shows that the scanner finds the tags of a figure as they were
written, whatever texts stand in them.

## Main definitions

* `Placard.Markup.Token`: what a scanner finds.
* `Placard.Markup.Scanner`, `Placard.Markup.Scanner.step`: the scanner and one step of it.
* `Placard.Markup.scan`: the tokens of a piece of markup.
* `Placard.Markup.Scans`: a piece of markup that has given tokens wherever it stands between tags.

## Main results

* `Placard.Markup.scans_opening`, `Placard.Markup.scans_closing`, `Placard.Markup.scans_empty`: the
  tokens of each kind of tag.
* `Placard.Markup.Scans.scan_eq`: the tokens of markup that is made of such pieces.
-/

namespace Placard.Markup

/-! ## The scanner -/

/-- What a scanner finds. -/
inductive Token where
  /-- A text between tags, not empty. -/
  | text (s : String)
  /-- The start of an element. -/
  | start (name : String) (attributes : List (String × String))
  /-- The end of an element. -/
  | stop (name : String)
  /-- An element that closes itself. -/
  | empty (name : String) (attributes : List (String × String))
deriving DecidableEq, Repr

/-- Where a scanner stands, with the part of the current token that it has read. -/
inductive Place where
  /-- In the text between two tags. -/
  | text (read : List Char)
  /-- Behind the sign that opens a tag. -/
  | tag
  /-- In the name of a start tag. -/
  | name (read : List Char)
  /-- In the name of an attribute. -/
  | key (name : String) (attributes : List (String × String)) (read : List Char)
  /-- Behind the sign that follows the name of an attribute. -/
  | equals (name : String) (attributes : List (String × String)) (key : String)
  /-- In the value of an attribute. -/
  | value (name : String) (attributes : List (String × String)) (key : String) (read : List Char)
  /-- Behind an attribute. -/
  | behind (name : String) (attributes : List (String × String))
  /-- Behind the slash of a tag that closes itself. -/
  | slash (name : String) (attributes : List (String × String))
  /-- In the name of an end tag. -/
  | stop (read : List Char)
deriving DecidableEq, Repr

/-- A scanner. -/
structure Scanner where
  /-- The tokens it has found. -/
  tokens : List Token
  /-- Where it stands. -/
  place : Place
deriving DecidableEq, Repr

/-- The characters of which names are made. -/
def isNameChar (c : Char) : Bool := c.isAlphanum || c == '-'

/-- The token of a text, if it is not empty. -/
def textTokens (s : String) : List Token := if s = "" then [] else [.text s]

namespace Scanner

/-- The scanner behind the name or an attribute of a start tag, after one more character. -/
def behindStep (tokens : List Token) (name : String) (attributes : List (String × String)) :
    Char → Option Scanner
  | '>' => some ⟨tokens ++ [.start name attributes], .text []⟩
  | '/' => some ⟨tokens, .slash name attributes⟩
  | ' ' => some ⟨tokens, .key name attributes []⟩
  | _ => none

/-- All tokens, if the scanner stands between tags. -/
def finish (s : Scanner) : Option (List Token) :=
  match s.place with
  | .text read => (unescape? read).map fun text => s.tokens ++ textTokens (String.ofList text)
  | _ => none

/-- The scanner after one more character. -/
def step (s : Scanner) (c : Char) : Option Scanner :=
  match s.place with
  | .text read =>
    -- a text is complete only where a tag opens
    if c = '<' then s.finish.map (⟨·, .tag⟩) else some ⟨s.tokens, .text (read ++ [c])⟩
  | .tag =>
    if c = '/' then some ⟨s.tokens, .stop []⟩
    else if isNameChar c then some ⟨s.tokens, .name [c]⟩
    else none
  | .name read =>
    if isNameChar c then some ⟨s.tokens, .name (read ++ [c])⟩
    else behindStep s.tokens (String.ofList read) [] c
  | .key name attributes read =>
    if isNameChar c then some ⟨s.tokens, .key name attributes (read ++ [c])⟩
    else if c = '=' ∧ read ≠ [] then some ⟨s.tokens, .equals name attributes (String.ofList read)⟩
    else none
  | .equals name attributes key =>
    if c = '"' then some ⟨s.tokens, .value name attributes key []⟩ else none
  | .value name attributes key read =>
    if c = '"' then
      (unescape? read).map fun value =>
        ⟨s.tokens, .behind name (attributes ++ [(key, String.ofList value)])⟩
    else some ⟨s.tokens, .value name attributes key (read ++ [c])⟩
  | .behind name attributes => behindStep s.tokens name attributes c
  | .slash name attributes =>
    if c = '>' then some ⟨s.tokens ++ [.empty name attributes], .text []⟩ else none
  | .stop read =>
    if isNameChar c then some ⟨s.tokens, .stop (read ++ [c])⟩
    else if c = '>' ∧ read ≠ [] then
      some ⟨s.tokens ++ [.stop (String.ofList read)], .text []⟩
    else none

/-- The scanner after some more characters. -/
def run (s : Scanner) (cs : List Char) : Option Scanner := cs.foldlM step s

end Scanner

/-- The tokens of a piece of markup. -/
def scan (cs : List Char) : Option (List Token) :=
  (Scanner.run ⟨[], .text []⟩ cs).bind Scanner.finish

/-! ## Reading names and values -/

namespace Scanner

variable {s s' : Scanner} {tokens : List Token}

@[simp] lemma run_nil (s : Scanner) : s.run [] = some s := rfl

lemma run_cons (s : Scanner) (c : Char) (cs : List Char) :
    s.run (c :: cs) = (s.step c).bind (·.run cs) := rfl

lemma run_append (s : Scanner) (as bs : List Char) :
    s.run (as ++ bs) = (s.run as).bind (·.run bs) := List.foldlM_append

lemma run_append_of_eq {as : List Char} (h : s.run as = some s') (bs : List Char) :
    s.run (as ++ bs) = s'.run bs := by
  rw [run_append, h, Option.bind_some]

lemma run_cons_of_eq {c : Char} (h : s.step c = some s') (cs : List Char) :
    s.run (c :: cs) = s'.run cs := by
  rw [run_cons, h, Option.bind_some]

/-- In a place that keeps every character of a word, the word is read. -/
lemma run_gather (place : List Char → Place) {w : List Char}
    (h : ∀ c ∈ w, ∀ read, step ⟨tokens, place read⟩ c = some ⟨tokens, place (read ++ [c])⟩)
    (read : List Char) : run ⟨tokens, place read⟩ w = some ⟨tokens, place (read ++ w)⟩ := by
  induction w generalizing read with
  | nil => rw [run_nil, List.append_nil]
  | cons c w ih =>
    rw [run_cons_of_eq (h c List.mem_cons_self read),
      ih (fun d hd => h d (List.mem_cons_of_mem c hd)), List.append_assoc, List.singleton_append]

/-! ## Reading tags -/

/-- Whether the scanner stands behind the name or an attribute of a start tag that has been read as
`name` with `attributes` so far. -/
def Ready (s : Scanner) (tokens : List Token) (name : String)
    (attributes : List (String × String)) : Prop :=
  ∀ c ∈ ['>', '/', ' '], s.step c = behindStep tokens name attributes c

lemma ready_behind (tokens : List Token) (name : String) (attributes : List (String × String)) :
    Ready ⟨tokens, .behind name attributes⟩ tokens name attributes := fun _ _ => rfl

end Scanner

/-- Whether a text may be the name of an element or of an attribute. -/
def isName (s : String) : Bool := !s.toList.isEmpty && s.toList.all isNameChar

/-- Whether an attribute is read as the given name and value. -/
structure Attribute.StandsFor (a : Attribute) (read : String × String) : Prop where
  /-- It has that name. -/
  name : a.name = read.1
  /-- Its name can be read. -/
  isName : isName a.name = true
  /-- Its value is read as that value. -/
  value : Encodes a.value read.2

section Names

variable {name : String}

lemma toList_ne_nil_of_isName (h : isName name = true) : name.toList ≠ [] := by
  simp only [isName, Bool.and_eq_true, Bool.not_eq_true', List.isEmpty_eq_false_iff] at h
  exact h.1

lemma isNameChar_of_isName (h : isName name = true) : ∀ c ∈ name.toList, isNameChar c = true :=
  List.all_eq_true.mp (Bool.and_eq_true_iff.mp h).2

end Names

namespace Scanner

variable {s : Scanner} {tokens : List Token} {name : String}
  {attributes : List (String × String)}

/-- The name of a start tag is read. -/
lemma ready_of_isName (tokens : List Token) (h : isName name = true) :
    ∃ s, run ⟨tokens, .tag⟩ name.toList = some s ∧ Ready s tokens name [] := by
  have hchars := isNameChar_of_isName h
  obtain ⟨c, cs, hcs⟩ := List.exists_cons_of_ne_nil (toList_ne_nil_of_isName h)
  rw [hcs] at hchars
  have hc : isNameChar c = true := hchars c List.mem_cons_self
  have hslash : c ≠ '/' := by
    rintro rfl
    exact absurd hc (by decide)
  have hstep : step ⟨tokens, .tag⟩ c = some ⟨tokens, .name [c]⟩ := by
    simp only [step, if_neg hslash, if_pos hc]
  have hrest : run ⟨tokens, .name [c]⟩ cs = some ⟨tokens, .name ([c] ++ cs)⟩ := by
    refine run_gather .name (fun d hd read => ?_) [c]
    simp only [step, if_pos (hchars d (List.mem_cons_of_mem c hd))]
  refine ⟨⟨tokens, .name name.toList⟩, ?_, fun d hd => ?_⟩
  · rw [hcs, run_cons_of_eq hstep, hrest, List.singleton_append]
  · have hd : isNameChar d = false := by
      simp only [List.mem_cons, List.not_mem_nil, or_false] at hd
      rcases hd with rfl | rfl | rfl <;> rfl
    simp only [step, hd, Bool.false_eq_true, if_false, String.ofList_toList]

/-- An attribute is read. -/
lemma Ready.run_write (h : Ready s tokens name attributes) {a : Attribute}
    {read : String × String} (ha : a.StandsFor read) :
    s.run a.write.toList = some ⟨tokens, .behind name (attributes ++ [read])⟩ := by
  have hwrite : a.write.toList =
      ' ' :: (a.name.toList ++ '=' :: '"' :: (a.value.toList ++ ['"'])) := by
    simp [Attribute.write]
  have hspace : s.step ' ' = some ⟨tokens, .key name attributes []⟩ := h ' ' (by simp)
  have hkey : run ⟨tokens, .key name attributes []⟩ a.name.toList =
      some ⟨tokens, .key name attributes ([] ++ a.name.toList)⟩ := by
    refine run_gather (.key name attributes) (fun c hc read => ?_) []
    simp only [step, if_pos (isNameChar_of_isName ha.isName c hc)]
  have hequals : step ⟨tokens, .key name attributes ([] ++ a.name.toList)⟩ '=' =
      some ⟨tokens, .equals name attributes a.name⟩ := by
    have hchar : isNameChar '=' = false := rfl
    have hne := toList_ne_nil_of_isName ha.isName
    simp only [step, hchar, Bool.false_eq_true, if_false, List.nil_append, true_and, if_pos hne,
      String.ofList_toList]
  have hquote : step ⟨tokens, .equals name attributes a.name⟩ '"' =
      some ⟨tokens, .value name attributes a.name []⟩ := rfl
  have hvalue : run ⟨tokens, .value name attributes a.name []⟩ a.value.toList =
      some ⟨tokens, .value name attributes a.name ([] ++ a.value.toList)⟩ := by
    refine run_gather (.value name attributes a.name) (fun c hc read => ?_) []
    have hne : c ≠ '"' := by
      rintro rfl
      exact ha.value.quote_not_mem hc
    simp only [step, if_neg hne]
  have hend : step ⟨tokens, .value name attributes a.name ([] ++ a.value.toList)⟩ '"' =
      some ⟨tokens, .behind name (attributes ++ [read])⟩ := by
    simp only [step, if_true, List.nil_append, ha.value.unescape?_eq, Option.map_some,
      String.ofList_toList, ha.name]
  rw [hwrite, run_cons_of_eq hspace, run_append_of_eq hkey, run_cons_of_eq hequals,
    run_cons_of_eq hquote, run_append_of_eq hvalue, run_cons_of_eq hend, run_nil]

/-- Attributes are read one after the other. -/
lemma Ready.run_join (h : Ready s tokens name attributes) {as : List Attribute}
    {read : List (String × String)} (has : List.Forall₂ Attribute.StandsFor as read) :
    ∃ s', s.run (String.join (as.map Attribute.write)).toList = some s' ∧
      Ready s' tokens name (attributes ++ read) := by
  induction has generalizing s attributes with
  | nil => exact ⟨s, rfl, by rwa [List.append_nil]⟩
  | cons ha _ ih =>
    obtain ⟨s', hs', hready⟩ := ih (ready_behind tokens name _)
    refine ⟨s', ?_, ?_⟩
    · rw [List.map_cons, String.join_cons, String.toList_append, run_append_of_eq (h.run_write ha),
        hs']
    · rwa [List.append_assoc, List.singleton_append] at hready

end Scanner

/-- Whether a piece of markup has the given tokens wherever it stands between tags. -/
def Scans (markup : String) (tokens : List Token) : Prop :=
  ∀ (s : Scanner) (before : List Token), s.finish = some before →
    ∃ s', s.run markup.toList = some s' ∧ s'.finish = some (before ++ tokens)

section Scans

open Scanner

variable {s : Scanner} {before tokens : List Token} {name : String} {as : List Attribute}
  {read : List (String × String)}

lemma Scans.append {markup markup' : String} {tokens' : List Token} (h : Scans markup tokens)
    (h' : Scans markup' tokens') : Scans (markup ++ markup') (tokens ++ tokens') := by
  intro s before hs
  obtain ⟨s₁, hrun, hfinish⟩ := h s before hs
  obtain ⟨s₂, hrun', hfinish'⟩ := h' s₁ _ hfinish
  refine ⟨s₂, ?_, ?_⟩
  · rw [String.toList_append, run_append_of_eq hrun, hrun']
  · rw [hfinish', List.append_assoc]

lemma scans_nil : Scans "" [] := by
  intro s before hs
  exact ⟨s, rfl, by rw [hs, List.append_nil]⟩

/-- The sign that opens a tag ends the text before it. -/
lemma step_less (h : s.finish = some before) : s.step '<' = some ⟨before, .tag⟩ := by
  obtain ⟨tokens, place⟩ := s
  cases place with
  | text read =>
    simp only [step, if_true, h, Option.map_some]
  | _ => exact absurd h (by simp [finish])

/-- Behind a tag there is no text yet. -/
lemma finish_tag (tokens : List Token) : finish ⟨tokens, .text []⟩ = some tokens := by
  simp [finish, unescape?, textTokens]

/-- A text behind a tag is read. -/
lemma finish_text {markup text : String} (h : Encodes markup text) (tokens : List Token) :
    finish ⟨tokens, .text markup.toList⟩ = some (tokens ++ textTokens text) := by
  simp only [finish, h.unescape?_eq, Option.map_some, String.ofList_toList]

lemma run_text {markup text : String} (h : Encodes markup text) (tokens : List Token) :
    run ⟨tokens, .text []⟩ markup.toList = some ⟨tokens, .text markup.toList⟩ := by
  refine run_gather .text (fun c hc read => ?_) []
  have hne : c ≠ '<' := by
    rintro rfl
    exact h.less_not_mem hc
  simp only [step, if_neg hne]

/-- The name and the attributes of a start tag are read. -/
lemma run_writeStart (hs : s.finish = some before) (hname : isName name = true)
    (has : List.Forall₂ Attribute.StandsFor as read) :
    ∃ s', s.run (writeStart name as).toList = some s' ∧ Ready s' before name read := by
  have hwrite : (writeStart name as).toList =
      '<' :: (name.toList ++ (String.join (as.map Attribute.write)).toList) := by
    simp [writeStart]
  obtain ⟨s₁, hrun, hready⟩ := ready_of_isName before hname
  obtain ⟨s₂, hrun', hready'⟩ := hready.run_join has
  refine ⟨s₂, ?_, hready'⟩
  rw [hwrite, run_cons_of_eq (step_less hs), run_append_of_eq hrun, hrun']

/-- **A start tag and the text behind it are read.** -/
theorem scans_opening {inner text : String} (hname : isName name = true)
    (has : List.Forall₂ Attribute.StandsFor as read) (hinner : Encodes inner text) :
    Scans (writeStart name as ++ ">" ++ inner) (.start name read :: textTokens text) := by
  intro s before hs
  obtain ⟨s', hrun, hready⟩ := run_writeStart hs hname has
  have hend : s'.step '>' = some ⟨before ++ [.start name read], .text []⟩ := hready '>' (by simp)
  refine ⟨⟨before ++ [.start name read], .text inner.toList⟩, ?_, ?_⟩
  · rw [String.append_assoc, String.toList_append, run_append_of_eq hrun, String.toList_append]
    exact (run_cons_of_eq hend _).trans (run_text hinner _)
  · rw [finish_text hinner, List.append_assoc, List.singleton_append]

/-- **An end tag is read.** -/
theorem scans_closing (hname : isName name = true) :
    Scans ("</" ++ name ++ ">") [.stop name] := by
  intro s before hs
  have hwrite : ("</" ++ name ++ ">").toList = '<' :: '/' :: (name.toList ++ ['>']) := by simp
  have hslash : step ⟨before, .tag⟩ '/' = some ⟨before, .stop []⟩ := rfl
  have hread : run ⟨before, .stop []⟩ name.toList = some ⟨before, .stop ([] ++ name.toList)⟩ := by
    refine run_gather .stop (fun c hc read => ?_) []
    simp only [step, if_pos (isNameChar_of_isName hname c hc)]
  have hend : step ⟨before, .stop ([] ++ name.toList)⟩ '>' =
      some ⟨before ++ [.stop name], .text []⟩ := by
    have hchar : isNameChar '>' = false := rfl
    simp only [step, hchar, Bool.false_eq_true, if_false, List.nil_append, true_and,
      if_pos (toList_ne_nil_of_isName hname), String.ofList_toList]
  refine ⟨⟨before ++ [.stop name], .text []⟩, ?_, finish_tag _⟩
  rw [hwrite, run_cons_of_eq (step_less hs), run_cons_of_eq hslash, run_append_of_eq hread,
    run_cons_of_eq hend, run_nil]

/-- **A tag that closes itself is read.** -/
theorem scans_empty (hname : isName name = true)
    (has : List.Forall₂ Attribute.StandsFor as read) :
    Scans (writeStart name as ++ "/>") [.empty name read] := by
  intro s before hs
  obtain ⟨s', hrun, hready⟩ := run_writeStart hs hname has
  have hslash : s'.step '/' = some ⟨before, .slash name read⟩ := hready '/' (by simp)
  refine ⟨⟨before ++ [.empty name read], .text []⟩, ?_, finish_tag _⟩
  rw [String.toList_append, run_append_of_eq hrun]
  exact run_cons_of_eq hslash _

/-- The tokens of markup that has them wherever it stands. -/
theorem Scans.scan_eq {markup : String} (h : Scans markup tokens) :
    scan markup.toList = some tokens := by
  obtain ⟨s, hrun, hfinish⟩ := h ⟨[], .text []⟩ [] (finish_tag [])
  rw [scan, hrun, Option.bind_some, hfinish, List.nil_append]

end Scans

end Placard.Markup
