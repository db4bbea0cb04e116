import Mathlib.Tactic.Lemma
import Placard.Markup.Escape

set_option relaxedAutoImplicit false
set_option autoImplicit false

/-!
# Reading escaped texts

Whoever reads markup takes the five entities for the characters they stand for. This file shows that
an escaped text is read as the text itself, and that it can stand between tags or between quotation
marks without ending there. Both are also true of a text that was not escaped, if none of its
characters has a meaning in markup.

## Main definitions

* `Placard.Markup.unescape?`: the text that is read.
* `Placard.Markup.Plain`: no character of a text has a meaning in markup.
* `Placard.Markup.Encodes`: a piece of markup that is read as a given text.

## Main results

* `Placard.Markup.encodes_escape`: an escaped text is read as the text.
* `Placard.Markup.Plain.encodes`: so is a text that needs no escaping.
-/

namespace Placard.Markup

/-- The text that a piece of markup without tags is read as. An ampersand has to start an entity. -/
def unescape? : List Char → Option (List Char)
  | [] => some []
  | '&' :: 'a' :: 'm' :: 'p' :: ';' :: cs => (unescape? cs).map ('&' :: ·)
  | '&' :: 'l' :: 't' :: ';' :: cs => (unescape? cs).map ('<' :: ·)
  | '&' :: 'g' :: 't' :: ';' :: cs => (unescape? cs).map ('>' :: ·)
  | '&' :: 'q' :: 'u' :: 'o' :: 't' :: ';' :: cs => (unescape? cs).map ('"' :: ·)
  | '&' :: '#' :: '3' :: '9' :: ';' :: cs => (unescape? cs).map ('\'' :: ·)
  | c :: cs => if c = '&' then none else (unescape? cs).map (c :: ·)

/-- No character of the text has a meaning in markup. -/
def Plain (s : String) : Prop := ∀ c ∈ s.toList, entity? c = none

/-- Whether a piece of markup can stand between tags or between quotation marks, where it is read as
a given text. -/
structure Encodes (markup text : String) : Prop where
  /-- It starts no tag. -/
  less_not_mem : '<' ∉ markup.toList
  /-- It ends no quotation. -/
  quote_not_mem : '"' ∉ markup.toList
  /-- It is read as the text. -/
  unescape?_eq : unescape? markup.toList = some text.toList

section Unescape

variable {c : Char} {s : String}

lemma unescape?_cons (h : c ≠ '&') (cs : List Char) :
    unescape? (c :: cs) = (unescape? cs).map (c :: ·) := by
  rw [unescape?, if_neg h]
  all_goals simp_all

/-- A text may be read in two parts if the first one can be read on its own. -/
lemma unescape?_append {as text : List Char} (h : unescape? as = some text) (bs : List Char) :
    unescape? (as ++ bs) = (unescape? bs).map (text ++ ·) := by
  fun_induction unescape? as generalizing text with
  | case1 =>
    obtain rfl := Option.some.inj h
    simp
  | case7 cs => cases h
  | case8 c cs _ _ _ _ _ hc ih =>
    obtain ⟨rest, hrest, rfl⟩ := Option.map_eq_some_iff.mp h
    rw [List.cons_append, unescape?_cons hc, ih hrest, Option.map_map]
    rfl
  | _ cs ih =>
    obtain ⟨rest, hrest, rfl⟩ := Option.map_eq_some_iff.mp h
    simp only [List.cons_append, unescape?, ih hrest, Option.map_map]
    rfl

/-- A character that stands for itself is not the ampersand. -/
lemma ne_ampersand_of_entity? (h : entity? c = none) : c ≠ '&' := by
  rintro rfl
  exact absurd h (by decide)

lemma escapeChar_of_entity? (h : entity? c = none) : escapeChar c = [c] := by
  rw [escapeChar, h]

/-- The five characters with an entity. -/
lemma entity?_cases {entity : String} (h : entity? c = some entity) :
    c = '&' ∧ entity = "&amp;" ∨ c = '<' ∧ entity = "&lt;" ∨ c = '>' ∧ entity = "&gt;" ∨
      c = '"' ∧ entity = "&quot;" ∨ c = '\'' ∧ entity = "&#39;" := by
  unfold entity? at h
  split at h <;> simp_all

/-- A character in front of a text is read back from its escaped form. -/
lemma unescape?_escapeChar (c : Char) (cs : List Char) :
    unescape? (escapeChar c ++ cs) = (unescape? cs).map (c :: ·) := by
  cases h : entity? c with
  | none =>
    rw [escapeChar_of_entity? h, List.singleton_append,
      unescape?_cons (ne_ampersand_of_entity? h)]
  | some entity =>
    rcases entity?_cases h with ⟨rfl, -⟩ | ⟨rfl, -⟩ | ⟨rfl, -⟩ | ⟨rfl, -⟩ | ⟨rfl, -⟩ <;> rfl

/-- Of the characters with a meaning only the ampersand is left in an escaped character. -/
lemma eq_ampersand_or_of_mem_escapeChar {d : Char} (h : d ∈ escapeChar c) :
    d = '&' ∨ entity? d = none := by
  cases he : entity? c with
  | none =>
    rw [escapeChar_of_entity? he, List.mem_singleton] at h
    exact Or.inr (h ▸ he)
  | some entity =>
    rw [escapeChar, he] at h
    have hall : (entity.toList.all fun d => d == '&' || (entity? d).isNone) = true := by
      rcases entity?_cases he with ⟨-, rfl⟩ | ⟨-, rfl⟩ | ⟨-, rfl⟩ | ⟨-, rfl⟩ | ⟨-, rfl⟩ <;> rfl
    simpa using List.all_eq_true.mp hall d h

/-- No other character with a meaning is left in an escaped text. -/
lemma not_mem_escape {d : Char} (hd : d ≠ '&') (hentity : entity? d ≠ none) (s : String) :
    d ∉ (escape s).toList := by
  intro h
  rw [escape, String.toList_ofList] at h
  obtain ⟨c, -, hc⟩ := List.mem_flatMap.mp h
  exact (eq_ampersand_or_of_mem_escapeChar hc).elim hd hentity

/-- **Escaping is undone by reading.** -/
theorem unescape?_escape (s : String) : unescape? (escape s).toList = some s.toList := by
  rw [escape, String.toList_ofList]
  induction s.toList with
  | nil => rfl
  | cons c cs ih => rw [List.flatMap_cons, unescape?_escapeChar, ih, Option.map_some]

/-- **An escaped text is read as the text.** -/
theorem encodes_escape (s : String) : Encodes (escape s) s :=
  ⟨not_mem_escape (by decide) (by decide) s, not_mem_escape (by decide) (by decide) s,
    unescape?_escape s⟩

/-- A text that needs no escaping is escaped as itself. -/
lemma Plain.escape_eq (h : Plain s) : escape s = s := by
  have hflat : s.toList.map escapeChar = s.toList.map ([·]) :=
    List.map_congr_left fun c hc => escapeChar_of_entity? (h c hc)
  rw [escape, List.flatMap_def, hflat, ← List.flatMap_def, List.flatMap_singleton',
    String.ofList_toList]

lemma Plain.encodes (h : Plain s) : Encodes s s := by
  have := encodes_escape s
  rwa [h.escape_eq] at this

lemma plain_append {t : String} (hs : Plain s) (ht : Plain t) : Plain (s ++ t) := by
  intro c hc
  rw [String.toList_append, List.mem_append] at hc
  exact hc.elim (hs c) (ht c)

end Unescape

end Placard.Markup
