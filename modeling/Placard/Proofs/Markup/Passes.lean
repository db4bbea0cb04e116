import Mathlib.Data.List.Basic
import Placard.Proofs.Markup.Escape

set_option relaxedAutoImplicit false
set_option autoImplicit false

/-!
# Escaping in passes

A pass over a text sees all that earlier passes have written. If no entity holds a character that a
later pass replaces, then a pass leaves the entities alone and only finds characters of the text
itself, so that each character is escaped on its own. The entities start with the ampersand, so its
pass has to be the first one.

## Main definitions

* `Placard.Markup.written`: what stands for a character after some passes.
* `Placard.Markup.Escaped`: nothing in a piece of markup has a meaning but its entities.

## Main results

* `Placard.Markup.runPasses_eq_flatMap`: passes replace each character on its own.
* `Placard.Markup.exists_entity_prefix`: an ampersand in an escaped text starts an entity.
* `Placard.Markup.escapeInPasses_reversible`: escaping in passes is undone by reading.
-/

namespace Placard.Markup

/-- What stands for a character after some passes over a text: the entity that one of them wrote, or
the character itself. -/
def written : List (Char × String) → Char → List Char
  | [], c => [c]
  | pass :: done, c => if c = pass.1 then pass.2.toList else written done c

/-- Whether nothing in a piece of markup has a meaning but its entities. -/
structure Escaped (markup : String) : Prop where
  /-- No tag starts. -/
  less_not_mem : '<' ∉ markup.toList
  /-- None ends. -/
  greater_not_mem : '>' ∉ markup.toList
  /-- There is no double quotation mark. -/
  quote_not_mem : '"' ∉ markup.toList
  /-- There is no single one. -/
  apostrophe_not_mem : '\'' ∉ markup.toList
  /-- An ampersand starts one of the five entities. -/
  ampersand : ∀ front behind, markup.toList = front ++ '&' :: behind →
    ∃ pass ∈ passes, pass.2.toList <+: '&' :: behind

section Passes

variable {c : Char} {ps : List (Char × String)} {text front behind : List Char}

/-! ## One pass after the other -/

/-- Passes leave a character alone that none of them replaces. -/
lemma written_of_forall_ne (h : ∀ q ∈ ps, q.1 ≠ c) : written ps c = [c] := by
  induction ps with
  | nil => rfl
  | cons p ps ih =>
    rw [List.forall_mem_cons] at h
    rw [written, if_neg h.1.symm, ih h.2]

/-- **Passes replace each character on its own**, if no entity holds the character of a later pass.

**Proof sketch.** Induction on the passes. The first one writes its entity for its character, and
the others leave all characters of that entity alone. -/
theorem runPasses_eq_flatMap (h : ps.Pairwise fun p q => q.1 ∉ p.2.toList) (text : List Char) :
    runPasses ps text = text.flatMap (written ps) := by
  induction ps generalizing text with
  | nil => exact (List.flatMap_singleton' text).symm
  | cons p ps ih =>
    obtain ⟨hp, hps⟩ := List.pairwise_cons.mp h
    have hfirst : runPasses (p :: ps) text = runPasses ps (replaceAll p.1 p.2 text) := rfl
    rw [hfirst, ih hps, replaceAll, List.flatMap_assoc]
    refine List.flatMap_congr fun c _ => ?_
    rw [written]
    split
    · have hleft : ∀ d ∈ p.2.toList, written ps d = [d] := fun d hd =>
        written_of_forall_ne fun q hq hqd => hp q hq (hqd ▸ hd)
      rw [List.flatMap_congr hleft, List.flatMap_singleton']
    · exact List.flatMap_singleton _ _

/-- No entity holds the character of a later pass. -/
lemma pairwise_passes : passes.Pairwise fun p q => q.1 ∉ p.2.toList := by decide

lemma entity?_of_mem_passes : ∀ pass ∈ passes, entity? pass.1 = some pass.2 := by decide

/-- After all passes each character is escaped. -/
lemma written_passes : written passes = escapeChar := by
  funext c
  cases h : entity? c with
  | none =>
    rw [escapeChar_of_entity? h]
    refine written_of_forall_ne fun pass hpass hc => ?_
    rw [← hc, entity?_of_mem_passes pass hpass] at h
    cases h
  | some entity =>
    rcases entity?_cases h with ⟨rfl, -⟩ | ⟨rfl, -⟩ | ⟨rfl, -⟩ | ⟨rfl, -⟩ | ⟨rfl, -⟩ <;> rfl

/-- Five passes escape a text as one character after the other is. -/
lemma escapeInPasses_eq (s : String) : escapeInPasses s = escape s := by
  rw [escapeInPasses, runPasses_eq_flatMap pairwise_passes, written_passes, escape]

/-! ## Ampersands -/

/-- The entity of a character is one that a pass writes, and it starts with its only ampersand. -/
lemma exists_entity_eq {entity : String} (h : entity? c = some entity) :
    (c, entity) ∈ passes ∧ ∃ name, entity.toList = '&' :: name ∧ '&' ∉ name := by
  rcases entity?_cases h with ⟨rfl, rfl⟩ | ⟨rfl, rfl⟩ | ⟨rfl, rfl⟩ | ⟨rfl, rfl⟩ | ⟨rfl, rfl⟩ <;>
    exact ⟨by decide, _, rfl, by decide⟩

/-- An ampersand in an escaped character starts its entity. -/
lemma exists_entity_of_escapeChar (h : escapeChar c = front ++ '&' :: behind) :
    ∃ pass ∈ passes, pass.2.toList = '&' :: behind := by
  cases he : entity? c with
  | none =>
    have hmem : '&' ∈ escapeChar c := h ▸ List.mem_append_right front List.mem_cons_self
    rw [escapeChar_of_entity? he, List.mem_singleton] at hmem
    exact absurd hmem.symm (ne_ampersand_of_entity? he)
  | some entity =>
    obtain ⟨hmem, name, hname, hnot⟩ := exists_entity_eq he
    rw [escapeChar, he] at h
    change entity.toList = _ at h
    refine ⟨(c, entity), hmem, ?_⟩
    cases front with
    | nil => exact h
    | cons d front =>
      -- then there would be another ampersand behind the first one
      rw [hname, List.cons_append] at h
      obtain ⟨-, rfl⟩ := List.cons.inj h
      exact absurd (List.mem_append_right front List.mem_cons_self) hnot

/-- **An ampersand in an escaped text starts an entity.** -/
theorem exists_entity_prefix (h : text.flatMap escapeChar = front ++ '&' :: behind) :
    ∃ pass ∈ passes, pass.2.toList <+: '&' :: behind := by
  induction text generalizing front with
  | nil => simp at h
  | cons c text ih =>
    rw [List.flatMap_cons, List.append_eq_append_iff] at h
    rcases h with ⟨between, -, hbehind⟩ | ⟨_ | ⟨d, end'⟩, hchar, hbehind⟩
    · exact ih hbehind
    · have hrest : text.flatMap escapeChar = [] ++ '&' :: behind := hbehind.symm
      exact ih hrest
    · obtain ⟨rfl, rfl⟩ := List.cons.inj hbehind
      obtain ⟨pass, hpass, hentity⟩ := exists_entity_of_escapeChar hchar
      exact ⟨pass, hpass, hentity ▸ List.prefix_append ('&' :: end') _⟩

lemma escaped_escape (s : String) : Escaped (escape s) where
  less_not_mem := not_mem_escape (by decide) (by decide) s
  greater_not_mem := not_mem_escape (by decide) (by decide) s
  quote_not_mem := not_mem_escape (by decide) (by decide) s
  apostrophe_not_mem := not_mem_escape (by decide) (by decide) s
  ampersand := fun front behind h => by
    rw [escape, String.toList_ofList] at h
    exact exists_entity_prefix h

/-! ## Back to the text -/

lemma escape_append (s t : String) : escape (s ++ t) = escape s ++ escape t := by
  rw [escape, String.toList_append, List.flatMap_append, String.ofList_append, escape, escape]

lemma escape_injective : Function.Injective escape := by
  intro s t h
  have hread : some s.toList = some t.toList := by
    rw [← unescape?_escape s, h, unescape?_escape t]
  exact String.toList_inj.mp (Option.some.inj hread)

/-- **Escaping in passes is undone by reading.** The five passes escape each character on its own,
and so do the first ones of them: no pass changes an entity that stands there already. So a text can
be escaped part by part, what comes out has no meaning but that of its entities, and the text is
read back from it, whatever entities are spelled out in the text itself. -/
theorem escapeInPasses_reversible (s : String) :
    escapeInPasses s = escape s ∧
      (escapeInPasses s).toList = s.toList.flatMap escapeChar ∧
      (∀ k, runPasses (passes.take k) s.toList = s.toList.flatMap (written (passes.take k))) ∧
      (∀ t, escapeInPasses (s ++ t) = escapeInPasses s ++ escapeInPasses t) ∧
      Escaped (escapeInPasses s) ∧
      unescape? (escapeInPasses s).toList = some s.toList ∧
      Function.Injective escapeInPasses := by
  have hpasses : escapeInPasses = escape := funext escapeInPasses_eq
  rw [hpasses]
  refine ⟨rfl, by rw [escape, String.toList_ofList], fun k => ?_, escape_append s,
    escaped_escape s, unescape?_escape s, escape_injective⟩
  exact runPasses_eq_flatMap (pairwise_passes.sublist (List.take_sublist k passes)) s.toList

example : escapeInPasses "&amp;lt; <b>" = "&amp;amp;lt; &lt;b&gt;" := by decide

end Passes

end Placard.Markup
