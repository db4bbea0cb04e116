import Mathlib.Data.List.TakeWhile
import Mathlib.Tactic.Lemma
import Placard.Text.White

set_option relaxedAutoImplicit false
set_option autoImplicit false

/-!
# Trimming

Trimming takes away the white space at the two ends of a text and nothing else. A text without white
space at its ends is *trimmed*: trimming leaves it as it is, and also finds it again behind white
space that has been written in front of it.

## Main definitions

* `Placard.Text.Trimmed`: no white space at either end.

## Main results

* `Placard.Text.trim_append_of_white`: white space in front of a trimmed text is trimmed away.
* `Placard.Text.trim_white_append`, `Placard.Text.trim_append_white`: white space at the ends of any
  text is.
* `Placard.Text.exists_append_trim_append`, `Placard.Text.trimmed_trim`: nothing else is, and what
  is left is trimmed.
-/

namespace Placard.Text

/-- No white space at either end. -/
structure Trimmed (cs : List Char) : Prop where
  /-- None at the start. -/
  head : ∀ c ∈ cs.head?, isWhite c = false
  /-- None at the end. -/
  last : ∀ c ∈ cs.getLast?, isWhite c = false

section Trim

variable {cs ws : List Char} {c : Char}

lemma isWhite_space : isWhite ' ' = true := rfl

lemma trimStart_of_head (h : ∀ c ∈ cs.head?, isWhite c = false) : trimStart cs = cs := by
  cases cs with
  | nil => rfl
  | cons c cs => rw [trimStart, List.dropWhile_cons_of_neg (by simp [h c rfl])]

lemma trimEnd_cons (c : Char) (cs : List Char) :
    trimEnd (c :: cs) = if (trimEnd cs).isEmpty && isWhite c then [] else c :: trimEnd cs := rfl

lemma trimEnd_of_last (h : ∀ c ∈ cs.getLast?, isWhite c = false) : trimEnd cs = cs := by
  induction cs with
  | nil => rfl
  | cons c cs ih =>
    cases cs with
    | nil =>
      have hc : isWhite c = false := h c rfl
      rw [trimEnd_cons, hc, Bool.and_false]
      rfl
    | cons d ds =>
      rw [trimEnd_cons, ih h]
      rfl

lemma trim_of_trimmed (h : Trimmed cs) : trim cs = cs := by
  rw [trim, trimStart_of_head h.head, trimEnd_of_last h.last]

/-- White space in front of a trimmed text is trimmed away. -/
lemma trim_append_of_white (hws : ∀ c ∈ ws, isWhite c = true) (h : Trimmed cs) :
    trim (ws ++ cs) = cs := by
  rw [trim, trimStart, List.dropWhile_append_of_pos hws]
  exact trim_of_trimmed h

/-- The white space in front of a text that starts with none. -/
lemma takeWhile_white_append (hws : ∀ c ∈ ws, isWhite c = true)
    (h : ∀ c ∈ cs.head?, isWhite c = false) : (ws ++ cs).takeWhile isWhite = ws := by
  rw [List.takeWhile_append_of_pos hws]
  cases cs with
  | nil => rw [List.takeWhile_nil, List.append_nil]
  | cons c cs => rw [List.takeWhile_cons_of_neg (by simp [h c rfl]), List.append_nil]

/-! ### Texts with white space at their ends -/

/-- White space in front of a text is trimmed away. -/
lemma trim_white_append (hws : ∀ c ∈ ws, isWhite c = true) (cs : List Char) :
    trim (ws ++ cs) = trim cs := by
  rw [trim, trimStart, List.dropWhile_append_of_pos hws]
  rfl

lemma trimEnd_eq_nil (hws : ∀ c ∈ ws, isWhite c = true) : trimEnd ws = [] := by
  induction ws with
  | nil => rfl
  | cons c ws ih =>
    obtain ⟨hc, hws⟩ := List.forall_mem_cons.mp hws
    rw [trimEnd_cons, ih hws, hc]
    rfl

lemma trimEnd_append_white (hws : ∀ c ∈ ws, isWhite c = true) (cs : List Char) :
    trimEnd (cs ++ ws) = trimEnd cs := by
  induction cs with
  | nil => exact trimEnd_eq_nil hws
  | cons c cs ih => rw [List.cons_append, trimEnd_cons, trimEnd_cons, ih]

/-- A text is trimmed away iff all of it is white space. -/
lemma trim_eq_nil_iff : trim cs = [] ↔ ∀ c ∈ cs, isWhite c = true := by
  induction cs with
  | nil => simp [trim, trimStart, trimEnd]
  | cons c cs ih =>
    rw [List.forall_mem_cons]
    cases hc : isWhite c with
    | true =>
      have hcons := trim_white_append (List.forall_mem_singleton.mpr hc) cs
      rw [← List.singleton_append, hcons, ih]
      simp
    | false =>
      rw [trim, trimStart, List.dropWhile_cons_of_neg (by simp [hc]), trimEnd_cons, hc,
        Bool.and_false]
      simp

/-- White space behind a text is trimmed away. -/
lemma trim_append_white (hws : ∀ c ∈ ws, isWhite c = true) (cs : List Char) :
    trim (cs ++ ws) = trim cs := by
  rw [trim, trim, trimStart, trimStart, List.dropWhile_append]
  split
  · next hempty =>
    rw [List.isEmpty_iff.mp hempty, List.dropWhile_eq_nil_iff.mpr hws]
  · exact trimEnd_append_white hws _

/-! ### What is left of a text -/

lemma exists_trimEnd_append (cs : List Char) :
    ∃ ws, (∀ c ∈ ws, isWhite c = true) ∧ trimEnd cs ++ ws = cs := by
  induction cs with
  | nil => exact ⟨[], by simp, rfl⟩
  | cons c cs ih =>
    obtain ⟨ws, hws, hcs⟩ := ih
    rw [trimEnd_cons]
    split
    · next h =>
      obtain ⟨hempty, hc⟩ := Bool.and_eq_true_iff.mp h
      rw [List.isEmpty_iff.mp hempty, List.nil_append] at hcs
      subst hcs
      exact ⟨c :: ws, List.forall_mem_cons.mpr ⟨hc, hws⟩, rfl⟩
    · exact ⟨ws, hws, by rw [List.cons_append, hcs]⟩

/-- A text is what trimming leaves of it, with white space around that. -/
lemma exists_append_trim_append (cs : List Char) :
    ∃ us vs, (∀ c ∈ us, isWhite c = true) ∧ (∀ c ∈ vs, isWhite c = true) ∧
      us ++ (trim cs ++ vs) = cs := by
  obtain ⟨vs, hvs, hstart⟩ := exists_trimEnd_append (trimStart cs)
  refine ⟨cs.takeWhile isWhite, vs, fun c => List.mem_takeWhile_imp, hvs, ?_⟩
  rw [trim, hstart, trimStart, List.takeWhile_append_dropWhile]

/-- Of a text that ends in no white space only the white space at its start is trimmed away. -/
lemma exists_append_trim (h : ∀ c ∈ cs.getLast?, isWhite c = false) :
    ∃ us, (∀ c ∈ us, isWhite c = true) ∧ us ++ trim cs = cs := by
  have hparts : cs.takeWhile isWhite ++ trimStart cs = cs := List.takeWhile_append_dropWhile
  refine ⟨cs.takeWhile isWhite, fun c => List.mem_takeWhile_imp, ?_⟩
  rw [trim, trimEnd_of_last, hparts]
  intro c hc
  have hlast : (cs.takeWhile isWhite ++ trimStart cs).getLast? = some c := by
    rw [List.getLast?_append]
    exact Option.or_eq_some_iff.mpr (.inl hc)
  rw [hparts] at hlast
  exact h c hlast

lemma mem_of_mem_trim (h : c ∈ trim cs) : c ∈ cs := by
  obtain ⟨us, vs, -, -, hcs⟩ := exists_append_trim_append cs
  rw [← hcs]
  exact List.mem_append_right _ (List.mem_append_left _ h)

lemma last_trimEnd (cs : List Char) : ∀ c ∈ (trimEnd cs).getLast?, isWhite c = false := by
  induction cs with
  | nil => simp [trimEnd]
  | cons c cs ih =>
    rw [trimEnd_cons]
    cases hend : trimEnd cs with
    | nil => cases hc : isWhite c <;> simp [hc]
    | cons d ds =>
      rw [hend] at ih
      simpa using ih

/-- Trimming leaves a trimmed text. -/
lemma trimmed_trim (cs : List Char) : Trimmed (trim cs) := by
  refine ⟨fun c hc => ?_, last_trimEnd _⟩
  obtain ⟨ws, -, hstart⟩ := exists_trimEnd_append (trimStart cs)
  have hhead : (cs.dropWhile isWhite).head? = some c := by
    rw [← trimStart, ← hstart, List.head?_append]
    exact Option.or_eq_some_iff.mpr (.inl hc)
  have hnot := List.head?_dropWhile_not isWhite cs
  rw [hhead] at hnot
  exact hnot

/-- What stands behind a text that is not blank does not change the white space in front of it. -/
lemma takeWhile_append_of_trim_ne_nil (h : trim cs ≠ []) (ws : List Char) :
    (cs ++ ws).takeWhile isWhite = cs.takeWhile isWhite := by
  rw [List.takeWhile_append, if_neg]
  intro hlength
  have hself : cs.takeWhile isWhite = cs := (List.takeWhile_prefix _).eq_of_length hlength
  exact h (trim_eq_nil_iff.mpr (List.takeWhile_eq_self_iff.mp hself))

end Trim

end Placard.Text
