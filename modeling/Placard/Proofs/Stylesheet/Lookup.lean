import Mathlib.Tactic.Lemma
import Placard.Stylesheet.Basic

set_option relaxedAutoImplicit false
set_option autoImplicit false

/-!
# Color schemes by name

A stylesheet changes in two ways: overrides are laid over it, and color schemes are removed from it.
This file says what a name stands for afterwards, and that removing changes nothing but the color
schemes.

## Main definitions

* `Placard.Stylesheet.eraseAll`: a stylesheet from which color schemes are removed one after
  another.

## Main results

* `Placard.Stylesheet.scheme?_merge`, `Placard.Stylesheet.scheme?_erase`: what a name stands for
  after one change.
* `Placard.Stylesheet.scheme?_eraseAll`: what it stands for after any number of removals.
* `Placard.Stylesheet.exists_eraseAll_eq`: removing changes nothing else.
-/

namespace Placard.Stylesheet

/-- The stylesheet without the color schemes of the given names, removed one after another. -/
def eraseAll (s : Stylesheet) (names : List String) : Stylesheet := names.foldl erase s

section Lookup

variable (s : Stylesheet) (name : String)

lemma scheme?_merge (changes : Overrides) :
    (s.merge changes).scheme? name = (changes.schemes.lookup name).or (s.scheme? name) :=
  List.lookup_append

lemma scheme?_erase (removed : String) :
    (s.erase removed).scheme? name = if name = removed then none else s.scheme? name := by
  simp only [scheme?, erase]
  induction s.schemes with
  | nil => simp
  | cons entry schemes ih =>
    obtain ⟨key, scheme⟩ := entry
    by_cases hkey : key = removed
    · rw [List.filter_cons_of_neg (by simp [hkey]), ih, List.lookup_cons]
      by_cases hname : name = removed
      · rw [if_pos hname, if_pos hname]
      · rw [if_neg hname, if_neg hname, beq_false_of_ne (hkey ▸ hname)]
    · rw [List.filter_cons_of_pos (by simp [hkey]), List.lookup_cons, List.lookup_cons, ih]
      by_cases hname : name = key
      · have hkept : ¬ name = removed := hname ▸ hkey
        rw [if_neg hkept, if_neg hkept]
      · rw [beq_false_of_ne hname]

/-- **A name that has been removed stands for nothing**, and any other name for what it stood for
before. -/
theorem scheme?_eraseAll (names : List String) :
    (s.eraseAll names).scheme? name = if name ∈ names then none else s.scheme? name := by
  induction names generalizing s with
  | nil => simp [eraseAll]
  | cons removed names ih =>
    have hstep : s.eraseAll (removed :: names) = (s.erase removed).eraseAll names := rfl
    rw [hstep, ih, scheme?_erase]
    by_cases hnames : name ∈ names
    · simp [hnames]
    · simp [hnames]

/-- Removing color schemes changes nothing else. -/
lemma exists_eraseAll_eq (names : List String) :
    ∃ schemes, s.eraseAll names = { s with schemes } := by
  induction names generalizing s with
  | nil => exact ⟨s.schemes, rfl⟩
  | cons removed names ih => exact ih (s.erase removed)

end Lookup

end Placard.Stylesheet
