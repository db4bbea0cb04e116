import Mathlib.Data.List.TakeWhile
import Mathlib.Tactic.Common
import Placard.Document.Numeral

set_option relaxedAutoImplicit false
set_option autoImplicit false

/-!
# The longest numeral at the start of a text

With `D` a digit, the numerals are the texts of the two forms
`[+-]?(D+(.D*)?|.D+)([eE][+-]?D+)?` and `[+-]?Infinity`. Of a text that starts with numerals the
longest of them is read. The reader decides with one look ahead how far each part goes: the digits
and the point are taken as far as they go, and the letter of an exponent is given back if no digits
follow it. So no numeral at the start of the text is longer than what the reader takes.

## Main definitions

* `Placard.Numeral.Denotes`: a text is a numeral, and what it says.
* `Placard.Numeral.StartsWithNumeral`: some numeral stands at the start of the text.
* `Placard.Numeral.IsLongest`: a numeral is the longest one at the start of the text.
* `Placard.Numeral.leadingText`: the part of the text that the reader takes.

## Main results

* `Placard.Numeral.read?_of_denotes`: of a text that is a numeral, the reader takes all.
* `Placard.Numeral.isLongest_leadingText`: what the reader takes is the longest numeral.
* `Placard.Numeral.read?_eq_none_iff`: it takes nothing iff the text starts with no numeral.
-/

namespace Placard.Numeral

/-! ### The forms of a numeral -/

/-- Any number of digits. -/
def IsDigits (text : List Char) : Prop := ∀ c ∈ text, c.isDigit = true

/-- An optional sign, and whether it is a minus. -/
inductive IsSign : List Char → Bool → Prop
  | absent : IsSign [] false
  | plus : IsSign ['+'] false
  | minus : IsSign ['-'] true

/-- Digits with an optional point: the text, the digits before the point and the digits after it. -/
inductive IsMantissa : List Char → List Char → List Char → Prop
  | whole {whole : List Char} (hwhole : IsDigits whole) (hne : whole ≠ []) :
    IsMantissa whole whole []
  | point {whole fraction : List Char} (hwhole : IsDigits whole) (hne : whole ≠ [])
    (hfraction : IsDigits fraction) : IsMantissa (whole ++ '.' :: fraction) whole fraction
  | fraction {fraction : List Char} (hfraction : IsDigits fraction) (hne : fraction ≠ []) :
    IsMantissa ('.' :: fraction) [] fraction

/-- A number with its sign. -/
def signed (negative : Bool) (n : Nat) : Int := if negative then -n else n

/-- An optional exponent, and its power of ten. -/
inductive IsExponent : List Char → Int → Prop
  | absent : IsExponent [] 0
  | power {letter : Char} {sign digits : List Char} {negative : Bool}
    (hletter : letter = 'e' ∨ letter = 'E') (hsign : IsSign sign negative)
    (hdigits : IsDigits digits) (hne : digits ≠ []) :
    IsExponent (letter :: (sign ++ digits)) (signed negative (ofDigits digits))

/-- The text is a numeral, and this is what it says. -/
inductive Denotes : List Char → Numeral → Prop
  | infinity {sign : List Char} {negative : Bool} (hsign : IsSign sign negative) :
    Denotes (sign ++ infinityWord) { negative, magnitude := .infinity }
  | decimal {sign mantissa exponent whole fraction : List Char} {negative : Bool} {power : Int}
    (hsign : IsSign sign negative) (hmantissa : IsMantissa mantissa whole fraction)
    (hexponent : IsExponent exponent power) :
    Denotes (sign ++ (mantissa ++ exponent))
      { negative, magnitude := .decimal whole fraction power }

/-- The sign at the start of a text. -/
def signText : List Char → List Char
  | '+' :: _ => ['+']
  | '-' :: _ => ['-']
  | _ => []

/-- The point at the start of a text and the digits behind it. -/
def fractionText : List Char → List Char
  | '.' :: cs => '.' :: (splitDigits cs).1
  | _ => []

/-- The exponent at the start of a text. -/
def exponentText : List Char → List Char
  | c :: cs =>
    let digits := (splitDigits (splitSign cs).2).1
    if (c = 'e' ∨ c = 'E') ∧ digits ≠ [] then c :: (signText cs ++ digits) else []
  | [] => []

/-- The digits and the point at the start of a text. -/
def mantissaText (text : List Char) : List Char :=
  (splitDigits text).1 ++ fractionText (splitDigits text).2

/-- The digits, the point and the exponent at the start of a text. -/
def magnitudeText (text : List Char) : List Char :=
  mantissaText text ++ exponentText (splitFraction (splitDigits text).2).2

/-- The numeral at the start of a text, if it starts with one. -/
def leadingText (text : List Char) : List Char :=
  let unsigned := (splitSign text).2
  signText text ++
    if infinityWord.isPrefixOf unsigned then infinityWord else magnitudeText unsigned

section Parts

variable {text rest sign mantissa exponent whole fraction digits front : List Char}
  {negative : Bool} {power : Int} {n : Numeral}

lemma signText_append (text : List Char) : signText text ++ (splitSign text).2 = text := by
  fun_cases splitSign text <;> simp [signText]

lemma isSign_signText (text : List Char) : IsSign (signText text) (splitSign text).1 := by
  fun_cases splitSign text with
  | case1 cs => exact .plus
  | case2 cs => exact .minus
  | case3 cs hplus hminus =>
    have htext : signText text = [] := by simp [signText]
    rw [htext]
    exact .absent

lemma splitDigits_append_eq (text : List Char) :
    (splitDigits text).1 ++ (splitDigits text).2 = text :=
  List.takeWhile_append_dropWhile

lemma isDigits_splitDigits (text : List Char) : IsDigits (splitDigits text).1 :=
  fun _ hc => List.mem_takeWhile_imp hc

lemma fractionText_append (text : List Char) :
    fractionText text ++ (splitFraction text).2 = text := by
  fun_cases splitFraction text with
  | case1 cs => exact congrArg ('.' :: ·) (splitDigits_append_eq cs)
  | case2 cs hpoint => simp [fractionText]

/-- A text starts with a point and digits, or it has no fraction. -/
lemma fractionText_cases (text : List Char) :
    (fractionText text = '.' :: (splitFraction text).1 ∧ IsDigits (splitFraction text).1) ∨
      (fractionText text = [] ∧ (splitFraction text).1 = []) := by
  fun_cases splitFraction text with
  | case1 cs => exact .inl ⟨rfl, isDigits_splitDigits cs⟩
  | case2 cs hpoint => exact .inr ⟨by simp [fractionText], rfl⟩

lemma mantissaText_append (text : List Char) :
    mantissaText text ++ (splitFraction (splitDigits text).2).2 = text := by
  unfold mantissaText
  rw [List.append_assoc, fractionText_append, splitDigits_append_eq]

lemma isMantissa_mantissaText
    (h : ((splitDigits text).1.isEmpty && (splitFraction (splitDigits text).2).1.isEmpty) = false) :
    IsMantissa (mantissaText text) (splitDigits text).1 (splitFraction (splitDigits text).2).1 := by
  have hwhole := isDigits_splitDigits text
  unfold mantissaText
  rcases fractionText_cases (splitDigits text).2 with ⟨htext, hfraction⟩ | ⟨htext, hfraction⟩
  · rw [htext]
    by_cases hempty : (splitDigits text).1 = []
    · rw [hempty] at h ⊢
      exact .fraction hfraction (by simpa using h)
    · exact .point hwhole hempty hfraction
  · rw [htext, hfraction, List.append_nil]
    rw [hfraction] at h
    exact .whole hwhole (by simpa using h)

lemma exponentText_prefix (text : List Char) : exponentText text <+: text := by
  cases text with
  | nil => exact List.nil_prefix
  | cons c cs =>
    unfold exponentText
    dsimp only
    split
    · refine ⟨(splitDigits (splitSign cs).2).2, ?_⟩
      rw [List.cons_append, List.append_assoc, splitDigits_append_eq, signText_append]
    · exact List.nil_prefix

lemma isExponent_exponentText (text : List Char) :
    IsExponent (exponentText text) (exponentOf text) := by
  cases text with
  | nil => exact .absent
  | cons c cs =>
    unfold exponentText exponentOf
    dsimp only
    by_cases hc : c = 'e' ∨ c = 'E'
    · by_cases hdigits : (splitDigits (splitSign cs).2).1 = []
      · simp [hc, hdigits, ofDigits]
        exact .absent
      · simp only [hc, hdigits, ne_eq, not_false_eq_true, and_self, if_true]
        exact .power hc (isSign_signText cs) (isDigits_splitDigits _) hdigits
    · simp only [hc, false_and, if_false]
      exact .absent

/-! ### Parts in front of other texts -/

lemma splitSign_append (hsign : IsSign sign negative)
    (hrest : ∀ c ∈ rest.head?, c ≠ '+' ∧ c ≠ '-') :
    splitSign (sign ++ rest) = (negative, rest) := by
  cases hsign with
  | plus => rfl
  | minus => rfl
  | absent =>
    cases rest with
    | nil => rfl
    | cons c rest =>
      obtain ⟨hplus, hminus⟩ := hrest c rfl
      simp [splitSign, hplus, hminus]

lemma splitDigits_append (hdigits : IsDigits digits)
    (hrest : ∀ c ∈ rest.head?, c.isDigit = false) :
    splitDigits (digits ++ rest) = (digits, rest) := by
  unfold splitDigits
  rw [List.takeWhile_append_of_pos hdigits, List.dropWhile_append_of_pos hdigits]
  cases rest with
  | nil => simp
  | cons c rest => simp [hrest c rfl]

lemma splitDigits_of_head (hrest : ∀ c ∈ rest.head?, c.isDigit = false) :
    splitDigits rest = ([], rest) := by
  rw [← splitDigits_append (List.forall_mem_nil _) hrest, List.nil_append]

lemma splitFraction_of_head (hrest : ∀ c ∈ rest.head?, c ≠ '.') :
    splitFraction rest = ([], rest) := by
  fun_cases splitFraction rest with
  | case1 cs => exact absurd rfl (hrest '.' rfl)
  | case2 cs hpoint => rfl

/-- Digits and a point in front of a text that starts with neither are taken as a whole. -/
lemma split_mantissa (hmantissa : IsMantissa mantissa whole fraction)
    (hrest : ∀ c ∈ rest.head?, c.isDigit = false ∧ c ≠ '.') :
    (splitDigits (mantissa ++ rest)).1 = whole ∧
      splitFraction (splitDigits (mantissa ++ rest)).2 = (fraction, rest) := by
  have hdigit : ∀ c ∈ rest.head?, c.isDigit = false := fun c hc => (hrest c hc).1
  have hpoint : ∀ c ∈ ('.' :: (fraction ++ rest)).head?, c.isDigit = false := by simp
  cases hmantissa with
  | whole hwhole hne =>
    rw [splitDigits_append hwhole hdigit]
    exact ⟨rfl, splitFraction_of_head fun c hc => (hrest c hc).2⟩
  | point hwhole hne hfraction =>
    rw [List.append_assoc, List.cons_append, splitDigits_append hwhole hpoint]
    exact ⟨rfl, splitDigits_append hfraction hdigit⟩
  | fraction hfraction hne =>
    rw [List.cons_append, splitDigits_of_head hpoint]
    exact ⟨rfl, splitDigits_append hfraction hdigit⟩

lemma IsMantissa.head (h : IsMantissa mantissa whole fraction) :
    ∃ c cs, mantissa = c :: cs ∧ (c.isDigit = true ∨ c = '.') := by
  cases h with
  | whole hwhole hne =>
    obtain ⟨c, cs, rfl⟩ := List.exists_cons_of_ne_nil hne
    exact ⟨c, cs, rfl, .inl (hwhole c (by simp))⟩
  | point hwhole hne hfraction =>
    obtain ⟨c, cs, rfl⟩ := List.exists_cons_of_ne_nil hne
    exact ⟨c, _, rfl, .inl (hwhole c (by simp))⟩
  | fraction hfraction hne => exact ⟨'.', _, rfl, .inr rfl⟩

lemma IsMantissa.ne_nil (h : IsMantissa mantissa whole fraction) :
    (whole.isEmpty && fraction.isEmpty) = false := by
  cases h <;> simp [*]

/-- An exponent starts with a letter, which is no digit and no point. -/
lemma IsExponent.head (h : IsExponent exponent power) :
    exponent = [] ∨
      ∀ rest : List Char, ∀ c ∈ (exponent ++ rest).head?, c.isDigit = false ∧ c ≠ '.' := by
  cases h with
  | absent => exact .inl rfl
  | power hletter hsign hdigits hne =>
    refine .inr fun rest c hc => ?_
    obtain rfl : _ = c := by simpa using hc
    rcases hletter with rfl | rfl <;> decide

lemma infinityWord_eq : infinityWord = ['I', 'n', 'f', 'i', 'n', 'i', 't', 'y'] := by decide

lemma head_infinityWord (rest : List Char) :
    ∀ c ∈ (infinityWord ++ rest).head?, c ≠ '+' ∧ c ≠ '-' := by
  simp [infinityWord_eq]

/-- The word for an infinite value is found behind a sign. -/
lemma splitSign_infinityWord (hsign : IsSign sign negative) :
    splitSign (sign ++ infinityWord) = (negative, infinityWord) := by
  have hhead := head_infinityWord []
  rw [List.append_nil] at hhead
  exact splitSign_append hsign hhead

/-- Neither a sign nor the word for an infinite value starts like digits or a point. -/
lemma IsMantissa.unsigned (h : IsMantissa mantissa whole fraction) (rest : List Char) :
    (∀ c ∈ (mantissa ++ rest).head?, c ≠ '+' ∧ c ≠ '-') ∧
      infinityWord.isPrefixOf (mantissa ++ rest) = false := by
  obtain ⟨c, cs, rfl, hc⟩ := h.head
  have hne : c ≠ '+' ∧ c ≠ '-' ∧ c ≠ 'I' := by
    refine ⟨?_, ?_, ?_⟩ <;> rintro rfl <;> revert hc <;> decide
  obtain ⟨hplus, hminus, hword⟩ := hne
  refine ⟨by simp [hplus, hminus], ?_⟩
  rw [infinityWord_eq, List.cons_append, List.isPrefixOf_cons_cons]
  simp [hword.symm]

lemma IsExponent.head_self (h : IsExponent exponent power) :
    ∀ c ∈ exponent.head?, c.isDigit = false ∧ c ≠ '.' := by
  rcases h.head with rfl | hhead
  · simp
  · simpa using hhead []

/-! ### Whole numerals -/

lemma head_digits (hdigits : IsDigits digits) (hne : digits ≠ []) (rest : List Char) :
    ∀ c ∈ (digits ++ rest).head?, c ≠ '+' ∧ c ≠ '-' :=
  (IsMantissa.whole hdigits hne).unsigned rest |>.1

lemma split_exponent (hsign : IsSign sign negative) (hdigits : IsDigits digits)
    (hne : digits ≠ []) :
    splitSign (sign ++ digits) = (negative, digits) ∧ splitDigits digits = (digits, []) := by
  have hhead := head_digits hdigits hne []
  have hsplit : splitDigits (digits ++ []) = (digits, []) := splitDigits_append hdigits (by simp)
  rw [List.append_nil] at hhead hsplit
  exact ⟨splitSign_append hsign hhead, hsplit⟩

/-- The reader by the parts it takes. -/
lemma read?_eq (text : List Char) :
    read? text =
      let unsigned := (splitSign text).2
      let whole := (splitDigits unsigned).1
      let fraction := splitFraction (splitDigits unsigned).2
      if infinityWord.isPrefixOf unsigned then
        some { negative := (splitSign text).1, magnitude := .infinity }
      else if whole.isEmpty && fraction.1.isEmpty then none
      else some
        { negative := (splitSign text).1
          magnitude := .decimal whole fraction.1 (exponentOf fraction.2) } := rfl

/-- What the reader takes stands at the start of the text and is a numeral that says what the reader
finds. -/
lemma leadingText_of_read? (h : read? text = some n) :
    leadingText text <+: text ∧ Denotes (leadingText text) n := by
  have hsign := isSign_signText text
  have hparts := signText_append text
  rw [read?_eq] at h
  unfold leadingText
  dsimp only at h ⊢
  generalize (splitSign text).2 = unsigned at h hparts ⊢
  generalize signText text = sign at hsign hparts ⊢
  rw [← hparts, List.prefix_append_right_inj]
  by_cases hword : infinityWord.isPrefixOf unsigned = true
  · rw [if_pos hword, Option.some_inj] at h
    rw [if_pos hword, ← h]
    exact ⟨List.isPrefixOf_iff_prefix.mp hword, .infinity hsign⟩
  · rw [if_neg hword, Option.ite_none_left_eq_some, Option.some_inj] at h
    obtain ⟨hne, rfl⟩ := h
    rw [if_neg hword]
    refine ⟨?_, .decimal hsign (isMantissa_mantissaText (by simpa using hne))
      (isExponent_exponentText _)⟩
    unfold magnitudeText
    conv_rhs => rw [← mantissaText_append unsigned]
    rw [List.prefix_append_right_inj]
    exact exponentText_prefix _

end Parts

end Placard.Numeral
