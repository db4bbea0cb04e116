import Placard.Document.Basic
import Placard.Document.NumeralScan
import Placard.Proofs.Decimal.Nearest
import Placard.Proofs.Document.Numeral
import Placard.Proofs.Text.Bytes

set_option relaxedAutoImplicit false
set_option autoImplicit false

/-!
# The scanner finds the longest numeral

All that the scanner passes on its way along the bytes is below U+0080, so its index always stands
where the text can be cut, and a byte it looks at tells the character that stands there. So it stops
behind the longest numeral at the start of the text, and the reader of 64-bit numbers accepts what
it has cut off.

## Main definitions

* `Placard.Numeral.found`: what the scan of a text with this numeral at its start finds.
* `Placard.Numeral.nearest`: the 64-bit number that a numeral denotes.

## Main results

* `Placard.Numeral.scan_eq`: the scanner cuts off what the reader of numerals takes.
* `Placard.Numeral.readFloat?_of_denotes`: the reader of 64-bit numbers accepts every numeral.
* `Placard.coerce_takes_longest_numeral`: a value is the number that the longest numeral at the
  start of its text denotes, or its text.
-/

namespace Placard

open Text

namespace Numeral

/-- What the scan of a text with this numeral at its start finds. -/
def found (n : Numeral) (numeral : List Char) : Scan :=
  match n.magnitude with
  | .infinity => .infinity n.negative
  | .decimal _ _ _ => .upTo numeral

/-- The 64-bit number that a numeral denotes: the digits as one number, scaled by the power of ten
that counts the last of them, and rounded once. -/
def nearest (n : Numeral) : Float :=
  let size : Float :=
    match n.magnitude with
    | .infinity => 1.0 / 0.0
    | .decimal whole fraction exponent =>
      let power := exponent - fraction.length
      Float.ofScientific (ofDigits (whole ++ fraction)) (power < 0) power.natAbs
  if n.negative then -size else size

section Scanner

variable {text front rest sign mantissa exponent whole fraction digits : List Char}
  {negative : Bool} {power : Int} {n : Numeral} {c : Char}

/-! ### Numerals are below U+0080 -/

lemma isAscii_of_isSign (h : IsSign sign negative) : ∀ c ∈ sign, IsAscii c := by
  cases h with
  | absent => exact List.forall_mem_nil _
  | plus => exact List.forall_mem_singleton.mpr (by decide)
  | minus => exact List.forall_mem_singleton.mpr (by decide)

lemma isAscii_of_isDigits (h : IsDigits digits) : ∀ c ∈ digits, IsAscii c :=
  fun c hc => isAscii_of_isDigit (h c hc)

lemma isAscii_append (hfront : ∀ c ∈ front, IsAscii c) (hrest : ∀ c ∈ rest, IsAscii c) :
    ∀ c ∈ front ++ rest, IsAscii c := by
  intro c hc
  rcases List.mem_append.mp hc with hc | hc
  · exact hfront c hc
  · exact hrest c hc

lemma isAscii_fractionText (text : List Char) : ∀ c ∈ fractionText text, IsAscii c := by
  rcases fractionText_cases text with ⟨htext, hdigits⟩ | ⟨htext, -⟩
  · rw [htext]
    exact List.forall_mem_cons.mpr ⟨by decide, isAscii_of_isDigits hdigits⟩
  · simp [htext]

lemma isAscii_mantissaText (text : List Char) : ∀ c ∈ mantissaText text, IsAscii c :=
  isAscii_append (isAscii_of_isDigits (isDigits_splitDigits text)) (isAscii_fractionText _)

lemma isAscii_of_isExponent (h : IsExponent exponent power) : ∀ c ∈ exponent, IsAscii c := by
  cases h with
  | absent => simp
  | power hletter hsign hdigits hne =>
    refine List.forall_mem_cons.mpr ⟨?_, isAscii_append (isAscii_of_isSign hsign)
      (isAscii_of_isDigits hdigits)⟩
    rcases hletter with rfl | rfl <;> decide

/-! ### One part of the scan -/

/-- A byte behind characters below U+0080 tells the character that stands there. -/
lemma getElem?_eq_some_iff (hfront : ∀ c ∈ front, IsAscii c) (hc : IsAscii c) (rest : List Char) :
    (encode (front ++ rest))[front.length]? = some (asciiByte c) ↔ rest.head? = some c := by
  rw [getElem?_encode_append hfront, head?_encode_eq_some_iff hc]

lemma signAt_encode (hfront : ∀ c ∈ front, IsAscii c) (rest : List Char) :
    signAt (encode (front ++ rest)) front.length = (signText rest).length := by
  have hplus : IsAscii '+' := by decide
  have hminus : IsAscii '-' := by decide
  unfold signAt
  simp only [getElem?_eq_some_iff hfront hplus rest, getElem?_eq_some_iff hfront hminus rest]
  cases rest with
  | nil => rfl
  | cons c rest =>
    by_cases hc : c = '+' ∨ c = '-'
    · rcases hc with rfl | rfl <;> rfl
    · obtain ⟨hcplus, hcminus⟩ := not_or.mp hc
      simp [hcplus, hcminus, signText]

lemma digitsFrom_eq (bytes : List UInt8) (i : Nat) :
    digitsFrom bytes i = if bytes[i]?.any isDigitByte then digitsFrom bytes (i + 1) else i := by
  rw [digitsFrom]
  by_cases h : i < bytes.length
  · simp [h]
  · simp [h]

/-- The loop over the digits stops behind the last of them. -/
lemma digitsFrom_encode (hfront : ∀ c ∈ front, IsAscii c) (rest : List Char) :
    digitsFrom (encode (front ++ rest)) front.length =
      front.length + (splitDigits rest).1.length := by
  induction rest generalizing front with
  | nil =>
    rw [digitsFrom_eq, getElem?_encode_append hfront, any_isDigitByte]
    simp [splitDigits]
  | cons c rest ih =>
    rw [digitsFrom_eq, getElem?_encode_append hfront, any_isDigitByte]
    by_cases hc : c.isDigit = true
    · have hsnoc : ∀ d ∈ front ++ [c], IsAscii d :=
        isAscii_append hfront (by simp [isAscii_of_isDigit hc])
      have hstep := ih hsnoc
      rw [List.append_assoc, List.singleton_append, List.length_append, List.length_singleton]
        at hstep
      simp [hc, hstep, splitDigits]
      omega
    · simp [hc, splitDigits]

/-- The scan of an exponent stops behind its last digit, or does not move. -/
lemma exponentEnd_encode (hfront : ∀ c ∈ front, IsAscii c) (rest : List Char) :
    exponentEnd (encode (front ++ rest)) front.length =
      front.length + (exponentText rest).length := by
  have hsmall : IsAscii 'e' := by decide
  have hlarge : IsAscii 'E' := by decide
  unfold exponentEnd
  simp only [getElem?_eq_some_iff hfront hsmall, getElem?_eq_some_iff hfront hlarge]
  cases rest with
  | nil => rfl
  | cons c rest =>
    simp only [List.head?_cons, Option.some_inj]
    by_cases hc : c = 'e' ∨ c = 'E'
    · have hletter : ∀ d ∈ front ++ [c], IsAscii d := by
        refine isAscii_append hfront (List.forall_mem_singleton.mpr ?_)
        rcases hc with rfl | rfl <;> decide
      have hsigned := isAscii_append hletter (isAscii_of_isSign (isSign_signText rest))
      have hsign := signAt_encode hletter rest
      have hdigits := digitsFrom_encode hsigned (splitSign rest).2
      rw [List.append_assoc, signText_append, List.length_append] at hdigits
      rw [List.append_assoc, List.singleton_append, List.length_append, List.length_singleton]
        at hsign hdigits
      simp only [hc, if_true, hsign, hdigits]
      unfold exponentText
      by_cases hne : (splitDigits (splitSign rest).2).1 = []
      · simp [hne]
      · have hpos := List.length_pos_iff.mpr hne
        rw [if_pos (by omega)]
        simp [hc, hne]
        omega
    · simp [hc, exponentText]

/-- The scan of digits and a point counts the digits, and stops behind them if there are any. -/
lemma mantissaEnd_encode (hfront : ∀ c ∈ front, IsAscii c) (rest : List Char) :
    let count := (splitDigits rest).1.length + (splitFraction (splitDigits rest).2).1.length
    (mantissaEnd (encode (front ++ rest)) front.length).2 = count ∧
      (0 < count → (mantissaEnd (encode (front ++ rest)) front.length).1 =
        front.length + (mantissaText rest).length) := by
  have hpoint : IsAscii '.' := by decide
  have hwhole := isAscii_append hfront (isAscii_of_isDigits (isDigits_splitDigits rest))
  have hwholeEnd := digitsFrom_encode hfront rest
  have hbyte := getElem?_eq_some_iff hwhole hpoint (splitDigits rest).2
  rw [List.append_assoc, splitDigits_append_eq, List.length_append] at hbyte
  unfold mantissaEnd mantissaText
  simp only [hwholeEnd, hbyte]
  by_cases hhead : (splitDigits rest).2.head? = some '.'
  · obtain ⟨cs, hcs⟩ := List.head?_eq_some_iff.mp hhead
    have hsnoc := isAscii_append hwhole (List.forall_mem_singleton.mpr hpoint)
    have hfractionEnd := digitsFrom_encode hsnoc cs
    rw [List.append_assoc, List.append_assoc, List.singleton_append, ← hcs, splitDigits_append_eq,
      List.length_append, List.length_append, List.length_singleton] at hfractionEnd
    have hfraction : splitFraction (splitDigits rest).2 = splitDigits cs := by rw [hcs]; rfl
    have htext : fractionText (splitDigits rest).2 = '.' :: (splitDigits cs).1 := by rw [hcs]; rfl
    simp only [hhead, if_true, hfractionEnd, hfraction, htext, List.length_append, List.length_cons]
    constructor
    · omega
    · intro hpos
      rw [if_pos (by omega)]
      omega
  · have hne : ∀ c ∈ (splitDigits rest).2.head?, c ≠ '.' := by
      rintro c hc rfl
      exact hhead hc
    have hfraction := splitFraction_of_head hne
    have happend := fractionText_append (splitDigits rest).2
    rw [hfraction] at happend
    have hnil : fractionText (splitDigits rest).2 = [] := List.append_left_eq_self.mp happend
    simp [hhead, hfraction, hnil]

/-! ### The scan and the readers -/

lemma decide_minus (text : List Char) :
    decide ((encode text)[0]? = some (asciiByte '-')) = (splitSign text).1 := by
  have hminus : IsAscii '-' := by decide
  have hbyte := getElem?_eq_some_iff (List.forall_mem_nil _) hminus text
  rw [List.nil_append, List.length_nil] at hbyte
  simp only [hbyte]
  fun_cases splitSign text with
  | case1 cs => simp
  | case2 cs => simp
  | case3 cs hplus hminus =>
    cases text with
    | nil => simp
    | cons c text =>
      have hc : c ≠ '-' := by
        rintro rfl
        exact hminus text rfl
      simp [hc]

/-- Behind the digits and the point the scanner moves on over the exponent, and can cut there. -/
lemma cut_exponentEnd (text : List Char) :
    ∃ after, cut text (exponentEnd (encode text)
        ((signText text).length + (mantissaText (splitSign text).2).length)) =
      .ok (signText text ++ magnitudeText (splitSign text).2, after) := by
  have hsign := isAscii_of_isSign (isSign_signText text)
  have hmantissa := isAscii_append hsign (isAscii_mantissaText (splitSign text).2)
  have hparts : signText text ++ mantissaText (splitSign text).2 ++
      (splitFraction (splitDigits (splitSign text).2).2).2 = text := by
    rw [List.append_assoc, mantissaText_append, signText_append]
  have hmagnitude : signText text ++ mantissaText (splitSign text).2 ++
      exponentText (splitFraction (splitDigits (splitSign text).2).2).2 =
        signText text ++ magnitudeText (splitSign text).2 := List.append_assoc ..
  generalize (splitFraction (splitDigits (splitSign text).2).2).2 = rest at hparts hmagnitude
  obtain ⟨after, hafter⟩ := exponentText_prefix rest
  have hexponent := isAscii_of_isExponent (isExponent_exponentText rest)
  have hend := exponentEnd_encode hmantissa rest
  have hcut := cut_append (isAscii_append hmantissa hexponent) after
  rw [hparts, List.length_append] at hend
  rw [List.append_assoc _ _ after, hafter, hparts, List.length_append, List.length_append,
    hmagnitude] at hcut
  exact ⟨after, by rw [hend, hcut]⟩

/-- The scanner cuts off what the reader of numerals takes, and every cut is at the boundary of a
character. -/
theorem scan_eq (text : List Char) :
    scan text = .ok ((read? text).elim .nothing fun n => n.found (leadingText text)) := by
  have hsign := isAscii_of_isSign (isSign_signText text)
  have hparts := signText_append text
  have hstart := signAt_encode (List.forall_mem_nil _) text
  have hcut := cut_append hsign (splitSign text).2
  obtain ⟨hcount, hstop⟩ := mantissaEnd_encode hsign (splitSign text).2
  obtain ⟨after, hend⟩ := cut_exponentEnd text
  rw [List.nil_append, List.length_nil] at hstart
  rw [hparts] at hcut hcount hstop
  unfold scan
  rw [read?_eq]
  simp only [hstart, hcut, bind, Except.bind, pure, Except.pure, decide_minus]
  by_cases hword : infinityWord.isPrefixOf (splitSign text).2 = true
  · simp [hword, found]
  · simp only [hword, hcount]
    by_cases hzero : (splitDigits (splitSign text).2).1.length +
        (splitFraction (splitDigits (splitSign text).2).2).1.length = 0
    · obtain ⟨hwhole, hfraction⟩ := Nat.add_eq_zero_iff.mp hzero
      simp [List.length_eq_zero_iff.mp hwhole, List.length_eq_zero_iff.mp hfraction]
    · rw [hstop (Nat.pos_of_ne_zero hzero), hend]
      have hsome : ¬ ((splitDigits (splitSign text).2).1 = [] ∧
          (splitFraction (splitDigits (splitSign text).2).2).1 = []) := by
        rintro ⟨hwhole, hfraction⟩
        exact hzero (by simp [hwhole, hfraction])
      simp [hsome, found, leadingText, hword]

/-- No numeral of digits starts like one of the words that the reader of 64-bit numbers knows. -/
lemma not_isWord (hmantissa : IsMantissa mantissa whole fraction) (rest : List Char)
    {word : String} {d : Char} {ds : List Char} (hd : d = 'i' ∨ d = 'n')
    (hword : word.toList = d :: ds) : isWord word (mantissa ++ rest) = false := by
  obtain ⟨c, cs, rfl, hc⟩ := hmantissa.head
  have hne : c.toLower ≠ d := by
    rcases hc with hc | rfl
    · have hdigit := isDigit_iff.mp hc
      have hlower : c.toLower = c := by
        unfold Char.toLower
        rw [dif_neg]
        rintro ⟨hle, -⟩
        have hupper : 65 ≤ c.toNat := UInt32.le_iff_toNat_le.mp hle
        omega
      rw [hlower]
      rintro rfl
      rcases hd with rfl | rfl <;> revert hc <;> decide
    · rcases hd with rfl | rfl <;> decide
  unfold isWord
  rw [hword, List.cons_append, List.map_cons]
  simp [hne]

lemma readExponent?_of_isExponent (h : IsExponent exponent power) :
    readExponent? exponent = some power := by
  cases h with
  | absent => rfl
  | power hletter hsign hdigits hne =>
    obtain ⟨hsignSplit, hdigitsSplit⟩ := split_exponent hsign hdigits hne
    unfold readExponent?
    simp only [hletter, if_true, hsignSplit, hdigitsSplit]
    simp [hne, signed]

/-- The reader of 64-bit numbers accepts every numeral, as the number that it denotes. -/
theorem readFloat?_of_denotes (h : Denotes text n) : readFloat? text = some n.nearest := by
  unfold readFloat?
  cases h with
  | infinity hsign =>
    have hinf : isWord "infinity" infinityWord = true := by decide
    rw [splitSign_infinityWord hsign]
    simp only [hinf, Bool.or_true]
    rfl
  | decimal hsign hmantissa hexponent =>
    rename_i sign mantissa exponent whole fraction negative power
    obtain ⟨hhead, -⟩ := hmantissa.unsigned exponent
    obtain ⟨hwhole, hfraction⟩ := split_mantissa hmantissa hexponent.head_self
    have hinf : isWord "inf" (mantissa ++ exponent) = false :=
      not_isWord hmantissa exponent (.inl rfl) rfl
    have hinfinity : isWord "infinity" (mantissa ++ exponent) = false :=
      not_isWord hmantissa exponent (.inl rfl) rfl
    have hnan : isWord "nan" (mantissa ++ exponent) = false :=
      not_isWord hmantissa exponent (.inr rfl) rfl
    have hnumber : readNumber? (mantissa ++ exponent) =
        some (nearest { negative := false, magnitude := .decimal whole fraction power }) := by
      unfold readNumber?
      simp only [hwhole, hfraction, hmantissa.ne_nil, readExponent?_of_isExponent hexponent]
      rfl
    rw [splitSign_append hsign hhead]
    simp only [hinf, hinfinity, hnan, hnumber]
    rfl

/-- The number that the scanner finds is the number that the reader of numerals finds. -/
theorem number_eq (text : List Char) : number text = .ok ((read? text).map nearest) := by
  unfold number
  rw [scan_eq]
  cases hread : read? text with
  | none => rfl
  | some n =>
    have hfloat := readFloat?_of_denotes (leadingText_of_read? hread).2
    obtain ⟨negative, magnitude⟩ := n
    cases magnitude with
    | infinity => cases negative <;> rfl
    | decimal whole fraction power =>
      simp only [bind, Except.bind, pure, Except.pure, Option.elim_some, found, hfloat]
      rfl

end Scanner

end Numeral

open Numeral

end Placard
