import Mathlib.Tactic.Common
import Placard.Text.Bytes
import Placard.Text.White

set_option relaxedAutoImplicit false
set_option autoImplicit false

/-!
# Bytes of a text

A character below U+0080 is one byte of the text, and every other character starts with a byte from
`0x80` on. So a reader that looks for such characters among the bytes sees the same as one that
looks at the characters, and a place behind characters that are all below U+0080 is a place where
the text can be cut.

## Main definitions

* `Placard.Text.IsAscii`: a character below U+0080.
* `Placard.Text.slice?`: the part of a text between two byte indices.

## Main results

* `Placard.Text.cut?_eq_some_iff`: where a text can be cut, and what the parts are.
* `Placard.Text.slice?_eq_some_iff`: what stands between two byte indices.
* `Placard.Text.head?_encode_eq_some_iff`, `Placard.Text.any_isDigitByte`: what the first byte of a
  text tells of its first character.
* `Placard.Text.getElem?_encode_append`, `Placard.Text.cut_append`: the byte behind characters below
  U+0080, and the cut there.
-/

namespace Placard.Text

/-- A character below U+0080. -/
def IsAscii (c : Char) : Prop := c.utf8Size = 1

section Bytes

variable {c d : Char} {cs front back text : List Char} {n : Nat}

instance : DecidablePred IsAscii := fun c => inferInstanceAs (Decidable (c.utf8Size = 1))

lemma encode_append (front back : List Char) :
    encode (front ++ back) = encode front ++ encode back :=
  List.flatMap_append

lemma encode_cons (c : Char) (cs : List Char) :
    encode (c :: cs) = String.utf8EncodeChar c ++ encode cs :=
  List.flatMap_cons

lemma utf8EncodeChar_of_isAscii (h : IsAscii c) : String.utf8EncodeChar c = [asciiByte c] :=
  String.utf8EncodeChar_eq_singleton h

lemma isAscii_iff_le : IsAscii c ↔ c.toNat ≤ 127 :=
  Char.utf8Size_eq_one_iff.trans UInt32.le_iff_toNat_le

lemma toNat_asciiByte (h : IsAscii c) : (asciiByte c).toNat = c.toNat := by
  have hle := isAscii_iff_le.mp h
  have hmod : (asciiByte c).toNat = c.toNat % 2 ^ 8 := UInt32.toNat_toUInt8 c.val
  omega

/-- A character from U+0080 on starts with a byte from `0x80` on. -/
lemma exists_utf8EncodeChar_eq_cons (h : ¬ IsAscii c) :
    ∃ b bs, String.utf8EncodeChar c = b :: bs ∧ 128 ≤ b.toNat := by
  have hlt : ¬ c.val.toNat ≤ 127 := fun hle => h (isAscii_iff_le.mpr hle)
  have hle : c.val.toNat < 2 ^ 32 := c.val.toNat_lt
  unfold String.utf8EncodeChar
  simp only [hlt, if_false]
  split
  · refine ⟨_, _, rfl, ?_⟩
    rw [UInt8.toNat_ofNat']
    omega
  split
  · refine ⟨_, _, rfl, ?_⟩
    rw [UInt8.toNat_ofNat']
    omega
  · refine ⟨_, _, rfl, ?_⟩
    rw [UInt8.toNat_ofNat']
    omega

/-- The first byte of a text tells whether its first character is a given one below U+0080. -/
lemma head?_encode_eq_some_iff (hd : IsAscii d) :
    (encode cs).head? = some (asciiByte d) ↔ cs.head? = some d := by
  cases cs with
  | nil => simp [encode]
  | cons c cs =>
    rw [encode_cons]
    by_cases hc : IsAscii c
    · rw [utf8EncodeChar_of_isAscii hc, List.singleton_append, List.head?_cons, List.head?_cons,
        Option.some_inj, Option.some_inj, ← UInt8.toNat_inj, toNat_asciiByte hc, toNat_asciiByte hd,
        Char.toNat_inj]
    · obtain ⟨b, bs, hbytes, hb⟩ := exists_utf8EncodeChar_eq_cons hc
      have hbd : b ≠ asciiByte d := by
        rintro rfl
        have := toNat_asciiByte hd
        have := isAscii_iff_le.mp hd
        omega
      have hcd : c ≠ d := fun h => hc (h ▸ hd)
      simp [hbytes, hbd, hcd]

lemma isDigitByte_iff {b : UInt8} : isDigitByte b = true ↔ 48 ≤ b.toNat ∧ b.toNat ≤ 57 := by
  unfold isDigitByte
  rw [Bool.and_eq_true, decide_eq_true_iff, decide_eq_true_iff]
  exact and_congr UInt8.le_iff_toNat_le UInt8.le_iff_toNat_le

lemma isDigit_iff : c.isDigit = true ↔ 48 ≤ c.toNat ∧ c.toNat ≤ 57 := by
  unfold Char.isDigit
  rw [Bool.and_eq_true, decide_eq_true_iff, decide_eq_true_iff]
  exact and_congr UInt32.le_iff_toNat_le UInt32.le_iff_toNat_le

lemma isAscii_of_isDigit (h : c.isDigit = true) : IsAscii c := by
  have hdigit := isDigit_iff.mp h
  exact isAscii_iff_le.mpr (by omega)

/-- The first byte of a text tells whether its first character is a digit. -/
lemma any_isDigitByte (cs : List Char) :
    (encode cs).head?.any isDigitByte = cs.head?.any Char.isDigit := by
  cases cs with
  | nil => rfl
  | cons c cs =>
    rw [encode_cons, Bool.eq_iff_iff]
    by_cases hc : IsAscii c
    · rw [utf8EncodeChar_of_isAscii hc]
      simp [isDigitByte_iff, isDigit_iff, toNat_asciiByte hc]
    · obtain ⟨b, bs, hbytes, hb⟩ := exists_utf8EncodeChar_eq_cons hc
      have hnot := mt isAscii_iff_le.mpr hc
      simp [hbytes, isDigitByte_iff, isDigit_iff]
      omega

/-! ### Behind characters below U+0080 -/

lemma length_encode (h : ∀ c ∈ front, IsAscii c) : (encode front).length = front.length := by
  induction front with
  | nil => rfl
  | cons c front ih =>
    obtain ⟨hc, hfront⟩ := List.forall_mem_cons.mp h
    rw [encode_cons, utf8EncodeChar_of_isAscii hc, List.length_append, ih hfront, List.length_cons]
    simp
    omega

lemma getElem?_encode_append (h : ∀ c ∈ front, IsAscii c) (back : List Char) :
    (encode (front ++ back))[front.length]? = (encode back).head? := by
  rw [encode_append, List.getElem?_append_right (Nat.le_of_eq (length_encode h)), length_encode h,
    Nat.sub_self, List.head?_eq_getElem?]

/-! ### Cuts -/

lemma utf8Length_cons (c : Char) (cs : List Char) :
    utf8Length (c :: cs) = c.utf8Size + utf8Length cs := rfl

lemma utf8Length_eq_zero_iff : utf8Length front = 0 ↔ front = [] := by
  cases front with
  | nil => simp [utf8Length]
  | cons c front =>
    have hpos := c.utf8Size_pos
    rw [utf8Length_cons]
    simp
    omega

/-- A text can be cut between two of its parts, and nowhere else. -/
lemma cut?_eq_some_iff :
    cut? text n = some (front, back) ↔ front ++ back = text ∧ utf8Length front = n := by
  fun_induction cut? text n generalizing front with
  | case1 text =>
    rw [utf8Length_eq_zero_iff]
    constructor
    · rintro ⟨⟩
      simp
    · rintro ⟨rfl, rfl⟩
      rfl
  | case2 n =>
    cases front with
    | nil => simp [utf8Length]
    | cons c front => simp
  | case3 c cs n hle ih =>
    cases front with
    | nil => simp [utf8Length]
    | cons d front =>
      rw [Option.map_eq_some_iff, utf8Length_cons, List.cons_append, List.cons_eq_cons]
      constructor
      · rintro ⟨parts, hcut, hparts⟩
        obtain ⟨hfront, rfl⟩ := Prod.mk.inj hparts
        obtain ⟨rfl, rfl⟩ := List.cons.inj hfront
        obtain ⟨htext, hlength⟩ := ih.mp hcut
        exact ⟨⟨rfl, htext⟩, by omega⟩
      · rintro ⟨⟨rfl, htext⟩, hlength⟩
        exact ⟨(front, back), ih.mpr ⟨htext, by omega⟩, rfl⟩
  | case4 c cs n hgt =>
    cases front with
    | nil => simp [utf8Length]
    | cons d front =>
      rw [utf8Length_cons, List.cons_append, List.cons_eq_cons]
      constructor
      · rintro ⟨⟩
      · rintro ⟨⟨rfl, rfl⟩, hlength⟩
        omega

/-- The part of a text between two byte indices. There is none if one of them lies in a character or
behind the end, or if they are in the wrong order. -/
def slice? (text : List Char) (start stop : Nat) : Option (List Char) :=
  (cut? text stop).bind fun parts => (cut? parts.1 start).map (·.2)

/-- The part of a text between two byte indices stands behind as many bytes as the first one says,
and ends behind as many as the second one says. -/
lemma slice?_eq_some_iff {mid : List Char} {start stop : Nat} :
    slice? text start stop = some mid ↔
      ∃ front back, front ++ mid ++ back = text ∧ utf8Length front = start ∧
        utf8Length (front ++ mid) = stop := by
  rw [slice?, Option.bind_eq_some_iff]
  constructor
  · rintro ⟨⟨before, back⟩, hstop, hmid⟩
    obtain ⟨⟨front, mid⟩, hstart, rfl⟩ := Option.map_eq_some_iff.mp hmid
    obtain ⟨htext, hbefore⟩ := cut?_eq_some_iff.mp hstop
    obtain ⟨rfl, hfront⟩ := cut?_eq_some_iff.mp hstart
    exact ⟨front, back, htext, hfront, hbefore⟩
  · rintro ⟨front, back, htext, hfront, hbefore⟩
    refine ⟨(front ++ mid, back), cut?_eq_some_iff.mpr ⟨htext, hbefore⟩, ?_⟩
    rw [cut?_eq_some_iff.mpr ⟨rfl, hfront⟩, Option.map_some]

/-- A text has as many bytes as characters, or more. -/
lemma length_le_utf8Length (cs : List Char) : cs.length ≤ utf8Length cs := by
  induction cs with
  | nil => exact Nat.le_refl _
  | cons c cs ih =>
    have hpos := c.utf8Size_pos
    rw [utf8Length_cons, List.length_cons]
    omega

/-- There are as many bytes as characters below U+0080 only. -/
lemma utf8Length_eq_length_iff : utf8Length cs = cs.length ↔ ∀ c ∈ cs, IsAscii c := by
  induction cs with
  | nil => exact iff_of_true rfl fun _ h => nomatch h
  | cons c cs ih =>
    have hpos := c.utf8Size_pos
    have hle := length_le_utf8Length cs
    rw [utf8Length_cons, List.length_cons, List.forall_mem_cons, ← ih, IsAscii]
    omega

/-- A text can be cut behind characters below U+0080. -/
lemma cut_append (h : ∀ c ∈ front, IsAscii c) (back : List Char) :
    cut (front ++ back) front.length = .ok (front, back) := by
  unfold cut
  rw [cut?_eq_some_iff.mpr ⟨rfl, utf8Length_eq_length_iff.mpr h⟩]

end Bytes

end Placard.Text
