import Mathlib.Algebra.Order.Floor.Div
import Mathlib.Tactic.Lemma
import Placard.Markup.DataUrl

set_option relaxedAutoImplicit false
set_option autoImplicit false

/-!
# Reading base 64

A letter stands for six bits, four letters for three bytes. The last group of letters may be padded:
two letters stand for one byte then, three for two bytes, and the bits left over are zero. This file
reads base 64 in this way, and shows that it gives back the bytes that were written.

## Main definitions

* `Placard.Base64.value?`, `Placard.Base64.number?`: what a letter and what letters stand for.
* `Placard.Base64.decode?`: the bytes that a text in base 64 stands for.

## Main results

* `Placard.Base64.decode?_encode`: what was written is read back.
* `Placard.Base64.length_encode`: there are four letters for each three bytes begun.
* `Placard.dataUrl_injective`: a data URL tells its text and its media type.
-/

namespace Placard

namespace Base64

/-- The value of a letter. -/
def value? (c : Char) : Option Nat :=
  if 'A' ≤ c ∧ c ≤ 'Z' then some (c.toNat - 'A'.toNat)
  else if 'a' ≤ c ∧ c ≤ 'z' then some (c.toNat - 'a'.toNat + 26)
  else if '0' ≤ c ∧ c ≤ '9' then some (c.toNat - '0'.toNat + 52)
  else if c = '+' then some 62
  else if c = '/' then some 63
  else none

/-- The number that letters stand for, six bits each. -/
def number? (letters : List Char) : Option Nat :=
  letters.foldlM (fun n c => (value? c).map (n * 64 + ·)) 0

/-- The bytes of a number of 24 bits. -/
def threeBytes (n : Nat) : List UInt8 :=
  [UInt8.ofNat (n / 65536), UInt8.ofNat (n / 256), UInt8.ofNat n]

/-- The byte that the last two letters stand for, if four bits are left over. -/
def lastByte? (letters : List Char) : Option (List UInt8) :=
  (number? letters).bind fun n => if n % 16 = 0 then some [UInt8.ofNat (n / 16)] else none

/-- The bytes that the last three letters stand for, if two bits are left over. -/
def lastBytes? (letters : List Char) : Option (List UInt8) :=
  (number? letters).bind fun n =>
    if n % 4 = 0 then some [UInt8.ofNat (n / 1024), UInt8.ofNat (n / 4)] else none

/-- The bytes that a text in base 64 stands for. -/
def decode? : List Char → Option (List UInt8)
  | [] => some []
  | a :: b :: c :: d :: rest =>
    if d = padding ∧ rest = [] then
      if c = padding then lastByte? [a, b] else lastBytes? [a, b, c]
    else (number? [a, b, c, d]).bind fun n => (decode? rest).map (threeBytes n ++ ·)
  | _ => none

/-! ## Letters -/

section Letters

/-- Each of the sixty-four letters has its own value. -/
lemma value?_letter (n : Nat) : value? (letter n) = some (n % 64) := by
  have hvalues : ∀ k < 64, value? (letter k) = some k := by decide +kernel
  have hletter : letter n = letter (n % 64) := by rw [letter, letter, Nat.mod_mod]
  rw [hletter]
  exact hvalues _ (Nat.mod_lt n (by decide))

lemma letter_ne_padding (n : Nat) : letter n ≠ padding := by
  intro h
  have hvalue := value?_letter n
  rw [h] at hvalue
  cases hvalue

/-- Letters stand for the number that is put together from their values. -/
lemma number?_map_letter (ns : List Nat) :
    number? (ns.map letter) = some (ns.foldl (fun m n => m * 64 + n % 64) 0) := by
  have hfold : ∀ m, (ns.map letter).foldlM (fun n c => (value? c).map (n * 64 + ·)) m =
      some (ns.foldl (fun m n => m * 64 + n % 64) m) := by
    induction ns with
    | nil => exact fun _ => rfl
    | cons n ns ih =>
      intro m
      rw [List.map_cons, List.foldlM_cons, value?_letter, List.foldl_cons]
      exact ih _
  exact hfold 0

end Letters

/-! ## Groups of letters -/

section Groups

lemma lastByte?_encode (a : UInt8) :
    lastByte? [letter (a.toNat * 16 / 64), letter (a.toNat * 16)] = some [a] := by
  have hnumber := number?_map_letter [a.toNat * 16 / 64, a.toNat * 16]
  have hlt := a.toNat_lt
  have hvalue : [a.toNat * 16 / 64, a.toNat * 16].foldl (fun m n => m * 64 + n % 64) 0 =
      a.toNat * 16 := by
    simp only [List.foldl_cons, List.foldl_nil]
    omega
  have hrest : a.toNat * 16 % 16 = 0 := Nat.mul_mod_left _ _
  rw [hvalue] at hnumber
  simp only [List.map_cons, List.map_nil] at hnumber
  rw [lastByte?, hnumber, Option.bind_some, if_pos hrest, Nat.mul_div_cancel _ (by decide),
    UInt8.ofNat_toNat]

lemma lastBytes?_encode (a b : UInt8) :
    let n := (a.toNat * 256 + b.toNat) * 4
    lastBytes? [letter (n / 4096), letter (n / 64), letter n] = some [a, b] := by
  intro n
  have hn : n = (a.toNat * 256 + b.toNat) * 4 := rfl
  have hnumber := number?_map_letter [n / 4096, n / 64, n]
  have hlt := a.toNat_lt
  have hlt' := b.toNat_lt
  have hvalue : [n / 4096, n / 64, n].foldl (fun m n => m * 64 + n % 64) 0 = n := by
    simp only [List.foldl_cons, List.foldl_nil]
    omega
  have hrest : n % 4 = 0 := Nat.mul_mod_left _ _
  rw [hvalue] at hnumber
  simp only [List.map_cons, List.map_nil] at hnumber
  rw [lastBytes?, hnumber, Option.bind_some, if_pos hrest]
  have hfirst : UInt8.ofNat (n / 1024) = a := by
    rw [← UInt8.toNat_inj, UInt8.toNat_ofNat']
    omega
  have hsecond : UInt8.ofNat (n / 4) = b := by
    rw [← UInt8.toNat_inj, UInt8.toNat_ofNat']
    omega
  rw [hfirst, hsecond]

lemma number?_encode (a b c : UInt8) :
    let n := (a.toNat * 256 + b.toNat) * 256 + c.toNat
    number? [letter (n / 262144), letter (n / 4096), letter (n / 64), letter n] = some n := by
  intro n
  have hn : n = (a.toNat * 256 + b.toNat) * 256 + c.toNat := rfl
  have hnumber := number?_map_letter [n / 262144, n / 4096, n / 64, n]
  have hlt := a.toNat_lt
  have hlt' := b.toNat_lt
  have hlt'' := c.toNat_lt
  have hvalue : [n / 262144, n / 4096, n / 64, n].foldl (fun m n => m * 64 + n % 64) 0 = n := by
    simp only [List.foldl_cons, List.foldl_nil]
    omega
  rw [hvalue] at hnumber
  simpa only [List.map_cons, List.map_nil] using hnumber

lemma threeBytes_encode (a b c : UInt8) :
    threeBytes ((a.toNat * 256 + b.toNat) * 256 + c.toNat) = [a, b, c] := by
  have hlt := a.toNat_lt
  have hlt' := b.toNat_lt
  have hlt'' := c.toNat_lt
  simp only [threeBytes, List.cons.injEq, and_true, ← UInt8.toNat_inj, UInt8.toNat_ofNat']
  omega

end Groups

/-- **What was written in base 64 is read back.** -/
theorem decode?_encode (bytes : List UInt8) : decode? (encode bytes) = some bytes := by
  fun_induction encode bytes with
  | case1 => rfl
  | case2 a n =>
    rw [decode?, if_pos ⟨rfl, rfl⟩, if_pos rfl]
    exact lastByte?_encode a
  | case3 a b n =>
    rw [decode?, if_pos ⟨rfl, rfl⟩, if_neg (letter_ne_padding n)]
    exact lastBytes?_encode a b
  | case4 a b c rest n ih =>
    rw [decode?, if_neg fun h => letter_ne_padding n h.1, number?_encode a b c, Option.bind_some,
      ih, threeBytes_encode]
    rfl

/-- **There are four letters for each three bytes begun.** -/
theorem length_encode (bytes : List UInt8) :
    (encode bytes).length = 4 * (bytes.length ⌈/⌉ 3) := by
  rw [Nat.ceilDiv_eq_add_pred_div]
  fun_induction encode bytes with
  | case1 => rfl
  | case2 a n => simp
  | case3 a b n => simp
  | case4 a b c rest n ih =>
    simp only [List.length_cons]
    omega

/-- All of them are letters or padding. -/
lemma isLetter_of_mem_encode {bytes : List UInt8} {c : Char} (h : c ∈ encode bytes) :
    (value? c).isSome = true ∨ c = padding := by
  have hletter : ∀ n, (value? (letter n)).isSome = true := by
    intro n
    rw [value?_letter]
    rfl
  fun_induction encode bytes with
  | case1 => cases h
  | case2 a n =>
    simp only [List.mem_cons, List.not_mem_nil, or_false] at h
    rcases h with rfl | rfl | rfl | rfl
    · exact .inl (hletter _)
    · exact .inl (hletter _)
    · exact .inr rfl
    · exact .inr rfl
  | case3 a b n =>
    simp only [List.mem_cons, List.not_mem_nil, or_false] at h
    rcases h with rfl | rfl | rfl | rfl
    · exact .inl (hletter _)
    · exact .inl (hletter _)
    · exact .inl (hletter _)
    · exact .inr rfl
  | case4 a b c rest n ih =>
    simp only [List.mem_cons] at h
    rcases h with rfl | rfl | rfl | rfl | h
    · exact .inl (hletter _)
    · exact .inl (hletter _)
    · exact .inl (hletter _)
    · exact .inl (hletter _)
    · exact ih h

lemma comma_not_mem_encode (bytes : List UInt8) : ',' ∉ encode bytes := by
  intro h
  rcases isLetter_of_mem_encode h with hvalue | hpadding
  · exact absurd hvalue (by decide)
  · exact absurd hpadding (by decide)

end Base64

/-! ## Bytes of a text -/

section Bytes

lemma toList_loop_eq (bytes : ByteArray) (i : Nat) (front : List UInt8) :
    ByteArray.toList.loop bytes i front = front.reverse ++ bytes.data.toList.drop i := by
  fun_induction ByteArray.toList.loop bytes i front with
  | case1 i front h ih =>
    have hget : bytes.get! i = bytes.data[i] := getElem!_pos bytes.data i h
    rw [← ByteArray.size_data, ← Array.length_toList] at h
    rw [ih, List.reverse_cons, List.append_assoc, List.drop_eq_getElem_cons h, hget]
    rfl
  | case2 i front h =>
    rw [← ByteArray.size_data, ← Array.length_toList, Nat.not_lt] at h
    rw [List.drop_eq_nil_of_le h, List.append_nil]

/-- The bytes one after another. -/
lemma toList_eq (bytes : ByteArray) : bytes.toList = bytes.data.toList := by
  rw [ByteArray.toList, toList_loop_eq]
  rfl

/-- The bytes of a text tell it. -/
lemma toUTF8_toList_injective {s t : String} (h : s.toUTF8.toList = t.toUTF8.toList) : s = t := by
  rw [toList_eq, toList_eq, Array.toList_inj] at h
  exact String.toByteArray_inj.mp (ByteArray.ext h)

lemma length_toUTF8_toList (s : String) : s.toUTF8.toList.length = s.utf8ByteSize := by
  rw [toList_eq, Array.length_toList, ByteArray.size_data]
  exact String.size_toByteArray

end Bytes

/-! ## Data URLs -/

section Url

variable {text text' mediaType mediaType' : String}

/-- What stands behind the last comma is found from the end. -/
lemma takeWhile_reverse_append_comma {front back : List Char} (h : ',' ∉ back) :
    (front ++ ',' :: back).reverse.takeWhile (· != ',') = back.reverse := by
  have hpos : ∀ c ∈ back.reverse, (c != ',') = true := by
    intro c hc
    rw [bne_iff_ne]
    rintro rfl
    exact h (List.mem_reverse.mp hc)
  rw [List.reverse_append, List.reverse_cons, List.append_assoc,
    List.takeWhile_append_of_pos hpos, List.singleton_append,
    List.takeWhile_cons_of_neg (by decide), List.append_nil]

/-- **A data URL tells its text and its media type.** The letters behind the last comma tell the
bytes of the text. -/
theorem dataUrl_injective (h : dataUrl text mediaType = dataUrl text' mediaType') :
    text = text' ∧ mediaType = mediaType' := by
  have hchars : ∀ text mediaType : String, (dataUrl text mediaType).toList =
      "data:".toList ++ (mediaType.toList ++ ";base64".toList ++
        ',' :: Base64.encode text.toUTF8.toList) := by
    intro text mediaType
    simp [dataUrl]
  have hcomma := fun bytes => Base64.comma_not_mem_encode bytes
  have hlist := congrArg String.toList h
  rw [hchars, hchars, List.append_cancel_left_eq] at hlist
  have hbehind := congrArg (fun cs => cs.reverse.takeWhile (· != ',')) hlist
  simp only [takeWhile_reverse_append_comma (hcomma _), List.reverse_inj] at hbehind
  rw [hbehind, List.append_cancel_right_eq, List.append_cancel_right_eq] at hlist
  have hbytes := congrArg Base64.decode? hbehind
  rw [Base64.decode?_encode, Base64.decode?_encode, Option.some_inj] at hbytes
  exact ⟨toUTF8_toList_injective hbytes, String.toList_injective hlist⟩

end Url

end Placard
