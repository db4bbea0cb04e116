import Placard.Figure.Wedge
import Placard.Markup.Tag
import Placard.Proofs.Markup.Escape

set_option relaxedAutoImplicit false
set_option autoImplicit false

/-!
# Numbers in markup

The outline of a slice and the view box of a chart are written into attributes without escaping.
They are made of numbers, a few letters and spaces, and no character of a number has a meaning in
markup, whatever the number is.

## Main results

* `Placard.mem_floatText`: the characters of the text of a 64-bit number.
* `Placard.plain_floatText`: the text of a 64-bit number needs no escaping.
* `Placard.plain_path`, `Placard.plain_writeBox`: neither does an outline or a view box.
-/

namespace Placard

open Markup

section Plain

variable {c : Char} {s t : String}

/-- A digit has no meaning in markup. -/
lemma entity?_of_isDigit (h : c.isDigit = true) : entity? c = none := by
  cases he : entity? c with
  | none => rfl
  | some entity =>
    rcases entity?_cases he with ⟨rfl, -⟩ | ⟨rfl, -⟩ | ⟨rfl, -⟩ | ⟨rfl, -⟩ | ⟨rfl, -⟩ <;>
      exact absurd h (by decide)

lemma plain_of_all (h : (s.toList.all fun c => (entity? c).isNone) = true) : Plain s := by
  intro c hc
  simpa using List.all_eq_true.mp h c hc

/-- Texts that need no escaping may be joined by one that needs none. -/
lemma plain_intercalate (hs : Plain s) {ts : List String} (hts : ∀ t ∈ ts, Plain t) :
    Plain (s.intercalate ts) := by
  induction ts with
  | nil =>
    rw [String.intercalate_nil]
    exact plain_of_all rfl
  | cons t ts ih =>
    cases ts with
    | nil =>
      rw [String.intercalate_singleton]
      exact hts t List.mem_cons_self
    | cons u us =>
      rw [String.intercalate_cons_cons]
      exact plain_append (plain_append (hts t List.mem_cons_self) hs)
        (ih fun v hv => hts v (List.mem_cons_of_mem t hv))

end Plain

/-! ## Numbers -/

/-- A decimal number is written with digits and a point. -/
lemma isDigit_of_mem_positional (d : Decimal) :
    ∀ c ∈ d.positional, c.isDigit = true ∨ c = '.' := by
  have hdigits : ∀ c ∈ Nat.toDigits 10 d.digits, c.isDigit = true :=
    fun c hc => Nat.isDigit_of_mem_toDigits (by decide) (by decide) hc
  have hzeros : ∀ n, ∀ c ∈ List.replicate n '0', c.isDigit = true := by
    intro n c hc
    rw [List.eq_of_mem_replicate hc]
    rfl
  intro c hc
  rw [Decimal.positional] at hc
  split at hc
  · obtain hc | hc := List.mem_append.mp hc
    · exact Or.inl (hdigits c hc)
    · exact Or.inl (hzeros _ c hc)
  · simp only at hc
    -- the point stands between two digits, or behind a zero written in front of it
    split at hc
    · obtain hc | hc := List.mem_append.mp hc
      · exact Or.inl (hdigits c (List.mem_of_mem_take hc))
      · obtain rfl | hc := List.mem_cons.mp hc
        · exact Or.inr rfl
        · exact Or.inl (hdigits c (List.mem_of_mem_drop hc))
    · simp only [List.cons_append, List.mem_cons, List.mem_append] at hc
      obtain rfl | rfl | hc | hc := hc
      · exact Or.inl rfl
      · exact Or.inr rfl
      · exact Or.inl (hzeros _ c hc)
      · exact Or.inl (hdigits c hc)

/-- The text of a number has few characters besides its digits. -/
lemma mem_floatText {x : Float} {c : Char} (h : c ∈ (floatText x).toList) :
    c.isDigit = true ∨ c ∈ ".-NaNinf".toList := by
  rw [floatText] at h
  split at h
  · exact Or.inr (List.Sublist.subset (by decide) h)
  · split at h
    · exact Or.inr (List.Sublist.subset (by decide) h)
    · exact Or.inr (List.Sublist.subset (by decide) h)
  · next b _ =>
    have hdigits : ∀ c ∈ (if b.mantissa = 0 then ['0'] else b.shortest.positional),
        c.isDigit = true ∨ c ∈ ".-NaNinf".toList := by
      intro c hc
      split at hc
      · rw [List.mem_singleton.mp hc]
        exact Or.inl rfl
      · obtain hdigit | rfl := isDigit_of_mem_positional _ c hc
        · exact Or.inl hdigit
        · exact Or.inr (by decide)
    rw [String.toList_ofList] at h
    split at h
    · obtain rfl | h := List.mem_cons.mp h
      · exact Or.inr (by decide)
      · exact hdigits c h
    · exact hdigits c h

/-- **A number needs no escaping.** -/
theorem plain_floatText (x : Float) : Plain (floatText x) := by
  intro c hc
  obtain hdigit | hmem := mem_floatText hc
  · exact entity?_of_isDigit hdigit
  · exact plain_of_all rfl c hmem

lemma plain_pointText (p : Point) : Plain p.text :=
  plain_append (plain_append (plain_floatText p.x) (plain_of_all rfl)) (plain_floatText p.y)

lemma plain_arcTo (long : Bool) (p : Point) : Plain (Wedge.arcTo long p) := by
  refine plain_append (plain_append (plain_append (plain_of_all rfl) ?_) (plain_of_all rfl))
    (plain_pointText p)
  cases long <;> exact plain_of_all rfl

/-- **An outline needs no escaping.** -/
theorem plain_path (w : Wedge) : Plain w.path := by
  have harcs : ∀ t ∈ w.arcs, Plain t := by
    intro t ht
    rw [Wedge.arcs] at ht
    split at ht
    · simp only [List.mem_cons, List.not_mem_nil, or_false] at ht
      obtain rfl | rfl := ht <;> exact plain_arcTo _ _
    · rw [List.mem_singleton.mp ht]
      exact plain_arcTo _ _
  refine plain_intercalate (plain_of_all rfl) fun t ht => ?_
  simp only [List.cons_append, List.nil_append, List.mem_cons, List.mem_append,
    List.not_mem_nil, or_false] at ht
  obtain rfl | rfl | ht | rfl := ht
  · exact plain_of_all rfl
  · exact plain_append (plain_of_all rfl) (plain_pointText _)
  · exact harcs t ht
  · exact plain_of_all rfl

/-- **A view box needs no escaping.** -/
theorem plain_writeBox (b : ViewBox) : Plain (writeBox b) := by
  refine plain_intercalate (plain_of_all rfl) fun t ht => ?_
  simp only [List.mem_cons, List.not_mem_nil, or_false] at ht
  obtain rfl | rfl | rfl | rfl := ht <;> exact plain_floatText _

end Placard
