import Placard.Proofs.Document.Order
import Placard.Proofs.Document.WellFormed
import Placard.Proofs.Lint.Findings
import Placard.Proofs.Markup.Plain

set_option relaxedAutoImplicit false
set_option autoImplicit false

/-!
# Findings on a line

A finding quotes texts of the document it is about. A document that was read has phrases only, which
are on one line each. So what is said about a finding is on one line too.

## Main definitions

* `Placard.OnLine`: a text is on one line.
* `Placard.Finding.texts`: the texts that a finding quotes.

## Main results

* `Placard.wellFormed_of_mem_depthFirst`: all items of a document that was read are well-formed.
* `Placard.Finding.onLine_display_of_mem_lint`: a finding is shown on one line.
-/

namespace Placard

/-- Whether a text is on one line. -/
def OnLine (s : String) : Prop := '\n' ∉ s.toList

instance : DecidablePred OnLine := fun s => inferInstanceAs (Decidable ('\n' ∉ s.toList))

section Texts

variable {s t : String}

lemma OnLine.append (hs : OnLine s) (ht : OnLine t) : OnLine (s ++ t) := by
  rw [OnLine, String.toList_append]
  exact fun hmem => (List.mem_append.mp hmem).elim hs ht

lemma IsPhrase.onLine (h : IsPhrase s.toList) : OnLine s := by
  obtain ⟨p, hp⟩ := h
  rw [OnLine, ← hp]
  exact p.newline_not_mem

lemma onLine_toString (n : Nat) : OnLine (toString n) := by
  rw [OnLine, Nat.toString_eq_repr, Nat.toList_repr]
  intro hmem
  exact absurd (Nat.isDigit_of_mem_toDigits (by decide) (by decide) hmem) (by decide)

lemma onLine_floatText (x : Float) : OnLine (floatText x) := by
  intro hmem
  obtain hdigit | hother := mem_floatText hmem
  · exact absurd hdigit (by decide)
  · exact absurd hother (by decide)

end Texts

/-! ## The items of a document -/

/-- **All items of a document that was read are well-formed**, at any depth.

**Proof sketch.** An item stands for an entry, which is made from a line with a dash and from the
lines of its extent (`exists_stands_of_mem_documentEntries`). These are lines of the source. -/
theorem wellFormed_of_mem_depthFirst {source : String} {d : Document} {item : Item}
    (h : parse source = .ok d) (hitem : item ∈ Item.depthFirst d.items) : item.WellFormed := by
  obtain ⟨template, body, hheaded, -⟩ := exists_headed?_of_parse h
  obtain ⟨outline, houtline, hentries⟩ := exists_outline_of_headed? hheaded
  obtain ⟨header, hlines, -⟩ := nonBlank_of_headed? hheaded
  have hbody : ∀ l ∈ body, l ∈ Line.ofSource source := by
    intro l hl
    apply mem_ofSource_of_mem_nonBlank
    rw [hlines]
    exact List.mem_cons_of_mem _ hl
  have hd : d = outline.toDocument template := by
    rw [parse, houtline] at h
    exact (Except.ok.inj h).symm
  have hitems : Item.depthFirst d.items =
      (Entry.depthFirst (documentEntries body)).map Entry.toItem := by
    rw [hd, ← hentries]
    exact Entry.depthFirst_toItems outline.data.entries
  rw [hitems] at hitem
  obtain ⟨e, he, rfl⟩ := List.mem_map.mp hitem
  obtain ⟨before, below, behind, hstands, hfrom⟩ := exists_stands_of_mem_documentEntries he
  have hbelow : ∀ l ∈ below, l ∈ body := by
    intro l hl
    rw [hstands.lines_eq]
    exact List.mem_append_right _ (List.mem_cons_of_mem _ (List.mem_append_left _ hl))
  have hopens : (e.line.argumentOf? .dash).isSome = true := hstands.opens
  obtain ⟨argument, hargument⟩ := Option.isSome_iff_exists.mp hopens
  rw [hfrom]
  apply wellFormed_toItem
  · rw [entryOf_eq, hargument]
    exact isPhrase_of_argumentOf? (hbody _ hstands.mem_lines) hargument
  · intro l hl
    rw [entryOf_eq] at hl
    exact hbody l (hbelow l (mem_of_mem_propertiesOf hl))

/-- The name of the template of a document that was read is a phrase. -/
lemma isPhrase_template_of_parse {source : String} {d : Document} (h : parse source = .ok d) :
    IsPhrase d.template.toList := by
  obtain ⟨template, body, hheaded, rfl⟩ := exists_headed?_of_parse h
  obtain ⟨header, hlines, hheader⟩ := nonBlank_of_headed? hheaded
  have hmem : header ∈ Line.ofSource source := by
    apply mem_ofSource_of_mem_nonBlank
    rw [hlines]
    exact List.mem_cons_self
  rw [documentOf, String.toList_ofList]
  exact isPhrase_of_argumentOf? hmem hheader

/-! ## The texts of a finding -/

namespace Finding

/-- The texts that a finding quotes. -/
def texts : Finding → List String
  | .unknownTemplate template => [template]
  | .surplusItems _ places last => [places.name, last]
  | .noValue label => [label]
  | .textValue label text => [label, text]
  | .unchartedValue label _ => [label]
  | .emptyChart => []
  | .brokenIcon label icon => [label, icon]

variable {f : Finding} {d : Document}

lemma onLine_fallbackName (template : String) : OnLine (fallbackName template) := by
  rw [fallbackName]
  cases Category.ofTemplate template <;> decide

/-- A finding is shown on one line if the texts that it quotes are on one line each. -/
lemma onLine_display (h : ∀ s ∈ f.texts, OnLine s) : OnLine f.display := by
  have hkind : OnLine ("[" ++ f.kind.name ++ "] ") := by
    cases f.kind <;> decide
  refine hkind.append ?_
  cases f with
  | unknownTemplate template =>
    have htemplate := List.forall_mem_singleton.mp h
    exact .append (.append (.append (by decide +kernel) htemplate) (by decide +kernel))
      (onLine_fallbackName template)
  | surplusItems given places last =>
    obtain ⟨hplaces, h⟩ := List.forall_mem_cons.mp h
    have hlast := List.forall_mem_singleton.mp h
    exact .append (.append (.append (.append (.append (.append (.append (onLine_toString given)
      (by decide +kernel)) (onLine_toString places.count)) (by decide +kernel)) hplaces)
      (by decide +kernel)) hlast) (by decide +kernel)
  | noValue label =>
    have hlabel := List.forall_mem_singleton.mp h
    exact .append (.append (by decide +kernel) hlabel) (by decide +kernel)
  | textValue label text =>
    obtain ⟨hlabel, h⟩ := List.forall_mem_cons.mp h
    have htext := List.forall_mem_singleton.mp h
    exact .append (.append (.append (.append (by decide +kernel) hlabel) (by decide +kernel)) htext)
      (by decide +kernel)
  | unchartedValue label value =>
    have hlabel := List.forall_mem_singleton.mp h
    exact .append (.append (.append (.append (by decide +kernel) hlabel) (by decide +kernel))
      (onLine_floatText value)) (by decide +kernel)
  | emptyChart => decide +kernel
  | brokenIcon label icon =>
    obtain ⟨hlabel, h⟩ := List.forall_mem_cons.mp h
    have hicon := List.forall_mem_singleton.mp h
    exact .append (.append (.append (.append (by decide +kernel) hlabel) (by decide +kernel)) hicon)
      (by decide +kernel)

/-- The findings about an item quote its texts. -/
lemma texts_valueFinding (item : Item) : ∀ s ∈ item.valueFinding.texts,
    s = item.label ∨ item.value = some (.text s) := by
  intro s hs
  rw [Item.valueFinding] at hs
  cases hvalue : item.value with
  | none =>
    rw [hvalue] at hs
    exact Or.inl (List.mem_singleton.mp hs)
  | some value =>
    rw [hvalue] at hs
    cases value with
    | number x => exact Or.inl (List.mem_singleton.mp hs)
    | text text =>
      obtain rfl | hs := List.mem_cons.mp hs
      · exact Or.inl rfl
      · rw [List.mem_singleton.mp hs]
        exact Or.inr rfl

lemma onLine_places {layout : Layout} {places : Places} (h : layout.places? = some places) :
    OnLine places.name := by
  rw [Layout.places?.eq_def] at h
  split at h
  · obtain rfl := Option.some.inj h
    decide
  · obtain rfl := Option.some.inj h
    decide
  · obtain rfl := Option.some.inj h
    decide
  · cases h

lemma onLine_texts_of_mem_lintPlaces (h : ∀ item ∈ d.items, item.WellFormed)
    (hf : f ∈ d.lintPlaces) : ∀ s ∈ f.texts, OnLine s := by
  rw [Document.lintPlaces] at hf
  split at hf
  · cases hf
  · next places hplaces =>
    split at hf
    · next last hlast =>
      split at hf
      · obtain rfl := List.mem_singleton.mp hf
        have hmem := List.mem_of_mem_take (List.mem_of_getLast? hlast)
        exact List.forall_mem_cons.mpr
          ⟨onLine_places hplaces, List.forall_mem_singleton.mpr (h last hmem).label.onLine⟩
      · cases hf
    · cases hf

lemma onLine_texts_of_mem_lintChart (h : ∀ item ∈ d.items, item.WellFormed)
    (hf : f ∈ d.lintChart) : ∀ s ∈ f.texts, OnLine s := by
  rw [Document.lintChart] at hf
  split at hf
  · split at hf
    · cases hf
    · obtain hf | hf := List.mem_append.mp hf
      · rw [Item.filterMap_lintValue] at hf
        obtain ⟨item, hitem, rfl⟩ := List.mem_map.mp hf
        have hwell := h item (List.mem_filter.mp hitem).1
        intro s hs
        obtain rfl | hvalue := texts_valueFinding item s hs
        · exact hwell.label.onLine
        · exact (hwell.value s hvalue).onLine
      · split at hf
        · obtain rfl := List.mem_singleton.mp hf
          exact fun s hs => absurd hs List.not_mem_nil
        · cases hf
  · cases hf

lemma onLine_texts_of_mem_lintIconsAll {items : List Item}
    (h : ∀ item ∈ Item.depthFirst items, item.WellFormed) (hf : f ∈ Item.lintIconsAll items) :
    ∀ s ∈ f.texts, OnLine s := by
  rw [Item.lintIconsAll_eq] at hf
  obtain ⟨item, hitem, rfl⟩ := List.mem_map.mp hf
  obtain ⟨hmem, hbroken⟩ := List.mem_filter.mp hitem
  obtain ⟨icon, hicon, -⟩ := of_decide_eq_true hbroken
  refine List.forall_mem_cons.mpr ⟨(h item hmem).label.onLine, List.forall_mem_singleton.mpr ?_⟩
  rw [hicon]
  exact ((h item hmem).icon icon hicon).onLine

/-- **A finding about a document that was read is shown on one line.**

**Proof sketch.** What a finding quotes is the name of the template, a label, a value or an icon
of the document, and all of these are phrases (`wellFormed_of_mem_depthFirst`). -/
theorem onLine_display_of_mem_lint {source : String} (h : parse source = .ok d)
    (hf : f ∈ d.lint) : OnLine f.display := by
  have hitems : ∀ item ∈ Item.depthFirst d.items, item.WellFormed :=
    fun item => wellFormed_of_mem_depthFirst h
  have htop : ∀ item ∈ d.items, item.WellFormed :=
    fun item hitem => hitems item (Item.mem_depthFirst_of_mem hitem)
  apply onLine_display
  rw [Document.lint, List.mem_append, List.mem_append, List.mem_append] at hf
  obtain ((hf | hf) | hf) | hf := hf
  · rw [Document.lintTemplate] at hf
    split at hf
    · cases hf
    · obtain rfl := List.mem_singleton.mp hf
      exact List.forall_mem_singleton.mpr (isPhrase_template_of_parse h).onLine
  · exact onLine_texts_of_mem_lintPlaces htop hf
  · exact onLine_texts_of_mem_lintChart htop hf
  · exact onLine_texts_of_mem_lintIconsAll hitems hf

end Finding

end Placard
