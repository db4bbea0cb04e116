import Placard.Proofs.Document.Argument
import Placard.Proofs.Document.Edit

set_option relaxedAutoImplicit false
set_option autoImplicit false

/-!
# Well-formed documents

Every text in a document that was read is the argument of some line of its source, or for a label
what stands behind the dash or behind the keyword there. So every text is a phrase, at every depth,
and a value that is kept as a text would not be read as a number.

## Main definitions

* `Placard.Item.WellFormed`, `Placard.Document.WellFormed`: all texts are phrases.

## Main results

* `Placard.isPhrase_headerLabel`, `Placard.isPhrase_of_property?`: the fields of an entry.
* `Placard.wellFormed_of_parse`: a document that was read is well-formed.
-/

namespace Placard

open Text

/-- Whether all texts of an item are phrases, and its value is no numeral if it is a text. -/
structure Item.WellFormed (item : Item) : Prop where
  /-- What it is called is a phrase. -/
  label : IsPhrase item.label.toList
  /-- Its description is one, if there is one. -/
  desc : ∀ s, item.desc = some s → IsPhrase s.toList
  /-- So is its icon. -/
  icon : ∀ s, item.icon = some s → IsPhrase s.toList
  /-- So is its value, if that is a text. -/
  value : ∀ s, item.value = some (.text s) → IsPhrase s.toList
  /-- Such a value starts with no numeral, so it stands for itself. -/
  coerced : ∀ s, item.value = some (.text s) →
    Numeral.read? s.toList = none ∧ Value.coerce s.toList = .text s

/-- Whether all texts of a document are phrases, at every depth. -/
structure Document.WellFormed (d : Document) : Prop where
  /-- The name of the template is a phrase. -/
  template : IsPhrase d.template.toList
  /-- The heading is one, if there is one. -/
  title : ∀ s, d.title = some s → IsPhrase s.toList
  /-- So is the name of the color scheme. -/
  theme : ∀ s, d.theme = some s → IsPhrase s.toList
  /-- The items are well-formed, wherever they stand. -/
  items : ∀ path item, d.item? path = some item → item.WellFormed

section Fields

variable {source : String} {lines : List Line} {v : Level} {k : Keyword} {e : Entry}
  {raw header argument : List Char} {s : String}

/-- A value that is kept as a text is trimmed and starts with no numeral. -/
lemma read?_of_coerce (h : Value.coerce raw = .text s) :
    s.toList = trim raw ∧ Numeral.read? (trim raw) = none := by
  rw [Value.coerce] at h
  split at h
  · cases h
  · next hread =>
    obtain rfl := Value.text.inj h
    exact ⟨String.toList_ofList, hread⟩

/-- Such a value is kept as it is when it is read again. -/
lemma coerce_toList_of_coerce (h : Value.coerce raw = .text s) :
    Numeral.read? s.toList = none ∧ Value.coerce s.toList = .text s := by
  obtain ⟨hs, hread⟩ := read?_of_coerce h
  have htrim : trim s.toList = s.toList := by
    rw [hs]
    exact trim_of_trimmed (trimmed_trim raw)
  rw [← hs] at hread
  refine ⟨hread, ?_⟩
  simp only [Value.coerce, htrim, hread, String.ofList_toList]

/-- The text behind a dash is a label, and so is the argument of the keyword behind a dash. -/
lemma isPhrase_headerLabel (h : IsPhrase e.header) : IsPhrase e.headerLabel := by
  obtain ⟨p, hp⟩ := h
  rw [Entry.headerLabel]
  split
  · next label hlabel =>
    rw [← hp] at hlabel
    exact ((splitArgument_eq_some_iff p.trimmed).mp hlabel).isPhrase p.newline_not_mem
  · exact ⟨p, hp⟩

lemma isPhrase_of_property? (hlines : ∀ l ∈ e.properties, l ∈ Line.ofSource source)
    (h : e.property? k = some argument) : IsPhrase argument := by
  obtain ⟨l, hl, hargument⟩ := List.mem_filterMap.mp (List.mem_of_getLast? h)
  exact isPhrase_of_argumentOf? (hlines l hl) hargument

lemma isPhrase_of_lastArgument? (hlines : ∀ l ∈ lines, l ∈ Line.ofSource source)
    (h : v.lastArgument? lines k = some argument) : IsPhrase argument := by
  obtain ⟨⟨l, below⟩, hl, hargument⟩ := List.mem_filterMap.mp (List.mem_of_getLast? h)
  exact isPhrase_of_argumentOf? (hlines l (mem_of_mem_visible hl)) hargument

/-- A text that a phrase is turned into, if there is one. -/
lemma isPhrase_of_map_ofList {text? : Option (List Char)}
    (h : ∀ argument, text? = some argument → IsPhrase argument)
    (hs : text?.map String.ofList = some s) : IsPhrase s.toList := by
  obtain ⟨argument, hargument, rfl⟩ := Option.map_eq_some_iff.mp hs
  rw [String.toList_ofList]
  exact h argument hargument

/-- **An entry describes a well-formed item** if what stands behind its dash is a phrase and its
properties come from lines of a source. -/
theorem wellFormed_toItem (hheader : IsPhrase e.header)
    (hlines : ∀ l ∈ e.properties, l ∈ Line.ofSource source) : e.toItem.WellFormed := by
  rw [toItem_eq]
  refine ⟨?_, fun s hs => ?_, fun s hs => ?_, fun s hs => ?_, fun s hs => ?_⟩
  · rw [String.toList_ofList]
    cases hlabel : e.property? .label with
    | none => exact isPhrase_headerLabel hheader
    | some label => exact isPhrase_of_property? hlines hlabel
  · exact isPhrase_of_map_ofList (fun _ => isPhrase_of_property? hlines) hs
  · exact isPhrase_of_map_ofList (fun _ => isPhrase_of_property? hlines) hs
  · obtain ⟨raw, hraw, hcoerce⟩ := Option.map_eq_some_iff.mp hs
    have hphrase := isPhrase_of_property? hlines hraw
    obtain ⟨p, rfl⟩ := hphrase
    rw [(read?_of_coerce hcoerce).1, trim_of_trimmed p.trimmed]
    exact ⟨p, rfl⟩
  · obtain ⟨raw, -, hcoerce⟩ := Option.map_eq_some_iff.mp hs
    exact coerce_toList_of_coerce hcoerce

end Fields

section Documents

variable {source : String} {d : Document} {template : List Char} {lines block body : List Line}
  {l : Line} {v : Level}

lemma mem_of_lastBlock? (h : v.lastBlock? lines = some block) (hl : l ∈ block) : l ∈ lines := by
  obtain ⟨before, c, behind, hstands, -⟩ := Level.lastBlock?_replace h
  rw [hstands.lines_eq]
  exact List.mem_append_right _ (List.mem_cons_of_mem _ (List.mem_append_left _ hl))

lemma mem_ofSource_of_mem_nonBlank (hl : l ∈ nonBlank (Line.ofSource source)) :
    l ∈ Line.ofSource source :=
  (List.mem_filter.mp hl).1

/-- **A document that was read is well-formed**: its template, its heading and its color scheme are
phrases, and so are the labels, descriptions, icons and textual values of all items, at every depth.
A textual value starts with no numeral.

**Proof sketch.** Each of these texts is the argument of a line of the source
(`isPhrase_of_argumentOf?`). For the items this follows from the lines that their entries are made
of (`documentOf_replace`, `wellFormed_toItem`). -/
theorem wellFormed_of_parse (h : parse source = .ok d) : d.WellFormed := by
  obtain ⟨template, body, hheaded, hd⟩ := exists_headed?_of_parse h
  obtain ⟨header, hlines, hheader⟩ := nonBlank_of_headed? hheaded
  have hmem : ∀ l ∈ header :: body, l ∈ Line.ofSource source := by
    rw [← hlines]
    exact fun l => mem_ofSource_of_mem_nonBlank
  have hbody : ∀ l ∈ body, l ∈ Line.ofSource source :=
    fun l hl => hmem l (List.mem_cons_of_mem _ hl)
  refine ⟨?_, fun s hs => ?_, fun s hs => ?_, fun path item hitem => ?_⟩
  · rw [hd, documentOf, String.toList_ofList]
    exact isPhrase_of_argumentOf? (hmem header List.mem_cons_self) hheader
  · rw [hd, documentOf] at hs
    refine isPhrase_of_map_ofList (fun title htitle => ?_) hs
    obtain ⟨block, hblock, htitle⟩ := Option.bind_eq_some_iff.mp htitle
    exact isPhrase_of_lastArgument? (fun l hl => hbody l (mem_of_lastBlock? hblock hl)) htitle
  · rw [hd, documentOf] at hs
    exact isPhrase_of_map_ofList (fun _ => isPhrase_of_lastArgument? hbody) hs
  · rw [item?_of_parse h, Option.map_eq_some_iff] at hitem
    obtain ⟨e, he, rfl⟩ := hitem
    rw [entryAt?_of_headed? hheaded] at he
    obtain ⟨before, below, behind, hplaced, hfrom, -⟩ := documentOf_replace template he
    have hstands := hplaced.stands
    have hline : e.line ∈ body := hstands.mem_lines
    have hbelow : ∀ l ∈ below, l ∈ body := by
      intro l hl
      rw [hstands.lines_eq]
      exact List.mem_append_right _ (List.mem_cons_of_mem _ (List.mem_append_left _ hl))
    have hopens : (e.line.argumentOf? .dash).isSome = true := hstands.opens
    obtain ⟨argument, hargument⟩ := Option.isSome_iff_exists.mp hopens
    rw [hfrom]
    apply wellFormed_toItem
    · rw [entryOf_eq, hargument]
      exact isPhrase_of_argumentOf? (hbody _ hline) hargument
    · intro l hl
      rw [entryOf_eq] at hl
      exact hbody l (hbelow l (mem_of_mem_propertiesOf hl))

/-- A source with white space of many kinds around its texts, and an item whose label is
replaced. -/
def spacedSource : String :=
  "\u3000infographic \t a b \r\ndata\n  title  t\u2003\n" ++
    "  items\n    -  label  A \n     value ~1% \n     label \u00a0B"

/-- Its texts are phrases, and its value is kept as a text. -/
theorem wellFormed_of_parse_spaced :
    ∃ d item, parse spacedSource = .ok d ∧ d.template = "a b" ∧ d.item? [0] = some item ∧
      item.label = "B" ∧ item.value.map Value.number? = some none ∧ d.WellFormed := by
  have htemplate : (parse spacedSource).toOption.map (·.template) = some "a b" := by
    decide +kernel
  have hitem : ((parse spacedSource).toOption.bind (·.item? [0])).map
      (fun item => (item.label, item.value.map (·.number?.isNone))) = some ("B", some true) := by
    decide +kernel
  cases h : parse spacedSource with
  | error e =>
    rw [h] at hitem
    cases hitem
  | ok d =>
    rw [h] at htemplate hitem
    obtain ⟨item, hitem, hfields⟩ := Option.map_eq_some_iff.mp hitem
    obtain ⟨hlabel, hvalue⟩ := Prod.mk.inj hfields
    obtain ⟨value, hvalue, hnone⟩ := Option.map_eq_some_iff.mp hvalue
    refine ⟨d, item, rfl, Option.some.inj htemplate, hitem, hlabel, ?_, wellFormed_of_parse h⟩
    rw [hvalue, Option.map_some, Option.isNone_iff_eq_none.mp hnone]

end Documents

end Placard
