import Placard.Proofs.Document.WellFormed
import Placard.Proofs.Drawing.Signs
import Placard.Proofs.Markup.Spacing

set_option relaxedAutoImplicit false
set_option autoImplicit false

/-!
# Class names

The class prefix is written in front of each class name of a figure. The names that layouts give are
single words, and so are the names of modes, categories and built-in color schemes. The name of a
template comes from a source and may consist of several words: then the prefix stands in front of
the first of them only, and the others are class names without it.

## Main definitions

* `Placard.Markup.classNames`: the class names in a tag.
* `Placard.Markup.IsIconPlace`: a tag whose class name is fixed.
* `Placard.Figure.writtenClasses`: the class names that a figure is written with.

## Main results

* `Placard.Figure.classNames_of_mem_tagsOf`: the class names in markup are those of figures.
* `Placard.Document.stray_classNames_iff`: the class names of a drawing without the prefix.
* `Placard.Document.classNames_prefixed_iff`: when there are none.
-/

namespace Placard

open Text

namespace Markup

/-- The class names in a tag: the words of its class attributes. -/
def classNames (tag : List (String × String)) : List (List Char) :=
  (tag.filter (·.1 == "class")).flatMap (words ·.2.toList)

/-- Whether a tag is that of a place for an icon. Its class name is fixed. -/
def IsIconPlace (tag : List (String × String)) : Prop :=
  ∃ reference, tag = [("class", "iconify"), ("data-icon", reference)]

lemma classNames_append (tag tag' : List (String × String)) :
    classNames (tag ++ tag') = classNames tag ++ classNames tag' := by
  rw [classNames, List.filter_append, List.flatMap_append]
  rfl

/-- The tags of an element are its own and those inside it. -/
lemma tagsOf_element (name : String) (tag : List (String × String)) (text : String)
    (content : List Node) :
    tagsOf (Node.element name tag (Figure.textNodes text ++ content)).tokens =
      tag :: tagsOf (Node.tokensOf content) := by
  have hstart : tagsOf [.start name tag] = [tag] := rfl
  have hstop : tagsOf [.stop name] = [] := rfl
  rw [Node.tokens, ← List.singleton_append, tagsOf_append, tagsOf_append, hstart, hstop,
    Node.tokensOf_append, tagsOf_append, Figure.tokensOf_textNodes, tagsOf_textTokens,
    List.append_nil, List.nil_append, List.singleton_append]

end Markup

namespace Figure

open Markup

/-- The class names that a figure is written with: the words of its own ones, each of which has the
prefix in front. -/
def writtenClasses (classPrefix : String) (f : Figure) : List (List Char) :=
  f.classes.flatMap fun name => words (classPrefix ++ name).toList

section Tags

variable {p : Figure → Prop} {classPrefix : String} {tag : List (String × String)}

lemma classNames_drawnAttributes (classes : List String) (styles : List Style) :
    classNames (drawnAttributes classPrefix classes styles) =
      classes.flatMap fun name => words (classPrefix ++ name).toList := by
  have hstyles : ∀ value,
      classNames (if styles.isEmpty then [] else [("style", value)]) = [] := by
    intro value
    split <;> rfl
  rw [drawnAttributes, classNames_append, hstyles, List.append_nil]
  split
  · next hnone =>
    rw [hnone]
    rfl
  · have hclass : ∀ value, classNames [("class", value)] = words value.toList :=
      fun value => List.flatMap_singleton _ _
    rw [hclass, words_intercalate, List.flatMap_map]

mutual

/-- **The class names in the markup of a figure are those of its figures**, but for the places of
icons. -/
lemma classNames_of_mem_tagsOf (f : Figure) (h : f.Every p)
    (htag : tag ∈ tagsOf (f.drawn classPrefix).tokens) :
    IsIconPlace tag ∨ ∃ g, p g ∧ classNames tag = g.writtenClasses classPrefix := by
  match f with
  | ⟨shape, classes, text, styles, children⟩ =>
    have hown : classNames (drawnAttributes classPrefix classes styles) =
        writtenClasses classPrefix ⟨shape, classes, text, styles, children⟩ :=
      classNames_drawnAttributes classes styles
    have helement : ∀ {name text : String},
        tag ∈ tagsOf (Node.element name (drawnAttributes classPrefix classes styles)
          (textNodes text ++ drawnAll classPrefix children)).tokens →
        IsIconPlace tag ∨ ∃ g, p g ∧ classNames tag = g.writtenClasses classPrefix := by
      intro name text htag
      rw [tagsOf_element] at htag
      rcases List.mem_cons.mp htag with rfl | htag
      · exact .inr ⟨_, h.1, hown⟩
      · exact classNames_of_mem_tagsOf_all children h.2 htag
    cases shape with
    | block => exact helement htag
    | inline => exact helement htag
    | list => exact helement htag
    | listItem => exact helement htag
    | glyph sign =>
      rw [drawn, ← List.append_nil (textNodes sign), tagsOf_element] at htag
      obtain rfl := List.mem_singleton.mp htag
      exact .inr ⟨_, h.1, hown⟩
    | icon reference =>
      obtain rfl := List.mem_singleton.mp htag
      exact .inl ⟨reference, rfl⟩
    | wedge w =>
      obtain rfl := List.mem_singleton.mp htag
      refine .inr ⟨_, h.1, ?_⟩
      rw [classNames_append, ← hown]
      exact List.append_nil _
    | chart box =>
      have hnone : textNodes "" = [] := rfl
      rw [drawn, ← List.nil_append (drawnAll classPrefix children), ← hnone,
        tagsOf_element] at htag
      rcases List.mem_cons.mp htag with rfl | htag
      · refine .inr ⟨_, h.1, ?_⟩
        rw [classNames_append, ← hown]
        exact List.nil_append _
      · exact classNames_of_mem_tagsOf_all children h.2 htag

lemma classNames_of_mem_tagsOf_all (fs : List Figure) (h : EveryIn p fs)
    (htag : tag ∈ tagsOf (Node.tokensOf (drawnAll classPrefix fs))) :
    IsIconPlace tag ∨ ∃ g, p g ∧ classNames tag = g.writtenClasses classPrefix := by
  match fs with
  | [] => cases htag
  | f :: fs =>
    rw [drawnAll, Node.tokensOf, tagsOf_append] at htag
    rcases List.mem_append.mp htag with htag | htag
    · exact classNames_of_mem_tagsOf f h.1 htag
    · exact classNames_of_mem_tagsOf_all fs h.2 htag

end

/-- The tags of a figure are among those of figures that it is one of. -/
lemma mem_tagsOf_drawnAll {f : Figure} {fs : List Figure} (hf : f ∈ fs)
    (htag : tag ∈ tagsOf (f.drawn classPrefix).tokens) :
    tag ∈ tagsOf (Node.tokensOf (drawnAll classPrefix fs)) := by
  induction fs with
  | nil => cases hf
  | cons g fs ih =>
    rw [drawnAll, Node.tokensOf, tagsOf_append, List.mem_append]
    rcases List.mem_cons.mp hf with rfl | hf
    · exact .inl htag
    · exact .inr (ih hf)

end Tags

section Prefixed

variable {classPrefix : String} {others : List (List Char)} {f : Figure}

/-- Whether a figure is written with the prefix in front of all its class names, but perhaps for
some given ones. -/
def Prefixed (classPrefix : String) (others : List (List Char)) (f : Figure) : Prop :=
  ∀ w ∈ f.writtenClasses classPrefix, classPrefix.toList <+: w ∨ w ∈ others

/-- A class name that is a single word is written as one word. -/
lemma words_append_of_isWord {name : String}
    (hwhite : ∀ c ∈ classPrefix.toList, isWhite c = false) (h : isWord name.toList = true) :
    words (classPrefix ++ name).toList = [classPrefix.toList ++ name.toList] := by
  rw [String.toList_append, words_of_isWord (isWord_append hwhite h)]

/-- Class names that are single words have the prefix in front. -/
lemma prefixed_of_isWord (hwhite : ∀ c ∈ classPrefix.toList, isWhite c = false)
    (h : ∀ name ∈ f.classes, isWord name.toList = true) : f.Prefixed classPrefix others := by
  intro w hw
  obtain ⟨name, hname, hw⟩ := List.mem_flatMap.mp hw
  rw [words_append_of_isWord hwhite (h name hname)] at hw
  obtain rfl := List.mem_singleton.mp hw
  exact .inl (List.prefix_append _ _)

/-- All that items are drawn with has the prefix. -/
lemma IsPartOf.prefixed {icons : List String} (h : f.IsPartOf icons)
    (hwhite : ∀ c ∈ classPrefix.toList, isWhite c = false) : f.Prefixed classPrefix others := by
  apply prefixed_of_isWord hwhite
  rcases h with hordinary | ⟨reference, -, rfl⟩
  · intro name hname
    exact (Bool.and_eq_true_iff.mp (List.all_eq_true.mp hordinary.classes name hname)).1
  · rw [Icon.figure]
    split
    · exact fun name hname => absurd hname List.not_mem_nil
    · intro name hname
      obtain rfl := List.mem_singleton.mp hname
      decide

end Prefixed

end Figure

namespace Document

open Figure Markup

section Words

variable {d : Document} {classPrefix : String} {others : List (List Char)}

/-- The built-in stylesheet has the built-in color schemes only. -/
lemma exists_schemeName_builtin (d : Document) (options : DrawOptions) :
    ∃ scheme : BuiltinScheme, d.schemeName options Stylesheet.builtin = scheme.name := by
  rw [schemeName]
  split
  · next theme _ =>
    split
    · next hknown =>
      obtain ⟨known, hmem, hname⟩ := List.lookup_isSome_iff.mp hknown
      obtain ⟨scheme, -, rfl⟩ := List.mem_map.mp hmem
      exact ⟨scheme, beq_iff_eq.mp hname⟩
    · exact ⟨options.scheme, rfl⟩
  · exact ⟨options.scheme, rfl⟩

/-- The class names of the outer box are single words. -/
lemma prefixed_draw (hwhite : ∀ c ∈ classPrefix.toList, isWhite c = false) (d : Document)
    (options : DrawOptions) : (d.draw options Stylesheet.builtin).Prefixed classPrefix others := by
  obtain ⟨scheme, hscheme⟩ := d.exists_schemeName_builtin options
  have hmode : isWord options.mode.name.toList = true := by
    cases options.mode <;> decide
  have hscheme' : isWord ("scheme-" ++ scheme.name).toList = true := by
    cases scheme <;> decide
  refine prefixed_of_isWord hwhite (List.forall_mem_append.mpr ⟨?_, ?_⟩)
  · simp only [hscheme, List.forall_mem_cons]
    exact ⟨by decide, hmode, hscheme', fun name hname => absurd hname List.not_mem_nil⟩
  · split <;> decide

/-- The name of a template is written with the prefix in front of its first word. -/
lemma exists_words_template (hwhite : ∀ c ∈ classPrefix.toList, isWhite c = false)
    (htemplate : IsPhrase d.template.toList) :
    ∃ rest, words (classPrefix ++ ("template-" ++ d.template)).toList =
      (classPrefix.toList ++ rest) :: (words d.template.toList).tail := by
  obtain ⟨phrase, hphrase⟩ := htemplate
  have hword : isWord "template-".toList = true := by decide
  have hstart : ∀ c ∈ classPrefix.toList ++ "template-".toList, isWhite c = false :=
    List.forall_mem_append.mpr ⟨hwhite, (isWord_iff.mp hword).2⟩
  obtain ⟨first, others, hwords, hlonger⟩ :=
    exists_words_append hstart phrase.ne_nil phrase.trimmed.head
  refine ⟨"template-".toList ++ first, ?_⟩
  rw [String.toList_append, String.toList_append, ← hphrase, ← List.append_assoc, hlonger, hwords,
    List.append_assoc]
  rfl

/-- The class names of the inner box have the prefix, but for the later words of the name of the
template. -/
lemma exists_writtenClasses_content (hwhite : ∀ c ∈ classPrefix.toList, isWhite c = false)
    (htemplate : IsPhrase d.template.toList) (fill : Nat → String) :
    ∃ names, (d.content fill).writtenClasses classPrefix =
        names ++ (words d.template.toList).tail ∧ ∀ w ∈ names, classPrefix.toList <+: w := by
  obtain ⟨rest, hrest⟩ := exists_words_template hwhite htemplate
  have hcontent : isWord "content".toList = true := by decide
  have hcategory : isWord ("category-" ++ (Category.ofTemplate d.template).name).toList = true := by
    cases Category.ofTemplate d.template <;> decide
  refine ⟨[classPrefix.toList ++ "content".toList,
    classPrefix.toList ++ ("category-" ++ (Category.ofTemplate d.template).name).toList,
    classPrefix.toList ++ rest], ?_, ?_⟩
  · rw [writtenClasses, content, List.flatMap_cons, List.flatMap_cons, List.flatMap_singleton,
      words_append_of_isWord hwhite hcontent, words_append_of_isWord hwhite hcategory, hrest]
    rfl
  · simp only [List.forall_mem_cons, List.prefix_append, true_and]
    exact fun w hw => absurd hw List.not_mem_nil

/-- The inner box has a tag in the drawing, with its class names. -/
lemma exists_tag_content (classPrefix : String) (d : Document) (options : DrawOptions)
    (sheet : Stylesheet) :
    ∃ tag ∈ tagsOf ((d.draw options sheet).drawn classPrefix).tokens, ¬ IsIconPlace tag ∧
      classNames tag = (d.content (sheet.pieColor options.mode)).writtenClasses classPrefix := by
  set box := d.content (sheet.pieColor options.mode) with hbox
  refine ⟨drawnAttributes classPrefix box.classes [], ?_, ?_, classNames_drawnAttributes _ _⟩
  · rw [draw, drawn, tagsOf_element]
    apply List.mem_cons_of_mem
    apply mem_tagsOf_drawnAll (List.mem_append_right _ (List.mem_singleton_self box))
    rw [hbox, content, drawn, tagsOf_element]
    exact List.mem_cons_self
  · rintro ⟨reference, hplace⟩
    -- the tag of the box has one attribute, that of a place has two
    have hlength : 1 = 2 := congrArg List.length hplace
    cases hlength

end Words

variable {source classPrefix : String} {d : Document}

/-- **The class names of a drawing without the prefix are the later words of the name of its
template.** No other text in a source becomes a class name without the prefix, and no layout has one
but that of the places of icons.

**Proof sketch.** The class names in the markup are those of the figures (`scan_page`,
`classNames_of_mem_tagsOf`). All figures but the inner box have single words as their class names
(`every_draw`). -/
theorem stray_classNames_iff (h : parse source = .ok d)
    (hwhite : ∀ c ∈ classPrefix.toList, isWhite c = false) (options : DrawOptions)
    (pretty : Bool) :
    ∃ tokens, scan (d.render
        { draw := options, page := { standalone := false, pretty, classPrefix } }).toList =
          some tokens ∧
      ∀ w, ¬ classPrefix.toList <+: w →
        ((∃ tag ∈ tagsOf tokens, ¬ IsIconPlace tag ∧ w ∈ classNames tag) ↔
          w ∈ (words d.template.toList).tail) := by
  have htemplate := (wellFormed_of_parse h).template
  have hnames := fun fill => exists_writtenClasses_content hwhite htemplate fill
  obtain ⟨tokens, hscan, htags⟩ :=
    scan_page _ pretty classPrefix (d.plainSigns_draw options Stylesheet.builtin)
  refine ⟨tokens, hscan, fun w hw => ?_⟩
  rw [htags]
  constructor
  · rintro ⟨tag, htag, hplace, hmem⟩
    have hevery : (d.draw options Stylesheet.builtin).Every
        (Prefixed classPrefix (words d.template.toList).tail) := by
      refine every_draw (fun g hg => hg.prefixed hwhite) (fun w hw => ?_)
        (prefixed_draw hwhite d options)
      obtain ⟨names, heq, hprefixed⟩ := hnames (Stylesheet.builtin.pieColor options.mode)
      rw [heq] at hw
      exact (List.mem_append.mp hw).imp_left (hprefixed w)
    obtain hicon | ⟨g, hg, heq⟩ := classNames_of_mem_tagsOf _ hevery htag
    · exact absurd hicon hplace
    · rw [heq] at hmem
      exact (hg w hmem).resolve_left hw
  · intro hmem
    obtain ⟨tag, htag, hplace, heq⟩ :=
      exists_tag_content classPrefix d options Stylesheet.builtin
    obtain ⟨names, hcontent, -⟩ := hnames (Stylesheet.builtin.pieColor options.mode)
    refine ⟨tag, htag, hplace, ?_⟩
    rw [heq, hcontent]
    exact List.mem_append_right _ hmem

lemma render_of_parse (h : parse source = .ok d) (options : RenderOptions) :
    Placard.render source options = .ok (d.render options) := by
  rw [Placard.render, drawSource, h]
  rfl

/-- **All class names in the markup of a source have the prefix iff the later words of the name of
its template do**, but for the class name of the places of icons. The prefix may be any text without
white space.

**Proof sketch.** The later words of the name are the only class names that can be without the
prefix, and they are all there (`stray_classNames_iff`). -/
theorem classNames_prefixed_iff (h : parse source = .ok d)
    (hwhite : ∀ c ∈ classPrefix.toList, isWhite c = false) (options : DrawOptions)
    (pretty : Bool) :
    ∃ markup tokens,
      Placard.render source
        { draw := options, page := { standalone := false, pretty, classPrefix } } = .ok markup ∧
      scan markup.toList = some tokens ∧
      ((∀ tag ∈ tagsOf tokens, ¬ IsIconPlace tag →
          ∀ w ∈ classNames tag, classPrefix.toList <+: w) ↔
        ∀ w ∈ (words d.template.toList).tail, classPrefix.toList <+: w) := by
  obtain ⟨tokens, hscan, hstray⟩ := stray_classNames_iff h hwhite options pretty
  refine ⟨_, tokens, render_of_parse h _, hscan, ?_, ?_⟩
  · intro hall w hw
    by_contra hnot
    obtain ⟨tag, htag, hplace, hmem⟩ := (hstray w hnot).mpr hw
    exact hnot (hall tag htag hplace w hmem)
  · intro hall tag htag hplace w hw
    by_contra hnot
    exact hnot (hall w ((hstray w hnot).mp ⟨tag, htag, hplace, hw⟩))

/-- The document that a source with a known template is read as. -/
lemma exists_of_template {template : String}
    (h : (parse source).toOption.map (·.template) = some template) :
    ∃ d, parse source = .ok d ∧ d.template = template := by
  cases hparse : parse source with
  | error e =>
    rw [hparse] at h
    cases h
  | ok d =>
    rw [hparse] at h
    exact ⟨d, rfl, Option.some.inj h⟩

/-- The default prefix has no white space. -/
lemma isWhite_default : ∀ c ∈ "ig-".toList, isWhite c = false := by
  have hword : isWord "ig-".toList = true := by decide
  exact (isWord_iff.mp hword).2

/-- A card with an icon, in a template whose name is one word. -/
def cardSource : String := "infographic list-grid\ndata\n  items\n    - A\n      icon mdi:home"

/-- All class names of this drawing have the prefix. -/
theorem classNames_prefixed_card :
    ∃ markup tokens,
      Placard.render cardSource { page := { standalone := false } } = .ok markup ∧
      scan markup.toList = some tokens ∧
      ∀ tag ∈ tagsOf tokens, ¬ IsIconPlace tag → ∀ w ∈ classNames tag, "ig-".toList <+: w := by
  have hlook : (parse cardSource).toOption.map (·.template) = some "list-grid" := by
    decide +kernel
  obtain ⟨d, h, htemplate⟩ := exists_of_template hlook
  obtain ⟨markup, tokens, hmarkup, hscan, hall⟩ := classNames_prefixed_iff h isWhite_default {} true
  refine ⟨markup, tokens, hmarkup, hscan, hall.mpr fun w hw => ?_⟩
  rw [htemplate, words_of_isWord (by decide)] at hw
  cases hw

/-- In a template whose name is two words the second of them is a class name without the prefix. -/
theorem not_classNames_prefixed :
    ¬ ∀ (source classPrefix : String) (options : DrawOptions) (pretty : Bool) (d : Document)
      (markup : String) (tokens : List Token), parse source = .ok d → classPrefix ≠ "" →
      (∀ c ∈ classPrefix.toList, isWhite c = false) →
      Placard.render source
        { draw := options, page := { standalone := false, pretty, classPrefix } } = .ok markup →
      scan markup.toList = some tokens →
      ∀ tag ∈ tagsOf tokens, ¬ IsIconPlace tag →
        ∀ w ∈ classNames tag, classPrefix.toList <+: w := by
  intro hclaim
  have hlook : (parse "infographic a b").toOption.map (·.template) = some "a b" := by
    decide +kernel
  obtain ⟨d, h, htemplate⟩ := exists_of_template hlook
  obtain ⟨tokens, hscan, hstray⟩ := stray_classNames_iff h isWhite_default {} false
  have hsecond : ['b'] ∈ (words d.template.toList).tail := by
    rw [htemplate]
    decide
  obtain ⟨tag, htag, hplace, hmem⟩ := (hstray ['b'] (by decide)).mpr hsecond
  have hprefixed := hclaim _ "ig-" {} false d _ tokens h (by decide) isWhite_default
    (render_of_parse h _) hscan tag htag hplace ['b'] hmem
  exact absurd hprefixed (by decide)

end Document

end Placard
