import Placard.Proofs.Drawing.Places
import Placard.Template.Families

set_option relaxedAutoImplicit false
set_option autoImplicit false

/-!
# Families of templates

The layout for a name is found by the start of the name and in the table of one family, lint looks
for the name in a list of its own, and a name may also be found in one table for all families. This
file shows that these lists agree for every name, and says which layout each name has.

## Main definitions

* `Placard.Template.StartsWith`, `Placard.Template.Mentions`: what stands at the start of a name,
  and what stands somewhere in it.
* `Placard.Layout.special`: the layouts that only one name has.
* `Placard.Template.Placed`: the category and the layout of a name.
* `Placard.Document.AnnouncesLayout`: what lint says about the layout of a document.

## Main results

* `Placard.Layout.ofFamily_eq_ofTemplate`: the families and the one table for all of them agree.
* `Placard.Template.placed`: the category and the layout of every name.
* `Placard.Document.announcesLayout`: lint announces the layout that is drawn.
* `Placard.template_placed_and_announced`: both.
-/

namespace Placard

/-! ## Names -/

/-- A word stands in a text iff it is a piece of it. -/
lemma Text.contains_iff {word cs : List Char} : Text.contains word cs = true ↔ word <:+: cs := by
  induction cs with
  | nil => rw [contains, List.isEmpty_iff, List.infix_nil]
  | cons c cs ih =>
    rw [contains, Bool.or_eq_true, List.isPrefixOf_iff_prefix, ih, List.infix_cons_iff]

namespace Template

/-- Whether the name of a template starts with a text. -/
def StartsWith (template start : String) : Prop := start.toList <+: template.toList

/-- Whether a word stands somewhere in the name of a template. -/
def Mentions (template word : String) : Prop := word.toList <:+: template.toList

lemma mentions_iff {template word : String} :
    mentions template word = true ↔ Mentions template word := Text.contains_iff

instance (template start : String) : Decidable (StartsWith template start) :=
  inferInstanceAs (Decidable (start.toList <+: template.toList))

instance (template word : String) : Decidable (Mentions template word) :=
  decidable_of_iff _ mentions_iff

end Template

/-! ## Categories -/

namespace Category

section Starts

variable {template : String} {s t : String × Category}

/-- A name has at most one of the starts, because none of them is the start of another. -/
lemma eq_of_startsWith (hs : s ∈ starts) (ht : t ∈ starts)
    (hstart : Template.StartsWith template s.1) (hstart' : Template.StartsWith template t.1) :
    s = t := by
  have hapart : ∀ s ∈ starts, ∀ t ∈ starts, s.1.toList <+: t.1.toList → s = t := by decide
  rcases List.prefix_or_prefix_of_prefix hstart hstart' with hle | hle
  · exact hapart s hs t ht hle
  · exact (hapart t ht s hs hle).symm

lemma ofStart_of_startsWith (hs : s ∈ starts) (h : Template.StartsWith template s.1) :
    ofStart template = s.2 := by
  cases hfind : starts.find? fun s => s.1.toList.isPrefixOf template.toList with
  | none =>
    have hnot := List.find?_eq_none.mp hfind s hs
    exact absurd (List.isPrefixOf_iff_prefix.mpr h) hnot
  | some t =>
    have hfound := List.find?_some hfind
    obtain rfl := eq_of_startsWith hs (List.mem_of_find?_eq_some hfind) h
      (List.isPrefixOf_iff_prefix.mp hfound)
    rw [ofStart, hfind]
    rfl

lemma ofStart_of_forall (h : ∀ s ∈ starts, ¬ Template.StartsWith template s.1) :
    ofStart template = .unknown := by
  have hnone : (starts.find? fun s => s.1.toList.isPrefixOf template.toList) = none := by
    rw [List.find?_eq_none]
    exact fun s hs hstart => h s hs (List.isPrefixOf_iff_prefix.mp hstart)
  rw [ofStart, hnone]
  rfl

/-- The starts are the names of the categories, each with a dash. -/
lemma ofStart_eq_ofTemplate (template : String) : ofStart template = ofTemplate template := by
  have hstarts : starts = named.map fun c => (c.name ++ "-", c) := by decide
  have hleads : (fun c : Category => (c.name ++ "-").toList.isPrefixOf template.toList) =
      (·.leads template) := rfl
  rw [ofStart, ofTemplate, hstarts, List.find?_map, Option.map_map, ← hleads]
  exact congrArg (Option.getD · Category.unknown) (congrFun Option.map_id _)

end Starts

/-- The category whose layouts are drawn for a template: plain lists if it has none. -/
def drawn : Category → Category
  | .unknown => .list
  | c => c

end Category

/-! ## Layouts -/

namespace Family

variable {α : Type} {f : Family α} {template : String}

lemma mem_of_find? {layout : α} (h : f.find? template = some layout) :
    (template, layout) ∈ f.named := by
  obtain ⟨⟨name, found⟩, hfind, rfl⟩ := Option.map_eq_some_iff.mp h
  have hname := List.find?_some hfind
  obtain rfl := beq_iff_eq.mp hname
  exact List.mem_of_find?_eq_some hfind

end Family

namespace Layout

/-- The category of a layout. -/
def category : Layout → Category
  | .list _ => .list
  | .sequence _ => .sequence
  | .hierarchy _ => .hierarchy
  | .chart _ => .chart
  | .compare _ => .compare
  | .quadrant => .quadrant

/-- The layouts that only one name has. -/
def special : List (String × Layout) :=
  [("list-row-simple-horizontal-arrow", .list .horizontalArrow),
    ("list-column-done-list", .list .doneList),
    ("sequence-timeline-simple", .sequence .timeline),
    ("sequence-snake-steps-simple", .sequence .snake),
    ("sequence-ascending-steps", .sequence .ascending),
    ("sequence-zigzag-steps-underline-text", .sequence .zigzag),
    ("chart-pie-plain-text", .chart .pie),
    ("chart-column-simple", .chart .column),
    ("compare-swot", .compare .swot)]

/-- Whether a layout is one that many names have. -/
def isPlain : Layout → Bool
  | .list (.grid _) | .sequence .steps | .hierarchy _ | .chart .bar | .compare .binary => true
  | .quadrant => true
  | _ => false

section Families

variable {template : String} {c : Category}

/-- A name in the table of a family has a special layout or the generic one, if that is so for the
whole table. -/
lemma special_or_generic_of_family {α : Type} {f : Family α} (wrap : α → Layout) {other : α}
    (hother : wrap other = generic c template)
    (htable : ∀ p ∈ f.named, (p.1, wrap p.2) ∈ special ∨ wrap p.2 = generic c p.1) :
    (template, wrap ((f.find? template).getD other)) ∈ special ∨
      wrap ((f.find? template).getD other) = generic c template := by
  cases hfind : f.find? template with
  | none => exact .inr hother
  | some layout => exact htable _ (Family.mem_of_find? hfind)

lemma gridFor_eq (template : String) :
    ListLayout.gridFor template = .grid (Template.mentions template "compact") := by
  rw [ListLayout.gridFor]
  cases Template.mentions template "compact" <;> rfl

/-- **A name has a special layout**, or the generic one of its category. -/
lemma special_or_generic (template : String) :
    (template, ofFamily template) ∈ special ∨
      ofFamily template = generic (Category.ofStart template) template := by
  have hgrid := congrArg list (gridFor_eq template)
  rw [ofFamily]
  cases Category.ofStart template with
  | list => exact special_or_generic_of_family .list hgrid (by decide)
  | sequence => exact special_or_generic_of_family .sequence rfl (by decide)
  | hierarchy => exact .inr rfl
  | chart => exact special_or_generic_of_family .chart rfl (by decide)
  | compare => exact special_or_generic_of_family .compare rfl (by decide)
  | quadrant => exact .inr rfl
  | unknown => exact .inr hgrid

/-- Only the category of a layout has it for its generic one. -/
lemma category_generic (c : Category) (template : String) :
    (generic c template).category = c.drawn := by
  cases c <;> rfl

lemma isPlain_generic (c : Category) (template : String) : (generic c template).isPlain = true := by
  cases c with
  | hierarchy =>
    rw [generic]
    cases Template.mentions template "mindmap" <;> rfl
  | _ => rfl

/-- No generic layout is special. -/
lemma generic_ne_of_mem_special {p : String × Layout} (hp : p ∈ special) (c : Category)
    (template : String) : generic c template ≠ p.2 := by
  have hspecial : ∀ p ∈ special, p.2.isPlain = false := by decide
  intro h
  have hplain := isPlain_generic c template
  rw [h, hspecial p hp] at hplain
  cases hplain

/-- **A special layout has a single name.** -/
lemma ofFamily_eq_iff {p : String × Layout} (hp : p ∈ special) :
    ofFamily template = p.2 ↔ template = p.1 := by
  constructor
  · intro h
    rcases special_or_generic template with hspecial | hgeneric
    · have hsingle : ∀ p ∈ special, ∀ q ∈ special, q.2 = p.2 → q.1 = p.1 := by decide
      exact hsingle p hp _ hspecial h
    · exact absurd (hgeneric.symm.trans h) (generic_ne_of_mem_special hp _ _)
  · rintro rfl
    have hnamed : ∀ p ∈ special, ofFamily p.1 = p.2 := by decide
    exact hnamed p hp

lemma ofFamily_of_not_special (h : template ∉ special.map (·.1)) :
    ofFamily template = generic (Category.ofStart template) template := by
  rcases special_or_generic template with hspecial | hgeneric
  · exact absurd (List.mem_map_of_mem hspecial) h
  · exact hgeneric

lemma special_subset_known {p : String × Layout} (hp : p ∈ special) : p.1 ∈ Template.known := by
  have hknown : ∀ p ∈ special, p.1 ∈ Template.known := by decide
  exact hknown p hp

/-- A name that is not known has the generic layout of its category. -/
lemma ofFamily_of_not_known (h : template ∉ Template.known) :
    ofFamily template = generic (Category.ofStart template) template := by
  refine ofFamily_of_not_special fun hmem => ?_
  obtain ⟨p, hp, rfl⟩ := List.mem_map.mp hmem
  exact h (special_subset_known hp)

/-- The category of the layout for a name is that of the name. -/
lemma category_ofFamily (template : String) :
    (ofFamily template).category = (Category.ofStart template).drawn := by
  rcases special_or_generic template with hspecial | hgeneric
  · have hcategory : ∀ p ∈ special, p.2.category = (Category.ofStart p.1).drawn := by decide
    exact hcategory _ hspecial
  · rw [hgeneric, category_generic]

/-- **The families and the one table for all of them agree.** -/
theorem ofFamily_eq_ofTemplate (template : String) : ofFamily template = ofTemplate template := by
  by_cases hknown : template ∈ Template.known
  · have hagree : ∀ name ∈ Template.known, ofFamily name = ofTemplate name := by decide
    exact hagree template hknown
  · have hnames : Template.table.map (·.1) = Template.known := by decide
    have hlookup : Template.table.lookup template = none := by
      rw [List.lookup_eq_none_iff]
      intro p hp
      rw [bne_iff_ne]
      rintro rfl
      exact hknown (hnames ▸ List.mem_map_of_mem hp)
    rw [ofFamily_of_not_known hknown, ofTemplate, hlookup, Category.ofStart_eq_ofTemplate]
    rfl

end Families

end Layout

namespace Template

/-- The category and the layout of a name, told from what stands in the name. -/
structure Placed (template : String) : Prop where
  /-- The name has at most one of the starts. -/
  exclusive : ∀ s ∈ Category.starts, ∀ t ∈ Category.starts,
    StartsWith template s.1 → StartsWith template t.1 → s = t
  /-- A start tells the category. -/
  started : ∀ s ∈ Category.starts, StartsWith template s.1 → Category.ofStart template = s.2
  /-- Without any of them there is none. -/
  unstarted : (∀ s ∈ Category.starts, ¬ StartsWith template s.1) →
    Category.ofStart template = .unknown
  /-- The layout is one of the category, or one of plain lists if there is none. -/
  category : (Layout.ofFamily template).category = (Category.ofStart template).drawn
  /-- A special layout has one name, which is known. -/
  special : ∀ p ∈ Layout.special,
    p.1 ∈ known ∧ (Layout.ofFamily template = p.2 ↔ template = p.1)
  /-- All other names have the generic layout of their category. -/
  generic : template ∉ Layout.special.map (·.1) →
    Layout.ofFamily template =
      match Category.ofStart template with
      | .list | .unknown => .list (.grid (decide (Mentions template "compact")))
      | .sequence => .sequence .steps
      | .hierarchy => .hierarchy (if Mentions template "mindmap" then .mindmap else .tree)
      | .chart => .chart .bar
      | .compare => .compare .binary
      | .quadrant => .quadrant
  /-- One table for all families tells the same. -/
  table : Layout.ofTemplate template = Layout.ofFamily template ∧
    Category.ofTemplate template = Category.ofStart template ∧
    (isKnown template = true ↔ template ∈ known)

lemma names_eq : names = known := by decide

lemma isKnown_iff {template : String} : isKnown template = true ↔ template ∈ known := by
  rw [isKnown, names_eq, List.contains_iff_mem]

/-- **Every name has a category and a layout**, as what stands in it tells.

**Proof sketch.** No start is the start of another (`Category.eq_of_startsWith`). A name stands in
the table of its family or gets the generic layout (`Layout.special_or_generic`), and the tables
give each special layout to a single name (`Layout.ofFamily_eq_iff`). -/
theorem placed (template : String) : Placed template where
  exclusive _ hs _ ht := Category.eq_of_startsWith hs ht
  started _ := Category.ofStart_of_startsWith
  unstarted := Category.ofStart_of_forall
  category := Layout.category_ofFamily template
  special p hp := ⟨Layout.special_subset_known hp, Layout.ofFamily_eq_iff hp⟩
  generic h := by
    have hmentions : ∀ word, mentions template word = decide (Mentions template word) :=
      fun word => Bool.eq_iff_iff.mpr (mentions_iff.trans decide_eq_true_iff.symm)
    rw [Layout.ofFamily_of_not_special h]
    cases Category.ofStart template <;> simp only [Layout.generic, hmentions, decide_eq_true_eq]
  table := ⟨(Layout.ofFamily_eq_ofTemplate template).symm,
    (Category.ofStart_eq_ofTemplate template).symm, isKnown_iff⟩

end Template

/-! ## What lint says about a template -/

/-- How lint calls the layout of a template that is not known. -/
def Layout.announced (layout : Layout) : Category → String
  | .unknown => "the list card grid"
  | _ => "the generic " ++ layout.category.name ++ " layout"

/-- Whether lint has a finding about the template iff it is not known, which calls the layout that
is drawn by its name. -/
structure Document.AnnouncesLayout (d : Document) (options : DrawOptions) (sheet : Stylesheet) :
    Prop where
  /-- The layout for the name is drawn. -/
  drawn : (d.draw options sheet).board? =
    some ((Layout.ofFamily d.template).draw d.items (sheet.pieColor options.mode))
  /-- There is no finding about a known template. -/
  silent : d.template ∈ Template.known → d.findingsOf .template = []
  /-- There is one finding about any other. -/
  warns : d.template ∉ Template.known →
    (d.findingsOf .template).map Finding.display =
      ["[template] " ++ ("unknown template \"" ++ d.template ++ "\", rendering with " ++
        (Layout.ofFamily d.template).announced (Category.ofStart d.template))]
  /-- The layout of a name without a start is a grid of cards. -/
  grid : Category.ofStart d.template = .unknown →
    ∃ compact, Layout.ofFamily d.template = .list (.grid compact)
  /-- A name that is not known has no special layout. -/
  generic : d.template ∉ Template.known → ∀ p ∈ Layout.special, Layout.ofFamily d.template ≠ p.2

namespace Document

variable (d : Document) (options : DrawOptions) (sheet : Stylesheet)

lemma fallbackName_eq (template : String) : Finding.fallbackName template =
    (Layout.ofFamily template).announced (Category.ofStart template) := by
  have hcategory := Layout.category_ofFamily template
  rw [Finding.fallbackName, ← Category.ofStart_eq_ofTemplate]
  cases hstart : Category.ofStart template with
  | unknown => rfl
  | _ =>
    rw [hstart] at hcategory
    simp only [Layout.announced, hcategory]
    rfl

/-- **Lint announces the layout that is drawn.** -/
theorem announcesLayout : d.AnnouncesLayout options sheet where
  drawn := by rw [board?_draw, Layout.ofFamily_eq_ofTemplate]
  silent h := by rw [findingsOf_template, lintTemplate, if_pos (Template.isKnown_iff.mpr h)]
  warns h := by
    rw [findingsOf_template, lintTemplate, if_neg (mt Template.isKnown_iff.mp h), ← fallbackName_eq]
    rfl
  grid h := by
    rw [Layout.ofFamily, h, Layout.gridFor_eq]
    exact ⟨_, rfl⟩
  generic h p hp := by
    rw [Layout.ofFamily_of_not_known h]
    exact Layout.generic_ne_of_mem_special hp _ _

end Document

/-- **Every name has a category and a layout, and lint announces the layout that is drawn.** A name
has at most one of the starts, which tells its category, and the layout for it is one of that
category. Each special layout belongs to a single name, which is known, and any other name has the
generic layout of its category. Lint has a finding about a template iff its name is not known, and
calls the layout that is drawn by its category. -/
theorem template_placed_and_announced :
    (∀ template : String, Template.Placed template) ∧
      ∀ (d : Document) (options : DrawOptions) (sheet : Stylesheet),
        d.AnnouncesLayout options sheet :=
  ⟨Template.placed, fun d options sheet => d.announcesLayout options sheet⟩

/-- The start of a name tells the category, and a word in it the layout. -/
example : Layout.ofFamily "hierarchy-my-mindmap" = .hierarchy .mindmap := by decide

end Placard
