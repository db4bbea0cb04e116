import Mathlib.Data.List.TakeWhile
import Placard.Lint
import Placard.Proofs.Decimal.Sign
import Placard.Proofs.Document.DepthFirst

set_option relaxedAutoImplicit false
set_option autoImplicit false

/-!
# Findings by kind

Lint looks at the template, the places, the values and the icons of a document one after the other.
This file sorts the findings by what they are about, and says which items have one: in a chart the
items at the top whose value is not charted, and everywhere the items at any depth whose icon is
broken.

## Main definitions

* `Placard.Document.findingsOf`: the findings of a kind.
* `Placard.Item.Charted`, `Placard.Item.BrokenIcon`: what lint looks for.

## Main results

* `Placard.Document.findingsOf_value`, `Placard.Document.findingsOf_chart`,
  `Placard.Document.findingsOf_icon` and their siblings: the findings of each kind.
* `Placard.Item.charted_iff`: the items of a chart that are drawn with their own value.
-/

namespace Placard

/-! ## Icons -/

section Split

variable {mark : Char} {cs before behind : List Char}

/-- A text is divided where the mark stands for the first time. -/
lemma splitAtFirst?_eq_some_iff :
    Text.splitAtFirst? mark cs = some (before, behind) ↔
      mark ∉ before ∧ cs = before ++ mark :: behind := by
  rw [Text.splitAtFirst?]
  constructor
  · intro h
    split at h
    · cases h
    · next c rest hdrop =>
      obtain ⟨rfl, rfl⟩ := Prod.mk.inj (Option.some.inj h)
      have hmark : c = mark := by
        have hnot := List.head?_dropWhile_not (· != mark) cs
        rw [hdrop] at hnot
        simpa using hnot
      refine ⟨fun hmem => ?_, ?_⟩
      · simpa using List.mem_takeWhile_imp hmem
      · rw [← hmark, ← hdrop, hmark, List.takeWhile_append_dropWhile]
  · rintro ⟨hmem, rfl⟩
    have hbefore : ∀ c ∈ before, (c != mark) = true := by
      intro c hc
      rw [bne_iff_ne]
      rintro rfl
      exact hmem hc
    have hstop : ¬ (mark != mark) = true := by simp
    rw [List.dropWhile_append_of_pos hbefore, List.takeWhile_append_of_pos hbefore,
      List.dropWhile_cons_of_neg (p := (· != mark)) hstop,
      List.takeWhile_cons_of_neg (p := (· != mark)) hstop, List.append_nil]

end Split

/-- Whether a reference to an icon is a collection and a name with a colon between them. The name
may hold more colons. -/
def Icon.Splits (reference : String) : Prop :=
  ∃ collection name : String, collection ≠ "" ∧ name ≠ "" ∧ ':' ∉ collection.toList ∧
    reference = collection ++ ":" ++ name

lemma Icon.isSome_split?_iff (reference : String) :
    (Icon.split? reference).isSome = true ↔ Icon.Splits reference := by
  have hempty : ∀ s : String, s.toList.isEmpty = false ↔ s ≠ "" := by simp
  rw [Icon.split?]
  constructor
  · intro h
    split at h
    · next collection name hsplit =>
      obtain ⟨hmark, hreference⟩ := splitAtFirst?_eq_some_iff.mp hsplit
      split at h
      · cases h
      · next hne =>
        rw [Bool.or_eq_true, not_or] at hne
        refine ⟨String.ofList collection, String.ofList name, ?_, ?_, ?_, ?_⟩
        · simpa using hne.1
        · simpa using hne.2
        · simpa using hmark
        · apply String.toList_injective
          simpa using hreference
    · cases h
  · rintro ⟨collection, name, hcollection, hname, hmark, rfl⟩
    have hsplit : Text.splitAtFirst? ':' (collection ++ ":" ++ name).toList =
        some (collection.toList, name.toList) :=
      splitAtFirst?_eq_some_iff.mpr ⟨hmark, by simp⟩
    simp only [hsplit, (hempty collection).mpr hcollection, (hempty name).mpr hname, Bool.or_false,
      Bool.false_eq_true, if_false, Option.isSome_some]

instance (reference : String) : Decidable (Icon.Splits reference) :=
  decidable_of_iff _ (Icon.isSome_split?_iff reference)

/-! ## Items -/

namespace Item

/-- Whether the value of an item is a finite number that is not below zero. -/
def Charted (item : Item) : Prop :=
  ∃ x, item.value = some (.number x) ∧ x.isFinite = true ∧ 0 ≤ x

/-- The finding about the value of an item that is not charted. -/
def valueFinding (item : Item) : Finding :=
  match item.value with
  | none => .noValue item.label
  | some (.text text) => .textValue item.label text
  | some (.number x) => .unchartedValue item.label x

/-- Whether an item has an icon that does not split. -/
def BrokenIcon (item : Item) : Prop := ∃ icon, item.icon = some icon ∧ ¬ Icon.Splits icon

/-- The finding about such an icon. -/
def iconFinding (item : Item) : Finding := .brokenIcon item.label (item.icon.getD "")

instance (item : Item) : Decidable item.Charted :=
  match h : item.value with
  | none => isFalse fun ⟨x, hx, _⟩ => by rw [h] at hx; cases hx
  | some (.text s) => isFalse fun ⟨x, hx, _⟩ => by rw [h] at hx; cases hx
  | some (.number x) =>
    decidable_of_iff (x.isFinite = true ∧ 0 ≤ x)
      ⟨fun hx => ⟨x, h, hx⟩, fun ⟨y, hy, hx⟩ => by rw [h] at hy; cases hy; exact hx⟩

instance (item : Item) : Decidable item.BrokenIcon :=
  match h : item.icon with
  | none => isFalse fun ⟨icon, hicon, _⟩ => by rw [h] at hicon; cases hicon
  | some icon =>
    decidable_of_iff (¬ Icon.Splits icon)
      ⟨fun hsplits => ⟨icon, h, hsplits⟩,
        fun ⟨icon', hicon, hsplits⟩ => by rw [h] at hicon; cases hicon; exact hsplits⟩

section Values

variable {item : Item}

/-- **The items that a chart draws with their own value** are those that are charted. -/
theorem charted_iff :
    item.Charted ↔ ∃ x, item.value = some (.number x) ∧ (item.magnitude == x) = true := by
  have hsize : ∀ x, item.value = some (.number x) →
      ((item.magnitude == x) = true ↔ x.isFinite = true ∧ 0 ≤ x) := by
    intro x hx
    rw [magnitude, hx]
    exact beq_clamped_iff
  constructor
  · rintro ⟨x, hx, hcharted⟩
    exact ⟨x, hx, (hsize x hx).mpr hcharted⟩
  · rintro ⟨x, hx, hmagnitude⟩
    exact ⟨x, hx, (hsize x hx).mp hmagnitude⟩

/-- Lint has one finding about the value of an item that is not charted, and none if it is. -/
lemma lintValue_eq (item : Item) :
    item.lintValue = if item.Charted then none else some item.valueFinding := by
  rw [lintValue, valueFinding]
  cases hvalue : item.value with
  | none =>
    rw [if_neg]
    rintro ⟨x, hx, -⟩
    rw [hvalue] at hx
    cases hx
  | some value =>
    cases value with
    | text s =>
      rw [if_neg]
      rintro ⟨x, hx, -⟩
      rw [hvalue] at hx
      cases hx
    | number x =>
      have hcharted : item.Charted ↔ x.isFinite = true ∧ 0 ≤ x := by
        constructor
        · rintro ⟨y, hy, hcharted⟩
          rw [hvalue] at hy
          cases hy
          exact hcharted
        · exact fun h => ⟨x, hvalue, h⟩
      cases hfinite : x.isFinite with
      | false => simp [hcharted, hfinite]
      | true =>
        have hlt := not_lt_zero_iff hfinite
        by_cases hle : 0 ≤ x
        · simp [hcharted, hfinite, hle, hlt.mpr hle]
        · have hnot : x < 0 := Decidable.by_contra fun h => hle (hlt.mp h)
          simp [hcharted, hle, hnot]

lemma filterMap_lintValue (items : List Item) :
    items.filterMap lintValue = (items.filter (¬ ·.Charted)).map valueFinding := by
  induction items with
  | nil => rfl
  | cons item items ih =>
    rw [List.filterMap_cons, lintValue_eq]
    by_cases h : item.Charted <;> simp [h, ih]

end Values

section Icons

variable {item : Item}

lemma brokenIcon_iff {reference : String} (h : item.icon = some reference) :
    item.BrokenIcon ↔ ¬ Icon.Splits reference := by
  constructor
  · rintro ⟨icon, hicon, hsplits⟩
    obtain rfl := Option.some.inj (h.symm.trans hicon)
    exact hsplits
  · exact fun hsplits => ⟨reference, h, hsplits⟩

lemma not_brokenIcon (h : item.icon = none) : ¬ item.BrokenIcon := by
  rintro ⟨icon, hicon, -⟩
  rw [h] at hicon
  cases hicon

lemma lintIcon_eq (item : Item) :
    lintIcon item.label item.icon = if item.BrokenIcon then [item.iconFinding] else [] := by
  rw [iconFinding]
  cases hicon : item.icon with
  | none =>
    rw [if_neg (not_brokenIcon hicon)]
    rfl
  | some icon =>
    have hbroken : item.BrokenIcon ↔ (Icon.split? icon).isNone = true := by
      rw [Option.isNone_iff_eq_none, ← Option.not_isSome_iff_eq_none, Icon.isSome_split?_iff]
      exact brokenIcon_iff hicon
    simp only [lintIcon, hbroken, Option.getD_some]

mutual

/-- Lint has one finding about each broken icon of an item and of those below it. -/
lemma lintIcons_eq (item : Item) :
    item.lintIcons = ((subtree item).filter (·.BrokenIcon)).map iconFinding := by
  match item with
  | ⟨label, value, desc, icon, children⟩ =>
    have hbelow := lintIconsBelow_eq children
    have hicon := lintIcon_eq ⟨label, value, desc, icon, children⟩
    rw [lintIcons, subtree, hbelow, List.filter_cons]
    simp only at hicon
    rw [hicon]
    by_cases h : BrokenIcon ⟨label, value, desc, icon, children⟩ <;> simp [h]

lemma lintIconsBelow_eq (children : Option (List Item)) :
    lintIconsBelow children = ((subtreesBelow children).filter (·.BrokenIcon)).map iconFinding := by
  match children with
  | none => rfl
  | some items => exact lintIconsAll_eq items

lemma lintIconsAll_eq (items : List Item) :
    lintIconsAll items = ((depthFirst items).filter (·.BrokenIcon)).map iconFinding := by
  match items with
  | [] => rfl
  | item :: items =>
    rw [lintIconsAll, depthFirst, lintIcons_eq item, lintIconsAll_eq items, List.filter_append,
      List.map_append]

end

end Icons

end Item

/-! ## Kinds of findings -/

/-- The findings of a kind. -/
def Document.findingsOf (d : Document) (k : Finding.Kind) : List Finding :=
  d.lint.filter (·.kind == k)

section Kinds

variable {d : Document}

lemma kind_of_mem_lintIconsAll {items : List Item} {f : Finding}
    (h : f ∈ Item.lintIconsAll items) : f.kind = .icon := by
  rw [Item.lintIconsAll_eq] at h
  obtain ⟨item, -, rfl⟩ := List.mem_map.mp h
  rfl

lemma kind_of_mem_lintTemplate {f : Finding} (h : f ∈ d.lintTemplate) : f.kind = .template := by
  rw [Document.lintTemplate] at h
  split at h
  · cases h
  · obtain rfl := List.mem_singleton.mp h
    rfl

lemma kind_of_lintValue {item : Item} {f : Finding} (h : item.lintValue = some f) :
    f.kind = .value := by
  rw [Item.lintValue] at h
  split at h
  · obtain rfl := Option.some.inj h
    rfl
  · obtain rfl := Option.some.inj h
    rfl
  · split at h
    · obtain rfl := Option.some.inj h
      rfl
    · cases h

lemma kind_of_mem_lintChart {f : Finding} (h : f ∈ d.lintChart) :
    f.kind = .value ∨ f.kind = .chart := by
  rw [Document.lintChart] at h
  split at h
  · split at h
    · cases h
    · obtain h | h := List.mem_append.mp h
      · obtain ⟨item, -, hvalue⟩ := List.mem_filterMap.mp h
        exact Or.inl (kind_of_lintValue hvalue)
      · split at h
        · obtain rfl := List.mem_singleton.mp h
          exact Or.inr rfl
        · cases h
  · cases h

lemma kind_of_mem_lintPlaces {f : Finding} (h : f ∈ d.lintPlaces) : f.kind = .cardinality := by
  rw [Document.lintPlaces] at h
  split at h
  · cases h
  · split at h
    · split at h
      · obtain rfl := List.mem_singleton.mp h
        rfl
      · cases h
    · cases h

variable {fs : List Finding} {k k' : Finding.Kind}

lemma filter_kind_eq_nil (h : ∀ f ∈ fs, f.kind = k') (hk : k ≠ k') :
    fs.filter (·.kind == k) = [] := by
  rw [List.filter_eq_nil_iff]
  intro f hf
  rw [h f hf]
  simpa using hk.symm

lemma filter_kind_eq_self (h : ∀ f ∈ fs, f.kind = k) : fs.filter (·.kind == k) = fs := by
  rw [List.filter_eq_self]
  exact fun f hf => by simpa using h f hf

lemma filter_lintTemplate (hk : k ≠ .template) : d.lintTemplate.filter (·.kind == k) = [] :=
  filter_kind_eq_nil (fun _ hf => kind_of_mem_lintTemplate hf) hk

lemma filter_lintPlaces (hk : k ≠ .cardinality) : d.lintPlaces.filter (·.kind == k) = [] :=
  filter_kind_eq_nil (fun _ hf => kind_of_mem_lintPlaces hf) hk

lemma filter_lintIconsAll {items : List Item} (hk : k ≠ .icon) :
    (Item.lintIconsAll items).filter (·.kind == k) = [] :=
  filter_kind_eq_nil (fun _ hf => kind_of_mem_lintIconsAll hf) hk

lemma filter_lintChart (hvalue : k ≠ .value) (hchart : k ≠ .chart) :
    d.lintChart.filter (·.kind == k) = [] := by
  rw [List.filter_eq_nil_iff]
  intro f hf
  rcases kind_of_mem_lintChart hf with hkind | hkind
  · simpa [hkind] using hvalue.symm
  · simpa [hkind] using hchart.symm

end Kinds

namespace Document

variable (d : Document)

/-- The findings of a kind, part by part. -/
lemma findingsOf_eq (k : Finding.Kind) :
    d.findingsOf k = d.lintTemplate.filter (·.kind == k) ++ d.lintPlaces.filter (·.kind == k) ++
      d.lintChart.filter (·.kind == k) ++ (Item.lintIconsAll d.items).filter (·.kind == k) := by
  rw [findingsOf, lint, List.filter_append, List.filter_append, List.filter_append]

/-- The findings about the template are those about one that is not known. -/
lemma findingsOf_template : d.findingsOf .template = d.lintTemplate := by
  rw [findingsOf_eq, filter_lintPlaces (by decide), filter_lintChart (by decide) (by decide),
    filter_lintIconsAll (by decide), filter_kind_eq_self fun _ hf => kind_of_mem_lintTemplate hf,
    List.append_nil, List.append_nil, List.append_nil]

/-- The findings about the number of items are those about items without a place. -/
lemma findingsOf_cardinality : d.findingsOf .cardinality = d.lintPlaces := by
  rw [findingsOf_eq, filter_lintTemplate (by decide), filter_lintChart (by decide) (by decide),
    filter_lintIconsAll (by decide), filter_kind_eq_self fun _ hf => kind_of_mem_lintPlaces hf,
    List.nil_append, List.append_nil, List.append_nil]

/-- The findings about icons are one for each broken icon, at any depth. -/
lemma findingsOf_icon :
    d.findingsOf .icon =
      ((Item.depthFirst d.items).filter (·.BrokenIcon)).map Item.iconFinding := by
  rw [findingsOf_eq, filter_lintTemplate (by decide), filter_lintPlaces (by decide),
    filter_lintChart (by decide) (by decide),
    filter_kind_eq_self fun _ hf => kind_of_mem_lintIconsAll hf, List.nil_append, List.nil_append,
    List.nil_append, Item.lintIconsAll_eq]

/-- The findings about values and about a chart as a whole are those about the chart. -/
lemma findingsOf_of_chart {k : Finding.Kind} (hk : k = .value ∨ k = .chart) :
    d.findingsOf k = d.lintChart.filter (·.kind == k) := by
  have hothers : k ≠ .template ∧ k ≠ .cardinality ∧ k ≠ .icon := by
    rcases hk with rfl | rfl <;> decide
  obtain ⟨htemplate, hplaces, hicon⟩ := hothers
  rw [findingsOf_eq, filter_lintTemplate htemplate, filter_lintPlaces hplaces,
    filter_lintIconsAll hicon, List.nil_append, List.nil_append, List.append_nil]

/-- Whether a chart shows nothing although it has items. -/
def ChartsNothing (d : Document) : Prop :=
  d.items ≠ [] ∧ ∀ item ∈ d.items, (item.magnitude == 0) = true

instance : Decidable d.ChartsNothing :=
  inferInstanceAs (Decidable (_ ∧ ∀ item ∈ d.items, (item.magnitude == 0) = true))

variable {layout : ChartLayout}

lemma lintChart_of_chart (h : Layout.ofTemplate d.template = .chart layout) :
    d.lintChart = (d.items.filter (¬ ·.Charted)).map Item.valueFinding ++
      if d.ChartsNothing then [.emptyChart] else [] := by
  rw [lintChart, h]
  simp only [Item.filterMap_lintValue]
  by_cases hitems : d.items = []
  · have hnot : ¬ d.ChartsNothing := fun hnothing => hnothing.1 hitems
    simp [hitems, hnot]
  · have hnothing : d.ChartsNothing ↔ d.items.all (·.magnitude == 0) = true := by
      simp [ChartsNothing, hitems]
    simp [hitems, hnothing]

variable {d}

lemma kind_valueFinding (item : Item) : item.valueFinding.kind = .value := by
  rw [Item.valueFinding]
  split <;> rfl

/-- In a chart there is one finding about each value that is not charted. -/
lemma findingsOf_value (h : Layout.ofTemplate d.template = .chart layout) :
    d.findingsOf .value = (d.items.filter (¬ ·.Charted)).map Item.valueFinding := by
  have hvalues : ∀ f ∈ (d.items.filter (¬ ·.Charted)).map Item.valueFinding, f.kind = .value :=
    List.forall_mem_map.mpr fun item _ => kind_valueFinding item
  rw [findingsOf_of_chart d (.inl rfl), lintChart_of_chart d h, List.filter_append,
    filter_kind_eq_self hvalues]
  split <;> simp [Finding.kind]

/-- There is one about the whole chart if it shows nothing. -/
lemma findingsOf_chart (h : Layout.ofTemplate d.template = .chart layout) :
    d.findingsOf .chart = if d.ChartsNothing then [.emptyChart] else [] := by
  have hvalues : ∀ f ∈ (d.items.filter (¬ ·.Charted)).map Item.valueFinding, f.kind = .value :=
    List.forall_mem_map.mpr fun item _ => kind_valueFinding item
  rw [findingsOf_of_chart d (.inr rfl), lintChart_of_chart d h, List.filter_append,
    filter_kind_eq_nil hvalues (by decide)]
  split <;> simp [Finding.kind]

/-- Without a chart there are none. -/
lemma lintChart_of_not_chart (h : ∀ layout, Layout.ofTemplate d.template ≠ .chart layout) :
    d.lintChart = [] := by
  rw [lintChart]
  split
  · next layout hlayout => exact absurd hlayout (h layout)
  · rfl

end Document

end Placard
