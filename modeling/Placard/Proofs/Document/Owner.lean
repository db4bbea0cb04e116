import Mathlib.Data.List.Induction
import Placard.Proofs.Document.Replace

set_option relaxedAutoImplicit false
set_option autoImplicit false

/-!
# Owners of property lines

A line with a dash is read as an entry only where it stands in a list; elsewhere it is skipped like
any line without a meaning. This file shows that the reader keeps a property line for the nearest
line above it that is read as an entry and whose extent reaches the property line, and for no other
entry.

## Main definitions

* `Placard.owner?`: the nearest line above a line that is read as an entry and extends to it.
* `Placard.FieldsOwned`: the fields of an item come from lines that its own entry owns.

## Main results

* `Placard.owner?_of_mem_propertiesOf`: the property lines of an entry are its own.
* `Placard.fields_owned`: every field of every item comes from lines that its own entry owns.
-/

namespace Placard

/-! ## Owners -/

/-- The nearest line above position `i` that is read as an entry, since it stands in a list, and
whose extent reaches that position: all lines from there on are indented deeper. -/
def owner? (lines : List Line) (i : Nat) : Option (Fin i) :=
  Fin.findRev? fun j : Fin i => placeAt .root lines j == .list && Level.list.covers lines j i

section Owner

variable {lines before below behind : List Line} {l c : Line}

/-- **The property lines of an entry are its own.** They stand in its extent, and in no entry inside
it.

**Proof sketch.** The block of a list of children that a line of the extent opens has ended before a
property line, since that line counts (`covers_eq_false_of_not_covered`); and where the lines of the
extent stand can be told from the extent alone (`placeAt_stands`). -/
theorem owner?_of_mem_propertiesOf (h : Placed .root lines before c below behind .list)
    (hl : l ∈ propertiesOf below) :
    ∃ i, lines[i]? = some l ∧ (owner? lines i).map (·.val) = some before.length := by
  obtain ⟨⟨l, extent⟩, hvisible, rfl⟩ := List.mem_map.mp (List.mem_filter.mp hl).1
  obtain ⟨m, hget, hcovered⟩ := exists_of_mem_visible hvisible
  have hm : m < below.length := (List.getElem?_eq_some_iff.mp hget).1
  refine ⟨before.length + 1 + m, by rw [getElem?_stands h.stands hm, hget], ?_⟩
  have howner : owner? lines (before.length + 1 + m) = some ⟨before.length, by omega⟩ := by
    rw [owner?, Fin.findRev?_eq_some_iff]
    constructor
    · rw [Bool.and_eq_true, beq_iff_eq]
      exact ⟨h.place, covers_stands h.stands hm⟩
    · rintro ⟨k, hk⟩ hlt
      obtain ⟨n, rfl⟩ : ∃ n, k = before.length + 1 + n :=
        ⟨k - (before.length + 1), by have := Fin.lt_def.mp hlt; simp only at this; omega⟩
      have hnm : n < m := by omega
      have hfree := covers_eq_false_of_not_covered (p := .entry) hcovered n hnm
      have hplace : placeAt .root lines (before.length + 1 + n) = placeAt .entry below n :=
        h.placeAt_eq (Nat.lt_trans hnm hm)
      cases hlist : placeAt .root lines (before.length + 1 + n) == .list with
      | false => rfl
      | true =>
        rw [beq_iff_eq] at hlist
        rw [Bool.true_and, covers_inside h.stands hnm hm]
        rw [← hplace, hlist] at hfree
        exact hfree
  rw [howner, Option.map_some]

end Owner

/-- The line that an entry has a property from: the last one that sets it. -/
def Entry.origin? (e : Entry) (k : Keyword) : Option Line :=
  (e.properties.filter fun l => (l.argumentOf? k).isSome).getLast?

/-- Whether the fields of an item come from lines of an entry whose owner is the line of the entry:
the label, if it is not the one on that line, the value, the description and the icon. Positions are
those among the lines below the header. -/
structure FieldsOwned (ownerOf? : (lines : List Line) → (i : Nat) → Option (Fin i))
    (lines : List Line) (e : Entry) (item : Item) : Prop where
  /-- The label comes from a line that sets it, or else from the line of the entry. -/
  label : item.label = String.ofList
    (((e.origin? .label).bind (·.argumentOf? .label)).getD e.headerLabel)
  /-- The value comes from a line that sets it. -/
  value : item.value = ((e.origin? .value).bind (·.argumentOf? .value)).map Value.coerce
  /-- So does the description. -/
  desc : item.desc = ((e.origin? .desc).bind (·.argumentOf? .desc)).map String.ofList
  /-- So does the icon. -/
  icon : item.icon = ((e.origin? .icon).bind (·.argumentOf? .icon)).map String.ofList
  /-- The owner of each of these lines is the line of the entry. -/
  owned : ∃ j, lines[j]? = some e.line ∧ ∀ k l, e.origin? k = some l →
    ∃ i, lines[i]? = some l ∧ (ownerOf? lines i).map (·.val) = some j

section Fields

variable {source : String} {d : Document} {path : List Nat} {item : Item}

lemma property?_eq_origin? (e : Entry) (k : Keyword) :
    e.property? k = (e.origin? k).bind (·.argumentOf? k) := by
  rw [Entry.property?, Entry.origin?]
  induction e.properties using List.reverseRecOn with
  | nil => rfl
  | append_singleton ls l ih =>
    rw [List.filterMap_append, List.filter_append, List.getLast?_append, List.getLast?_append, ih]
    cases h : l.argumentOf? k <;> simp [h]

/-- **Every field of every item comes from lines that its own entry owns**: from the line of the
entry, or from lines below it for which that line is the nearest one above that is read as an entry
and whose extent reaches them.

**Proof sketch.** The entry stands in a list among the lines below the header
(`documentOf_replace`), and it has its properties from its own lines
(`owner?_of_mem_propertiesOf`). -/
theorem fields_owned (h : parse source = .ok d) (hitem : d.item? path = some item) :
    ∃ template body e, headed? source = some (template, body) ∧ entryAt? source path = some e ∧
      FieldsOwned owner? body e item := by
  rw [item?_of_parse h, Option.map_eq_some_iff] at hitem
  obtain ⟨e, he, rfl⟩ := hitem
  obtain ⟨template, body, hheaded, rfl⟩ := exists_headed?_of_parse h
  have hentry := he
  rw [entryAt?_of_headed? hheaded] at hentry
  obtain ⟨before, below, behind, hplaced, hfrom, -⟩ := documentOf_replace template hentry
  refine ⟨template, body, e, hheaded, he, ?_, ?_, ?_, ?_, before.length, ?_, ?_⟩
  · rw [toItem_eq, property?_eq_origin?]
  · rw [toItem_eq, property?_eq_origin? e .value]
  · rw [toItem_eq, property?_eq_origin? e .desc]
  · rw [toItem_eq, property?_eq_origin? e .icon]
  · exact getElem?_length_stands hplaced.stands
  · intro k l hl
    have hmem : l ∈ e.properties := (List.mem_filter.mp (List.mem_of_getLast? hl)).1
    rw [hfrom, entryOf_eq] at hmem
    exact owner?_of_mem_propertiesOf hplaced hmem

/-- A source with an entry that stands in no list. -/
def skippedSource : String :=
  "infographic x\ndata\n  items\n    - A\n      - B\n        desc b"

/-- The description below the skipped entry belongs to the entry around it. -/
theorem fields_owned_skipped :
    ∃ d item template body e, parse skippedSource = .ok d ∧ d.item? [0] = some item ∧
      headed? skippedSource = some (template, body) ∧ entryAt? skippedSource [0] = some e ∧
      item.desc = some "b" ∧ FieldsOwned owner? body e item := by
  have hdesc : ((parse skippedSource).toOption.bind (·.item? [0])).map (·.desc) =
      some (some "b") := by
    decide +kernel
  cases h : parse skippedSource with
  | error e =>
    rw [h] at hdesc
    cases hdesc
  | ok d =>
    rw [h] at hdesc
    obtain ⟨item, hitem, hb⟩ := Option.map_eq_some_iff.mp hdesc
    obtain ⟨template, body, e, hheaded, he, hfields⟩ := fields_owned h hitem
    exact ⟨d, item, template, body, e, rfl, hitem, hheaded, he, hb, hfields⟩

/-- The nearest line above position `i` with a dash and a header that is indented less, whether it
is read as an entry or not. -/
def nearestDash? (lines : List Line) (i : Nat) : Option (Fin i) :=
  Fin.findRev? fun j : Fin i => Level.list.opensAt lines j &&
    lines[(j : Nat)]?.any fun c => lines[i]?.any fun l => decide (c.indent < l.indent)

/-- That line need not be the one of the item: if it is skipped then the lines below it belong to
the entry around it. -/
theorem not_fields_owned_nearestDash :
    ¬ ∀ source d path item, parse source = .ok d → d.item? path = some item →
      ∃ template body e, headed? source = some (template, body) ∧
        entryAt? source path = some e ∧ FieldsOwned nearestDash? body e item := by
  intro hall
  have hitem : ((parse skippedSource).toOption.bind (·.item? [0])).isSome = true := by
    decide +kernel
  have hnumbers : (headed? skippedSource).map (·.2.map (·.number)) =
      some (List.range' 1 5) := by
    decide +kernel
  have hlines : (entryAt? skippedSource [0]).map
      (fun e => (e.line.number, (e.origin? .desc).map (·.number))) = some (3, some 5) := by
    decide +kernel
  have hnearest : (headed? skippedSource).map (fun found => (nearestDash? found.2 4).map (·.val)) =
      some (some 3) := by
    decide +kernel
  cases h : parse skippedSource with
  | error e =>
    rw [h] at hitem
    cases hitem
  | ok d =>
    rw [h] at hitem
    obtain ⟨item, hitem⟩ := Option.isSome_iff_exists.mp hitem
    obtain ⟨template, body, e, hheaded, he, hfields⟩ := hall skippedSource d [0] item h hitem
    obtain ⟨j, hj, howned⟩ := hfields.owned
    rw [hheaded, Option.map_some, Option.some.injEq] at hnumbers hnearest
    rw [he, Option.map_some, Option.some.injEq, Prod.mk.injEq] at hlines
    obtain ⟨l, hl, hnumber⟩ := Option.map_eq_some_iff.mp hlines.2
    obtain ⟨i, hi, hsome⟩ := howned .desc l hl
    have hposition : ∀ k m, body[k]? = some m → m.number = 1 + k := by
      intro k m hk
      have hget := congrArg (·[k]?) hnumbers
      simp only [List.getElem?_map, hk, Option.map_some] at hget
      obtain ⟨_, hvalue⟩ := List.getElem?_eq_some_iff.mp hget.symm
      rw [List.getElem_range', Nat.one_mul] at hvalue
      exact hvalue.symm
    have hjline := hposition j e.line hj
    have hiline := hposition i l hi
    obtain rfl : i = 4 := by omega
    rw [hnearest, Option.some.injEq] at hsome
    omega

end Fields

end Placard
