import Placard.Markup.Page
import Placard.Proofs.Markup.Attributes
import Placard.Proofs.Markup.Plain
import Placard.Proofs.Markup.Scan

set_option relaxedAutoImplicit false
set_option autoImplicit false

/-!
# Reading a figure back

The tokens of well-formed markup stand for a tree: every end tag closes the element that was opened
last, and in the end no element is open. This file shows that the compact markup of a figure is read
as one tree, in which every figure that is drawn is one element with its own attributes and its own
text. No class name, style, text, icon or color can reach beyond its place. What the attributes
should hold is said apart from the writer, in `Placard.Style.declaration` and its siblings.

Signs are the only texts that are written without escaping and may be anything, so they have to be
free of characters with a meaning in markup.

## Main definitions

* `Placard.Markup.Node`: markup as a tree.
* `Placard.Markup.build`: the tree that tokens stand for.
* `Placard.Markup.readMarkup`: the tree of a piece of markup.
* `Placard.Figure.drawn`: the tree that a figure should be.
* `Placard.Figure.PlainSigns`: the signs that are drawn need no escaping.

## Main results

* `Placard.Markup.build_tokensOf`: a tree is built from its tokens.
* `Placard.Figure.readMarkup_page`: a figure is read back from its markup.
-/

namespace Placard

namespace Markup

/-! ## Trees -/

/-- Markup as a tree. -/
inductive Node where
  /-- A text. -/
  | text (s : String)
  /-- An element and what is inside it. -/
  | element (name : String) (attributes : List (String × String)) (content : List Node)
  /-- An element that closes itself. -/
  | empty (name : String) (attributes : List (String × String))
deriving Repr

namespace Node

mutual

/-- The tokens of a tree. -/
def tokens : Node → List Token
  | .text s => [.text s]
  | .element name attributes content =>
    .start name attributes :: (tokensOf content ++ [.stop name])
  | .empty name attributes => [.empty name attributes]

/-- The tokens of trees. -/
def tokensOf : List Node → List Token
  | [] => []
  | n :: ns => tokens n ++ tokensOf ns

end

lemma tokensOf_append (ms ns : List Node) : tokensOf (ms ++ ns) = tokensOf ms ++ tokensOf ns := by
  induction ms with
  | nil => rfl
  | cons m ms ih => rw [List.cons_append, tokensOf, tokensOf, ih, List.append_assoc]

end Node

/-- An element whose end has not been read. -/
structure OpenElement where
  /-- Its name. -/
  name : String
  /-- Its attributes. -/
  attributes : List (String × String)
  /-- The trees in front of it. -/
  before : List Node
deriving Repr

/-- The trees read so far. -/
structure Builder where
  /-- Those inside the innermost open element. -/
  nodes : List Node
  /-- The open elements, the innermost first. -/
  stack : List OpenElement
deriving Repr

namespace Builder

/-- The trees after one more token. An end tag has to close the innermost open element. -/
def step (b : Builder) : Token → Option Builder
  | .text s => some { b with nodes := b.nodes ++ [.text s] }
  | .empty name attributes => some { b with nodes := b.nodes ++ [.empty name attributes] }
  | .start name attributes => some ⟨[], ⟨name, attributes, b.nodes⟩ :: b.stack⟩
  | .stop name =>
    match b.stack with
    | [] => none
    | e :: stack =>
      if e.name = name then some ⟨e.before ++ [.element name e.attributes b.nodes], stack⟩
      else none

/-- The trees after some more tokens. -/
def run (b : Builder) (tokens : List Token) : Option Builder := tokens.foldlM step b

end Builder

/-- The trees that tokens stand for, if no element is left open. -/
def build (tokens : List Token) : Option (List Node) :=
  (Builder.run ⟨[], []⟩ tokens).bind fun b => if b.stack.isEmpty then some b.nodes else none

/-- The trees that a piece of markup stands for. -/
def readMarkup (markup : String) : Option (List Node) := (scan markup.toList).bind build

namespace Builder

lemma run_cons_of_eq {b b' : Builder} {t : Token} (h : b.step t = some b') (ts : List Token) :
    b.run (t :: ts) = b'.run ts := by
  rw [run, List.foldlM_cons, h]
  rfl

lemma run_append_of_eq {b b' : Builder} {ts : List Token} (h : b.run ts = some b')
    (us : List Token) : b.run (ts ++ us) = b'.run us := by
  rw [run, List.foldlM_append, ← run, h]
  rfl

mutual

/-- A tree is built from its tokens, whatever is around it.

**Proof sketch.** Recursion over the tree. The start tag opens an element, the content is built
inside it, and then it is the innermost open element again. -/
lemma run_tokens (b : Builder) (n : Node) :
    b.run n.tokens = some { b with nodes := b.nodes ++ [n] } := by
  match n with
  | .text s => rfl
  | .empty name attributes => rfl
  | .element name attributes content =>
    have hstart : b.step (.start name attributes) =
        some ⟨[], ⟨name, attributes, b.nodes⟩ :: b.stack⟩ := rfl
    have hstop : step ⟨[] ++ content, ⟨name, attributes, b.nodes⟩ :: b.stack⟩ (.stop name) =
        some ⟨b.nodes ++ [.element name attributes content], b.stack⟩ := by
      simp only [step, if_true, List.nil_append]
    rw [Node.tokens, run_cons_of_eq hstart, run_append_of_eq (run_tokensOf _ content),
      run_cons_of_eq hstop]
    rfl

lemma run_tokensOf (b : Builder) (ns : List Node) :
    b.run (Node.tokensOf ns) = some { b with nodes := b.nodes ++ ns } := by
  match ns with
  | [] =>
    rw [List.append_nil]
    rfl
  | n :: ns =>
    rw [Node.tokensOf, run_append_of_eq (run_tokens b n), run_tokensOf _ ns, List.append_assoc,
      List.singleton_append]

end

end Builder

/-- **Trees are built from their tokens.** -/
theorem build_tokensOf (ns : List Node) : build (Node.tokensOf ns) = some ns := by
  rw [build, Builder.run_tokensOf]
  rfl

end Markup

/-! ## What a figure is drawn as -/

namespace Figure

open Markup

/-- The tree of a text, if it is not empty. -/
def textNodes (s : String) : List Node := if s = "" then [] else [.text s]

/-- The attributes that class names and styles are drawn as. -/
def drawnAttributes (classPrefix : String) (classes : List String) (styles : List Style) :
    List (String × String) :=
  (if classes = [] then []
    else [("class", " ".intercalate (classes.map fun name => classPrefix ++ name))]) ++
  (if styles.isEmpty then []
    else [("style", "; ".intercalate (styles.map fun style => style.declaration classPrefix))])

mutual

/-- The tree that a figure is drawn as. -/
def drawn (classPrefix : String) : Figure → Node
  | ⟨shape, classes, text, styles, children⟩ =>
    let attributes := drawnAttributes classPrefix classes styles
    let below := drawnAll classPrefix children
    let content := textNodes (text.getD "") ++ below
    match shape with
    | .block => .element "div" attributes content
    | .inline => .element "span" attributes content
    | .list => .element "ul" attributes content
    | .listItem => .element "li" attributes content
    | .glyph sign => .element "span" attributes (textNodes sign)
    | .icon reference => .element "span" [("class", "iconify"), ("data-icon", reference)] []
    | .wedge w =>
      .empty "path" (attributes ++ [("d", " ".intercalate w.outline), ("fill", w.fill)])
    | .chart box =>
      .element "svg"
        ([("xmlns", "http://www.w3.org/2000/svg"),
          ("viewBox", " ".intercalate (box.numbers.map floatText))] ++ attributes) below

/-- The trees that figures are drawn as. -/
def drawnAll (classPrefix : String) : List Figure → List Node
  | [] => []
  | f :: fs => drawn classPrefix f :: drawnAll classPrefix fs

end

mutual

/-- The signs that a figure draws need no escaping. -/
def PlainSigns : Figure → Prop
  | ⟨shape, _, _, _, children⟩ =>
    match shape with
    | .glyph sign => Plain sign
    | .icon _ => True
    | .wedge _ => True
    | _ => PlainSignsAll children

/-- The signs that figures draw need no escaping. -/
def PlainSignsAll : List Figure → Prop
  | [] => True
  | f :: fs => PlainSigns f ∧ PlainSignsAll fs

end

/-! ## Reading rows -/

/-- The text of a text's tree. -/
lemma tokensOf_textNodes (s : String) : Node.tokensOf (textNodes s) = textTokens s := by
  rw [textNodes, textTokens]
  split <;> rfl

/-- The markup of rows, without indentation and line ends. -/
def compact (rows : List Row) : String := String.join (rows.map (·.tag.write))

lemma intercalate_empty (ts : List String) : "".intercalate ts = String.join ts := by
  induction ts with
  | nil => rw [String.intercalate_nil, String.join_nil]
  | cons t ts ih =>
    cases ts with
    | nil =>
      rw [String.intercalate_singleton, String.join_cons, String.join_nil, String.append_empty]
    | cons u us =>
      rw [String.intercalate_cons_cons, ih, String.append_empty, ← String.join_cons]

lemma writeRows_false (rows : List Row) : writeRows false rows = compact rows := by
  have hwrite : Row.write false = fun r : Row => r.tag.write := by
    funext r
    exact String.empty_append
  rw [writeRows, lineEnd, if_neg Bool.false_ne_true, intercalate_empty, hwrite]
  rfl

/-- Whether rows have the given tokens: each row has its own ones wherever it stands between
tags. -/
def RowsScan (rows : List Row) (tokens : List Token) : Prop :=
  ∃ parts, List.Forall₂ (fun row part => Scans row.tag.write part) rows parts ∧
    parts.flatten = tokens

section RowsScan

variable {rows rows' : List Row} {tokens tokens' : List Token}

lemma rowsScan_nil : RowsScan [] [] := ⟨[], .nil, rfl⟩

lemma rowsScan_singleton {row : Row} (h : Scans row.tag.write tokens) : RowsScan [row] tokens :=
  ⟨[tokens], .cons h .nil, List.append_nil tokens⟩

lemma RowsScan.append (h : RowsScan rows tokens) (h' : RowsScan rows' tokens') :
    RowsScan (rows ++ rows') (tokens ++ tokens') := by
  obtain ⟨parts, hparts, rfl⟩ := h
  obtain ⟨parts', hparts', rfl⟩ := h'
  exact ⟨parts ++ parts', List.rel_append hparts hparts', List.flatten_append⟩

/-- Rows one after another have the tokens of all of them. -/
lemma RowsScan.scans_compact (h : RowsScan rows tokens) : Scans (compact rows) tokens := by
  obtain ⟨parts, hparts, rfl⟩ := h
  induction hparts with
  | nil => exact scans_nil
  | cons hrow _ ih =>
    rw [compact, List.map_cons, String.join_cons, List.flatten_cons]
    exact hrow.append ih

end RowsScan

section Elements

variable {name inner text : String} {as : List Attribute} {read : List (String × String)}
  {below : List Row} {content : List Node}

/-- An element is read with what is inside it. -/
lemma rowsScan_open (depth : Nat) (hname : isName name = true)
    (has : List.Forall₂ Attribute.StandsFor as read) (hinner : Encodes inner text)
    (hbelow : RowsScan below (Node.tokensOf content)) :
    RowsScan (⟨depth, .opening name as inner⟩ :: below ++ [⟨depth, .closing name⟩])
      (Node.element name read (textNodes text ++ content)).tokens := by
  have hopening : RowsScan [⟨depth, .opening name as inner⟩]
      (.start name read :: textTokens text) :=
    rowsScan_singleton (scans_opening hname has hinner)
  have hclosing : RowsScan [⟨depth, .closing name⟩] [.stop name] :=
    rowsScan_singleton (scans_closing hname)
  have hrows := (hopening.append hbelow).append hclosing
  rw [Node.tokens, Node.tokensOf_append, tokensOf_textNodes]
  rwa [List.cons_append, List.cons_append] at hrows

/-- So is an element on one row. -/
lemma rowsScan_whole (depth : Nat) (hname : isName name = true)
    (has : List.Forall₂ Attribute.StandsFor as read) (hinner : Encodes inner text) :
    RowsScan [⟨depth, .whole name as inner⟩]
      (Node.element name read (textNodes text)).tokens := by
  have hscans := (scans_opening hname has hinner).append (scans_closing hname)
  apply rowsScan_singleton
  rw [Node.tokens, tokensOf_textNodes, Tag.write]
  rwa [← String.append_assoc, ← String.append_assoc, List.cons_append] at hscans

/-- An element is read whether or not there is something inside it. -/
lemma rowsScan_element (depth : Nat) (hname : isName name = true)
    (has : List.Forall₂ Attribute.StandsFor as read) (hinner : Encodes inner text)
    (hbelow : RowsScan below (Node.tokensOf content)) :
    RowsScan (element depth name as inner below)
      (Node.element name read (textNodes text ++ content)).tokens := by
  cases below with
  | cons row rows => exact rowsScan_open depth hname has hinner hbelow
  | nil =>
    -- without rows there are no tokens, so nothing is inside the element
    have hnone : Node.tokensOf content = [] := by
      obtain ⟨parts, hparts, hflat⟩ := hbelow
      rw [List.forall₂_nil_left_iff.mp hparts] at hflat
      exact hflat.symm
    have hwhole := rowsScan_whole depth hname has hinner
    rw [Node.tokens] at hwhole ⊢
    rwa [Node.tokensOf_append, hnone, List.append_nil]

end Elements

/-! ## Reading figures -/

lemma standsFor_escape {name : String} (hname : isName name = true) (value : String) :
    Attribute.StandsFor ⟨name, escape value⟩ (name, value) :=
  ⟨rfl, hname, encodes_escape value⟩

lemma standsFor_plain {name value : String} (hname : isName name = true) (hvalue : Plain value) :
    Attribute.StandsFor ⟨name, value⟩ (name, value) :=
  ⟨rfl, hname, hvalue.encodes⟩

/-- The attributes that all kinds of figures have are read. -/
lemma standsFor_attributes (classPrefix : String) (classes : List String) (styles : List Style) :
    List.Forall₂ Attribute.StandsFor
      (classAttribute classPrefix classes ++ styleAttribute classPrefix styles)
      (drawnAttributes classPrefix classes styles) := by
  refine List.rel_append ?_ ?_
  · cases classes with
    | nil => exact List.Forall₂.nil
    | cons name names => exact List.Forall₂.cons (standsFor_escape rfl _) List.Forall₂.nil
  · have hwrite : writeStyle classPrefix = Style.declaration classPrefix :=
      funext (writeStyle_eq classPrefix)
    rw [styleAttribute, hwrite]
    cases styles with
    | nil => exact List.Forall₂.nil
    | cons style styles => exact List.Forall₂.cons (standsFor_escape rfl _) List.Forall₂.nil

mutual

/-- The rows of a figure are read as its tree.

**Proof sketch.** Recursion over the figure. Every kind of figure is one element, with the rows of
what is inside it between its tags if they are drawn at all. -/
lemma rowsScan_tagRows (classPrefix : String) (depth : Nat) (f : Figure) (h : f.PlainSigns) :
    RowsScan (f.tagRows classPrefix depth) (f.drawn classPrefix).tokens := by
  match f with
  | ⟨shape, classes, text, styles, children⟩ =>
    have hattributes := standsFor_attributes classPrefix classes styles
    have htext := encodes_escape (text.getD "")
    cases shape with
    | block =>
      exact rowsScan_element depth rfl hattributes htext (rowsScan_tagRowsAll _ _ children h)
    | inline =>
      exact rowsScan_element depth rfl hattributes htext (rowsScan_tagRowsAll _ _ children h)
    | list =>
      exact rowsScan_element depth rfl hattributes htext (rowsScan_tagRowsAll _ _ children h)
    | listItem =>
      exact rowsScan_element depth rfl hattributes htext (rowsScan_tagRowsAll _ _ children h)
    | glyph sign =>
      have hsign : Plain sign := h
      exact rowsScan_whole depth rfl hattributes hsign.encodes
    | icon reference =>
      have hclass : Attribute.StandsFor ⟨"class", "iconify"⟩ ("class", "iconify") :=
        standsFor_plain rfl (plain_of_all rfl)
      have hicon : Attribute.StandsFor ⟨"data-icon", escape reference⟩ ("data-icon", reference) :=
        standsFor_escape rfl reference
      have hinner : Encodes "" "" := Plain.encodes (plain_of_all rfl)
      exact rowsScan_whole depth rfl (.cons hclass (.cons hicon .nil)) hinner
    | wedge w =>
      have hpath : Attribute.StandsFor ⟨"d", w.path⟩ ("d", " ".intercalate w.outline) := by
        rw [← w.path_eq]
        exact standsFor_plain rfl (plain_path w)
      have hfill : Attribute.StandsFor ⟨"fill", escape w.fill⟩ ("fill", w.fill) :=
        standsFor_escape rfl w.fill
      have hall := List.rel_append hattributes (.cons hpath (.cons hfill .nil))
      exact rowsScan_singleton (scans_empty rfl hall)
    | chart box =>
      have hspace : Attribute.StandsFor ⟨"xmlns", "http://www.w3.org/2000/svg"⟩
          ("xmlns", "http://www.w3.org/2000/svg") := standsFor_plain rfl (plain_of_all rfl)
      have hbox : Attribute.StandsFor ⟨"viewBox", writeBox box⟩
          ("viewBox", " ".intercalate (box.numbers.map floatText)) := by
        rw [← writeBox_eq]
        exact standsFor_plain rfl (plain_writeBox box)
      have hall := List.rel_append (.cons hspace (.cons hbox .nil)) hattributes
      have hinner : Encodes "" "" := Plain.encodes (plain_of_all rfl)
      exact rowsScan_open depth rfl hall hinner (rowsScan_tagRowsAll _ _ children h)

/-- The rows of figures are read as their trees. -/
lemma rowsScan_tagRowsAll (classPrefix : String) (depth : Nat) (fs : List Figure)
    (h : PlainSignsAll fs) :
    RowsScan (tagRowsAll classPrefix depth fs) (Node.tokensOf (drawnAll classPrefix fs)) := by
  match fs with
  | [] => exact rowsScan_nil
  | f :: fs =>
    have hfirst := rowsScan_tagRows classPrefix depth f h.1
    have hlater := rowsScan_tagRowsAll classPrefix depth fs h.2
    rw [tagRowsAll, drawnAll, Node.tokensOf]
    exact hfirst.append hlater

end

/-- The compact markup of a figure is that of its rows. -/
lemma page_eq_compact (f : Figure) (classPrefix : String) :
    f.page { standalone := false, pretty := false, classPrefix } =
      compact (f.tagRows classPrefix 0) := by
  have hrows : tagRowsAll classPrefix 0 [f] = f.tagRows classPrefix 0 := List.append_nil _
  rw [page, pageOfAll, if_neg Bool.false_ne_true, if_neg Bool.false_ne_true, writeRows_false, hrows]

/-- The rows of a figure are read as its tree and nothing else. -/
lemma readMarkup_compact (f : Figure) (classPrefix : String) (h : f.PlainSigns) :
    readMarkup (compact (f.tagRows classPrefix 0)) = some [f.drawn classPrefix] := by
  have htokens : (f.drawn classPrefix).tokens = Node.tokensOf [f.drawn classPrefix] :=
    (List.append_nil _).symm
  rw [readMarkup, (rowsScan_tagRows classPrefix 0 f h).scans_compact.scan_eq, Option.bind_some,
    htokens, build_tokensOf]

/-- **A figure is read back from its markup.** The compact markup of a figure whose signs need no
escaping is read as one tree, the one that the figure is drawn as.

**Proof sketch.** The markup is that of the figure's rows, which have the tokens of the tree
wherever they stand (`rowsScan_tagRows`), and the tree is built from its tokens
(`build_tokensOf`). -/
theorem readMarkup_page (f : Figure) (classPrefix : String) (h : f.PlainSigns) :
    readMarkup (f.page { standalone := false, pretty := false, classPrefix }) =
      some [f.drawn classPrefix] := by
  rw [page_eq_compact, readMarkup_compact f classPrefix h]

/-- A row of an item that has a style of each kind and a text of all characters with an entity, an
arrow, an icon, and a surface with a slice of one radian. -/
theorem readMarkup_page_row :
    let item : Figure :=
      { classes := ["item", "wide"], text := some "&<b>\"'"
        styles := [⟨"width", .percent 12.5⟩, ⟨"--level", .index 20⟩, ⟨"color", .color "a; <b>"⟩] }
    let slice : Figure :=
      { shape := .wedge ⟨⟨0, 1⟩, "\"red\""⟩, classes := ["pie-slice"] }
    let surface : Figure :=
      { shape := .chart ⟨-1, -1, 2, 2.5⟩, classes := ["pie-svg"], children := [slice] }
    let row := block "row" [item, sign "arrow" "→", { shape := .icon "mdi:<home>" }, surface]
    row.PlainSigns ∧
      readMarkup (row.page { standalone := false, pretty := false, classPrefix := "ig-" }) =
        some [.element "div" [("class", "ig-row")]
          [.element "div"
              [("class", "ig-item ig-wide"),
                ("style", "width: 12.5%; --ig-level: 20; color: a; <b>")]
              [.text "&<b>\"'"],
            .element "span" [("class", "ig-arrow")] [.text "→"],
            .element "span" [("class", "iconify"), ("data-icon", "mdi:<home>")] [],
            .element "svg"
              [("xmlns", "http://www.w3.org/2000/svg"), ("viewBox", "-1 -1 2 2.5"),
                ("class", "ig-pie-svg")]
              [.empty "path"
                [("class", "ig-pie-slice"),
                  ("d", " ".intercalate
                    ["M", "0", "0", "L", floatText (Float.cos 0), floatText (Float.sin 0),
                      "A", "1", "1", "0", "0", "1", floatText (Float.cos 1),
                      floatText (Float.sin 1), "Z"]),
                  ("fill", "\"red\"")]]]] := by
  intro item slice surface row
  have hsigns : row.PlainSigns := by
    refine ⟨trivial, ?_, trivial, ⟨trivial, trivial⟩, trivial⟩
    exact plain_of_all rfl
  refine ⟨hsigns, (readMarkup_page row "ig-" hsigns).trans ?_⟩
  have hstyles : drawnAttributes "ig-" item.classes item.styles =
      [("class", "ig-item ig-wide"), ("style", "width: 12.5%; --ig-level: 20; color: a; <b>")] := by
    decide +kernel
  have hnumbers : [(-1 : Float), -1, 2, 2.5].map floatText = ["-1", "-1", "2", "2.5"] := by
    decide +kernel
  have houtline : Wedge.outline ⟨⟨0, 1⟩, "\"red\""⟩ =
      ["M", "0", "0", "L", floatText (Float.cos 0), floatText (Float.sin 0),
        "A", "1", "1", "0", "0", "1", floatText (Float.cos 1), floatText (Float.sin 1), "Z"] := by
    have hturn : ¬ 2 * halfTurn - fullTurnSlack ≤ 1 := by decide +kernel
    have hlong : ¬ halfTurn < 1 := by decide +kernel
    have hfinish : (0 : Float) + 1 = 1 := by decide +kernel
    rw [Wedge.outline, if_neg hturn, if_neg hlong, hfinish]
    rfl
  have hdrawn : row.drawn "ig-" =
      .element "div" [("class", "ig-row")]
        [.element "div" (drawnAttributes "ig-" item.classes item.styles) [.text "&<b>\"'"],
          .element "span" [("class", "ig-arrow")] [.text "→"],
          .element "span" [("class", "iconify"), ("data-icon", "mdi:<home>")] [],
          .element "svg"
            [("xmlns", "http://www.w3.org/2000/svg"),
              ("viewBox", " ".intercalate ([(-1 : Float), -1, 2, 2.5].map floatText)),
              ("class", "ig-pie-svg")]
            [.empty "path"
              [("class", "ig-pie-slice"),
                ("d", " ".intercalate (Wedge.outline ⟨⟨0, 1⟩, "\"red\""⟩)),
                ("fill", "\"red\"")]]] :=
    rfl
  rw [hdrawn, hstyles, hnumbers, houtline]
  rfl

end Figure

end Placard
