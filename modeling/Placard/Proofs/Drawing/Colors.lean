import Placard.Drawing.Board
import Placard.Proofs.Stylesheet.Lookup

set_option relaxedAutoImplicit false
set_option autoImplicit false

/-!
# The colors of a drawing

The box around a drawing carries the colors of one palette and, as a class name, the name of the
color scheme that was asked for. The two are looked up apart from each other, in a stylesheet from
which any color scheme may be missing. This file states the choice of a color scheme as rules, and
shows that what the box carries always follows them.

## Main definitions

* `Placard.ColorChoice`: the rules by which a color scheme is chosen, and the name it is given.
* `Placard.Figure.CarriesPalette`: a figure has the colors of a palette as its style properties.

## Main results

* `Placard.ColorChoice.unique`: the rules choose one color scheme at most.
* `Placard.Document.colorChoice_schemeName`: the drawing of a document follows the rules.
* `Placard.Document.draw_resolves_colors`: so it does with every stylesheet that is made from the
  built-in one by overrides and removals.
-/

namespace Placard

/-- The rules by which a drawing comes to its color scheme, and to the name in its class. `find`
says what names stand for, `theme` is the scheme that the document asks for, and `choice` the one
that the reader does. -/
inductive ColorChoice (find : String → Option Scheme) (theme : Option String)
    (choice : BuiltinScheme) : String → Scheme → Prop
  /-- The document asks for a scheme that there is. -/
  | theme {name : String} {scheme : Scheme} (asked : theme = some name)
      (found : find name = some scheme) : ColorChoice find theme choice name scheme
  /-- It does not, and there is the reader's scheme. -/
  | choice {scheme : Scheme} (noTheme : ∀ name ∈ theme, find name = none)
      (found : find choice.name = some scheme) :
      ColorChoice find theme choice choice.name scheme
  /-- There is neither, but the scheme `default`. -/
  | fallback {scheme : Scheme} (noTheme : ∀ name ∈ theme, find name = none)
      (noChoice : find choice.name = none)
      (found : find BuiltinScheme.standard.name = some scheme) :
      ColorChoice find theme choice choice.name scheme
  /-- There is none of them. What counts then is what `default` stands for in the built-in
  stylesheet, whatever it stood for in between. -/
  | original {scheme : Scheme} (noTheme : ∀ name ∈ theme, find name = none)
      (noChoice : find choice.name = none)
      (noFallback : find BuiltinScheme.standard.name = none)
      (found : Stylesheet.builtin.scheme? BuiltinScheme.standard.name = some scheme) :
      ColorChoice find theme choice choice.name scheme

/-- Whether a figure has the colors of a palette as its style properties, one for each role, in the
order of the roles, and no other. -/
structure Figure.CarriesPalette (f : Figure) (p : Palette) : Prop where
  /-- The names of the style properties, each once. -/
  names : f.styles.map (·.name) =
    ["--bg", "--surface", "--border", "--text", "--text-muted", "--accent", "--accent-light",
      "--success", "--warning", "--error", "--info"]
  /-- Each has the color of its role. -/
  color : ∀ role : Role, f.style? ("--" ++ role.name) = some (.color (p.color role))

section ColorChoice

variable {find : String → Option Scheme} {theme : Option String} {choice : BuiltinScheme}
  {name name' : String} {scheme scheme' : Scheme}

/-- **The rules choose one color scheme at most**, and one name for it. -/
theorem ColorChoice.unique (h : ColorChoice find theme choice name scheme)
    (h' : ColorChoice find theme choice name' scheme') : name' = name ∧ scheme' = scheme := by
  cases h <;> cases h' <;> simp_all

end ColorChoice

namespace Document

variable (d : Document) (options : DrawOptions) (sheet : Stylesheet)

/-- **The name and the palette of a drawing are those of one choice**, though they are looked up
apart from each other. -/
theorem colorChoice_schemeName :
    ∃ scheme, ColorChoice sheet.scheme? d.theme options.scheme (d.schemeName options sheet) scheme ∧
      ∀ mode, sheet.palette (d.schemeName options sheet) mode = scheme.palette mode := by
  by_cases htheme : ∃ name scheme, d.theme = some name ∧ sheet.scheme? name = some scheme
  · obtain ⟨name, scheme, hasked, hfound⟩ := htheme
    have hname : d.schemeName options sheet = name := by
      simp [schemeName, hasked, Stylesheet.hasScheme, hfound]
    rw [hname]
    exact ⟨scheme, .theme hasked hfound, fun mode => by simp [Stylesheet.palette, hfound]⟩
  · have hno : ∀ name ∈ d.theme, sheet.scheme? name = none := by
      intro name hname
      rw [Option.eq_none_iff_forall_ne_some]
      exact fun scheme hfound => htheme ⟨name, scheme, hname, hfound⟩
    have hname : d.schemeName options sheet = options.scheme.name := by
      rw [schemeName]
      cases hasked : d.theme with
      | none => rfl
      | some name => simp [Stylesheet.hasScheme, hno name hasked]
    rw [hname]
    -- the palette goes through the names that are left
    cases hchoice : sheet.scheme? options.scheme.name with
    | some scheme =>
      exact ⟨scheme, .choice hno hchoice, fun mode => by simp [Stylesheet.palette, hchoice]⟩
    | none =>
      cases hfallback : sheet.scheme? BuiltinScheme.standard.name with
      | some scheme =>
        exact ⟨scheme, .fallback hno hchoice hfallback,
          fun mode => by simp [Stylesheet.palette, hchoice, hfallback]⟩
      | none =>
        exact ⟨Scheme.standard, .original hno hchoice hfallback rfl,
          fun mode => by simp [Stylesheet.palette, hchoice, hfallback]⟩

/-- The box around a drawing carries the palette that is looked up. -/
lemma carriesPalette_draw :
    (d.draw options sheet).CarriesPalette
      (sheet.palette (d.schemeName options sheet) options.mode) := by
  refine ⟨rfl, fun role => ?_⟩
  cases role <;> rfl

/-- **The colors of a drawing, whatever has become of the stylesheet.** Take the built-in stylesheet
with any overrides laid over it and any color schemes removed then. A name stands for what the
overrides say, or else for what it stands for in the built-in stylesheet, unless it is removed.
Name, description and the colors of pies are those of the overrides where these set them. The box
around a drawing carries the palette of the one color scheme that the rules choose, and the name
that they give it.

**Proof sketch.** The look-ups are followed through the overrides and the removals
(`scheme?_eraseAll`, `scheme?_merge`). The box follows the rules with any stylesheet
(`colorChoice_schemeName`), and the rules leave no choice (`ColorChoice.unique`). -/
theorem draw_resolves_colors (changes : Overrides) (removed : List String) (d : Document)
    (options : DrawOptions) :
    let sheet := (Stylesheet.builtin.merge changes).eraseAll removed
    (∀ name, sheet.scheme? name =
      if name ∈ removed then none
      else (changes.schemes.lookup name).or (Stylesheet.builtin.scheme? name)) ∧
    sheet.name = changes.name.or Stylesheet.builtin.name ∧
    sheet.description = changes.description.or Stylesheet.builtin.description ∧
    sheet.pie = changes.pie.getD Stylesheet.builtin.pie ∧
    ∃ name scheme,
      (∀ name' scheme', ColorChoice sheet.scheme? d.theme options.scheme name' scheme' ↔
        name' = name ∧ scheme' = scheme) ∧
      (d.draw options sheet).CarriesPalette
        (match options.mode with
        | .light => scheme.light
        | .dark => scheme.dark) ∧
      (d.draw options sheet).classes =
        ["wrapper", options.mode.name, "scheme-" ++ name]
          ++ if options.animated then ["animated"] else [] := by
  intro sheet
  obtain ⟨schemes, hsheet⟩ :=
    Stylesheet.exists_eraseAll_eq (Stylesheet.builtin.merge changes) removed
  obtain ⟨scheme, hchosen, hpalette⟩ := d.colorChoice_schemeName options sheet
  refine ⟨fun name => ?_, ?_, ?_, ?_, d.schemeName options sheet, scheme,
    fun name' scheme' => ?_, ?_, rfl⟩
  · rw [Stylesheet.scheme?_eraseAll, Stylesheet.scheme?_merge]
  · exact congrArg Stylesheet.name hsheet
  · exact congrArg Stylesheet.description hsheet
  · exact congrArg Stylesheet.pie hsheet
  · constructor
    · exact hchosen.unique
    · rintro ⟨rfl, rfl⟩
      exact hchosen
  · have hmode : scheme.palette options.mode = match options.mode with
        | .light => scheme.light
        | .dark => scheme.dark := by
      cases options.mode <;> rfl
    rw [← hmode, ← hpalette]
    exact d.carriesPalette_draw options sheet

end Document

end Placard
