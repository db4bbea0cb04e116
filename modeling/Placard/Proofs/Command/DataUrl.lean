import Placard.Proofs.Command.Outcome
import Placard.Proofs.Markup.Base64

set_option relaxedAutoImplicit false
set_option autoImplicit false

/-!
# Documents in data URLs

A command with the flag for a data URL draws what it draws without, and shows a URL in place of the
markup. What stands in the URL behind its comma is the markup byte for byte, in base 64.

## Main definitions

* `Placard.Base64.Carries`: letters that stand for the bytes of a text.

## Main results

* `Placard.Base64.carries_encode`: base 64 carries every text.
* `Placard.dataUrl_carries_markup`: a data URL carries what is shown without it.
-/

namespace Placard

/-- Whether letters carry a text: they stand for its bytes in base 64, padded. -/
structure Base64.Carries (payload : List Char) (text : String) : Prop where
  /-- They stand for the bytes of the text in UTF-8. -/
  decode : decode? payload = some text.toUTF8.toList
  /-- There are four for each three bytes begun. -/
  length : payload.length = 4 * (text.utf8ByteSize ⌈/⌉ 3)
  /-- All of them are letters of the alphabet, or padding. -/
  letters : ∀ c ∈ payload, (value? c).isSome = true ∨ c = padding

/-- **Base 64 carries every text.** -/
theorem Base64.carries_encode (text : String) : Carries (encode text.toUTF8.toList) text where
  decode := decode?_encode _
  length := by rw [length_encode, length_toUTF8_toList]
  letters _ := isLetter_of_mem_encode

lemma dataUrl_html (text : String) : dataUrl text "text/html" =
    "data:text/html;base64," ++ String.ofList (Base64.encode text.toUTF8.toList) := by
  have hfront : "data:" ++ "text/html" ++ ";base64," = "data:text/html;base64," := by
    decide +kernel
  rw [dataUrl, hfront]

namespace Invocation

section Urls

variable {i i' : Invocation} {env : Environment} {sheet : Stylesheet} {source : String}
  {d : Document}

/-- How a document is drawn does not depend on whether it is shown as a URL. -/
lemma Adds.renderOptions (h : i.Adds .dataUrl i') (sheet : Stylesheet) :
    i'.renderOptions sheet = i.renderOptions sheet := by
  rw [Invocation.renderOptions, Invocation.renderOptions, h.theme, h.scheme,
    h.has_eq (g := .animations) nofun, h.has_eq (g := .fragment) nofun]

/-- Without a data URL the markup is shown. -/
lemma run_of_not_dataUrl (h : i.ReadsDocument) (hlint : i.has .lint = false)
    (hurl : i.has .dataUrl = false) (hsheet : i.LoadsStylesheet env sheet)
    (hsource : i.ReadsSource env source) (hparse : Placard.parse source = .ok d) :
    i.run env = { code := 0, stdout := d.render (i.renderOptions sheet) ++ "\n" } := by
  rw [run_of_parse h hsheet hsource hparse, answer_of_not_lint hlint, answerMarkup, hurl,
    if_neg Bool.false_ne_true]

/-- With it a URL is shown for the same markup. -/
lemma run_of_adds_dataUrl (h : i.ReadsDocument) (hlint : i.has .lint = false)
    (hadds : i.Adds .dataUrl i') (hsheet : i.LoadsStylesheet env sheet)
    (hsource : i.ReadsSource env source) (hparse : Placard.parse source = .ok d) :
    i'.run env =
      { code := 0, stdout := dataUrl (d.render (i.renderOptions sheet)) "text/html" ++ "\n" } := by
  have hload : i'.loadDocument env = .ok (sheet, d) := by
    rw [loadDocument_congr hadds.input hadds.stylesheet]
    exact loadDocument_eq_ok_iff.mpr ⟨source, hsheet, hsource, hparse⟩
  have hlint' : i'.has .lint = false := (hadds.has_eq (g := .lint) nofun).trans hlint
  have hurl : i'.has .dataUrl = true := by
    rw [hadds.flags, beq_self_eq_true, Bool.or_true]
  rw [run_eq ((hadds.readsDocument nofun nofun).mpr h), hload]
  simp only [answer_of_not_lint hlint', answerMarkup, hurl, hadds.renderOptions, if_true]

end Urls

end Invocation

section Urls

variable {arguments : List String} {i : Invocation}

/-- **A data URL carries exactly the document.** Take an accepted command line that renders, with no
data URL. For every source that parses, and a stylesheet that can be loaded, it shows some markup
and a line feed. With the flag for a data URL in addition, which can be put in front, it shows a URL
and a line feed: the letters in it carry this markup byte for byte. A data URL tells its text, and
its letters carry it, whatever the text is.

**Proof sketch.** The flag changes neither what is loaded nor how it is drawn
(`Invocation.Adds.renderOptions`), and decoding undoes encoding (`Base64.decode?_encode`). -/
theorem dataUrl_carries_markup (h : Invocation.parse arguments = .ok i) (hi : i.ReadsDocument)
    (hlint : i.has .lint = false) (hurl : i.has .dataUrl = false) :
    (∃ i', Invocation.parse ("--data-url" :: arguments) = .ok i' ∧ i.Adds .dataUrl i') ∧
    (∀ env sheet source d, i.LoadsStylesheet env sheet → i.ReadsSource env source →
      parse source = .ok d → ∃ markup : String,
        Command.run arguments env = { code := 0, stdout := markup ++ "\n" } ∧
        ∀ arguments' i', Invocation.parse arguments' = .ok i' → i.Adds .dataUrl i' →
          ∃ payload, Base64.Carries payload markup ∧
            Command.run arguments' env =
              { code := 0
                stdout := "data:text/html;base64," ++ String.ofList payload ++ "\n" }) ∧
    (∀ text, ∃ payload, Base64.Carries payload text ∧
      dataUrl text "text/html" = "data:text/html;base64," ++ String.ofList payload) ∧
    ∀ text text' mediaType mediaType', dataUrl text mediaType = dataUrl text' mediaType' →
      text = text' ∧ mediaType = mediaType' := by
  refine ⟨?_, ?_, fun text => ⟨_, Base64.carries_encode text, dataUrl_html text⟩,
    fun _ _ _ _ => dataUrl_injective⟩
  · have hlacks : Flag.dataUrl ∉ i.flags := fun hmem => by
      rw [Invocation.has_iff.mpr hmem] at hurl
      cases hurl
    exact ⟨_, Invocation.parse_flag_cons h hurl, Invocation.adds_withFlag hlacks⟩
  · intro env sheet source d hsheet hsource hparse
    refine ⟨d.render (i.renderOptions sheet), ?_, fun arguments' i' h' hadds => ?_⟩
    · rw [Command.run_of_parse h, Invocation.run_of_not_dataUrl hi hlint hurl hsheet hsource hparse]
    · refine ⟨_, Base64.carries_encode _, ?_⟩
      rw [Command.run_of_parse h',
        Invocation.run_of_adds_dataUrl hi hlint hadds hsheet hsource hparse, dataUrl_html]

/-- A data URL carries what is shown for the source on the standard input. -/
theorem dataUrl_carries_markup_odd : ∃ markup payload, Base64.Carries payload markup ∧
    Command.run [] oddEnvironment = { code := 0, stdout := markup ++ "\n" } ∧
    Command.run ["--data-url"] oddEnvironment =
      { code := 0, stdout := "data:text/html;base64," ++ String.ofList payload ++ "\n" } := by
  have hnone : Invocation.parse [] = .ok {} := by rw [Invocation.parse, Invocation.addArguments]
  obtain ⟨⟨i', h', hadds⟩, hruns, -⟩ := dataUrl_carries_markup hnone ⟨rfl, rfl⟩ rfl rfl
  have hsound : (parse oddSource).toOption.isSome = true := by decide +kernel
  cases hparse : parse oddSource with
  | error e =>
    rw [hparse] at hsound
    cases hsound
  | ok d =>
    obtain ⟨markup, hmarkup, hurls⟩ := hruns oddEnvironment .builtin oddSource d rfl rfl hparse
    obtain ⟨payload, hcarries, hurl⟩ := hurls _ _ h' hadds
    exact ⟨markup, payload, hcarries, hmarkup, hurl⟩

end Urls

end Placard
