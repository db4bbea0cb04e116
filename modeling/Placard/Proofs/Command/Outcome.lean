import Placard.Command.Run
import Placard.Proofs.Command.Flags
import Placard.Proofs.Document.Coverage
import Placard.Proofs.Lint.Lines

set_option relaxedAutoImplicit false
set_option autoImplicit false

/-!
# The outcome of a command

A command that reads a document needs a stylesheet, a source and a header, in this order. The first
one that it does not get ends it with a report and the exit code 1. Which that is does not depend on
the flags, so lint fails where rendering does. With a document in hand a command succeeds, but for
lint, which has an exit code of its own for findings.

## Main definitions

* `Placard.Invocation.LoadsStylesheet`, `Placard.Invocation.ReadsSource`: what a command reads.
* `Placard.Invocation.loadDocument`: the stylesheet and the document of a command.
* `Placard.Invocation.Answers`: the exit code of a command, with its reports and findings.
* `Placard.Invocation.ReadsAlike`: two commands read the same, as far as lint looks at it.

## Main results

* `Placard.Invocation.run_eq`: a command fails or answers about its document.
* `Placard.Invocation.run_eq_of_readsAlike`: lint depends on the input alone.
* `Placard.command_outcome`: the outcomes of an accepted command line.
-/

namespace Placard

namespace Invocation

/-! ## What a command reads -/

/-- Whether a command reads a document, and shows no part of the manual in place of it. -/
def ReadsDocument (i : Invocation) : Prop := i.has .grammar = false ∧ i.has .templates = false

/-- The bytes that a command takes for its input. -/
def inputBytes (i : Invocation) (env : Environment) : Except ReadError ByteArray :=
  match i.input with
  | some name => env.file name
  | none => .ok env.stdin

/-- Whether a command reads a source: its input is the source in UTF-8. -/
def ReadsSource (i : Invocation) (env : Environment) (source : String) : Prop :=
  i.inputBytes env = .ok source.toUTF8

/-- Whether a command has a stylesheet: the one that the text of its file stands for, or the one
built in if no file is named. -/
def LoadsStylesheet (i : Invocation) (env : Environment) (sheet : Stylesheet) : Prop :=
  match i.stylesheet with
  | none => sheet = Stylesheet.builtin
  | some name => ∃ text : String, env.file name = .ok text.toUTF8 ∧ Stylesheet.read text = .ok sheet

/-- The document of a command, or what is wrong with its input. -/
def readDocument (i : Invocation) (env : Environment) : Except Failure Document := do
  let source ← i.loadSource env
  (Placard.parse source).mapError (.notDocument source i.inputName)

/-- The stylesheet and the document of a command, or what it fails with. -/
def loadDocument (i : Invocation) (env : Environment) : Except Failure (Stylesheet × Document) := do
  let sheet ← i.loadStylesheet env
  let d ← i.readDocument env
  .ok (sheet, d)

/-- The answer of a command about its document. -/
def answer (i : Invocation) (sheet : Stylesheet) (d : Document) : Outcome :=
  if i.has .lint then i.answerLint d else i.answerMarkup sheet d

/-- Whether a text says why the stylesheet in a file cannot be loaded. The details of an unsound one
are not fixed. -/
def StylesheetReport (env : Environment) (name report : String) : Prop :=
  (∃ e, env.fileText name = .error e ∧ report =
    "Error loading stylesheet '" ++ name ++ "': Failed to read stylesheet file: " ++ e.message
      ++ "\n") ∨
  ∃ text e detail, env.fileText name = .ok text ∧ Stylesheet.read text = .error e ∧ report =
    "Error loading stylesheet '" ++ name ++ "': Failed to parse stylesheet TOML: " ++ detail

/-- What a command says in front of the reason why it cannot read its input. -/
def inputComplaint (i : Invocation) : String :=
  match i.input with
  | some name => "Error reading file '" ++ name ++ "': "
  | none => "Error reading from stdin: "

/-- **The outcome of a command that reads a document.** -/
structure Answers (i : Invocation) (env : Environment) (o : Outcome) : Prop where
  /-- It fails iff it has no stylesheet, or no source, or a source with no header. -/
  fails_iff : o.code = 1 ↔ (∀ sheet, ¬ i.LoadsStylesheet env sheet) ∨
    (∀ source, ¬ i.ReadsSource env source) ∨
    ∃ source, i.ReadsSource env source ∧ headed? source = none
  /-- It shows nothing then. -/
  silent : o.code = 1 → o.stdout = ""
  /-- A stylesheet that cannot be loaded is what the report is about, whatever the input is. -/
  reports_stylesheet : (∀ sheet, ¬ i.LoadsStylesheet env sheet) →
    ∃ name, i.stylesheet = some name ∧ StylesheetReport env name o.stderr
  /-- Else it is an input that cannot be read. -/
  reports_input : (∃ sheet, i.LoadsStylesheet env sheet) → (∀ source, ¬ i.ReadsSource env source) →
    ∃ e, (i.inputBytes env).bind decodeText = .error e ∧
      o.stderr = i.inputComplaint ++ e.message ++ "\n"
  /-- Else it is the header. -/
  reports_header : ∀ sheet source e, i.LoadsStylesheet env sheet → i.ReadsSource env source →
    Placard.parse source = .error e → o.stderr = e.report source i.inputName
  /-- Without lint a document is shown. -/
  renders : ∀ sheet source d, i.LoadsStylesheet env sheet → i.ReadsSource env source →
    Placard.parse source = .ok d → i.has .lint = false → o.code = 0
  /-- Lint says that there are no findings. -/
  passes : ∀ sheet source d, i.LoadsStylesheet env sheet → i.ReadsSource env source →
    Placard.parse source = .ok d → i.has .lint = true → d.lint = [] →
      o.code = 0 ∧ o.stdout = i.inputName ++ ": no issues found\n"
  /-- Or it shows them in their order, on a line each. -/
  finds : ∀ sheet source d, i.LoadsStylesheet env sheet → i.ReadsSource env source →
    Placard.parse source = .ok d → i.has .lint = true → d.lint ≠ [] →
      o.code = 2 ∧ (∀ f ∈ d.lint, OnLine f.display) ∧
        o.stdout = String.join (d.lint.map fun f => i.inputName ++ ": " ++ f.display ++ "\n")

/-- Whether two commands read the same, as far as lint looks at it: the same input, and stylesheets
that can be loaded, or else the same file as a stylesheet. -/
structure ReadsAlike (i : Invocation) (env : Environment) (i' : Invocation) (env' : Environment) :
    Prop where
  /-- The input file is the same, if there is one. -/
  input : i'.input = i.input
  /-- So are the bytes of the input. -/
  bytes : i'.inputBytes env' = i.inputBytes env
  /-- The stylesheets can be loaded, or they come from the same bytes. -/
  stylesheet : ((∃ sheet, i.LoadsStylesheet env sheet) ∧ ∃ sheet, i'.LoadsStylesheet env' sheet) ∨
    i'.stylesheet = i.stylesheet ∧ ∀ name, i.stylesheet = some name → env'.file name = env.file name

/-! ## Texts and files -/

section Reading

variable {i i' : Invocation} {env env' : Environment} {sheet : Stylesheet} {source text : String}
  {d : Document} {e : ReadError}

lemma bind_eq_error_iff {ε α β : Type} {x : Except ε α} {f : α → Except ε β} {e : ε} :
    (x >>= f) = .error e ↔ x = .error e ∨ ∃ a, x = .ok a ∧ f a = .error e := by
  cases x with
  | error e' =>
    constructor
    · exact fun h => Or.inl (congrArg _ (Except.error.inj h))
    · rintro (h | ⟨_, ha, -⟩)
      · exact congrArg _ (Except.error.inj h)
      · cases ha
  | ok a =>
    constructor
    · exact fun h => Or.inr ⟨a, rfl, h⟩
    · rintro (h | ⟨_, ha, h⟩)
      · cases h
      · exact Except.ok.inj ha ▸ h

lemma mapError_eq_ok_iff {ε ε' α : Type} {x : Except ε α} {f : ε → ε'} {a : α} :
    x.mapError f = .ok a ↔ x = .ok a := by
  cases x with
  | error e => exact iff_of_false nofun nofun
  | ok a' => exact Iff.of_eq (by rw [Except.mapError, Except.ok.injEq, Except.ok.injEq])

lemma mapError_eq_error_iff {ε ε' α : Type} {x : Except ε α} {f : ε → ε'} {e' : ε'} :
    x.mapError f = .error e' ↔ ∃ e, x = .error e ∧ e' = f e := by
  cases x with
  | error e =>
    refine ⟨fun h => ⟨e, rfl, (Except.error.inj h).symm⟩, ?_⟩
    rintro ⟨e, he, rfl⟩
    rw [he]
    rfl
  | ok a => exact iff_of_false nofun (fun ⟨_, h, _⟩ => nomatch h)

/-- Bytes are read as a text iff they are its bytes. -/
lemma decodeText_eq_ok_iff {bytes : ByteArray} :
    decodeText bytes = .ok text ↔ bytes = text.toUTF8 := by
  rw [decodeText, String.fromUTF8?]
  by_cases h : bytes.IsValidUTF8
  · rw [dif_pos h]
    constructor
    · intro htext
      rw [← Except.ok.inj htext]
      rfl
    · rintro rfl
      rfl
  · rw [dif_neg h]
    refine iff_of_false nofun ?_
    rintro rfl
    exact h text.isValidUTF8

lemma fileText_eq_ok_iff {name : String} :
    env.fileText name = .ok text ↔ env.file name = .ok text.toUTF8 := by
  rw [Environment.fileText]
  cases env.file name with
  | error e => exact iff_of_false nofun nofun
  | ok bytes => rw [Except.bind, decodeText_eq_ok_iff, Except.ok.injEq]

lemma loadStylesheet_eq_ok_iff :
    i.loadStylesheet env = .ok sheet ↔ i.LoadsStylesheet env sheet := by
  rw [loadStylesheet, LoadsStylesheet]
  cases i.stylesheet with
  | none => exact ⟨fun h => (Except.ok.inj h).symm, fun h => congrArg _ h.symm⟩
  | some name =>
    simp only [bind_eq_ok_iff, mapError_eq_ok_iff, fileText_eq_ok_iff]

/-- The source of a command is the text of its input bytes. -/
lemma loadSource_eq (i : Invocation) (env : Environment) :
    i.loadSource env = ((i.inputBytes env).bind decodeText).mapError
      (match i.input with | some name => .inputUnread name | none => .stdinUnread) := by
  rw [loadSource, inputBytes]
  cases i.input <;> rfl

lemma loadSource_eq_ok_iff : i.loadSource env = .ok source ↔ i.ReadsSource env source := by
  rw [loadSource_eq, mapError_eq_ok_iff, ReadsSource]
  cases i.inputBytes env with
  | error e => exact iff_of_false nofun nofun
  | ok bytes => rw [Except.bind, decodeText_eq_ok_iff, Except.ok.injEq]

lemma readDocument_eq_ok_iff : i.readDocument env = .ok d ↔
    ∃ source, i.ReadsSource env source ∧ Placard.parse source = .ok d := by
  simp only [readDocument, bind_eq_ok_iff, mapError_eq_ok_iff, loadSource_eq_ok_iff]

lemma loadDocument_eq_ok_iff : i.loadDocument env = .ok (sheet, d) ↔
    ∃ source, i.LoadsStylesheet env sheet ∧ i.ReadsSource env source ∧
      Placard.parse source = .ok d := by
  simp only [loadDocument, bind_eq_ok_iff, loadStylesheet_eq_ok_iff, readDocument_eq_ok_iff,
    Except.ok.injEq, Prod.mk.injEq]
  constructor
  · rintro ⟨_, hsheet, _, ⟨source, hsource, hparse⟩, rfl, rfl⟩
    exact ⟨source, hsheet, hsource, hparse⟩
  · rintro ⟨source, hsheet, hsource, hparse⟩
    exact ⟨_, hsheet, _, ⟨source, hsource, hparse⟩, rfl, rfl⟩

lemma loadDocument_of_loads (h : i.LoadsStylesheet env sheet) :
    i.loadDocument env = (i.readDocument env).map fun d => (sheet, d) := by
  rw [loadDocument, loadStylesheet_eq_ok_iff.mpr h]
  rfl

end Reading

/-! ## Failures -/

section Runs

variable {i i' : Invocation} {env env' : Environment} {sheet : Stylesheet} {source : String}
  {d : Document} {failure : Failure}

lemma headed?_eq_none_iff : headed? source = none ↔ ∃ e, Placard.parse source = .error e := by
  refine ⟨parse_of_not_headed, fun ⟨e, he⟩ => ?_⟩
  cases hheaded : headed? source with
  | none => rfl
  | some found =>
    rw [parse_of_headed? hheaded] at he
    cases he

/-- Without a stylesheet a command fails, and says so. -/
lemma loadDocument_of_not_loads (h : ∀ sheet, ¬ i.LoadsStylesheet env sheet) :
    ∃ failure, i.loadDocument env = .error failure ∧
      ∃ name, i.stylesheet = some name ∧ StylesheetReport env name failure.message := by
  cases hload : i.loadStylesheet env with
  | ok sheet => exact absurd (loadStylesheet_eq_ok_iff.mp hload) (h sheet)
  | error failure =>
    refine ⟨failure, by rw [loadDocument, hload]; rfl, ?_⟩
    rw [loadStylesheet] at hload
    cases hname : i.stylesheet with
    | none =>
      rw [hname] at hload
      cases hload
    | some name =>
      rw [hname] at hload
      obtain hfile | ⟨text, htext, hread⟩ := bind_eq_error_iff.mp hload
      · obtain ⟨e, he, rfl⟩ := mapError_eq_error_iff.mp hfile
        exact ⟨name, rfl, Or.inl ⟨e, he, rfl⟩⟩
      · obtain ⟨e, he, rfl⟩ := mapError_eq_error_iff.mp hread
        refine ⟨name, rfl, Or.inr ⟨text, e, "", mapError_eq_ok_iff.mp htext, he, ?_⟩⟩
        exact String.append_empty.symm

/-- With a stylesheet, but without a source, it says that. -/
lemma loadDocument_of_not_reads (hsheet : i.LoadsStylesheet env sheet)
    (h : ∀ source, ¬ i.ReadsSource env source) :
    ∃ failure, i.loadDocument env = .error failure ∧
      ∃ e, (i.inputBytes env).bind decodeText = .error e ∧
        failure.message = i.inputComplaint ++ e.message ++ "\n" := by
  cases hload : i.loadSource env with
  | ok source => exact absurd (loadSource_eq_ok_iff.mp hload) (h source)
  | error failure =>
    refine ⟨failure, by rw [loadDocument_of_loads hsheet, readDocument, hload]; rfl, ?_⟩
    rw [loadSource_eq] at hload
    obtain ⟨e, he, rfl⟩ := mapError_eq_error_iff.mp hload
    refine ⟨e, he, ?_⟩
    rw [inputComplaint]
    cases i.input <;> rfl

/-- With a source that has no header, it reports where the header should be. -/
lemma loadDocument_of_bad_header {e : HeaderError} (hsheet : i.LoadsStylesheet env sheet)
    (hsource : i.ReadsSource env source) (h : Placard.parse source = .error e) :
    i.loadDocument env = .error (.notDocument source i.inputName e) := by
  have hread : i.readDocument env = .error (.notDocument source i.inputName e) :=
    bind_eq_error_iff.mpr (Or.inr
      ⟨source, loadSource_eq_ok_iff.mpr hsource, mapError_eq_error_iff.mpr ⟨e, h, rfl⟩⟩)
  rw [loadDocument_of_loads hsheet, hread]
  rfl

/-- **What a command needs**: a stylesheet, a source and a header. -/
lemma exists_loadDocument_eq_error_iff :
    (∃ failure, i.loadDocument env = .error failure) ↔
      (∀ sheet, ¬ i.LoadsStylesheet env sheet) ∨ (∀ source, ¬ i.ReadsSource env source) ∨
        ∃ source, i.ReadsSource env source ∧ headed? source = none := by
  constructor
  · rintro ⟨failure, hload⟩
    by_contra hnot
    simp only [not_or, not_forall, not_not, not_exists, not_and] at hnot
    obtain ⟨⟨sheet, hsheet⟩, ⟨source, hsource⟩, hheaded⟩ := hnot
    cases hparse : Placard.parse source with
    | error e => exact hheaded source hsource (headed?_eq_none_iff.mpr ⟨e, hparse⟩)
    | ok d =>
      rw [loadDocument_eq_ok_iff.mpr ⟨source, hsheet, hsource, hparse⟩] at hload
      cases hload
  · intro hfails
    by_cases hsheet : ∃ sheet, i.LoadsStylesheet env sheet
    · obtain ⟨sheet, hsheet⟩ := hsheet
      obtain hnot | hsource | ⟨source, hsource, hheaded⟩ := hfails
      · exact absurd hsheet (hnot sheet)
      · obtain ⟨failure, hload, -⟩ := loadDocument_of_not_reads hsheet hsource
        exact ⟨failure, hload⟩
      · obtain ⟨e, hparse⟩ := headed?_eq_none_iff.mp hheaded
        exact ⟨_, loadDocument_of_bad_header hsheet hsource hparse⟩
    · obtain ⟨failure, hload, -⟩ := loadDocument_of_not_loads (not_exists.mp hsheet)
      exact ⟨failure, hload⟩

/-! ## The exit code -/

lemma answerDocument_eq (i : Invocation) (env : Environment) :
    i.answerDocument env = (i.loadDocument env).map fun loaded => i.answer loaded.1 loaded.2 := by
  rw [answerDocument, loadDocument]
  cases i.loadStylesheet env with
  | error failure => rfl
  | ok sheet =>
    simp only [readDocument]
    cases i.loadSource env with
    | error failure => rfl
    | ok source =>
      change ((Placard.parse source).mapError _ >>= _) =
        ((Placard.parse source).mapError _ >>= _).map _
      cases Placard.parse source <;> rfl

/-- **A command fails, or it answers about its document.** -/
theorem run_eq (h : i.ReadsDocument) (env : Environment) :
    i.run env =
      match i.loadDocument env with
      | .ok (sheet, d) => i.answer sheet d
      | .error failure => { code := 1, stderr := failure.message } := by
  rw [run, h.1, h.2, if_neg Bool.false_ne_true, if_neg Bool.false_ne_true, answerDocument_eq]
  cases i.loadDocument env <;> rfl

lemma run_of_error (h : i.ReadsDocument) (hload : i.loadDocument env = .error failure) :
    i.run env = { code := 1, stderr := failure.message } := by
  rw [run_eq h, hload]

lemma run_of_parse (h : i.ReadsDocument) (hsheet : i.LoadsStylesheet env sheet)
    (hsource : i.ReadsSource env source) (hparse : Placard.parse source = .ok d) :
    i.run env = i.answer sheet d := by
  rw [run_eq h, loadDocument_eq_ok_iff.mpr ⟨source, hsheet, hsource, hparse⟩]

lemma answer_of_lint (h : i.has .lint = true) (sheet : Stylesheet) (d : Document) :
    i.answer sheet d = i.answerLint d := by
  rw [answer, if_pos h]

lemma answer_of_not_lint (h : i.has .lint = false) (sheet : Stylesheet) (d : Document) :
    i.answer sheet d = i.answerMarkup sheet d := by
  rw [answer, h, if_neg Bool.false_ne_true]

lemma answerLint_of_nil (h : d.lint = []) :
    i.answerLint d = { code := 0, stdout := i.inputName ++ ": no issues found\n" } := by
  rw [answerLint, h]

lemma answerLint_of_ne_nil (h : d.lint ≠ []) :
    i.answerLint d =
      { code := 2
        stdout := String.join (d.lint.map fun f => i.inputName ++ ": " ++ f.display ++ "\n") } := by
  rw [answerLint]
  split
  · next hnil => exact absurd hnil h
  · rfl

/-- A command that has a document does not fail. -/
lemma code_answer_ne_one (i : Invocation) (sheet : Stylesheet) (d : Document) :
    (i.answer sheet d).code ≠ 1 := by
  cases hlint : i.has .lint with
  | false =>
    rw [answer_of_not_lint hlint]
    exact Nat.zero_ne_one
  | true =>
    rw [answer_of_lint hlint]
    by_cases hnil : d.lint = []
    · rw [answerLint_of_nil hnil]
      exact Nat.zero_ne_one
    · rw [answerLint_of_ne_nil hnil]
      exact Nat.succ_succ_ne_one 0

/-- The exit code is 1 iff a command fails. -/
lemma code_run_eq_one_iff (h : i.ReadsDocument) :
    (i.run env).code = 1 ↔ ∃ failure, i.loadDocument env = .error failure := by
  rw [run_eq h]
  cases i.loadDocument env with
  | error failure => exact iff_of_true rfl ⟨failure, rfl⟩
  | ok loaded => exact iff_of_false (code_answer_ne_one i loaded.1 loaded.2) nofun

/-- **The outcome of a command.**

**Proof sketch.** The stylesheet, the source and the document are loaded one after the other, and
each of the three either is there or ends the command (`loadDocument_of_not_loads`,
`loadDocument_of_not_reads`, `loadDocument_of_bad_header`, `run_of_parse`). -/
theorem answers_run (h : i.ReadsDocument) (env : Environment) : i.Answers env (i.run env) where
  fails_iff := (code_run_eq_one_iff h).trans exists_loadDocument_eq_error_iff
  silent hcode := by
    obtain ⟨failure, hload⟩ := (code_run_eq_one_iff h).mp hcode
    rw [run_of_error h hload]
  reports_stylesheet hsheet := by
    obtain ⟨failure, hload, hreport⟩ := loadDocument_of_not_loads hsheet
    rw [run_of_error h hload]
    exact hreport
  reports_input := by
    rintro ⟨sheet, hsheet⟩ hsource
    obtain ⟨failure, hload, hreport⟩ := loadDocument_of_not_reads hsheet hsource
    rw [run_of_error h hload]
    exact hreport
  reports_header sheet source e hsheet hsource hparse := by
    rw [run_of_error h (loadDocument_of_bad_header hsheet hsource hparse)]
    rfl
  renders sheet source d hsheet hsource hparse hlint := by
    rw [run_of_parse h hsheet hsource hparse, answer_of_not_lint hlint]
    rfl
  passes sheet source d hsheet hsource hparse hlint hnil := by
    rw [run_of_parse h hsheet hsource hparse, answer_of_lint hlint, answerLint_of_nil hnil]
    exact ⟨rfl, rfl⟩
  finds sheet source d hsheet hsource hparse hlint hne := by
    rw [run_of_parse h hsheet hsource hparse, answer_of_lint hlint, answerLint_of_ne_nil hne]
    exact ⟨rfl, fun f => Finding.onLine_display_of_mem_lint hparse, rfl⟩

/-! ## Lint and the other flags -/

lemma readDocument_congr (hinput : i'.input = i.input)
    (hbytes : i'.inputBytes env' = i.inputBytes env) :
    i'.readDocument env' = i.readDocument env := by
  have hsource : i'.loadSource env' = i.loadSource env := by
    rw [loadSource_eq, loadSource_eq, hbytes, hinput]
  rw [readDocument, readDocument, hsource, inputName, inputName, hinput]

lemma loadStylesheet_congr (hname : i'.stylesheet = i.stylesheet)
    (hfile : ∀ name, i.stylesheet = some name → env'.file name = env.file name) :
    i'.loadStylesheet env' = i.loadStylesheet env := by
  rw [loadStylesheet, loadStylesheet, hname]
  cases hsheet : i.stylesheet with
  | none => rfl
  | some name => simp only [Environment.fileText, hfile name hsheet]

/-- What a command loads does not depend on its flags. -/
lemma loadDocument_congr (hinput : i'.input = i.input) (hname : i'.stylesheet = i.stylesheet)
    (env : Environment) : i'.loadDocument env = i.loadDocument env := by
  have hbytes : i'.inputBytes env = i.inputBytes env := by
    rw [inputBytes, inputBytes, hinput]
  rw [loadDocument, loadDocument, readDocument_congr hinput hbytes,
    loadStylesheet_congr hname fun _ _ => rfl]

/-- Of the flags, only those for the manual keep a command from reading a document. -/
lemma Adds.readsDocument {f : Flag} (hadds : i.Adds f i') (hgrammar : .grammar ≠ f)
    (htemplates : .templates ≠ f) : i'.ReadsDocument ↔ i.ReadsDocument := by
  rw [ReadsDocument, ReadsDocument, hadds.has_eq hgrammar, hadds.has_eq htemplates]

/-- **With lint a command fails where it fails without**, and says the same. -/
theorem run_of_adds_lint (h : i.ReadsDocument) (hadds : i.Adds .lint i' ∨ i'.Adds .lint i)
    (env : Environment) :
    ((i'.run env).code = 1 ↔ (i.run env).code = 1) ∧
      ((i.run env).code = 1 → (i'.run env).stderr = (i.run env).stderr) := by
  have h' : i'.ReadsDocument := by
    obtain hadds | hadds := hadds
    · exact (hadds.readsDocument nofun nofun).mpr h
    · exact (hadds.readsDocument nofun nofun).mp h
  have hload : i'.loadDocument env = i.loadDocument env := by
    obtain hadds | hadds := hadds
    · exact loadDocument_congr hadds.input hadds.stylesheet env
    · exact (loadDocument_congr hadds.input hadds.stylesheet env).symm
  refine ⟨?_, fun hcode => ?_⟩
  · rw [code_run_eq_one_iff h, code_run_eq_one_iff h', hload]
  · obtain ⟨failure, hfailure⟩ := (code_run_eq_one_iff h).mp hcode
    rw [run_of_error h hfailure, run_of_error h' (hload.trans hfailure)]

/-- With stylesheets that can be loaded, lint has the same outcome for the same input. -/
lemma run_eq_of_loads {sheet' : Stylesheet} (h : i.ReadsDocument) (h' : i'.ReadsDocument)
    (hlint : i.has .lint = true) (hlint' : i'.has .lint = true) (hinput : i'.input = i.input)
    (hbytes : i'.inputBytes env' = i.inputBytes env) (hsheet : i.LoadsStylesheet env sheet)
    (hsheet' : i'.LoadsStylesheet env' sheet') : i'.run env' = i.run env := by
  rw [run_eq h, run_eq h', loadDocument_of_loads hsheet, loadDocument_of_loads hsheet',
    readDocument_congr hinput hbytes]
  cases i.readDocument env with
  | error failure => rfl
  | ok d =>
    have hanswer : i'.answer sheet' d = i.answer sheet d := by
      rw [answer_of_lint hlint, answer_of_lint hlint', answerLint, answerLint, inputName, inputName,
        hinput]
    exact hanswer

/-- **Lint depends on the input alone**, and on whether the stylesheet can be loaded. -/
theorem run_eq_of_readsAlike (h : i.ReadsDocument) (h' : i'.ReadsDocument)
    (hlint : i.has .lint = true) (hlint' : i'.has .lint = true)
    (halike : i.ReadsAlike env i' env') : i'.run env' = i.run env := by
  obtain ⟨hinput, hbytes, ⟨⟨sheet, hsheet⟩, sheet', hsheet'⟩ | ⟨hname, hfile⟩⟩ := halike
  · exact run_eq_of_loads h h' hlint hlint' hinput hbytes hsheet hsheet'
  · have hload := loadStylesheet_congr hname hfile
    cases hsheet : i.loadStylesheet env with
    | ok sheet =>
      exact run_eq_of_loads h h' hlint hlint' hinput hbytes (loadStylesheet_eq_ok_iff.mp hsheet)
        (loadStylesheet_eq_ok_iff.mp (hload.trans hsheet))
    | error failure =>
      have hfails : i.loadDocument env = .error failure :=
        bind_eq_error_iff.mpr (Or.inl hsheet)
      have hfails' : i'.loadDocument env' = .error failure :=
        bind_eq_error_iff.mpr (Or.inl (hload.trans hsheet))
      rw [run_of_error h hfails, run_of_error h' hfails']

end Runs

end Invocation

section Outcomes

variable {arguments : List String} {i : Invocation}

lemma Command.run_of_parse (h : Invocation.parse arguments = .ok i) (env : Environment) :
    Command.run arguments env = i.run env := by
  rw [Command.run, h]

/-- **The outcomes of an accepted command line** that reads a document, whatever it finds there.
The exit code is 1, with a report and nothing else, iff there is no stylesheet, or else no source,
or else no header. If it is not, the code is 0 without lint; with lint it is 2 if there are
findings, each of which is shown on a line, and 0 if there are none. The flag for lint can be put in
front of a command line without it. A command line that is accepted and differs in this flag alone
fails with the same report for the same files, and not otherwise. Two command lines with lint have
the same outcome for the same input, whatever else they ask for and whatever is in their
stylesheets, as long as these can be loaded.

**Proof sketch.** What a command loads depends on the names of its files only
(`loadDocument_congr`). If it loads a document it answers, and the answer of lint does not look at
the stylesheet or at other flags (`run_eq`, `run_eq_of_loads`). -/
theorem command_outcome (h : Invocation.parse arguments = .ok i) (hi : i.ReadsDocument) :
    (∀ env, i.Answers env (Command.run arguments env)) ∧
    (i.has .lint = false →
      ∃ i', Invocation.parse ("--lint" :: arguments) = .ok i' ∧ i.Adds .lint i') ∧
    ∀ arguments' i', Invocation.parse arguments' = .ok i' →
      (i.Adds .lint i' ∨ i'.Adds .lint i → ∀ env,
        ((Command.run arguments' env).code = 1 ↔ (Command.run arguments env).code = 1) ∧
        ((Command.run arguments env).code = 1 →
          (Command.run arguments' env).stderr = (Command.run arguments env).stderr)) ∧
      (i'.ReadsDocument → i.has .lint = true → i'.has .lint = true → ∀ env env',
        i.ReadsAlike env i' env' → Command.run arguments' env' = Command.run arguments env) := by
  refine ⟨fun env => ?_, fun hlint => ?_, fun arguments' i' h' => ⟨fun hadds env => ?_, ?_⟩⟩
  · rw [Command.run_of_parse h]
    exact Invocation.answers_run hi env
  · have hlacks : Flag.lint ∉ i.flags := fun hmem => by
      rw [Invocation.has_iff.mpr hmem] at hlint
      cases hlint
    exact ⟨_, Invocation.parse_flag_cons h hlint, Invocation.adds_withFlag hlacks⟩
  · rw [Command.run_of_parse h, Command.run_of_parse h']
    exact Invocation.run_of_adds_lint hi hadds env
  · intro hi' hlint hlint' env env' halike
    rw [Command.run_of_parse h, Command.run_of_parse h']
    exact Invocation.run_eq_of_readsAlike hi hi' hlint hlint' halike

/-- A source whose template is not known. -/
def oddSource : String := "infographic odd\ndata\n  items\n    - A"

/-- The source stands on the standard input, and there are no files. -/
def oddEnvironment : Environment where
  file _ := .error .noSuchFile
  stdin := oddSource.toUTF8

/-- Lint has a finding there, also if a data URL is asked for, and nothing fails without lint. -/
theorem command_outcome_odd :
    (Command.run ["--lint"] oddEnvironment).code = 2 ∧
      Command.run ["--data-url", "--lint"] oddEnvironment =
        Command.run ["--lint"] oddEnvironment ∧
      (Command.run [] oddEnvironment).code ≠ 1 := by
  have hnone : Invocation.parse [] = .ok {} := by rw [Invocation.parse, Invocation.addArguments]
  have hlint := Invocation.parse_flag_cons (f := .lint) hnone rfl
  have hboth := Invocation.parse_flag_cons (f := .dataUrl) hlint rfl
  obtain ⟨hanswers, -, hothers⟩ := command_outcome hlint ⟨rfl, rfl⟩
  have hfindings : (Placard.parse oddSource).toOption.map (·.lint.isEmpty) = some false := by
    decide +kernel
  have hcode : (Command.run ["--lint"] oddEnvironment).code = 2 := by
    cases hparse : Placard.parse oddSource with
    | error e =>
      rw [hparse] at hfindings
      cases hfindings
    | ok d =>
      have hne : d.lint ≠ [] := by
        rw [hparse] at hfindings
        intro hnil
        simp [Except.toOption, hnil] at hfindings
      exact ((hanswers oddEnvironment).finds .builtin oddSource d rfl rfl hparse rfl hne).1
  refine ⟨hcode, ?_, fun hfails => ?_⟩
  · refine (hothers _ _ hboth).2 ⟨rfl, rfl⟩ rfl rfl _ _ ⟨rfl, rfl, Or.inl ⟨?_, ?_⟩⟩
    · exact ⟨.builtin, rfl⟩
    · exact ⟨.builtin, rfl⟩
  · have hadds := Invocation.adds_withFlag (f := .lint) (i := {}) List.not_mem_nil
    have hsame := ((hothers _ _ hnone).1 (Or.inr hadds) oddEnvironment).1.mp hfails
    exact absurd (hcode.symm.trans hsame) (by decide)

end Outcomes

end Placard
