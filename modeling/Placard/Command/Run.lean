import Placard.Command.Invocation
import Placard.Command.Manual
import Placard.Markup.DataUrl
import Placard.Render
import Placard.Report
import Placard.Stylesheet.Read

set_option relaxedAutoImplicit false
set_option autoImplicit false

/-!
# Running a command

A command reads at most a stylesheet and a document, and answers with texts and an exit code. What
it reads is given to it as an environment, so that a run is a function.

## Main definitions

* `Placard.Environment`: what a command can read.
* `Placard.Outcome`: what a command answers.
* `Placard.Command.run`: runs a command line.
-/

namespace Placard

/-- Why a text cannot be read. -/
inductive ReadError where
  /-- There is no such file. -/
  | noSuchFile
  /-- The name is that of a directory. -/
  | isDirectory
  /-- The bytes are no text in UTF-8. -/
  | notText
  /-- Any other reason. -/
  | other (reason : String)
deriving DecidableEq, Repr

/-- What is said about a text that cannot be read. -/
def ReadError.message : ReadError → String
  | .noSuchFile => "No such file or directory (os error 2)"
  | .isDirectory => "Is a directory (os error 21)"
  | .notText => "stream did not contain valid UTF-8"
  | .other reason => reason

/-- What a command can read. -/
structure Environment where
  /-- The bytes of a file. -/
  file : String → Except ReadError ByteArray
  /-- The bytes of the standard input. -/
  stdin : ByteArray

/-- What a command answers. -/
structure Outcome where
  /-- The exit code. -/
  code : Nat
  /-- The text on the standard output. -/
  stdout : String := ""
  /-- The text on the standard error output. -/
  stderr : String := ""
deriving DecidableEq, Repr

/-- The text that bytes encode. -/
def decodeText (bytes : ByteArray) : Except ReadError String :=
  match String.fromUTF8? bytes with
  | some s => .ok s
  | none => .error .notText

/-- The text of a file. -/
def Environment.fileText (env : Environment) (name : String) : Except ReadError String :=
  (env.file name).bind decodeText

/-- Why a command fails. -/
inductive Failure where
  /-- The file of the stylesheet cannot be read. -/
  | stylesheetUnread (name : String) (e : ReadError)
  /-- The stylesheet is not sound. -/
  | stylesheetUnsound (name : String) (e : StylesheetError)
  /-- The input file cannot be read. -/
  | inputUnread (name : String) (e : ReadError)
  /-- The standard input cannot be read. -/
  | stdinUnread (e : ReadError)
  /-- The source is not a document. -/
  | notDocument (source name : String) (e : HeaderError)
deriving DecidableEq, Repr

/-- What is said about a failure. -/
def Failure.message : Failure → String
  | .stylesheetUnread name e =>
    "Error loading stylesheet '" ++ name ++ "': Failed to read stylesheet file: " ++ e.message
      ++ "\n"
  | .stylesheetUnsound name _ =>
    "Error loading stylesheet '" ++ name ++ "': Failed to parse stylesheet TOML: "
  | .inputUnread name e => "Error reading file '" ++ name ++ "': " ++ e.message ++ "\n"
  | .stdinUnread e => "Error reading from stdin: " ++ e.message ++ "\n"
  | .notDocument source name e => e.report source name

namespace Invocation

/-- The stylesheet of a command. -/
def loadStylesheet (i : Invocation) (env : Environment) : Except Failure Stylesheet :=
  match i.stylesheet with
  | none => .ok Stylesheet.builtin
  | some name => do
    let source ← (env.fileText name).mapError (.stylesheetUnread name)
    (Stylesheet.read source).mapError (.stylesheetUnsound name)

/-- The name of the input of a command. -/
def inputName (i : Invocation) : String := i.input.getD "<stdin>"

/-- The input of a command. -/
def loadSource (i : Invocation) (env : Environment) : Except Failure String :=
  match i.input with
  | some name => (env.fileText name).mapError (.inputUnread name)
  | none => (decodeText env.stdin).mapError .stdinUnread

/-- How a command draws and writes a document. -/
def renderOptions (i : Invocation) (sheet : Stylesheet) : RenderOptions where
  draw :=
    { mode := i.theme.getD .light
      scheme := i.scheme.getD .standard
      animated := i.has .animations }
  page := { standalone := !i.has .fragment }
  stylesheet := sheet

/-- The answer of a command that lints: a line for each finding, or a line that there is none. -/
def answerLint (i : Invocation) (d : Document) : Outcome :=
  match d.lint with
  | [] => { code := 0, stdout := i.inputName ++ ": no issues found\n" }
  | findings =>
    { code := 2
      stdout := String.join (findings.map fun f => i.inputName ++ ": " ++ f.display ++ "\n") }

/-- The answer of a command that renders. -/
def answerMarkup (i : Invocation) (sheet : Stylesheet) (d : Document) : Outcome :=
  let markup := d.render (i.renderOptions sheet)
  let shown := if i.has .dataUrl then dataUrl markup "text/html" else markup
  { code := 0, stdout := shown ++ "\n" }

/-- The answer of a command that reads a document: the stylesheet is loaded first, then the
source. -/
def answerDocument (i : Invocation) (env : Environment) : Except Failure Outcome := do
  let sheet ← i.loadStylesheet env
  let source ← i.loadSource env
  let d ← (Placard.parse source).mapError (.notDocument source i.inputName)
  .ok (if i.has .lint then i.answerLint d else i.answerMarkup sheet d)

/-- The answer of a command. -/
def run (i : Invocation) (env : Environment) : Outcome :=
  if i.has .grammar then { code := 0, stdout := Manual.grammar }
  else if i.has .templates then { code := 0, stdout := Manual.templates }
  else
    match i.answerDocument env with
    | .ok outcome => outcome
    | .error failure => { code := 1, stderr := failure.message }

end Invocation

/-- What is said about a command line that is wrong. -/
def UsageError.message : UsageError → String
  | .unknownOption text => "unexpected argument '" ++ text ++ "'"
  | .repeatedOption => "an option cannot be used more than once"
  | .missingValue => "an option lacks its value"
  | .unwantedValue => "an option does not take a value"
  | .badValue e => e.message
  | .emptyPath => "a file name is empty"
  | .extraInput text => "unexpected argument '" ++ text ++ "'"

/-- Runs a command line. -/
def Command.run (arguments : List String) (env : Environment) : Outcome :=
  match Invocation.parse arguments with
  | .ok i => i.run env
  | .error .help => { code := 0, stdout := Manual.help }
  | .error (.misuse e) => { code := 2, stderr := "error: " ++ e.message ++ "\n" }

end Placard
