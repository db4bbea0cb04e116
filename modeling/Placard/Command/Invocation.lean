import Placard.Stylesheet.Basic

set_option relaxedAutoImplicit false
set_option autoImplicit false

/-!
# Command lines

The arguments of the program: options with a value, flags, and at most one input file. Arguments are
taken one after another, and the first one that is wrong or asks for help ends the reading.

## Main definitions

* `Placard.Invocation`: what a command line asks for.
* `Placard.Halt`, `Placard.UsageError`: why the reading ends early.
* `Placard.Invocation.parse`: reads a command line.
-/

namespace Placard

/-- The options without a value. -/
inductive Flag where
  /-- Marks the output as animated. -/
  | animations
  /-- Writes the fragment only. -/
  | fragment
  /-- Writes a data URL. -/
  | dataUrl
  /-- Reports findings in place of the drawing. -/
  | lint
  /-- Lists the templates. -/
  | templates
  /-- Shows the grammar. -/
  | grammar
  /-- Logs the figures. -/
  | debug
deriving DecidableEq, Repr

/-- The options with a value. -/
inductive Setting where
  /-- Light or dark. -/
  | theme
  /-- The color scheme. -/
  | scheme
  /-- The file of a stylesheet. -/
  | stylesheet
deriving DecidableEq, Repr

/-- An option. -/
inductive Switch where
  /-- One without a value. -/
  | flag (f : Flag)
  /-- One with a value. -/
  | setting (s : Setting)
  /-- The one that asks for help. -/
  | help
deriving DecidableEq, Repr

/-- How an option is written: in full, and perhaps with one letter. -/
structure Spelling where
  /-- Its name. -/
  name : String
  /-- Its letter. -/
  letter : Option Char
  /-- What it stands for. -/
  switch : Switch
deriving DecidableEq, Repr

/-- The options of the program. -/
def Spelling.all : List Spelling :=
  [⟨"theme", some 't', .setting .theme⟩,
    ⟨"scheme", some 'c', .setting .scheme⟩,
    ⟨"stylesheet", some 's', .setting .stylesheet⟩,
    ⟨"animations", some 'a', .flag .animations⟩,
    ⟨"fragment", some 'f', .flag .fragment⟩,
    ⟨"data-url", none, .flag .dataUrl⟩,
    ⟨"lint", some 'l', .flag .lint⟩,
    ⟨"templates", none, .flag .templates⟩,
    ⟨"grammar", some 'g', .flag .grammar⟩,
    ⟨"debug", some 'd', .flag .debug⟩,
    ⟨"help", some 'h', .help⟩]

/-- The option with a name. -/
def Switch.ofName? (name : List Char) : Option Switch :=
  (Spelling.all.find? (·.name.toList == name)).map (·.switch)

/-- The option with a letter. -/
def Switch.ofLetter? (letter : Char) : Option Switch :=
  (Spelling.all.find? (·.letter == some letter)).map (·.switch)

/-- What is wrong with a command line. -/
inductive UsageError where
  /-- There is no such option. -/
  | unknownOption (text : String)
  /-- An option stands twice. -/
  | repeatedOption
  /-- An option lacks its value. -/
  | missingValue
  /-- A flag has a value. -/
  | unwantedValue
  /-- The value of an option is not known. -/
  | badValue (e : OptionError)
  /-- The name of a file is empty. -/
  | emptyPath
  /-- There is more than one input file. -/
  | extraInput (text : String)
deriving DecidableEq, Repr

/-- Why the reading of a command line ends early. -/
inductive Halt where
  /-- Help was asked for. -/
  | help
  /-- Something is wrong. -/
  | misuse (e : UsageError)
deriving DecidableEq, Repr

/-- What a command line asks for. -/
structure Invocation where
  /-- The input file, if it is not the standard input. -/
  input : Option String := none
  /-- Light or dark. -/
  theme : Option Mode := none
  /-- The color scheme. -/
  scheme : Option BuiltinScheme := none
  /-- The file of a stylesheet. -/
  stylesheet : Option String := none
  /-- The flags that stand on it. -/
  flags : List Flag := []
deriving DecidableEq, Repr

namespace Invocation

/-- Whether a flag stands on the command line. -/
def has (i : Invocation) (f : Flag) : Bool := i.flags.contains f

/-- The command line with one more flag. -/
def addFlag (i : Invocation) (f : Flag) : Except Halt Invocation :=
  if i.has f then .error (.misuse .repeatedOption) else .ok { i with flags := i.flags ++ [f] }

/-- A value that is read into a field that must still be empty. -/
def fill {α : Type} (field : Option α) (value : Except UsageError α) : Except Halt (Option α) :=
  match field, value with
  | some _, _ => .error (.misuse .repeatedOption)
  | none, .error e => .error (.misuse e)
  | none, .ok a => .ok (some a)

/-- The name of a file, which is not empty. -/
def path (name : List Char) : Except UsageError String :=
  if name.isEmpty then .error .emptyPath else .ok (String.ofList name)

/-- The command line with one more option and its value. -/
def addSetting (i : Invocation) (s : Setting) (value : List Char) : Except Halt Invocation := do
  let name := String.ofList value
  match s with
  | .theme => .ok { i with theme := ← fill i.theme ((Mode.ofName name).mapError .badValue) }
  | .scheme =>
    .ok { i with scheme := ← fill i.scheme ((BuiltinScheme.ofName name).mapError .badValue) }
  | .stylesheet => .ok { i with stylesheet := ← fill i.stylesheet (path value) }

/-- The command line with its input file. -/
def addInput (i : Invocation) (name : String) : Except Halt Invocation :=
  match i.input with
  | some _ => .error (.misuse (.extraInput name))
  | none => do .ok { i with input := ← fill none (path name.toList) }

/-- The command line with the options that one argument gives by their letters. The last one may
have its value behind it, with or without an equals sign, or wait for it in the next argument. -/
def addLetters (i : Invocation) : List Char → Except Halt (Invocation × Option Setting)
  | [] => .ok (i, none)
  | c :: cs =>
    match Switch.ofLetter? c with
    | none => .error (.misuse (.unknownOption c.toString))
    | some .help => .error .help
    | some (.flag f) => do addLetters (← i.addFlag f) cs
    | some (.setting s) =>
      match cs with
      | [] => .ok (i, some s)
      | '=' :: value => do .ok (← i.addSetting s value, none)
      | value => do .ok (← i.addSetting s value, none)

/-- The command line with the option that one argument gives by its name, perhaps with a value
behind an equals sign, or with one that waits for its value. -/
def addName (i : Invocation) (text : List Char) : Except Halt (Invocation × Option Setting) :=
  let name := text.takeWhile (· != '=')
  let value? := (text.dropWhile (· != '=')).tail?
  match Switch.ofName? name, value? with
  | none, _ => .error (.misuse (.unknownOption (String.ofList name)))
  | some (.setting s), none => .ok (i, some s)
  | some (.setting s), some value => do .ok (← i.addSetting s value, none)
  | some (.flag f), none => do .ok (← i.addFlag f, none)
  | some .help, none => .error .help
  | some _, some _ => .error (.misuse .unwantedValue)

/-- The kinds of arguments. -/
inductive Argument where
  /-- The end of the options. -/
  | optionsEnd
  /-- An option by its name. -/
  | named (text : List Char)
  /-- Options by their letters. -/
  | lettered (text : List Char)
  /-- Anything else; a dash alone is the name of a file. -/
  | plain
deriving DecidableEq, Repr

/-- What kind of argument a text is. -/
def Argument.ofText (text : String) : Argument :=
  match text.toList with
  | ['-', '-'] => .optionsEnd
  | '-' :: '-' :: rest => .named rest
  | ['-'] => .plain
  | '-' :: rest => .lettered rest
  | _ => .plain

mutual

/-- Reads arguments. -/
def addArguments (i : Invocation) : List String → Except Halt Invocation
  | [] => .ok i
  | text :: texts =>
    match Argument.ofText text with
    | .optionsEnd => texts.foldlM addInput i
    | .plain => do addArguments (← i.addInput text) texts
    | .named rest => do
      let (i, waiting) ← i.addName rest
      addWaiting i waiting texts
    | .lettered rest => do
      let (i, waiting) ← i.addLetters rest
      addWaiting i waiting texts

/-- Reads arguments, the first of which is the value of the option that waits for one. An option is
never taken for a value. -/
def addWaiting (i : Invocation) : Option Setting → List String → Except Halt Invocation
  | none, texts => addArguments i texts
  | some _, [] => .error (.misuse .missingValue)
  | some s, text :: texts =>
    match Argument.ofText text with
    | .plain => do addArguments (← i.addSetting s text.toList) texts
    | _ => .error (.misuse .missingValue)

end

/-- Reads a command line. -/
def parse (texts : List String) : Except Halt Invocation := addArguments {} texts

end Invocation

end Placard
