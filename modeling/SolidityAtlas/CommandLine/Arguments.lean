import SolidityAtlas.Record.Field

/-! The words of a command line. Options stand anywhere among the arguments of a command, those of
the program itself only in front of the command. Of an option that is given more than once the last
value counts, and `--` ends the options.
-/

namespace SolidityAtlas

/-- What is asked for on the command line. -/
inductive Command where
  /-- What the function around a position of a file depends on. -/
  | analyze (file : String) (line column : Int)
  /-- A definition by name. -/
  | lookup (name kind : String) (contract : Option String)
  /-- The implementations of a method of an interface or base contract. -/
  | implementations (base method : String)
  /-- The counts of the workspace. -/
  | stats
  deriving DecidableEq, Repr

/-- A command, the path of the workspace that it works on, and whether it answers in JSON. -/
structure Invocation where
  command : Command
  workspace : String
  asJson : Bool
  deriving DecidableEq, Repr

/-- What a command line asks for. -/
inductive Request where
  | invocation (invocation : Invocation)
  /-- A description of the command line itself. -/
  | help
  deriving DecidableEq, Repr

/-- The options. -/
inductive OptionName where
  | line
  | column
  | workspace
  | json
  | kind
  | contract
  | verbose
  | help
  deriving DecidableEq, Repr

/-- How an option is written: its long name, its letter if it has one, and whether a value follows
it.
-/
structure OptionForm where
  name : OptionName
  long : String
  letter : Option Char
  takesValue : Bool

namespace OptionForm

/-- The options of the program itself. -/
def general : List OptionForm :=
  [⟨.verbose, "verbose", some 'v', false⟩, ⟨.help, "help", none, false⟩]

/-- The options of every command. -/
def common : List OptionForm :=
  [⟨.workspace, "workspace", some 'w', true⟩, ⟨.json, "json", none, false⟩,
   ⟨.help, "help", none, false⟩]

/-- The options of the analysis of a function. -/
def analysis : List OptionForm :=
  ⟨.line, "line", some 'l', true⟩ :: ⟨.column, "column", some 'c', true⟩ :: common

/-- The options of a lookup. -/
def lookup : List OptionForm :=
  ⟨.kind, "kind", some 'k', true⟩ :: ⟨.contract, "contract", none, true⟩ :: common

end OptionForm

/-- What was read of a command line: the options with their values, last first, and the other
arguments in order.
-/
structure Arguments where
  options : List (OptionName × String)
  operands : List String
  deriving DecidableEq, Repr

namespace Arguments

/-- The last value of an option. -/
def value? (arguments : Arguments) (name : OptionName) : Option String :=
  arguments.options.lookup name

/-- Whether an option is given. -/
def has (arguments : Arguments) (name : OptionName) : Bool :=
  (arguments.value? name).isSome

/-- The options that one argument gives, last first, and the option whose value is the next
argument, if there is one.
-/
structure Reading where
  options : List (OptionName × String)
  awaited : Option OptionName

/-- Reads a long option, without its dashes. A value may follow an equals sign. -/
def readLong (forms : List OptionForm) (text : List Char) : Option Reading := do
  let name := text.takeWhile (· ≠ '=')
  let form ← forms.find? fun form => form.long.toList = name
  match text.drop name.length, form.takesValue with
  | [], true => return { options := [], awaited := some form.name }
  | [], false => return { options := [(form.name, "")], awaited := none }
  | _ :: value, true =>
      return { options := [(form.name, String.ofList value)], awaited := none }
  | _ :: _, false => none

/-- Reads options given by their letters. What follows the letter of an option with a value is the
value; `options` holds the options in front.
-/
def readLetters (forms : List OptionForm) (options : List (OptionName × String))
    : List Char → Option Reading
  | [] => some { options := options, awaited := none }
  | letter :: rest => do
      let form ← forms.find? fun form => form.letter = some letter
      if form.takesValue then
        match rest with
        | [] => return { options := options, awaited := some form.name }
        | _ =>
            return { options := (form.name, String.ofList rest) :: options, awaited := none }
      else readLetters forms ((form.name, "") :: options) rest

/-- Reads an argument as options, if it is written as such: a dash alone and the empty text are
operands.
-/
def readOption? (forms : List OptionForm) (argument : String) : Option (Option Reading) :=
  match argument.toList with
  | '-' :: '-' :: name => some (readLong forms name)
  | '-' :: letter :: letters => some (readLetters forms [] (letter :: letters))
  | _ => none

/-- Reads arguments. `awaited` is the option whose value comes next, if there is one; if operands
come `last`, all that follows the first of them is left as it is.
-/
def read (forms : List OptionForm) (last : Bool) (awaited : Option OptionName)
    (options : List (OptionName × String)) : List String → Option Arguments
  | [] =>
      match awaited with
      | some _ => none
      | none => some { options := options, operands := [] }
  | argument :: rest =>
      match awaited with
      | some name => read forms last none ((name, argument) :: options) rest
      | none =>
          if argument = "--" then some { options := options, operands := rest }
          else
            match readOption? forms argument with
            | some (some reading) =>
                read forms last reading.awaited (reading.options ++ options) rest
            | some none => none
            | none =>
                if last then some { options := options, operands := argument :: rest }
                else
                  (read forms last none options rest).map fun arguments =>
                    { arguments with operands := argument :: arguments.operands }

/-- An integer argument. -/
def integer? (text : String) : Option Int :=
  match Reader.integerInText text.toList with
  | .valid value => some value
  | .faulty _ => none

/-- The invocation of a command with the options that all commands have. -/
def invoke (arguments : Arguments) (command : Command) : Invocation :=
  { command := command
    workspace := (arguments.value? .workspace).getD "."
    asJson := arguments.has .json }

/-- The analysis that arguments ask for. -/
def analyze? (arguments : Arguments) : Option Command :=
  match arguments.operands with
  | [file] => do
      let line ← (← arguments.value? .line) |> integer?
      let column ← integer? ((arguments.value? .column).getD "0")
      return .analyze file line column
  | _ => none

/-- The lookup that arguments ask for. -/
def lookup? (arguments : Arguments) : Option Command :=
  match arguments.operands with
  | [name] =>
      some (.lookup name ((arguments.value? .kind).getD "type") (arguments.value? .contract))
  | _ => none

/-- The search for implementations that arguments ask for. -/
def implementations? (arguments : Arguments) : Option Command :=
  match arguments.operands with
  | [base, method] => some (.implementations base method)
  | _ => none

/-- The counts that arguments ask for. -/
def stats? (arguments : Arguments) : Option Command :=
  match arguments.operands with
  | [] => some .stats
  | _ => none

/-- How a command is called, the options it knows and how it is made of arguments. -/
structure CommandForm where
  word : String
  options : List OptionForm
  make? : Arguments → Option Command

/-- The commands. -/
def commandForms : List CommandForm :=
  [⟨"analyze", OptionForm.analysis, analyze?⟩, ⟨"lookup", OptionForm.lookup, lookup?⟩,
   ⟨"implementations", OptionForm.common, implementations?⟩,
   ⟨"stats", OptionForm.common, stats?⟩]

end Arguments

open Arguments in
/-- What a command line asks for; nothing if it is not well formed. -/
def Request.ofArguments (arguments : List String) : Option Request := do
  let whole ← read OptionForm.general true none [] arguments
  if whole.has .help then return .help
  match whole.operands with
  | [] => none
  | word :: rest =>
      let form ← commandForms.find? fun form => form.word = word
      let own ← read form.options false none [] rest
      if own.has .help then return .help
      let command ← form.make? own
      return .invocation (own.invoke command)

end SolidityAtlas
