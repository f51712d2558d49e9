import SolidityAtlas.Analysis.Record
import SolidityAtlas.CommandLine.Arguments
import SolidityAtlas.CommandLine.Table
import SolidityAtlas.Json.Printer
import SolidityAtlas.Workspace.Folder
import SolidityAtlas.Workspace.Statistics

/-! What commands print. A command reads the workspace in a folder and answers with a text, in JSON
or as headings and tables. A failure that users are told about is printed as such.
-/

namespace SolidityAtlas

/-- How a run of the program ends. -/
inductive Report where
  /-- It prints a text. -/
  | answer (text : String)
  /-- It prints why there is no answer. -/
  | refusal (text : String)
  /-- It breaks off, as the syntax tree of a file is malformed or a text cannot be shown. -/
  | breakdown (failure : Failure)
  /-- The command line is not well formed, or there is no folder at the path of the workspace. -/
  | misuse

namespace Report

/-- The exit code of a run. -/
def exitCode : Report → Nat
  | .answer _ => 0
  | .refusal _ | .breakdown _ => 1
  | .misuse => 2

/-- What a run prints. -/
def output : Report → String
  | .answer text | .refusal text => text
  | .breakdown _ | .misuse => ""

/-- The report on a failure. -/
def ofFailure (failure : Failure) : Report :=
  match failure.message? with
  | none => .breakdown failure
  | some message =>
      match Markup.printed ("[red]Error: " ++ Markup.escape message ++ "[/red]") with
      | .ok text => .refusal text
      | .error failure => .breakdown failure

/-- The report on the text of an answer, if there is one. -/
def ofOutcome : Outcome String → Report
  | .ok text => .answer text
  | .error failure => .ofFailure failure

/-- The first line of an answer: a heading and the place it speaks of. -/
def heading (title path : String) (line : Int) : Outcome String :=
  Markup.printed
    ("[bold]" ++ Markup.escape title ++ "[/bold] [dim]" ++ Markup.escape path ++ ":" ++
      toString line ++ "[/dim]")

/-- A remark. -/
def remark (text : String) : Outcome String :=
  Markup.printed ("[yellow]" ++ text ++ "[/yellow]")

/-- A value in JSON. -/
def jsonText (value : Json) : String :=
  value.pretty ++ "\n"

/-- The cells for the place of a definition. -/
def placeCells (path : String) (location : Location) : List String :=
  [path, toString location.first.line]

/-- The row of a type that a function depends on. -/
def typeRow (reference : TypeReference) : List String :=
  [reference.kind.text, reference.name] ++
    match reference.definition with
    | some definition => placeCells definition.path definition.location
    | none => ["", ""]

/-- The row of a call. -/
def callRow (call : CallSite) : List String :=
  ["call", call.expression] ++
    match call.target with
    | some function => placeCells function.path function.location
    | none => ["", ""]

/-- The row of a state variable. -/
def variableRow (declared : StateVariable) : List String :=
  ["statevar", declared.name] ++ placeCells declared.path declared.location

/-- The name of an analysed function, qualified by its contract. -/
def analysisTitle (analysis : Analysis) : String :=
  match analysis.contract.filter (· ≠ "") with
  | some contract => contract ++ "." ++ analysis.function.name
  | none => analysis.function.name

/-- The text of an analysis. -/
def analysisText (analysis : Analysis) : Outcome String := do
  let rows :=
    analysis.types.map typeRow ++ analysis.calls.map callRow ++
      analysis.stateVariables.map variableRow
  let title ←
    heading (analysisTitle analysis) analysis.function.path analysis.function.location.first.line
  let body ←
    if rows.isEmpty then remark "No resolvable dependencies."
    else
      Table.printed
        { title := "Dependencies"
          headers := ["Kind", "Name", "Defined in", "Line"]
          rows := rows }
  return title ++ body

/-- The text of a definition that was looked up, and of the other files that define its name. -/
def definitionText (result : Finding) (title path : String) (location : Location)
    (source : String) : Outcome String := do
  let title ← heading title path location.first.line
  let others ←
    if result.ambiguous then
      remark ("Also defined in: " ++ Markup.escape (", ".intercalate (result.files.drop 1)))
    else .ok ""
  let body ← Markup.printed (Markup.escape source)
  return title ++ others ++ body

/-- The text of the answer to a lookup. -/
def lookupText (result : Finding) : Outcome String :=
  match result.type.bind fun reference => reference.definition.map fun found => (reference, found),
      result.function, result.stateVariable with
  | some (reference, definition), _, _ =>
      definitionText result (reference.kind.text ++ " " ++ reference.name) definition.path
        definition.location definition.source
  | none, some function, _ =>
      definitionText result ("function " ++ function.name) function.path function.location
        function.source
  | none, none, some declared =>
      definitionText result ("statevar " ++ declared.name) declared.path declared.location
        declared.source
  | none, none, none => remark (Markup.escape (result.error.getD ""))

/-- The row of an implementation. -/
def implementationRow (found : Implementation) : List String :=
  [found.implementer, found.contract ++ if found.isInherited then " (inherited)" else ""] ++
    placeCells found.path found.function.location ++ [" -> ".intercalate found.chain]

/-- The text of the implementations of a method. -/
def implementationsText (base method : String) (found : List Implementation) : Outcome String :=
  if found.isEmpty then
    remark
      ("No implementations of " ++ Markup.escape base ++ "." ++ Markup.escape method ++ " found.")
  else
    Table.printed
      { title :=
          "Implementations of " ++ base ++ "." ++ method ++ " (" ++ toString found.length ++
            " found)"
        headers := ["Contract", "Implemented in", "File", "Line", "Chain"]
        rows := found.map implementationRow }

/-- The text of the counts of a workspace. -/
def statisticsText (counts : Statistics) : Outcome String :=
  let kinds := counts.kinds.mergeSort fun a b => a.1.text ≤ b.1.text
  Table.printed
    { title := "Workspace"
      headers := ["Metric", "Count"]
      rows :=
        [["Files", toString counts.files], ["Contracts", toString counts.contracts]] ++
          (kinds.map fun (kind, count) => ["  " ++ kind.text, toString count]) ++
          [["Functions", toString counts.functions],
           ["Structs + enums", toString counts.types],
           ["State variables", toString counts.stateVariables]] }

end Report

/-- The path of a workspace file that a file on the command line means, when paths start at `here`.
-/
def Workspace.pathFor (workspace : Workspace) (here : Path) (file : String) : Outcome String :=
  let target := (here.join (.ofText file)).normalize
  match workspace.paths.find? fun path => (here.join (.ofText path)).normalize = target with
  | some path => .ok path
  | none => .error (.notIndexed (Path.ofText file).text)

/-- The answer of a command on a workspace. -/
def Command.answer (command : Command) (asJson : Bool) (here : Path) (settings : Settings)
    (workspace : Workspace) : Outcome String :=
  match command with
  | .analyze file line column => do
      let path ← workspace.pathFor here file
      let analysis ← workspace.analysisAt settings path line column
      if asJson then return Report.jsonText analysis.toJson else Report.analysisText analysis
  | .lookup name kind contract => do
      let kind ← LookupKind.ofJson (.str kind)
      let result := workspace.lookup { kind := kind, name := name, contract := contract }
      if asJson then return Report.jsonText result.toJson else Report.lookupText result
  | .implementations base method => do
      let graph ← InheritanceGraph.ofWorkspace settings workspace
      let found := graph.implementations base method
      if asJson then return Report.jsonText (.ofList Implementation.toJson found)
      else Report.implementationsText base method found
  | .stats =>
      let counts := workspace.statistics
      if asJson then return Report.jsonText counts.toJson else Report.statisticsText counts

/-- The report of an invocation whose workspace lies in a folder, when paths start at `here`. -/
def Invocation.report (invocation : Invocation) (tables : SettingTables) (here : Path)
    (folder : Folder) : Report :=
  .ofOutcome do
    let workspace ← folder.workspace
    invocation.command.answer invocation.asJson here tables.settings workspace

/-- How the program is used. -/
def usage : String :=
  "Usage: [-v] analyze FILE -l LINE [-c COLUMN] | lookup NAME [-k KIND] [--contract NAME] | " ++
    "implementations INTERFACE METHOD | stats, each with [-w FOLDER] [--json]\n"

/-- The report of a run in a folder. -/
def Folder.run (folder : Folder) (tables : SettingTables) (arguments : List String) : Report :=
  match Request.ofArguments arguments with
  | none => .misuse
  | some .help => .answer usage
  | some (.invocation invocation) =>
      match folder.inside? (.ofText invocation.workspace) with
      | none => .misuse
      | some inner => invocation.report tables folder.path inner

end SolidityAtlas
