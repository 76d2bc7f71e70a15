import Stencil.Command.Arguments
import Stencil.Command.Output
import Stencil.Delimiters.Config
import Stencil.Render.Engine
import Stencil.Render.Load
import Stencil.Report.Diagnostic
import Stencil.Report.Table

/-!
# Commands

What the commands answer, given the contents of the files that they read.
-/

set_option autoImplicit false

namespace Stencil.Command

/-- What a command writes and how it ends. -/
structure Outcome where
  code : Nat
  output : Text
  errors : Text
  deriving DecidableEq, Repr, Inhabited

namespace Outcome

def success : Nat := 0

/-- The code of arguments that cannot be understood. -/
def usage : Nat := 2

def dataError : Nat := 65

/-- The code of a command that cannot do its work. -/
def failure : Nat := 70

end Outcome

/-- Why a command cannot do its work. -/
abbrev Failure := Text

/-- The outcome of a command that has written something before it failed, perhaps errors as well. -/
def Failure.outcome (failure : Failure) (output : Text) (errors : Text := []) : Outcome :=
  ⟨Outcome.failure, output, errors ++ ("Error: ".toList ++ failure ++ ['\n'])⟩

def Failure.ofFile (what : String) (path : Text) (why : String) : Failure :=
  s!"{what} {String.ofList path}: {why}".toList

def Failure.ofDiagnostic (path : Text) (error : TemplateError) (diagnostic : Diagnostic) : Failure :=
  let help := match diagnostic.help with
    | some help => s!"\n  help: {help}"
    | none => ""
  s!"{diagnostic.message}\n  {String.ofList path}:{error.place.line}:{error.place.column}: {diagnostic.label}{help}".toList

/-! ## Input -/

/-- The delimiters of a file, or the standard ones if there is no file. -/
def loadDelimiters (files : Files) : (path : Option Text) → Except Failure Delimiters
  | none => .ok .standard
  | some path => do
      let text ← (files.read path).mapError fun error =>
        Failure.ofFile "Failed to read delimiter file" path error.name
      match DelimiterConfig.read? text with
      | none => .error (Failure.ofFile "Invalid delimiter file" path "not a configuration")
      | some config => config.delimiters.mapError fun error => error.message.toList

def loadData (files : Files) (path : Text) : Except Failure Fields := do
  let text ← (files.read path).mapError fun error =>
    Failure.ofFile "Failed to read data file" path error.name
  match (Json.read? text).map Json.toValue with
  | none => .error (Failure.ofFile "Invalid JSON in" path "not a document")
  | some (.map entries) => .ok entries
  | some _ => .error (Failure.ofFile "Data file" path "must contain a JSON object")

/-- The value of a parameter: an integer that fits a signed word of 64 bits, or else a string. -/
def paramValue (raw : Text) : Value :=
  match Numeral.toInt64? raw with
  | some number => .number number
  | none => .string raw

/-- The data that a command renders against. Parameters replace what a file gives. -/
def renderData (files : Files) (options : RenderOptions) : Except Failure Fields := do
  let data ← match options.data with
    | none => .ok []
    | some path => loadData files path
  return options.params.foldl (fun data (name, raw) => Dictionary.insert data name (paramValue raw))
    data

def readTemplate (files : Files) (what : String) (path : Text) : Except Failure Text :=
  (files.read path).mapError fun error => Failure.ofFile what path error.name

/-! ## Commands -/

def render (files : Files) (options : RenderOptions) : Outcome :=
  let prepared : Except Failure (Renderer × Fields × Template) := do
    let delimiters ← loadDelimiters files options.delimiters
    let data ← renderData files options
    let renderer : Renderer :=
      { delimiters := delimiters
        registry := .standard
        mode := if options.strict then .strict else .lenient
        maxDepth := options.maxDepth }
    let source ← readTemplate files "Failed to read template" options.file
    match renderer.parse source with
    | .ok template => return (renderer, data, template)
    | .error error =>
        throw (.ofDiagnostic options.file error (.ofError source delimiters.blockClose error))
  match prepared with
  | .error failure => failure.outcome []
  | .ok (renderer, data, template) =>
      match renderer.renderTemplate template data with
      | .ok text =>
          let output :=
            if options.json then Record.write 0 [("result".toList, .text text)] ++ ['\n'] else text
          ⟨Outcome.success, output, []⟩
      | .error error =>
          let errors :=
            if options.json then
              Record.write 0 [("error".toList, .text error.message.toList)] ++ ['\n']
            else "Render error: ".toList ++ error.message.toList ++ ['\n']
          ⟨Outcome.dataError, [], errors⟩

structure Checked where
  file : Text
  error? : Option TemplateError
  deriving DecidableEq, Repr

namespace Checked

def record (checked : Checked) : Record :=
  ("file".toList, .text checked.file) ::
    match checked.error? with
    | none => [("ok".toList, .truth true)]
    | some error =>
        [("ok".toList, .truth false), ("error".toList, .text error.message.toList),
          ("line".toList, .number error.place.line), ("column".toList, .number error.place.column)]

end Checked

def checkFile (files : Files) (delimiters : Delimiters) (maxDepth : Nat) (path : Text) :
    Except Failure (Checked × Option Failure) := do
  let source ← readTemplate files "Failed to read" path
  match Template.parse delimiters .strict maxDepth source with
  | .ok _ => return (⟨path, none⟩, none)
  | .error error =>
      return (⟨path, some error⟩,
        some (.ofDiagnostic path error (.ofError source delimiters.blockClose error)))

/-- Checks files in order, up to the first one that cannot be read. Gives the results, what is said
about each malformed file, and the failure. -/
def checkFiles (files : Files) (delimiters : Delimiters) (maxDepth : Nat) :
    (paths : List Text) → List Checked × List Failure × Option Failure
  | [] => ([], [], none)
  | path :: paths =>
      match checkFile files delimiters maxDepth path with
      | .error failure => ([], [], some failure)
      | .ok (checked, report) =>
          let (results, reports, failure) := checkFiles files delimiters maxDepth paths
          (checked :: results, report.toList ++ reports, failure)

def check (colored : Bool) (files : Files) (options : CheckOptions) : Outcome :=
  match loadDelimiters files options.delimiters with
  | .error failure => failure.outcome []
  | .ok delimiters =>
      let (results, reports, failure) :=
        checkFiles files delimiters options.maxDepth options.files
      let passed := results.filter (·.error?.isNone)
      let listing :=
        if options.json then []
        else passed.flatMap fun checked =>
          paint colored .green "ok".toList ++ (' ' :: (checked.file ++ ['\n']))
      let reported := if options.json then [] else reports.flatMap (· ++ ['\n'])
      match failure with
      | some failure => failure.outcome listing reported
      | none =>
          let failed := results.length - passed.length
          let code := if failed = 0 then Outcome.success else Outcome.dataError
          if options.json then ⟨code, writeRecords (results.map Checked.record) ++ ['\n'], []⟩
          else if failed = 0 then ⟨code, listing, []⟩
          else
            let summary := s!"{failed} of {options.files.length} file(s) failed".toList
            ⟨code, listing, reported ++ paint colored .red summary ++ ['\n']⟩

def tokens (colored : Bool) (files : Files) (options : TokensOptions) : Outcome :=
  let prepared : Except Failure Pairing := do
    let delimiters ← loadDelimiters files options.delimiters
    return .ofText delimiters (← readTemplate files "Failed to read" options.file)
  match prepared with
  | .error failure => failure.outcome []
  | .ok pairing =>
      let listing :=
        if options.json then writeRecords (pairing.tags.map Record.ofTag)
        else Text.join ['\n'] (Table.ofTags pairing.tags).lines
      let warnings := pairing.unterminated.flatMap fun opening =>
        paint colored .yellow "warning:".toList ++
          s!" '{String.ofList opening.lexeme}' at byte {opening.position} is never closed\n".toList
      ⟨Outcome.success, listing ++ ['\n'], warnings⟩

def versionLine : Text := "breakout 0.1.0\n".toList

def usageText : Text :=
  ("Usage: breakout [--color <auto|always|never>] [--verbose] <command>\n\n" ++
    "  render <file>    Render a template file\n" ++
    "  check <file>...  Check template files in strict mode\n" ++
    "  tokens <file>    List the tags found in a template file\n").toList

/-- Whether to write in colors. Where it is left open, the output is taken not to be a terminal. -/
def ColorChoice.colored : ColorChoice → Bool
  | .always => true
  | .auto | .never => false

def Request.run (files : Files) : Request → Outcome
  | .render _ options => Command.render files options
  | .check color options => Command.check color.colored files options
  | .tokens color options => Command.tokens color.colored files options
  | .version => ⟨Outcome.success, versionLine, []⟩
  | .help => ⟨Outcome.success, usageText, []⟩

def run (files : Files) (arguments : List Text) : Outcome :=
  match Request.read arguments with
  | .ok request => request.run files
  | .error error => ⟨Outcome.usage, [], s!"error: {error.message}\n".toList ++ usageText⟩

end Stencil.Command
