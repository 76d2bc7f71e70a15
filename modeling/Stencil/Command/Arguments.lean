import Stencil.Numeral.Integer
import Stencil.Renderer

/-!
# Command line arguments

The arguments name one of the commands `render`, `check` and `tokens`, with options before or after
its files. An option has a long name after two dashes, and some have a letter after one dash.
Options that take a value have it after an equals sign or as the next argument; letters may also
have it right behind them, and letters without values may be run together. No option but `-p` may be
repeated. What follows two dashes alone is no option.
-/

set_option autoImplicit false

namespace Stencil.Command

/-! ## Commands -/

/-- When to write in colors. -/
inductive ColorChoice where
  | auto
  | always
  | never
  deriving DecidableEq, Repr, Inhabited

structure RenderOptions where
  file : Text
  data : Option Text
  /-- Names and raw values that are put into the data. -/
  params : List (Text × Text)
  delimiters : Option Text
  strict : Bool
  maxDepth : Nat
  json : Bool
  deriving DecidableEq, Repr

structure CheckOptions where
  files : List Text
  delimiters : Option Text
  maxDepth : Nat
  json : Bool
  deriving DecidableEq, Repr

structure TokensOptions where
  file : Text
  delimiters : Option Text
  json : Bool
  deriving DecidableEq, Repr

/-- What the arguments ask for. -/
inductive Request where
  | render (color : ColorChoice) (options : RenderOptions)
  | check (color : ColorChoice) (options : CheckOptions)
  | tokens (color : ColorChoice) (options : TokensOptions)
  | version
  | help
  deriving DecidableEq, Repr

/-- Why arguments cannot be understood. -/
inductive UsageError where
  | missingCommand
  | unknownCommand (name : Text)
  /-- There is no such option, or no file is expected. -/
  | unexpected (argument : Text)
  /-- An option needs a value, or has an empty one. -/
  | missingValue (option : Text)
  /-- An option without value has one. -/
  | needlessValue (option : Text)
  /-- The value of an option cannot be read. -/
  | invalidValue (option value : Text)
  | repeated (option : Text)
  | missingFile
  deriving DecidableEq, Repr

def UsageError.message : UsageError → String
  | missingCommand => "a command is required: render, check or tokens"
  | unknownCommand name => s!"there is no command '{String.ofList name}'"
  | unexpected argument => s!"unexpected argument '{String.ofList argument}'"
  | missingValue option => s!"a value is required for '{String.ofList option}'"
  | needlessValue option => s!"'{String.ofList option}' takes no value"
  | invalidValue option value =>
      s!"invalid value '{String.ofList value}' for '{String.ofList option}'"
  | repeated option => s!"'{String.ofList option}' cannot be used more than once"
  | missingFile => "a file is required"

/-! ## Options -/

inductive OptionName where
  | color | verbose | help | version | data | param | delimiters | strict | maxDepth | json
  deriving DecidableEq, Repr

namespace OptionName

def all : List OptionName :=
  [color, verbose, help, version, data, param, delimiters, strict, maxDepth, json]

def long : OptionName → Text
  | color => "color".toList
  | verbose => "verbose".toList
  | help => "help".toList
  | version => "version".toList
  | data => "data".toList
  | param => "param".toList
  | delimiters => "delimiters".toList
  | strict => "strict".toList
  | maxDepth => "max-depth".toList
  | json => "json".toList

def letter? : OptionName → Option Char
  | verbose => some 'v'
  | help => some 'h'
  | version => some 'V'
  | param => some 'p'
  | _ => none

def takesValue : OptionName → Bool
  | color | data | param | delimiters | maxDepth => true
  | verbose | help | version | strict | json => false

end OptionName

/-- A value of an option that can be read. -/
inductive OptionValue where
  | absent
  | color (choice : ColorChoice)
  | path (file : Text)
  | param (name raw : Text)
  | limit (levels : Nat)
  deriving DecidableEq, Repr

def OptionValue.read (option : OptionName) (raw : Text) : Except UsageError OptionValue :=
  match option with
  | .color =>
      if raw = "auto".toList then .ok (.color .auto)
      else if raw = "always".toList then .ok (.color .always)
      else if raw = "never".toList then .ok (.color .never)
      else .error (.invalidValue option.long raw)
  | .data | .delimiters => if raw = [] then .error (.missingValue option.long) else .ok (.path raw)
  | .param =>
      match Text.breakOn? ['='] raw with
      | some (name, value) => .ok (.param name value)
      | none => .error (.invalidValue option.long raw)
  | .maxDepth =>
      match Numeral.toNat? raw with
      | some number =>
          if number < Nat.pow 2 64 then .ok (.limit number)
          else .error (.invalidValue option.long raw)
      | none => .error (.invalidValue option.long raw)
  | .verbose | .help | .version | .strict | .json => .error (.needlessValue option.long)

/-- What has been read of the arguments of a command. -/
structure Given where
  options : List (OptionName × OptionValue)
  files : List Text
  deriving DecidableEq, Repr, Inhabited

namespace Given

def nothing : Given := ⟨[], []⟩

def add (given : Given) (option : OptionName) (value : OptionValue) : Except UsageError Given :=
  if option ≠ .param ∧ given.options.any (·.1 = option) then .error (.repeated option.long)
  else .ok { given with options := given.options ++ [(option, value)] }

def has (given : Given) (option : OptionName) : Bool := given.options.any (·.1 = option)

def path? (given : Given) (option : OptionName) : Option Text :=
  given.options.findSome? fun
    | (name, .path file) => if name = option then some file else none
    | _ => none

def color? (given : Given) : Option ColorChoice :=
  given.options.findSome? fun
    | (_, .color choice) => some choice
    | _ => none

def maxDepth (given : Given) : Nat :=
  (given.options.findSome? fun
    | (_, .limit levels) => some levels
    | _ => none).getD Renderer.defaultMaxDepth

def params (given : Given) : List (Text × Text) :=
  given.options.filterMap fun
    | (_, .param name raw) => some (name, raw)
    | _ => none

end Given

/-! ## Reading arguments -/

/-- Where the reading stands. -/
inductive Cursor where
  | between
  | value (option : OptionName)
  /-- After two dashes alone. -/
  | filesOnly
  deriving DecidableEq, Repr

inductive Step where
  | go (cursor : Cursor) (given : Given)
  /-- An option that is answered at once. -/
  | answer (request : Request)

/-- Takes an option, with its value if it is attached. -/
def takeOption (option : OptionName) (attached : Option Text) (given : Given) :
    Except UsageError Step :=
  if option.takesValue then
    match attached with
    | none => .ok (.go (.value option) given)
    | some raw => do return .go .between (← given.add option (← OptionValue.read option raw))
  else if attached.isSome then .error (.needlessValue option.long)
  else
    match option with
    | .help => .ok (.answer .help)
    | .version => .ok (.answer .version)
    | _ => do return .go .between (← given.add option .absent)

/-- Takes a run of letters after one dash. What follows the letter of an option with a value is that
value, after an equals sign that may stand between them. -/
def takeLetters (known : List OptionName) : (letters : Text) → (given : Given) →
    Except UsageError Step
  | [], given => .ok (.go .between given)
  | letter :: rest, given =>
      match known.find? (·.letter? = some letter) with
      | none => .error (.unexpected ['-', letter])
      | some option =>
          if option.takesValue then
            match rest with
            | [] => takeOption option none given
            | '=' :: raw => takeOption option (some raw) given
            | raw => takeOption option (some raw) given
          else do
            match ← takeOption option none given with
            | .answer request => return .answer request
            | .go _ given => takeLetters known rest given

def takeDashed (known : List OptionName) (argument : Text) (given : Given) :
    Except UsageError Step :=
  match argument with
  | '-' :: '-' :: name =>
      let (name, attached) :=
        match Text.breakOn? ['='] name with
        | some (name, raw) => (name, some raw)
        | none => (name, none)
      match known.find? (·.long = name) with
      | none => .error (.unexpected argument)
      | some option => takeOption option attached given
  | '-' :: letters => takeLetters known letters given
  | _ => .error (.unexpected argument)

/-- Whether an argument is an option. A dash alone is a file. -/
def isDashed : Text → Bool
  | '-' :: _ :: _ => true
  | _ => false

inductive CommandName where
  | render | check | tokens
  deriving DecidableEq, Repr

namespace CommandName

def all : List CommandName := [render, check, tokens]

def text : CommandName → Text
  | render => "render".toList
  | check => "check".toList
  | tokens => "tokens".toList

def ofText? (name : Text) : Option CommandName := all.find? (·.text = name)

/-- The options that may follow a command. -/
def options : CommandName → List OptionName
  | render => [.color, .verbose, .help, .data, .param, .delimiters, .strict, .maxDepth, .json]
  | check => [.color, .verbose, .help, .delimiters, .maxDepth, .json]
  | tokens => [.color, .verbose, .help, .delimiters, .json]

def takesManyFiles : CommandName → Bool
  | check => true
  | render | tokens => false

end CommandName

def takeFile (command : CommandName) (file : Text) (given : Given) : Except UsageError Given :=
  if file = [] then .error .missingFile
  else if given.files ≠ [] ∧ command.takesManyFiles = false then .error (.unexpected file)
  else .ok { given with files := given.files ++ [file] }

/-- Reads the arguments after the name of a command, unless an option among them is answered at
once. -/
def readGiven (command : CommandName) :
    (arguments : List Text) → Cursor → Given → Except UsageError (Request ⊕ Given)
  | [], .value option, _ => .error (.missingValue option.long)
  | [], _, given => .ok (.inr given)
  | argument :: arguments, cursor, given =>
      match cursor with
      | .value option =>
          if isDashed argument then .error (.missingValue option.long)
          else do
            let given ← given.add option (← OptionValue.read option argument)
            readGiven command arguments .between given
      | .filesOnly => do readGiven command arguments .filesOnly (← takeFile command argument given)
      | .between =>
          if argument = ['-', '-'] then readGiven command arguments .filesOnly given
          else if isDashed argument then do
            match ← takeDashed command.options argument given with
            | .answer request => return .inl request
            | .go cursor given => readGiven command arguments cursor given
          else do readGiven command arguments .between (← takeFile command argument given)

/-- What is asked for by a command and what was given with it. -/
def toRequest (command : CommandName) (color : ColorChoice) (given : Given) :
    Except UsageError Request :=
  match given.files with
  | [] => .error .missingFile
  | file :: files =>
      match command with
      | .render =>
          .ok (.render color
            { file := file
              data := given.path? .data
              params := given.params
              delimiters := given.path? .delimiters
              strict := given.has .strict
              maxDepth := given.maxDepth
              json := given.has .json })
      | .check =>
          .ok (.check color
            { files := file :: files
              delimiters := given.path? .delimiters
              maxDepth := given.maxDepth
              json := given.has .json })
      | .tokens =>
          .ok (.tokens color
            { file := file
              delimiters := given.path? .delimiters
              json := given.has .json })

/-- The options that may come before a command. -/
def leadingOptions : List OptionName := [.color, .verbose, .help, .version]

/-- The command that explains the others. -/
def helpName : Text := "help".toList

/-- Reads the arguments after the name of the command that explains the others: nothing, or the name
of one command. No command has commands of its own. -/
def readHelp : (arguments : List Text) → Except UsageError Request
  | [] => .ok .help
  | name :: further =>
      if name ≠ helpName ∧ (CommandName.ofText? name).isNone then .error (.unknownCommand name)
      else
        match further with
        | [] => .ok .help
        | next :: _ => .error (.unknownCommand next)

def readFrom : (arguments : List Text) → Cursor → Given → Except UsageError Request
  | [], .value option, _ => .error (.missingValue option.long)
  | [], _, _ => .error .missingCommand
  | argument :: arguments, cursor, given =>
      match cursor with
      | .value option =>
          if isDashed argument then .error (.missingValue option.long)
          else do
            let given ← given.add option (← OptionValue.read option argument)
            readFrom arguments .between given
      | .filesOnly => .error (.unexpected argument)
      | .between =>
          if argument = ['-', '-'] then readFrom arguments .filesOnly given
          else if isDashed argument then do
            match ← takeDashed leadingOptions argument given with
            | .answer request => return request
            | .go cursor given => readFrom arguments cursor given
          else if argument = helpName then readHelp arguments
          else
            match CommandName.ofText? argument with
            | none => .error (.unknownCommand argument)
            | some command => do
                match ← readGiven command arguments .between .nothing with
                | .inl request => return request
                | .inr later =>
                    let color := (later.color?.or given.color?).getD .auto
                    toRequest command color later

def Request.read (arguments : List Text) : Except UsageError Request :=
  readFrom arguments .between .nothing

end Stencil.Command
