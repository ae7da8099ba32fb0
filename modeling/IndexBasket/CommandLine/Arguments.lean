import IndexBasket.Number.Digits

namespace IndexBasket

namespace CommandLine

inductive Command
  | run (scenario : String) (dryRun force : Bool) (maxRounds : Option Nat)
  | plan (scenario : String)
  | targets (scenario : String)
deriving DecidableEq

def Command.scenario : Command → String
  | run scenario _ _ _ => scenario
  | plan scenario => scenario
  | targets scenario => scenario

structure Invocation where
  config : String
  command : Command
deriving DecidableEq

inductive Topic
  | program
  | run
  | plan
  | targets
  | help
deriving DecidableEq

inductive Refusal
  | help (topic : Topic)
  | version
  | usage (problem : String)
deriving DecidableEq

inductive Token
  | word (text : String)
  | long (name : String) (value : Option String)
  | short (letters : List Char)
  | escape
deriving DecidableEq

/-- A lone hyphen is a word, and two of them end the options. -/
def Token.ofString (argument : String) : Token :=
  match argument.toList with
  | ['-', '-'] => escape
  | '-' :: '-' :: rest =>
    match rest.dropWhile (· ≠ '=') with
    | [] => long (String.ofList rest) none
    | _ :: value => long (String.ofList (rest.takeWhile (· ≠ '='))) (some (String.ofList value))
  | ['-'] => word argument
  | '-' :: letters => short letters
  | _ => word argument

def count? (text : String) : Option Nat := Digits.below? UInt64.size text.toList

/-- The arguments that a command takes besides one word: its flags, and its
options with what their values have to be. -/
structure Form where
  topic : Topic
  flags : List String := []
  options : List (String × (String → Bool)) := []

structure Found where
  word : Option String := none
  flags : List String := []
  options : List (String × String) := []

def unexpected {α : Type} (argument : String) : Except Refusal α :=
  .error (.usage ("unexpected argument '" ++ argument ++ "' found"))

/-- Reads the arguments of a command from left to right. Nothing may be given
twice, and values are checked before the next argument is looked at. -/
def Form.read (form : Form) (found : Found) (onlyWords : Bool) : List String → Except Refusal Found
  | [] => .ok found
  | argument :: rest =>
    match if onlyWords then .word argument else Token.ofString argument with
    | .escape => form.read found true rest
    | .word text =>
      if found.word.isNone && text ≠ "" then form.read { found with word := some text } onlyWords rest
      else unexpected argument
    | .short letters => if letters.head? = some 'h' then .error (.help form.topic) else unexpected argument
    | .long name value =>
      if name = "help" && value.isNone then .error (.help form.topic)
      else if form.flags.contains name && !found.flags.contains name && value.isNone then
        form.read { found with flags := name :: found.flags } onlyWords rest
      else
        match form.options.lookup name, value with
        | some accepts, some text =>
          if accepts text && (found.options.lookup name).isNone then
            form.read { found with options := (name, text) :: found.options } onlyWords rest
          else unexpected argument
        | some accepts, none =>
          match rest with
          | text :: rest =>
            if Token.ofString text = .word text && accepts text && (found.options.lookup name).isNone then
              form.read { found with options := (name, text) :: found.options } onlyWords rest
            else unexpected argument
          | [] => .error (.usage ("a value is required for '" ++ argument ++ "'"))
        | none, _ => unexpected argument

def runForm : Form :=
  { topic := .run, flags := ["dry-run", "force"], options := [("max-rounds", fun text => (count? text).isSome)] }

def Found.scenario (found : Found) : Except Refusal String :=
  match found.word with
  | some scenario => .ok scenario
  | none => .error (.usage "the following required arguments were not provided: <SCENARIO>")

def readRun (arguments : List String) : Except Refusal Command := do
  let found ← runForm.read {} false arguments
  return .run (← found.scenario) (found.flags.contains "dry-run") (found.flags.contains "force")
    ((found.options.lookup "max-rounds").bind count?)

def readHelp : List String → Refusal
  | [] => .help .program
  | ["run"] => .help .run
  | ["plan"] => .help .plan
  | ["targets"] => .help .targets
  | ["help"] => .help .help
  | _ => .usage "unrecognized subcommand"

def readCommand (name : String) (arguments : List String) : Except Refusal Command := do
  match name with
  | "run" => readRun arguments
  | "plan" => return .plan (← (← ({ topic := .plan } : Form).read {} false arguments).scenario)
  | "targets" => return .targets (← (← ({ topic := .targets } : Form).read {} false arguments).scenario)
  | "help" => throw (readHelp arguments)
  | other => throw (.usage ("unrecognized subcommand '" ++ other ++ "'"))

def defaultConfig : String := "config.toml"

/-- Reads all arguments: options of the program, and then a command with its own. -/
def parse (config : Option String) : List String → Except Refusal Invocation
  | [] => .error (.usage "a subcommand is required")
  | argument :: rest =>
    match Token.ofString argument with
    | .word name => do
      let command ← readCommand name rest
      return { config := config.getD defaultConfig, command }
    | .long "config" (some path) =>
      if config.isNone && path ≠ "" then parse (some path) rest else unexpected argument
    | .long "config" none =>
      match rest with
      | path :: rest =>
        if Token.ofString path = .word path && config.isNone && path ≠ "" then parse (some path) rest
        else unexpected argument
      | [] => .error (.usage "a value is required for '--config <CONFIG>'")
    | .long "help" none => .error (.help .program)
    | .long "version" none => .error .version
    | .short ('h' :: _) => .error (.help .program)
    | .short ('V' :: _) => .error .version
    | _ => unexpected argument

end CommandLine

end IndexBasket
