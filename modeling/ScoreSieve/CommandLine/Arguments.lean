namespace ScoreSieve.CommandLine

inductive Format
  | text
  | json
  deriving DecidableEq, Repr

inductive ColorMode
  | auto
  | always
  | never
  deriving DecidableEq, Repr

inductive Command
  | check
  | test
  | select
  deriving DecidableEq, Repr

/-- An option that takes a value. -/
inductive Setting
  | config
  | format
  | color
  | limit
  deriving DecidableEq, Repr

/-- An option without a value. -/
inductive Flag
  | noRules
  | verbose
  | quiet
  | help
  | version
  deriving DecidableEq, Repr

/-- Why no command is run. -/
inductive Stop
  /-- The arguments do not fit the usage. -/
  | misused
  /-- Help is asked for, about one command or about all of them. -/
  | help (command : Option Command)
  | version
  deriving DecidableEq, Repr

/-- What the options say on one side of the command. Each may be given once before the command and
once behind it, so the two sides are put together at the end. -/
structure Options where
  config : Option String := none
  format : Option Format := none
  color : Option ColorMode := none
  limit : Option Nat := none
  noRules : Bool := false
  verbose : Bool := false
  quiet : Bool := false
  deriving DecidableEq, Repr

/-- What is to be done, with the arguments of the command. -/
inductive Task
  | check (expression : String)
  | test (expression : String) (candidates : List String)
  | select (expression : String) (file : String) (limit : Nat)
  deriving DecidableEq, Repr

def Task.expression : Task → String
  | .check expression => expression
  | .test expression _ => expression
  | .select expression _ _ => expression

/-- A command line that is in order, with defaults for what it does not say. -/
structure Invocation where
  config : Option String
  format : Format
  color : ColorMode
  applyRules : Bool
  quiet : Bool
  task : Task
  deriving DecidableEq, Repr

def Command.ofName? : String → Option Command
  | "check" => some .check
  | "match" => some .test
  | "filter" => some .select
  | _ => none

/-- An option that is known beside a command, or in front of one if there is none. -/
def optionKnown (command : Option Command) : Setting ⊕ Flag → Bool
  | .inl .limit => command = some .select
  | .inr .version => command = none
  | _ => true

def longOption? (command : Option Command) (word : String) : Option (Setting ⊕ Flag) :=
  let option? : Option (Setting ⊕ Flag) :=
    match word with
    | "config" => some (.inl .config)
    | "format" => some (.inl .format)
    | "color" => some (.inl .color)
    | "limit" => some (.inl .limit)
    | "no-rules" => some (.inr .noRules)
    | "verbose" => some (.inr .verbose)
    | "quiet" => some (.inr .quiet)
    | "help" => some (.inr .help)
    | "version" => some (.inr .version)
    | _ => none
  option?.filter (optionKnown command)

def shortOption? (command : Option Command) (letter : Char) : Option (Setting ⊕ Flag) :=
  let option? : Option (Setting ⊕ Flag) :=
    match letter with
    | 'c' => some (.inl .config)
    | 'F' => some (.inl .format)
    | 'n' => some (.inl .limit)
    | 'v' => some (.inr .verbose)
    | 'q' => some (.inr .quiet)
    | 'h' => some (.inr .help)
    | 'V' => some (.inr .version)
    | _ => none
  option?.filter (optionKnown command)

def Format.ofName? : String → Option Format
  | "text" => some .text
  | "json" => some .json
  | _ => none

def ColorMode.ofName? : String → Option ColorMode
  | "auto" => some .auto
  | "always" => some .always
  | "never" => some .never
  | _ => none

def path? (text : String) : Option String :=
  if text.isEmpty then none else some text

/-- A number below 2^64 in decimal digits, with or without a plus in front. -/
def count? (text : String) : Option Nat :=
  let digits :=
    match text.toList with
    | '+' :: digits => digits
    | digits => digits
  if digits.isEmpty || !digits.all Char.isDigit then none
  else
    let value := digits.foldl (fun value c => 10 * value + (c.toNat - '0'.toNat)) 0
    if value < UInt64.size then some value else none

/-- The state of reading on one side of the command. -/
structure Side where
  command : Option Command
  options : Options := {}
  operands : List String := []
  /-- The option whose value is the next argument. -/
  awaiting : Option Setting := none

namespace Side

def assign {α : Type} (old new : Option α) : Except Stop (Option α) :=
  match old, new with
  | none, some value => .ok (some value)
  | _, _ => .error .misused

def set (side : Side) (setting : Setting) (value : String) : Except Stop Side := do
  let options ←
    match setting with
    | .config => do
      let config ← assign side.options.config (path? value)
      pure { side.options with config }
    | .format => do
      let format ← assign side.options.format (Format.ofName? value)
      pure { side.options with format }
    | .color => do
      let color ← assign side.options.color (ColorMode.ofName? value)
      pure { side.options with color }
    | .limit => do
      let limit ← assign side.options.limit (count? value)
      pure { side.options with limit }
  return { side with options, awaiting := none }

/-- Raises a flag. Only `verbose` may be raised twice. -/
def raise (side : Side) : Flag → Except Stop Side
  | .noRules =>
    if side.options.noRules then .error .misused
    else .ok { side with options := { side.options with noRules := true } }
  | .quiet =>
    if side.options.quiet then .error .misused
    else .ok { side with options := { side.options with quiet := true } }
  | .verbose => .ok { side with options := { side.options with verbose := true } }
  | .help => .error (.help side.command)
  | .version => .error .version

/-- Holds if an argument with a hyphen may be the next operand, which only an expression may. -/
def admitsHyphen (side : Side) : Bool :=
  side.command.isSome && side.operands.isEmpty

/-- An argument that is not an option: the value of an option, or an operand. -/
def addPlain (side : Side) (arg : String) : Except Stop Side :=
  match side.awaiting with
  | some setting => side.set setting arg
  | none =>
    match side.command with
    | some _ => .ok { side with operands := side.operands ++ [arg] }
    | none => .error .misused

/-- The value that is attached to an option by `=` or by nothing. -/
def attached (value : List Char) : String :=
  match value with
  | '=' :: value => String.ofList value
  | value => String.ofList value

/-- Reads the letters after one hyphen. An option with a value takes what is left of them, or the
next argument. -/
def addLetters (side : Side) : List Char → Except Stop Side
  | [] => .ok side
  | letter :: letters =>
    match shortOption? side.command letter with
    | none => .error .misused
    | some (.inr flag) => do (← side.raise flag).addLetters letters
    | some (.inl setting) =>
      if letters.isEmpty then .ok { side with awaiting := some setting }
      else side.set setting (attached letters)

/-- Reads a word after two hyphens, and the value after an `=` in it. -/
def addWord (side : Side) (arg : String) (word : List Char) : Except Stop Side :=
  let name := String.ofList (word.takeWhile (· ≠ '='))
  let value := word.dropWhile (· ≠ '=')
  match longOption? side.command name with
  | none => if side.admitsHyphen then side.addPlain arg else .error .misused
  | some option =>
    if side.awaiting.isSome then .error .misused
    else
      match option with
      | .inr flag => if value.isEmpty then side.raise flag else .error .misused
      | .inl setting =>
        if value.isEmpty then .ok { side with awaiting := some setting }
        else side.set setting (attached value)

/-- Reads an argument that is neither a command nor the mark after which there are no options. -/
def add (side : Side) (arg : String) : Except Stop Side :=
  match arg.toList with
  | '-' :: '-' :: word => side.addWord arg word
  | '-' :: letter :: letters =>
    let letters := letter :: letters
    if side.admitsHyphen && letters.any fun c => (shortOption? side.command c).isNone then
      side.addPlain arg
    else if side.awaiting.isSome then .error .misused
    else side.addLetters letters
  | _ => side.addPlain arg

def addOperands (side : Side) (args : List String) : Except Stop Side :=
  if side.awaiting.isSome || (side.command.isNone && !args.isEmpty) then .error .misused
  else .ok { side with operands := side.operands ++ args }

def close (side : Side) : Except Stop Side :=
  if side.awaiting.isSome || (side.options.quiet && side.options.verbose) then .error .misused
  else .ok side

def addAll (side : Side) : List String → Except Stop Side
  | [] => side.close
  | arg :: args => do
    if arg = "--" then (← side.addOperands args).close
    else (← side.add arg).addAll args

end Side

/-- What follows a request for help, which may name one command. -/
def helpStop : List String → Stop
  | [] => .help none
  | [name] =>
    if name = "help" then .help none
    else
      match Command.ofName? name with
      | some command => .help (some command)
      | none => .misused
  | _ => .misused

/-- Reads the arguments up to the command, and those after it. -/
def readSides (before : Side) : List String → Except Stop (Side × Side)
  | [] => .error .misused
  | arg :: args => do
    if before.awaiting.isNone then
      if arg = "--" then .error .misused
      if arg = "help" then .error (helpStop args)
      if let some command := Command.ofName? arg then
        let after ← ({ command := some command } : Side).addAll args
        return (← before.close, after)
    readSides (← before.add arg) args

def task? (command : Command) (operands : List String) (limit : Nat) : Option Task :=
  match command, operands with
  | .check, [expression] => some (.check expression)
  | .test, expression :: candidate :: candidates =>
    some (.test expression (candidate :: candidates))
  | .select, [expression, file] => (path? file).map (.select expression · limit)
  | _, _ => none

/-- Reads the arguments of a command line. An option after the command wins over the same option
before it, and any of them wins over the profile that the environment names. -/
def Invocation.parse (environment : Option String) (args : List String) :
    Except Stop Invocation := do
  let (before, after) ← readSides { command := none } args
  let some command := after.command | .error .misused
  let some task := task? command after.operands (after.options.limit.getD 100) | .error .misused
  if environment = some "" ∧ (before.options.config.isNone ∨ after.options.config.isNone) then
    .error .misused
  return {
    config := after.options.config <|> before.options.config <|> environment
    format := (after.options.format <|> before.options.format).getD .text
    color := (after.options.color <|> before.options.color).getD .auto
    applyRules := !(before.options.noRules || after.options.noRules)
    quiet := before.options.quiet || after.options.quiet
    task }

end ScoreSieve.CommandLine
