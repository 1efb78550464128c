/-!
The arguments of the command line. Options that concern rendering may stand before and after the
name of the command; what is given after it counts.
-/

namespace Stencil.Command

/-- An option that takes a value. -/
inductive Valued where
  | config
  | output
  | included
  | excluded
  | suffix
  deriving DecidableEq, Repr

/-- What one argument is, by its form. -/
inductive Word where
  | valued (option : Valued) (attached : Option String)
  | dryRun
  | help
  | version
  /-- Two dashes: all arguments after them are operands. -/
  | separator
  | operand (text : String)
  | unknown
  deriving DecidableEq, Repr

inductive Verb where
  | init
  | render
  | name
  deriving DecidableEq, Repr

/-- The option of a long name. Only the command that prints a name has a suffix. -/
def Valued.ofLong? (command : Option Verb) (long : String) : Option Valued :=
  match long with
  | "config" => some .config
  | "output" => some .output
  | "include" => some .included
  | "exclude" => some .excluded
  | "suffix" => if command = some .name then some .suffix else none
  | _ => none

/-- The text after an equals sign, if there is one. -/
def afterEquals? (text : List Char) : Option String :=
  match text.dropWhile (· ≠ '=') with
  | [] => none
  | _ :: rest => some (String.ofList rest)

/-- A value that follows a one-letter option, with or without an equals sign. -/
def attachedValue? : List Char → Option String
  | [] => none
  | '=' :: rest => some (String.ofList rest)
  | rest => some (String.ofList rest)

/-- Reads the form of an argument. A lone dash is an operand. -/
def Word.of (command : Option Verb) (arg : String) : Word :=
  match arg.toList with
  | ['-', '-'] => .separator
  | '-' :: '-' :: long =>
    let name := String.ofList (long.takeWhile (· ≠ '='))
    match Valued.ofLong? command name, afterEquals? long with
    | some option, attached => .valued option attached
    | none, none =>
      if name = "dry-run" then .dryRun
      else if name = "help" then .help
      else if name = "version" ∧ command.isNone then .version
      else .unknown
    | none, some _ => .unknown
  | '-' :: 'c' :: rest => .valued .config (attachedValue? rest)
  | '-' :: 'o' :: rest => .valued .output (attachedValue? rest)
  | '-' :: 'h' :: _ => .help
  | '-' :: 'V' :: _ => if command.isNone then .version else .unknown
  | '-' :: _ :: _ => .unknown
  | _ => .operand arg

/-- The options given before or after the name of the command. -/
structure Options where
  config : Option String
  output : Option String
  dryRun : Bool
  included : List String
  excluded : List String
  suffix : Option String
  deriving DecidableEq, Repr

namespace Options

def none : Options :=
  ⟨Option.none, Option.none, false, [], [], Option.none⟩

/-- Patterns may be given repeatedly, everything else once; a path may not be empty. -/
def set? (options : Options) (option : Valued) (value : String) : Option Options :=
  match option with
  | .config =>
    if options.config.isSome ∨ value.isEmpty then Option.none
    else some { options with config := some value }
  | .output =>
    if options.output.isSome ∨ value.isEmpty then Option.none
    else some { options with output := some value }
  | .included => some { options with included := options.included ++ [value] }
  | .excluded => some { options with excluded := options.excluded ++ [value] }
  | .suffix =>
    if options.suffix.isSome then Option.none else some { options with suffix := some value }

/-- The options of a run: those after the command's name, and for each that is not among them the
one before it. -/
def withFallback (inner outer : Options) : Options where
  config := inner.config <|> outer.config
  output := inner.output <|> outer.output
  dryRun := inner.dryRun || outer.dryRun
  included := if inner.included.isEmpty then outer.included else inner.included
  excluded := if inner.excluded.isEmpty then outer.excluded else inner.excluded
  suffix := inner.suffix

end Options

/-- Why arguments are not run. -/
inductive Stop where
  | usage
  | help
  | version
  deriving DecidableEq, Repr

/-- The command of a name. -/
def Verb.of? (text : String) : Option Verb :=
  match text with
  | "init" => some .init
  | "render" => some .render
  | "name" => some .name
  | _ => none

/-- Whether help can be given on a topic: on everything, on a command, or on help. -/
def isHelpTopic (topic : List String) : Bool :=
  match topic with
  | [] => true
  | [text] => (Verb.of? text).isSome || text = "help"
  | _ => false

/-- The arguments of one level: its options, its operands, and the command with the arguments after
its name. Before a command there are no operands, and after it no further command. -/
structure Level where
  options : Options
  operands : List String
  next : Option (Verb × List String)

/-- Reads arguments up to the name of a command, or to the end. An option without an attached value
takes the next argument, unless that looks like an option. -/
def readLevel (command : Option Verb) (options : Options) (operands : List String) :
    List String → Except Stop Level
  | [] => .ok ⟨options, operands, none⟩
  | arg :: rest =>
    match Word.of command arg with
    | .unknown => .error .usage
    | .help => .error .help
    | .version => .error .version
    | .separator =>
      if command.isNone ∧ !rest.isEmpty then .error .usage
      else .ok ⟨options, operands ++ rest, none⟩
    | .dryRun =>
      if options.dryRun then .error .usage
      else readLevel command { options with dryRun := true } operands rest
    | .valued option (some value) =>
      match options.set? option value with
      | some options => readLevel command options operands rest
      | none => .error .usage
    | .valued option none =>
      match rest with
      | [] => .error .usage
      | value :: rest =>
        match Word.of command value, options.set? option value with
        | .operand _, some options => readLevel command options operands rest
        | _, _ => .error .usage
    | .operand text =>
      if command.isSome then readLevel command options (operands ++ [text]) rest
      else
        match Verb.of? text with
        | some verb => .ok ⟨options, operands, some (verb, rest)⟩
        | none => .error (if text = "help" ∧ isHelpTopic rest then .help else .usage)

/-- What a run is to do. -/
inductive Task where
  | init (folder : String)
  | render (options : Options)
  | name (identifier : String) (suffix : Option String)
  deriving DecidableEq, Repr

/-- The task of a command with its operands. -/
def taskOf (verb : Verb) (options : Options) (operands : List String) : Except Stop Task :=
  match verb, operands with
  | .init, [] => .ok (.init ".")
  | .init, [folder] => if folder.isEmpty then .error .usage else .ok (.init folder)
  | .render, [] => .ok (.render options)
  | .name, [identifier] => .ok (.name identifier options.suffix)
  | _, _ => .error .usage

/-- The task that arguments ask for. Without a command, templates are rendered. -/
def Task.ofArgs (args : List String) : Except Stop Task := do
  let outer ← readLevel none Options.none [] args
  match outer.next with
  | none => .ok (.render outer.options)
  | some (verb, rest) =>
    let inner ← readLevel (some verb) Options.none [] rest
    taskOf verb (inner.options.withFallback outer.options) inner.operands

end Stencil.Command
