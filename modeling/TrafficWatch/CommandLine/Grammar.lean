/-!
Command lines: options with and without values, a positional argument, and subcommands with options
of their own. An option is finished when the next one begins, so that faults are found from left to
right.
-/

namespace TrafficWatch.CommandLine

inductive UsageError where
  | unknownArgument
  | invalidValue
  /-- A value of the right form for its option that means nothing. -/
  | valueValidation
  | tooManyValues
  | argumentConflict
  | missingRequiredArgument
  | invalidSubcommand
  /-- Help was asked for. -/
  | displayHelp
  | displayVersion (subcommand : Option String)
deriving DecidableEq, Repr

namespace UsageError

/-- Help and version are asked for; all else is a fault. -/
def isAnswer : UsageError → Bool
  | .displayHelp => true
  | .displayVersion _ => true
  | _ => false

def name : UsageError → String
  | .unknownArgument => "UnknownArgument"
  | .invalidValue => "InvalidValue"
  | .valueValidation => "ValueValidation"
  | .tooManyValues => "TooManyValues"
  | .argumentConflict => "ArgumentConflict"
  | .missingRequiredArgument => "MissingRequiredArgument"
  | .invalidSubcommand => "InvalidSubcommand"
  | .displayHelp => "DisplayHelp"
  | .displayVersion _ => "DisplayVersion"

def message : UsageError → String
  | .unknownArgument => "unexpected argument"
  | .invalidValue => "invalid value for an option"
  | .valueValidation => "invalid value for an option"
  | .tooManyValues => "unexpected value for an option"
  | .argumentConflict => "arguments that cannot be used together"
  | .missingRequiredArgument => "a required argument was not provided"
  | .invalidSubcommand => "unrecognized subcommand"
  | .displayHelp => ""
  | .displayVersion _ => ""

end UsageError

/-- What an option does to the record `σ`. -/
inductive Action (σ : Type) where
  | set (put : σ → σ)
  | take (put : String → σ → Except UsageError σ)
  | stop (reason : UsageError)

structure Parameter (σ : Type) where
  short : Option Char
  long : String
  action : Action σ

structure Grammar (σ : Type) where
  /-- The subcommand whose arguments these are. -/
  subcommand : Option String := none
  parameters : List (Parameter σ)
  /-- What the one positional argument does, if there may be one. -/
  positional : Option (String → σ → σ) := none
  subcommands : List String := []
  /-- What is wrong with a record once the line has ended. -/
  check : σ → Option UsageError := fun _ => none

namespace Parameter

variable {σ α : Type}

def flag (short : Option Char) (long : String) (put : σ → σ) : Parameter σ :=
  ⟨short, long, .set put⟩

def value (short : Option Char) (long : String) (read : String → Except UsageError α)
    (put : α → σ → σ) : Parameter σ :=
  ⟨short, long, .take fun s r => (read s).map (put · r)⟩

def takesValue (p : Parameter σ) : Bool :=
  match p.action with
  | .take _ => true
  | _ => false

end Parameter

/-- An option whose value is awaited, or has come but is not looked at yet. -/
inductive Pending (σ : Type) where
  | none
  | awaiting (p : Parameter σ)
  | holding (p : Parameter σ) (value : String)

structure Progress (σ : Type) where
  record : σ
  /-- The options that have been given. -/
  seen : List String := []
  pending : Pending σ := .none
  positionalGiven : Bool := false
  /-- After two hyphens all arguments are positional. -/
  onlyPositional : Bool := false


namespace Grammar

variable {σ : Type}

/-- Help can be asked for anywhere, and the version too. -/
def all (g : Grammar σ) : List (Parameter σ) :=
  g.parameters ++ [
    ⟨some 'h', "help", .stop .displayHelp⟩,
    ⟨some 'V', "version", .stop (.displayVersion g.subcommand)⟩]

def long? (g : Grammar σ) (name : String) : Option (Parameter σ) := g.all.find? (·.long == name)

def short? (g : Grammar σ) (c : Char) : Option (Parameter σ) := g.all.find? (·.short == some c)

/-- Help is a subcommand of its own where there are others. -/
def hasSubcommand (g : Grammar σ) (name : String) : Bool :=
  g.subcommands.contains name || (! g.subcommands.isEmpty && name == "help")

end Grammar

namespace Progress

variable {σ : Type}

/-- An option must not be given twice. -/
def note (s : Progress σ) (p : Parameter σ) : Except UsageError (Progress σ) :=
  if s.seen.contains p.long then .error .argumentConflict
  else .ok { s with seen := p.long :: s.seen }

def give (s : Progress σ) (p : Parameter σ) (value : String) : Except UsageError (Progress σ) := do
  let s ← s.note p
  match p.action with
  | .take put => pure { s with record := ← put value s.record }
  | _ => .error .tooManyValues

/-- Finishes the option that is under way. -/
def settle (s : Progress σ) : Except UsageError (Progress σ) :=
  match s.pending with
  | .none => .ok s
  | .awaiting _ => .error .invalidValue
  | .holding p value => { s with pending := .none }.give p value

/-- An option, with a value if one is attached to it. -/
def option (s : Progress σ) (p : Parameter σ) (attached : Option String) :
    Except UsageError (Progress σ) :=
  match p.action, attached with
  | .take _, some value => do (← s.settle).give p value
  | .take _, none => do pure { ← s.settle with pending := .awaiting p }
  | .set _, some _ => .error .tooManyValues
  | .stop _, some _ => .error .tooManyValues
  | .set put, none => do
    let s ← (← s.settle).note p
    pure { s with record := put s.record }
  | .stop reason, none => do
    let _ ← s.settle
    .error reason

/-- What follows the name of an option in the same argument, with or without an equals sign. -/
def attachedValue (cs : List Char) : Option String :=
  match cs with
  | [] => none
  | '=' :: t => some (String.ofList t)
  | t => some (String.ofList t)

/-- Options of one letter; the first one that takes a value takes the rest. -/
def letters (g : Grammar σ) : List Char → Progress σ → Except UsageError (Progress σ)
  | [], s => .ok s
  | c :: cs, s =>
    match g.short? c with
    | none => .error .unknownArgument
    | some p =>
      if p.takesValue then s.option p (attachedValue cs)
      else do letters g cs (← s.option p none)

def longOption (g : Grammar σ) (cs : List Char) (s : Progress σ) :
    Except UsageError (Progress σ) :=
  let name := cs.takeWhile (· != '=')
  match g.long? (String.ofList name) with
  | none => .error .unknownArgument
  | some p => s.option p ((cs.drop name.length).tail? |>.map String.ofList)

/-- An argument that is no option. -/
def word (g : Grammar σ) (arg : String) (s : Progress σ) : Except UsageError (Progress σ) :=
  match g.positional with
  | some put =>
    if s.positionalGiven then .error .unknownArgument
    else do
      let s ← s.settle
      pure { s with record := put arg s.record, positionalGiven := true }
  | none =>
    if s.onlyPositional && g.hasSubcommand arg then .error .unknownArgument
    else if g.subcommands.isEmpty then .error .unknownArgument
    else .error .invalidSubcommand

/-- One argument that does not begin a subcommand. -/
def argument (g : Grammar σ) (arg : String) (s : Progress σ) : Except UsageError (Progress σ) :=
  if s.onlyPositional then s.word g arg
  else match arg.toList with
    | ['-', '-'] => .ok { s with onlyPositional := true }
    | '-' :: '-' :: cs => s.longOption g cs
    | '-' :: c :: cs => s.letters g (c :: cs)
    | _ =>
      match s.pending with
      | .awaiting p => .ok { s with pending := .holding p arg }
      | _ => s.word g arg

def isAwaiting (s : Progress σ) : Bool :=
  match s.pending with
  | .awaiting _ => true
  | _ => false

/-- Reads up to the end or to a subcommand, which comes with the arguments after it. -/
def read (g : Grammar σ) : List String → Progress σ →
    Except UsageError (Progress σ × Option (String × List String))
  | [], s => .ok (s, none)
  | arg :: args, s =>
    if ! s.onlyPositional && ! s.isAwaiting && g.hasSubcommand arg then .ok (s, some (arg, args))
    else do read g args (← s.argument g arg)

/-- The record at the end of the line. -/
def finish (g : Grammar σ) (s : Progress σ) : Except UsageError σ := do
  let s ← s.settle
  match g.check s.record with
  | some e => .error e
  | none => pure s.record

end Progress

/-- A line without subcommands. -/
def Grammar.parse {σ : Type} (g : Grammar σ) (start : σ) (args : List String) :
    Except UsageError σ := do
  let (s, _) ← Progress.read g args { record := start }
  s.finish g

end TrafficWatch.CommandLine
