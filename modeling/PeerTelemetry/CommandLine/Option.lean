import PeerTelemetry.Text.Control

/-!
# Options

What a command can be told on the command line. An option is a value: its names, what it
says of itself in the help, and the change that it makes to the draft of the command.
A command is its options together with the draft to begin from and the way to finish one.

Reading the arguments of a command keeps two rules apart. A name that no option has is
wrong at once. What is wrong with the *value* of an option is noticed later, when the next
option is met or the arguments end, unless the value is attached to the name; so
the value of an earlier option and the name of a later one can both be wrong, and the
name is blamed.
-/

namespace PeerTelemetry.CommandLine

/-- **What is wrong with the arguments.** -/
inductive UsageError
  /-- No option, and no place for a value. -/
  | unknownArgument (argument : String)
  /-- The name of a command is wanted, and this is none. -/
  | unknownCommand (name : String)
  /-- An option has no value. -/
  | missingValue (option : String)
  /-- An option that stands once is repeated. -/
  | repeated (option : String)
  /-- An option without values has one attached. -/
  | unneededValue (option : String)
  /-- The value of an option is not of its kind. -/
  | invalidValue (value option reason : String)
  /-- An option is missing that has to be given. -/
  | missingOption (option : String)
  deriving DecidableEq, Repr

namespace UsageError

/-- A text in a style of the terminal, which is given by its number. -/
def inStyle (style : Nat) (text : String) : String := s!"\x1b[{style}m{text}\x1b[0m"

/-- What was typed and is wrong, in yellow. -/
def typed (text : String) : String := s!"'{inStyle 33 text}'"

/-- What could have been typed, in bold. -/
def wanted (text : String) : String := s!"'{inStyle 1 text}'"

/-- The wording of the error for a terminal. -/
def message : UsageError → String
  | unknownArgument argument => s!"unexpected argument {typed argument} found"
  | unknownCommand name => s!"unrecognized subcommand {typed name}"
  | missingValue option => s!"a value is required for {wanted option} but none was supplied"
  | repeated option => s!"the argument {typed option} cannot be used multiple times"
  | unneededValue option => s!"unexpected value for {typed option} found; no more were expected"
  | invalidValue value option reason =>
    s!"invalid value {typed value} for {wanted option}: {reason}"
  | missingOption option =>
    s!"the following required arguments were not provided: {wanted option}"

/-- **The error as plain text**, with a word on where to find help. The styles are dropped from
the whole at the end, because a value may itself open a control sequence, and that sequence
does not end with the value; it may take even the end of the last line. -/
def text (e : UsageError) : List Char :=
  let help := wanted "--help"
  withoutControls s!"error: {e.message}\n\nFor more information, try {help}.\n".toList

end UsageError

/-- What the help is asked about. -/
inductive Topic
  | program
  | listen
  | validate
  | send
  | help
  deriving DecidableEq, Repr

/-- **Why no command comes out of the arguments.** -/
inductive Halt
  | help (topic : Topic)
  | version
  | usage (error : UsageError)
  deriving DecidableEq, Repr

/-- **What an option does** to the draft of a command. -/
inductive Action (δ : Type)
  /-- It stands alone. -/
  | flag (set : δ → δ)
  /-- It takes a value, under the given name; the value can be refused with a reason. -/
  | value (name : String) (store : String → δ → Except String δ)
  /-- It takes a value and may be repeated. -/
  | values (name : String) (store : String → δ → Except String δ)
  /-- It ends the reading. -/
  | halt (halt : Halt)

/-- **An option.** -/
structure OptionSpec (δ : Type) where
  long : String
  short : Option Char := none
  about : String
  required : Bool := false
  action : Action δ

/-- The name of an option, with that of its value. -/
def OptionSpec.label {δ : Type} (o : OptionSpec δ) : String :=
  match o.action with
  | .value name _ | .values name _ => s!"--{o.long} <{name}>"
  | .flag _ | .halt _ => s!"--{o.long}"

/-- **A command** as it is read: its options, and a draft to begin from. -/
structure CommandSpec (δ : Type) where
  topic : Topic
  name : String
  about : String
  options : List (OptionSpec δ)
  start : δ

/-! ## Reading arguments -/

/-- **How far the arguments have been read.** -/
structure Progress (δ : Type) where
  draft : δ
  /-- The options that have made their change. -/
  seen : List String := []
  /-- An option that has been named, and its value once that has been met. -/
  pending : Option (OptionSpec δ × Option String) := none

namespace Progress

variable {δ : Type}

/-- Makes the change of an option that may stand once only. -/
def once (p : Progress δ) (o : OptionSpec δ) (change : δ → Except UsageError δ) :
    Except Halt (Progress δ) :=
  if o.long ∈ p.seen then .error (.usage (.repeated o.label))
  else match change p.draft with
    | .error e => .error (.usage e)
    | .ok draft => .ok { p with draft, seen := o.long :: p.seen }

/-- A value as an option stores it, or the error that refuses it. -/
def stored (o : OptionSpec δ) (store : String → δ → Except String δ) (value : String) (draft : δ) :
    Except UsageError δ :=
  match store value draft with
  | .ok draft => .ok draft
  | .error reason => .error (.invalidValue value o.label reason)

/-- **Gives an option its value.** -/
def give (p : Progress δ) (o : OptionSpec δ) (value : String) : Except Halt (Progress δ) :=
  match o.action with
  | .value _ store => p.once o (stored o store value)
  | .values _ store =>
    match stored o store value p.draft with
    | .error e => .error (.usage e)
    | .ok draft => .ok { p with draft, seen := o.long :: p.seen }
  | .flag _ | .halt _ => .error (.usage (.unneededValue o.label))

/-- **Settles what is pending**: the option gets the value that was met for it. -/
def settle (p : Progress δ) : Except Halt (Progress δ) :=
  match p.pending with
  | none => .ok p
  | some (o, none) => .error (.usage (.missingValue o.label))
  | some (o, some value) => { p with pending := none }.give o value

/-- An option named without a value. -/
def named (p : Progress δ) (o : OptionSpec δ) : Except Halt (Progress δ) := do
  let p ← p.settle
  match o.action with
  | .flag set => p.once o fun draft => .ok (set draft)
  | .halt halt => throw halt
  | .value _ _ | .values _ _ => return { p with pending := some (o, none) }

/-- An option named with a value attached. -/
def attached (p : Progress δ) (o : OptionSpec δ) (value : String) : Except Halt (Progress δ) :=
  match o.action with
  | .flag _ | .halt _ => .error (.usage (.unneededValue o.label))
  | .value _ _ | .values _ _ => do (← p.settle).give o value

/-- An argument that names an option in full, without the dashes. -/
def longOption (options : List (OptionSpec δ)) (p : Progress δ) (text : List Char) :
    Except Halt (Progress δ) :=
  let name := String.ofList (text.takeWhile (· ≠ '='))
  match options.find? (·.long = name) with
  | none => .error (.usage (.unknownArgument s!"--{name}"))
  | some o =>
    match text.dropWhile (· ≠ '=') with
    | [] => p.named o
    | _ :: value => p.attached o (String.ofList value)

/-- An argument that names options by single letters, without the dash. What follows
a letter whose option takes a value is that value, behind an equals sign if there is one. -/
def shortOptions (options : List (OptionSpec δ)) : Progress δ → List Char → Except Halt (Progress δ)
  | p, [] => .ok p
  | p, c :: rest =>
    match options.find? (·.short = some c) with
    | none => .error (.usage (.unknownArgument s!"-{c}"))
    | some o =>
      match o.action with
      | .flag _ | .halt _ => do shortOptions options (← p.named o) rest
      | .value _ _ | .values _ _ =>
        match rest with
        | [] => p.named o
        | '=' :: value => p.attached o (String.ofList value)
        | value => p.attached o (String.ofList value)

/-- An argument that names no option: the value that is waited for, or one too many. -/
def plain (p : Progress δ) (argument : String) : Except Halt (Progress δ) :=
  match p.pending with
  | some (o, none) => .ok { p with pending := some (o, some argument) }
  | _ => .error (.usage (.unknownArgument argument))

end Progress

/-- **Reads the arguments of a command** behind its name. Behind two dashes on their own
there can only be what has no place here. -/
def readArguments {δ : Type} (options : List (OptionSpec δ)) :
    Progress δ → List String → Except Halt (Progress δ)
  | p, [] => p.settle
  | p, argument :: rest =>
    match argument.toList with
    | ['-', '-'] =>
      match rest with
      | [] => p.settle
      | extra :: _ => .error (.usage (.unknownArgument extra))
    | '-' :: '-' :: text => do readArguments options (← p.longOption options text) rest
    | '-' :: c :: text => do readArguments options (← p.shortOptions options (c :: text)) rest
    | _ => do readArguments options (← p.plain argument) rest

/-- **The draft that arguments make of a command**, with all the options it cannot do
without. -/
def CommandSpec.read {δ : Type} (spec : CommandSpec δ) (arguments : List String) :
    Except Halt δ := do
  let p ← readArguments spec.options { draft := spec.start } arguments
  match spec.options.find? fun o => o.required && o.long ∉ p.seen with
  | some o => throw (.usage (.missingOption o.label))
  | none => return p.draft

end PeerTelemetry.CommandLine
