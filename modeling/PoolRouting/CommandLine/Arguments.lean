import PoolRouting.Decimal.Scientific
import PoolRouting.Swap

/-!
Arguments of the command line. Options may come before or behind the command if they concern files;
all others belong to the command. An option's value is checked when the next option begins, so an
unknown argument behind it is reported first.
-/

namespace PoolRouting.CommandLine

/-- Why the arguments name no work to do. -/
inductive UsageError where
  | missingArgument
  | unknownArgument
  | conflict
  | badValue
  | noValue
  | surplusValue
  | unknownCommand
  | missingCommand
  | help
  | version
  | nothingGiven
  deriving DecidableEq

/-- Options that take a value. -/
inductive Flag where
  | config
  | snapshot
  | sender
  | tokenIn
  | tokenOut
  | amountIn
  | amountOut
  | tolerance
  deriving DecidableEq

inductive Verb where
  | quote
  | transactions
  deriving DecidableEq

def Verb.ofName? : String → Option Verb
  | "quote" => some .quote
  | "transactions" => some .transactions
  | _ => none

/-- Where an argument stands: before the command, or behind it. -/
inductive Level where
  | top
  | command (verb : Verb)
  deriving DecidableEq

def fileFlags : List (String × Flag) := [("config", .config), ("snapshot", .snapshot)]

def swapFlags : List (String × Flag) :=
  [("token-in", .tokenIn), ("token-out", .tokenOut), ("amount-in", .amountIn),
    ("amount-out", .amountOut), ("tolerance", .tolerance)]

/-- The options known at a level, by name. -/
def Level.flags : Level → List (String × Flag)
  | .top => fileFlags
  | .command .quote => fileFlags ++ swapFlags
  | .command .transactions => ("sender", .sender) :: (fileFlags ++ swapFlags)

/-- The options that a level cannot do without. -/
def Level.needed : Level → List Flag
  | .top => []
  | .command .quote => [.tokenIn, .tokenOut]
  | .command .transactions => [.sender, .tokenIn, .tokenOut]

/-- File names may not be empty; amounts and tolerances must be readable. -/
def Flag.check (flag : Flag) (value : String) : Except UsageError Unit :=
  match flag with
  | .config => if value = "" then .error .noValue else .ok ()
  | .snapshot => if value = "" then .error .noValue else .ok ()
  | .amountIn => if (Amount.ofText? value).isSome then .ok () else .error .badValue
  | .amountOut => if (Amount.ofText? value).isSome then .ok () else .error .badValue
  | .tolerance => if (Decimal.ofText? value).isSome then .ok () else .error .badValue
  | _ => .ok ()

/-- An argument by its form. -/
inductive Word where
  | separator
  | long (name : String) (attached : Option String)
  | short (letter : Char)
  | plain (text : String)

/-- A name and what an equals sign attaches to it. -/
def Word.ofLong (text : List Char) : Word :=
  let name := String.ofList (text.takeWhile (· ≠ '='))
  match text.dropWhile (· ≠ '=') with
  | [] => .long name none
  | _ :: value => .long name (some (String.ofList value))

-- A lone dash is a value like any other.
def Word.ofText (text : String) : Word :=
  match text.toList with
  | ['-', '-'] => .separator
  | '-' :: '-' :: rest => Word.ofLong rest
  | '-' :: letter :: _ => .short letter
  | _ => .plain text

/-- The options of one level read so far. -/
structure Options where
  values : List (Flag × String)
  /-- The last option, with its value if that has been seen. -/
  pending : Option (Flag × Option String)
  /-- Behind a separator nothing is an option. -/
  closed : Bool

namespace Options

def empty : Options := ⟨[], none, false⟩

/-- No option may be given twice. -/
def accept (options : Options) (flag : Flag) (value : String) : Except UsageError Options :=
  if (options.values.lookup flag).isSome then .error .conflict
  else
    (flag.check value).map fun _ =>
      { options with values := (flag, value) :: options.values, pending := none }

def settle (options : Options) : Except UsageError Options :=
  match options.pending with
  | none => .ok options
  | some (_, none) => .error .noValue
  | some (flag, some value) => options.accept flag value

def awaitsValue (options : Options) : Bool :=
  match options.pending with
  | some (_, none) => true
  | _ => false

/-- A plain word completes the option before it, or belongs to nothing. -/
def supply (options : Options) (value : String) : Option Options :=
  match options.pending with
  | some (flag, none) => some { options with pending := some (flag, some value) }
  | _ => none

/-- Help and version end the work as soon as they are read. -/
def interrupt (options : Options) (reason : UsageError) : Except UsageError Options :=
  options.settle.bind fun _ => .error reason

def long (level : Level) (options : Options) (name : String) (attached : Option String) :
    Except UsageError Options :=
  match level.flags.lookup name with
  | some flag =>
    options.settle.bind fun options =>
      match attached with
      | some value => options.accept flag value
      | none => .ok { options with pending := some (flag, none) }
  | none =>
    if name = "help" ∨ (name = "version" ∧ level = .top) then
      if attached.isSome then .error .surplusValue
      else options.interrupt (if name = "help" then .help else .version)
    else .error .unknownArgument

def short (level : Level) (options : Options) (letter : Char) : Except UsageError Options :=
  if letter = 'h' then options.interrupt .help
  else if letter = 'V' ∧ level = .top then options.interrupt .version
  else .error .unknownArgument

end Options

/-- A word in a place where none may stand. -/
def Level.stray (level : Level) (closed : Bool) (word : String) : UsageError :=
  match level with
  | .command _ => .unknownArgument
  | .top =>
    if closed ∧ ((Verb.ofName? word).isSome ∨ word = "help") then .unknownArgument
    else .unknownCommand

/-- One argument that begins no command. -/
def Options.read (level : Level) (options : Options) (argument : String) :
    Except UsageError Options :=
  if options.closed then .error (level.stray true argument)
  else
    match Word.ofText argument with
    | .separator => .ok { options with closed := true }
    | .long name attached => options.long level name attached
    | .short letter => options.short level letter
    | .plain text =>
      match options.supply text with
      | some options => .ok options
      | none => .error (level.stray false text)

/-- All arguments behind a command. -/
def readCommand (verb : Verb) (options : Options) : List String → Except UsageError Options
  | [] => options.settle
  | argument :: rest =>
    (options.read (.command verb) argument).bind fun options => readCommand verb options rest

/-- The help command explains itself or one command. -/
def helpCommand : List String → UsageError
  | [] => .help
  | ["help"] => .help
  | [word] => if (Verb.ofName? word).isSome then .help else .unknownCommand
  | _ => .unknownCommand

/-- Only one side of the swap may be fixed, and nothing that is needed may be missing. -/
def checkComplete (verb : Verb) (options : Options) : Except UsageError Unit :=
  let given (flag : Flag) : Bool := (options.values.lookup flag).isSome
  if given .amountIn && given .amountOut then .error .conflict
  else if (Level.needed (.command verb)).all given then .ok ()
  else .error .missingArgument

/-- A command with its own options and those in front of it. -/
structure Parsed where
  verb : Verb
  before : Options
  after : Options

-- The options in front of a command are settled after those behind it.
/-- Reads the arguments up to the command and the rest with it. -/
def parse (options : Options) : List String → Except UsageError Parsed
  | [] =>
    options.settle.bind fun options =>
      .error (if options.values.isEmpty then .nothingGiven else .missingCommand)
  | argument :: rest =>
    let command := if options.closed || options.awaitsValue then none else some argument
    match command.bind Verb.ofName? with
    | some verb =>
      (readCommand verb Options.empty rest).bind fun after =>
        (checkComplete verb after).bind fun _ =>
          options.settle.map fun before => ⟨verb, before, after⟩
    | none =>
      if command = some "help" then .error (helpCommand rest)
      else (options.read .top argument).bind fun options => parse options rest

/-- What to do. -/
inductive Command where
  | quote
  | transactions (sender : Address)

structure Invocation where
  config : Option String
  snapshot : String
  command : Command
  request : SwapRequest

namespace Parsed

def value? (parsed : Parsed) (flag : Flag) : Option String := parsed.after.values.lookup flag

/-- A file named behind the command goes before one named in front of it. -/
def file? (parsed : Parsed) (flag : Flag) : Option String :=
  (parsed.value? flag).or (parsed.before.values.lookup flag)

def text (parsed : Parsed) (flag : Flag) : String := (parsed.value? flag).getD ""

def tolerance (parsed : Parsed) : Decimal :=
  ((parsed.value? .tolerance).bind Decimal.ofText?).getD ⟨false, 1, 2, by decide, by decide⟩

/-- Identifiers are taken as they stand. -/
def invocation (parsed : Parsed) : Invocation :=
  { config := parsed.file? .config
    snapshot := (parsed.file? .snapshot).getD "snapshot.json"
    command :=
      match parsed.verb with
      | .quote => .quote
      | .transactions => .transactions ⟨parsed.text .sender⟩
    request :=
      { tokenIn := ⟨parsed.text .tokenIn⟩
        tokenOut := ⟨parsed.text .tokenOut⟩
        amountIn := (parsed.value? .amountIn).bind Amount.ofText?
        amountOut := (parsed.value? .amountOut).bind Amount.ofText?
        tolerance := parsed.tolerance } }

end Parsed

def Invocation.ofArguments (arguments : List String) : Except UsageError Invocation :=
  (parse Options.empty arguments).map Parsed.invocation

end PoolRouting.CommandLine
