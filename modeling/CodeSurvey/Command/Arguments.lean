/-
# Reading command lines

A command line has a path and a subcommand, and options before and after the subcommand.  The value
of an option is checked when the next argument is settled, so that of two faults the one that is
noticed first is reported.
-/
import CodeSurvey.Command.Basic
import CodeSurvey.Text.Basic
import CodeSurvey.Text.Scan

namespace CodeSurvey

/-! ## Similar words

The Jaro similarity of two words is the share of their letters that occur in both at nearly the same
place, less the letters that are in another order. -/

/-- The position of the first letter equal to `c` that is within reach and not taken. -/
def partner? (c : Char) (i reach : Nat) (word : List Char) (taken : List Nat) : Option Nat :=
  (List.range word.length).find? fun j =>
    i ≤ j + reach && j ≤ i + reach && word[j]? = some c && !taken.contains j

/-- Pairs positions of equal letters of two words that are within reach, each position once. -/
def letterPairs (reach : Nat) (a b : List Char) : List (Nat × Nat) :=
  a.zipIdx.foldl
    (fun pairs (c, i) =>
      match partner? c i reach b (pairs.map (·.2)) with
      | some j => pairs ++ [(i, j)]
      | none => pairs) []

/-- Whether the Jaro similarity of two words is above seven tenths. -/
def isSimilar (a b : List Char) : Bool :=
  let reach := max a.length b.length / 2 - 1
  let pairs := letterPairs reach a b
  let m := pairs.length
  let left := pairs.map fun (i, _) => a[i]?
  let right := ((pairs.map (·.2)).mergeSort (· ≤ ·)).map fun j => b[j]?
  let moved := ((left.zip right).countP fun (x, y) => x ≠ y) / 2
  let p := a.length
  let q := b.length
  if m = 0 then p = 0 && q = 0
  else 21 * p * q * m < 10 * (m * m * q + m * m * p + (m - moved) * p * q)

/-! ## Arguments -/

/-- What an argument gives a value to. -/
inductive Argument where
  | path
  | config
  | logLevel
  | workers
  | format
  | output
  | deadCodeScope
  | function
  | depth
  deriving Repr, DecidableEq

/-- What an option does. -/
inductive OptionEffect where
  | takesValue (a : Argument)
  | showsHelp
  | showsVersion
  deriving Repr, DecidableEq

/-- An option with its long and its short name. -/
structure OptionShape where
  long : String
  short : Option Char
  effect : OptionEffect

/-- The arguments of the program or of one of its subcommands. -/
structure CommandShape where
  options : List OptionShape
  /-- The argument without a name, if there is one. -/
  positional : Option Argument
  /-- Whether that argument has to be given. -/
  isRequired : Bool
  subcommands : List String

/-- Options that may stand before and after the subcommand. -/
def globalOptions : List OptionShape := [
  ⟨"config", none, .takesValue .config⟩,
  ⟨"log-level", none, .takesValue .logLevel⟩,
  ⟨"workers", none, .takesValue .workers⟩,
  ⟨"help", some 'h', .showsHelp⟩]

/-- The arguments of the program. -/
def programShape : CommandShape where
  options := globalOptions ++ [⟨"version", some 'V', .showsVersion⟩]
  positional := some .path
  isRequired := false
  subcommands := ["analyze", "chains", "init", "help"]

/-- The arguments of a subcommand. -/
def subcommandShape : String → CommandShape
  | "analyze" =>
    { options := globalOptions ++ [
        ⟨"format", some 'f', .takesValue .format⟩,
        ⟨"output", some 'o', .takesValue .output⟩,
        ⟨"dead-code-scope", none, .takesValue .deadCodeScope⟩]
      positional := none
      isRequired := false
      subcommands := [] }
  | "chains" =>
    { options := globalOptions ++ [⟨"depth", none, .takesValue .depth⟩]
      positional := some .function
      isRequired := true
      subcommands := [] }
  | _ => ⟨globalOptions, none, false, []⟩

/-! ## Values -/

/-- The natural number of 64 bits that a text stands for; a plus sign may stand before it. -/
def parseNatural? (s : String) : Option Nat := do
  let digits := match s.toList with
    | '+' :: cs => cs
    | cs => cs
  guard (digits ≠ [] ∧ digits.all isAsciiDigit)
  let n := digitsValue 10 digits
  guard (n < Nat.pow 2 64)
  return n

/-- The levels of log messages. -/
def logLevels : List String := ["error", "warn", "info", "debug", "trace"]

/-- The greatest number of workers. -/
def maxWorkers : Nat := 64

/-- Checks the value of an argument. -/
def Argument.check (a : Argument) (v : String) : Except UsageError Unit :=
  let require (holds : Bool) (e : UsageError) : Except UsageError Unit :=
    if holds then .ok () else .error e
  match a with
  | path => require (v ≠ "") .invalidValue
  | config => require (v ≠ "") .invalidValue
  | output => require (v ≠ "") .invalidValue
  | logLevel => require (logLevels.contains v) .invalidValue
  | format => require (v = "text" || v = "json") .invalidValue
  | deadCodeScope => require (DeadCodeScope.ofWord? v).isSome .invalidValue
  | workers =>
    require ((parseNatural? v).any fun n => 0 < n && n ≤ maxWorkers) .valueValidation
  | depth => require (parseNatural? v).isSome .valueValidation
  | function => .ok ()

/-! ## One level of a command line -/

/-- What has been read of the arguments of the program or of a subcommand. -/
structure Level where
  /-- The values that are settled. -/
  values : List (Argument × String) := []
  /-- An argument that is not settled yet, with its value if it has been read. -/
  pending : Option (Argument × Option String) := none
  /-- Whether the argument without a name has been read. -/
  hasPositional : Bool := false
  /-- Whether only arguments without names follow. -/
  isTrailing : Bool := false

namespace Level

/-- The value of an argument. -/
def value? (l : Level) (a : Argument) : Option String :=
  (l.values.find? (·.1 = a)).map (·.2)

/-- Whether the next argument is a value of the last one. -/
def isAwaiting (l : Level) : Bool :=
  match l.pending with
  | some (_, none) => true
  | _ => false

/-- Gives an argument a value, once and if it is valid. -/
def accept (l : Level) (a : Argument) (v : String) : Except UsageError Level := do
  if (l.value? a).isSome then throw .argumentConflict
  a.check v
  return { l with values := l.values ++ [(a, v)] }

/-- Settles the last argument; an option without a value is refused. -/
def settle (l : Level) : Except UsageError Level :=
  match l.pending with
  | none => .ok l
  | some (_, none) => .error .invalidValue
  | some (a, some v) => { l with pending := none }.accept a v

/-- Reads an option, perhaps with a value attached to it. -/
def option (l : Level) (effect : OptionEffect) (attached : Option String) :
    Except UsageError Level :=
  match effect, attached with
  | .takesValue a, some v => do (← l.settle).accept a v
  | .takesValue a, none => do return { ← l.settle with pending := some (a, none) }
  | .showsHelp, none => do
    let _ ← l.settle
    throw .displayHelp
  | .showsVersion, none => do
    let _ ← l.settle
    throw .displayVersion
  | _, some _ => .error .tooManyValues

/-- The fault of an argument that has no place. -/
def misplaced (shape : CommandShape) (l : Level) (arg : String) : UsageError :=
  if l.isTrailing && shape.subcommands.contains arg then .unknownArgument
  else if shape.subcommands.any fun name => isSimilar arg.toList name.toList then .invalidSubcommand
  else .unknownArgument

/-- Reads an argument without a name. -/
def positional (shape : CommandShape) (l : Level) (arg : String) : Except UsageError Level :=
  match shape.positional, l.hasPositional with
  | some a, false => do
    return { ← l.settle with pending := some (a, some arg), hasPositional := true }
  | _, _ => .error (l.misplaced shape arg)

/-- Reads an argument that is neither an option nor a subcommand: the value of the last option, or
an argument without a name. -/
def word (shape : CommandShape) (l : Level) (arg : String) : Except UsageError Level :=
  match l.pending with
  | some (a, none) => .ok { l with pending := some (a, some arg) }
  | _ => l.positional shape arg

/-- The name and the attached value of a long option. -/
def splitLong (cs : List Char) : String × Option String :=
  let name := cs.takeWhile (· ≠ '=')
  let rest := cs.drop name.length
  (String.ofList name, if rest.isEmpty then none else some (String.ofList (rest.drop 1)))

/-- The attached value of a short option; an equals sign may stand before it. -/
def attachedToShort : List Char → Option String
  | [] => none
  | '=' :: cs => some (String.ofList cs)
  | cs => some (String.ofList cs)

/-- Reads an argument where options are known. -/
def argument (shape : CommandShape) (l : Level) (arg : String) : Except UsageError Level :=
  match arg.toList with
  | ['-', '-'] => .ok { l with isTrailing := true }
  | '-' :: '-' :: cs =>
    let (name, attached) := splitLong cs
    match shape.options.find? (·.long = name) with
    | some o => l.option o.effect attached
    | none => .error .unknownArgument
  | ['-'] => l.word shape arg
  | '-' :: c :: cs =>
    match shape.options.find? (·.short = some c) with
    | some o =>
      match o.effect with
      | .takesValue _ => l.option o.effect (attachedToShort cs)
      | _ => l.option o.effect none
    | none => .error .unknownArgument
  | _ => l.word shape arg

/-- Reads arguments up to a subcommand, which is given back with what follows it. -/
def readAll (shape : CommandShape) : List String → Level →
    Except UsageError (Level × Option (String × List String))
  | [], l => .ok (l, none)
  | arg :: args, l =>
    if l.isTrailing then do readAll shape args (← l.positional shape arg)
    else if !l.isAwaiting && shape.subcommands.contains arg then .ok (l, some (arg, args))
    else do readAll shape args (← l.argument shape arg)

/-- Settles the last argument and looks whether what has to be given is there. -/
def finish (shape : CommandShape) (l : Level) : Except UsageError Level := do
  let l ← l.settle
  if shape.isRequired && !l.hasPositional then throw .missingRequiredArgument
  return l

end Level

/-! ## The whole command line -/

/-- What asking for help on subcommands leads to. -/
def helpOn : List String → UsageError
  | [] => .displayHelp
  | [name] => if programShape.subcommands.contains name then .displayHelp else .invalidSubcommand
  | _ => .invalidSubcommand

/-- The command of a subcommand with its arguments. -/
def commandOf (name : String) (l : Level) : Command :=
  match name with
  | "analyze" =>
    .analyze ((l.value? .format).bind OutputFormat.ofWord? |>.getD .text) (l.value? .output)
      ((l.value? .deadCodeScope).bind DeadCodeScope.ofWord?)
  | "chains" =>
    .chains ((l.value? .function).getD "")
      ((l.value? .depth).bind parseNatural? |>.getD CallGraph.defaultChainDepth)
  | _ => .init

/-- The meaning of settled arguments; an option after the subcommand goes before one that stands
before it. -/
def invocationOf (program : Level) (sub : Option (String × Level)) : Invocation :=
  let value? (a : Argument) : Option String :=
    (sub.bind fun (_, l) => l.value? a) <|> program.value? a
  { path := (program.value? .path).getD "."
    config := value? .config
    logLevel := (value? .logLevel).getD "warn"
    workers := (value? .workers).bind parseNatural?
    command := sub.map fun (name, l) => commandOf name l }

/-- Reads a command line. -/
def Invocation.ofArguments (args : List String) : Except UsageError Invocation := do
  let (program, rest) ← Level.readAll programShape args {}
  match rest with
  | none => return invocationOf (← program.finish programShape) none
  | some ("help", names) => throw (helpOn names)
  | some (name, args) =>
    let shape := subcommandShape name
    let (sub, _) ← Level.readAll shape args {}
    let sub ← sub.finish shape
    return invocationOf (← program.finish programShape) (some (name, sub))

end CodeSurvey
