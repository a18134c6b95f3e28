/-
# Commands

What can be asked of the program on its command line, and how a command line can be wrong.
-/
import CodeSurvey.Graph.CallGraph
import CodeSurvey.Report.Format
import CodeSurvey.Settings.Json

namespace CodeSurvey

/-- What the program is to do. -/
inductive Command where
  /-- Survey the repository and report. -/
  | analyze (format : OutputFormat) (output : Option String) (scope : Option DeadCodeScope)
  /-- List the call chains from a function. -/
  | chains (function : String) (depth : Nat)
  /-- Write a settings file with the defaults. -/
  | init
  deriving Repr, DecidableEq

/-- A command line that makes sense. -/
structure Invocation where
  /-- The path of the repository. -/
  path : String := "."
  /-- The path of a settings file. -/
  config : Option String := none
  logLevel : String := "warn"
  workers : Option Nat := none
  command : Option Command := none
  deriving Repr, DecidableEq

/-- Why a command line is not carried out. -/
inductive UsageError where
  | displayHelp
  | displayVersion
  | invalidValue
  | valueValidation
  | unknownArgument
  | invalidSubcommand
  | missingRequiredArgument
  | argumentConflict
  | tooManyValues
  deriving Repr, DecidableEq

/-- The name of a kind of usage error. -/
def UsageError.name : UsageError → String
  | displayHelp => "DisplayHelp"
  | displayVersion => "DisplayVersion"
  | invalidValue => "InvalidValue"
  | valueValidation => "ValueValidation"
  | unknownArgument => "UnknownArgument"
  | invalidSubcommand => "InvalidSubcommand"
  | missingRequiredArgument => "MissingRequiredArgument"
  | argumentConflict => "ArgumentConflict"
  | tooManyValues => "TooManyValues"

/-- The exit code of a usage error: asking for help is none. -/
def UsageError.exitCode : UsageError → Nat
  | displayHelp => 0
  | displayVersion => 0
  | _ => 2

end CodeSurvey
