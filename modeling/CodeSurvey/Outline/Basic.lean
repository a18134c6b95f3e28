/-
# Outlines

The outline of a source file lists what the file defines and imports: functions, classes, imports
and module-level variables, each with its line numbers.
-/
namespace CodeSurvey

/-- A function or method. -/
structure FunctionEntry where
  name : String
  /-- The class that the function is defined under, if any. -/
  className : Option String
  /-- The named parameters, in order. -/
  parameters : List String
  /-- The starred parameters with their stars, in order. -/
  variadic : List String
  /-- The number of named parameters that may be given by position and by name. -/
  positionalCount : Nat
  returnType : Option String
  docstring : Option String
  lineStart : Nat
  lineEnd : Nat
  decorators : List String
  isAsync : Bool
  /-- The names that the function calls, each once. -/
  calls : List String
  complexity : Nat
  lineCount : Nat
  deriving Repr, DecidableEq, Inhabited

/-- A class. -/
structure ClassEntry where
  name : String
  bases : List String
  docstring : Option String
  /-- The functions directly in the body of the class. -/
  methods : List String
  decorators : List String
  lineStart : Nat
  lineEnd : Nat
  lineCount : Nat
  deriving Repr, DecidableEq, Inhabited

/-- An import: of whole modules, or of names from a module. -/
inductive ImportEntry where
  /-- Modules, and the aliases that some of them get. -/
  | plain (modules : List String) (aliases : List (String × String)) (line : Nat)
  /-- Names from a module; the level counts the points before the module's name. -/
  | names (source : Option String) (names : List String) (level : Nat) (line : Nat)
  deriving Repr, DecidableEq, Inhabited

/-- A variable assigned at the level of the file. -/
structure GlobalEntry where
  name : String
  line : Nat
  deriving Repr, DecidableEq, Inhabited

/-- What a file defines and imports. -/
structure Outline where
  path : String
  functions : List FunctionEntry
  classes : List ClassEntry
  imports : List ImportEntry
  globals : List GlobalEntry
  deriving Repr, DecidableEq, Inhabited

/-- Whether a function is a method of a class. -/
def FunctionEntry.isMethod (f : FunctionEntry) : Bool :=
  f.className.isSome

/-- The identifier of a function across files: its file, its class if it has one, and its name. -/
def FunctionEntry.qualifiedId (f : FunctionEntry) (file : String) : String :=
  match f.className with
  | some c => file ++ "::" ++ c ++ "." ++ f.name
  | none => file ++ "::" ++ f.name

/-- The modules that an import names. -/
def ImportEntry.modules : ImportEntry → List String
  | plain modules _ _ => modules
  | names source _ _ _ => source.toList

namespace Outline

/-- The outline of a file about which nothing is known. -/
def empty (path : String) : Outline := ⟨path, [], [], [], []⟩

/-- The first class of a given name. -/
def class? (o : Outline) (name : String) : Option ClassEntry :=
  o.classes.find? (·.name = name)

/-- The number of functions and classes. -/
def entityCount (o : Outline) : Nat :=
  o.functions.length + o.classes.length

end Outline

end CodeSurvey
