/-
# Detectors

A detector looks at one file and reports smells, by a rule of its own.  There are seven built-in
detectors.
-/
import CodeSurvey.Distinct
import CodeSurvey.Outline.Basic
import CodeSurvey.Settings.Basic
import CodeSurvey.Smell.MagicNumber
import CodeSurvey.Text.LetterCase

namespace CodeSurvey

/-- The calls that keep a function alive. -/
inductive Liveness where
  /-- Calls made in the file itself. -/
  | file
  /-- Calls of the given names, made anywhere. -/
  | repository (names : List String)

/-- What a detector may look at. -/
structure FileContext where
  outline : Outline
  content : String
  thresholds : Thresholds
  liveness : Liveness

/-! ## Length -/

/-- The severity of a length above a limit: high beyond twice the limit. -/
def lengthSeverity (lines limit : Nat) : Severity :=
  if 2 * limit < lines then .high else .medium

/-- Functions that are too long. -/
def longFunctions (limit : Nat) (functions : List FunctionEntry) : List Smell :=
  (functions.filter (limit < ·.lineCount)).map fun f =>
    ⟨f.lineStart, lengthSeverity f.lineCount limit, .longFunction f.name f.lineCount⟩

/-- Classes that are too long. -/
def longClasses (limit : Nat) (classes : List ClassEntry) : List Smell :=
  (classes.filter (limit < ·.lineCount)).map fun c =>
    ⟨c.lineStart, lengthSeverity c.lineCount limit,
      .longClass c.name c.lineCount c.methods.length⟩

/-! ## Documentation and parameters -/

/-- Functions, then classes, without a docstring. -/
def missingDocstrings (o : Outline) : List Smell :=
  ((o.functions.filter (·.docstring.isNone)).map fun f =>
    ⟨f.lineStart, .low, .missingDocstring f.name .function⟩) ++
  ((o.classes.filter (·.docstring.isNone)).map fun c =>
    ⟨c.lineStart, .low, .missingDocstring c.name .classEntity⟩)

/-- Parameters that stand for the object or the class of a method. -/
def receiverNames : List String := ["self", "cls"]

/-- Functions with too many parameters. -/
def longParameterLists (limit : Nat) (functions : List FunctionEntry) : List Smell :=
  functions.filterMap fun f =>
    let counted := f.parameters.filter (!receiverNames.contains ·)
    if limit < counted.length then
      some ⟨f.lineStart, .medium, .tooManyParameters f.name counted.length counted⟩
    else none

/-! ## Dead code -/

/-- All names that the functions of some outlines call. -/
def calledNames (outlines : List Outline) : List String :=
  outlines.flatMap fun o => o.functions.flatMap (·.calls)

/-- Functions that are called from outside. -/
def entryPoints : List String := ["main", "run", "execute"]

/-- Whether a function is never dead code. -/
def isExempt (name : String) : Bool :=
  ['_', '_'].isPrefixOf name.toList || entryPoints.contains name

/-- Functions whose name is not among the called names, each name once. -/
def deadFunctions (called : List String) (functions : List FunctionEntry) : List Smell :=
  (firstBy (·.name) (functions.filter fun f =>
    !isExempt f.name && !called.contains f.name)).map
    fun f => ⟨f.lineStart, .low, .deadCode f.name⟩

/-- The names that count as called for the functions of an outline. -/
def Liveness.called (l : Liveness) (o : Outline) : List String :=
  match l with
  | file => calledNames [o]
  | repository names => names

/-! ## Global variables -/

/-- Whether a name is written like a constant: no small letter and some capital one. -/
def isConstantName (name : String) : Bool :=
  !name.toList.any isLowercase && name.toList.any isUppercase

/-- Whether a name has two underscores at both ends. -/
def isDunder (name : String) : Bool :=
  let cs := name.toList
  4 < cs.length && ['_', '_'].isPrefixOf cs && ['_', '_'].isPrefixOf cs.reverse

/-- Variables at the level of the file that are no constants. -/
def mutableGlobals (globals : List GlobalEntry) : List Smell :=
  (globals.filter fun g => !isConstantName g.name && !isDunder g.name).map fun g =>
    ⟨g.line, .low, .nonConstantGlobal g.name⟩

/-! ## Detectors -/

/-- A way to look for smells: a name, what is looked for, and what is found in a file. -/
structure Detector where
  name : String
  description : String
  detect : FileContext → List Smell

namespace Detector

/-- Finds functions that are too long. -/
def longFunction : Detector where
  name := "long-function"
  description := "Detects functions longer than the configured line limit"
  detect c := longFunctions c.thresholds.maxFunctionLength c.outline.functions

/-- Finds classes that are too long. -/
def longClass : Detector where
  name := "long-class"
  description := "Detects classes longer than the configured line limit"
  detect c := longClasses c.thresholds.maxClassLength c.outline.classes

/-- Finds functions and classes without a docstring. -/
def missingDocstring : Detector where
  name := "missing-docstring"
  description := "Detects functions and classes without docstrings"
  detect c := missingDocstrings c.outline

/-- Finds functions with too many parameters. -/
def longParameterList : Detector where
  name := "long-parameter-list"
  description := "Detects functions with too many parameters"
  detect c := longParameterLists c.thresholds.maxParameters c.outline.functions

/-- Finds functions that are not called. -/
def deadCode : Detector where
  name := "dead-code"
  description := "Detects functions that are never called"
  detect c := deadFunctions (c.liveness.called c.outline) c.outline.functions

/-- Finds numbers without a name. -/
def magicNumbers : Detector where
  name := "magic-numbers"
  description := "Detects unexplained numeric literals"
  detect c := magicSmells c.content

/-- Finds variables at the level of the file. -/
def globalVariables : Detector where
  name := "global-variables"
  description := "Detects mutable global variables"
  detect c := mutableGlobals c.outline.globals

/-- Reports the given smells for every file. -/
def fixed (smells : List Smell) : Detector where
  name := "fixed"
  description := "Reports fixed smells"
  detect _ := smells

/-- The built-in detectors, in the order of their reports. -/
def builtIn : List Detector :=
  [longFunction, longClass, missingDocstring, longParameterList, deadCode, magicNumbers,
    globalVariables]

/-- The built-in detector of a given name. -/
def ofName? (name : String) : Option Detector :=
  builtIn.find? (·.name = name)

end Detector

/-- The smells that several detectors find in a file, one detector after the other. -/
def detectAll (detectors : List Detector) (c : FileContext) : List Smell :=
  detectors.flatMap (·.detect c)

end CodeSurvey
