/-
# The call graph

The functions of some files and who calls whom.  A call is a bare name.  It means the function of
that name in the same file and the method of that name in the caller's own class; if there are
none, it means every function of that name.
-/
import CodeSurvey.Decimal.Notation
import CodeSurvey.Distinct
import CodeSurvey.Graph.Circuits
import CodeSurvey.Outline.Basic

namespace CodeSurvey

/-- A function as a node of the call graph. -/
structure FunctionDefinition where
  id : String
  name : String
  file : String
  className : Option String
  line : Nat
  complexity : Nat
  deriving Repr, DecidableEq

/-- What a call may mean. -/
inductive Resolution where
  | unresolved
  | unique (target : String)
  | ambiguous (targets : List String)
  deriving Repr, DecidableEq

namespace Resolution

/-- The resolution with given targets. -/
def ofTargets : List String → Resolution
  | [] => unresolved
  | [t] => unique t
  | ts => ambiguous ts

/-- The targets of a resolution. -/
def targets : Resolution → List String
  | unresolved => []
  | unique t => [t]
  | ambiguous ts => ts

/-- Nothing is lost between targets and resolution. -/
@[simp] theorem targets_ofTargets (ts : List String) : (ofTargets ts).targets = ts := by
  match ts with
  | [] => rfl
  | [_] => rfl
  | _ :: _ :: _ => rfl

end Resolution

/-- A call of a name by a function. -/
structure CallSite where
  caller : String
  name : String
  resolution : Resolution
  deriving Repr, DecidableEq

/-- The functions of some files and who calls whom. -/
structure CallGraph where
  graph : Digraph
  definitions : List FunctionDefinition
  callSites : List CallSite
  deriving Repr, DecidableEq

/-! ## Building -/

/-- A function of a file as a definition. -/
def FunctionEntry.definition (f : FunctionEntry) (file : String) : FunctionDefinition :=
  ⟨f.qualifiedId file, f.name, file, f.className, f.lineStart, f.complexity⟩

/-- All definitions, in file and definition order. -/
def allDefinitions (outlines : List Outline) : List FunctionDefinition :=
  outlines.flatMap fun o => o.functions.map (·.definition o.path)

/-- Whether an id is defined. -/
def isDefined (definitions : List FunctionDefinition) (id : String) : Bool :=
  definitions.any (·.id = id)

/-- What calls are resolved with: the definitions, and the ids of each name. -/
structure Registry where
  definitions : List FunctionDefinition
  /-- The ids of the functions of each name, in the order of the definitions. -/
  byName : Groups String String

namespace Registry

/-- The registry of some definitions. -/
def ofDefinitions (definitions : List FunctionDefinition) : Registry :=
  ⟨definitions, Groups.addAll (definitions.map fun d => (d.name, d.id)) []⟩

/-- The ids that a called name has near a caller, if they are defined: that of the function of the
file, then that of the method of the caller's class. -/
def near (r : Registry) (file : String) (callerClass : Option String) (name : String) :
    List String :=
  ([file ++ "::" ++ name] ++
      (callerClass.map fun c => file ++ "::" ++ c ++ "." ++ name).toList).filter
    (isDefined r.definitions)

/-- What a call of a name means for a caller in a file and perhaps a class. -/
def resolve (r : Registry) (file : String) (callerClass : Option String) (name : String) :
    Resolution :=
  let near := r.near file callerClass name
  .ofTargets (if near.isEmpty then r.byName.find name else near)

/-- Looking a name up finds the functions of this name. -/
theorem find_byName_ofDefinitions (definitions : List FunctionDefinition) (name : String) :
    (ofDefinitions definitions).byName.find name =
      (definitions.filter (·.name = name)).map (·.id) := by
  have hempty : Groups.find ([] : Groups String String) name = [] := rfl
  rw [ofDefinitions, Groups.find_addAll, hempty, List.nil_append, itemsWith, List.filter_map,
    List.map_map]
  rfl

end Registry

/-- The calls of the functions of a file. -/
def callSitesOf (r : Registry) (o : Outline) : List CallSite :=
  o.functions.flatMap fun f => f.calls.map fun name =>
    ⟨f.qualifiedId o.path, name, r.resolve o.path f.className name⟩

namespace CallGraph

/-- Adds a function, as a definition and as a node.  A function whose id is known is left out. -/
def register (c : CallGraph) (d : FunctionDefinition) : CallGraph :=
  if isDefined c.definitions d.id then c
  else
    { c with
      graph := c.graph.addNode d.id d.name
      definitions := c.definitions ++ [d] }

/-- The functions of some files, without their calls. -/
def ofDefinitions (definitions : List FunctionDefinition) : CallGraph :=
  definitions.foldl register ⟨Digraph.empty, [], []⟩

/-- Adds an edge from the caller to every target of a call. -/
def connect (g : Digraph) (s : CallSite) : Digraph :=
  s.resolution.targets.foldl (fun g t => g.link s.caller t) g

/-- The call graph of some files. -/
def ofOutlines (outlines : List Outline) : CallGraph :=
  let c := ofDefinitions (allDefinitions outlines)
  let registry := Registry.ofDefinitions c.definitions
  let sites := outlines.flatMap (callSitesOf registry)
  { c with
    graph := sites.foldl connect c.graph
    callSites := sites }

end CallGraph

/-! ## Analysis -/

/-- A function with a number of calls. -/
structure CallCount where
  function : String
  name : String
  calls : Nat
  deriving Repr, DecidableEq

/-- A function that may call itself, perhaps through others. -/
structure RecursiveFunction where
  function : String
  name : String
  deriving Repr, DecidableEq

/-- What the call graph shows. -/
structure CallAnalysis where
  totalFunctions : Nat
  totalCalls : Nat
  mostCalled : List CallCount
  mostCalls : List CallCount
  recursiveFunctions : List RecursiveFunction
  /-- The number of functions without a resolved call. -/
  deadEnds : Nat
  averageCalls : Float
  uniqueCalls : Nat
  ambiguousCalls : Nat
  unresolvedCalls : Nat

/-- The length of the rankings of functions. -/
def topFunctions : Nat := 5

/-- The number of functions of the longest cycle that counts as recursion. -/
def maxRecursionLength : Nat := 5

/-- The number of cycles that are looked at for recursion. -/
def maxRecursionCycles : Nat := 1000

/-- The number of recursive functions that are listed. -/
def maxRecursiveFunctions : Nat := 10

namespace CallGraph

/-- Nodes with degrees as functions with numbers of calls. -/
def callCounts (c : CallGraph) (ranked : List (Nat × Nat)) : List CallCount :=
  ranked.map fun (v, n) => ⟨c.graph.key v, c.graph.label v, n⟩

/-- Functions that call themselves, then members of short cycles, each once. -/
def recursiveFunctions (c : CallGraph) : List RecursiveFunction :=
  let g := c.graph
  let loops := g.nodes.filter fun v => g.hasEdge v v
  let members := (g.circuitsUpTo maxRecursionLength maxRecursionCycles).flatten
  ((firstBy id (loops ++ members)).take maxRecursiveFunctions).map fun v =>
    ⟨g.key v, g.label v⟩

/-- What the call graph shows. -/
def analysis (c : CallGraph) : CallAnalysis :=
  let g := c.graph
  { totalFunctions := g.nodeCount
    totalCalls := g.edgeCount
    mostCalled := c.callCounts (g.topBy g.inDegree topFunctions)
    mostCalls := c.callCounts (g.topBy g.outDegree topFunctions)
    recursiveFunctions := c.recursiveFunctions
    deadEnds := g.nodes.countP fun v => g.outDegree v = 0
    averageCalls :=
      if g.nodeCount = 0 then 0
      else roundHundredth (g.edgeCount.toFloat / g.nodeCount.toFloat)
    uniqueCalls := c.callSites.countP fun s => s.resolution matches .unique _
    ambiguousCalls := c.callSites.countP fun s => s.resolution matches .ambiguous _
    unresolvedCalls := c.callSites.countP fun s => s.resolution matches .unresolved }

/-! ## Call chains -/

/-- The depth of call chains if none is given. -/
def defaultChainDepth : Nat := 5

/-- The number of chains that are listed. -/
def maxChains : Nat := 10

/-- Adds the chains that begin with `chain`, whose last node is `v`.  A chain ends after `depth`
calls, or where all calls lead back to the chain. -/
def chainsFrom (g : Digraph) (depth : Nat) :
    Nat → List Nat → Nat → List (List Nat) → List (List Nat)
  | 0, _, _, chains => chains
  | fuel + 1, chain, v, chains =>
    if maxChains ≤ chains.length then chains
    else
      let next :=
        if depth < chain.length then [] else (g.successors v).filter (!chain.contains ·)
      if next.isEmpty then chains ++ [chain]
      else next.foldl (fun chains w => chainsFrom g depth fuel (chain ++ [w]) w chains) chains

/-- The call chains from a function, as lists of ids; an unknown id has none. -/
def chains (c : CallGraph) (start : String) (depth : Nat) : List (List String) :=
  match c.graph.node? start with
  | none => []
  | some v =>
    (chainsFrom c.graph depth c.graph.nodeCount [v] v []).map (·.map c.graph.key)

end CallGraph

end CodeSurvey
