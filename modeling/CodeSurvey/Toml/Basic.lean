/-
# TOML documents

The tables of a TOML document and how its lines build them.  A table may be opened by a header, be
implied by the header of a table inside it, or be made by a dotted key, and what may be added to it
later depends on that.
-/
import CodeSurvey.Json.Basic

namespace CodeSurvey

namespace Toml

/-- How a table came to be. -/
inductive Origin where
  /-- It has a header of its own. -/
  | header
  /-- The header of a table inside it names it. -/
  | implied
  /-- A dotted key names it. -/
  | dotted
  deriving Repr, DecidableEq

/-- What a key of a table stands for. -/
inductive Item where
  | value (v : Json)
  | table (origin : Origin) (members : List (String × Item))
  /-- An array of tables, each with a header. -/
  | tables (items : List (List (String × Item)))

/-- The keys of a table with what they stand for. -/
abbrev Members := List (String × Item)

/-- A key with its value.  The parts of a dotted key before the last are its path. -/
structure Assignment where
  path : List String
  key : String
  value : Json

/-- The header of a section: the path and the key of its table. -/
structure Header where
  path : List String
  key : String
  /-- Whether the table is added to an array of tables. -/
  isArray : Bool

/-- A part of a document: some assignments under a header. -/
structure Section where
  header : Header
  body : List Assignment

/-- A document: assignments without a header, then sections. -/
structure Document where
  body : List Assignment
  sections : List Section

/-! ## Tables -/

namespace Members

/-- What a key stands for. -/
def item? (ms : Members) (key : String) : Option Item :=
  (List.find? (·.1 = key) ms).map (·.2)

/-- Gives a key that is there another meaning. -/
def replace (ms : Members) (key : String) (item : Item) : Members :=
  ms.map fun m => if m.1 = key then (key, item) else m

/-- Carries out an assignment.  The key has to be new, and a dotted key adds only to tables that
dotted keys made. -/
def assign (key : String) (v : Json) : List String → Members → Option Members
  | [], ms =>
    match item? ms key with
    | none => some (ms ++ [(key, .value v)])
    | some _ => none
  | p :: path, ms =>
    match item? ms p with
    | none => do
      let inner ← assign key v path []
      return ms ++ [(p, .table .dotted inner)]
    | some (.table .dotted inner) => do
      return ms.replace p (.table .dotted (← assign key v path inner))
    | some (.table .implied inner) => do
      guard (path ≠ [])
      return ms.replace p (.table .implied (← assign key v path inner))
    | some _ => none

/-- Carries out several assignments. -/
def assignAll (body : List Assignment) (ms : Members) : Option Members :=
  body.foldlM (fun ms a => assign a.key a.value a.path ms) ms

/-- Changes the table at a path.  Tables on the way that are missing are implied, and an array of
tables stands for its last table. -/
def updateAt (change : Members → Option Members) : List String → Members → Option Members
  | [], ms => change ms
  | p :: path, ms =>
    match item? ms p with
    | none => do
      return ms ++ [(p, .table .implied (← updateAt change path []))]
    | some (.table origin inner) => do
      return ms.replace p (.table origin (← updateAt change path inner))
    | some (.tables items) => do
      let inner ← updateAt change path (← items.getLast?)
      return ms.replace p (.tables (items.dropLast ++ [inner]))
    | some (.value _) => none

/-- Opens the table of a section in the table around it.  A table has one header only; an array
takes any number of tables. -/
def openSection (s : Section) (ms : Members) : Option Members :=
  let key := s.header.key
  match s.header.isArray, item? ms key with
  | false, none => do
    return ms ++ [(key, .table .header (← assignAll s.body []))]
  | false, some (.table .implied inner) => do
    return ms.replace key (.table .header (← assignAll s.body inner))
  | true, none => do
    return ms ++ [(key, .tables [← assignAll s.body []])]
  | true, some (.tables items) => do
    return ms.replace key (.tables (items ++ [← assignAll s.body []]))
  | _, _ => none

end Members

/-- The tables of a document. -/
def Document.members? (d : Document) : Option Members := do
  let root ← Members.assignAll d.body []
  d.sections.foldlM (fun ms s => Members.updateAt (Members.openSection s) s.header.path ms) root

/-! ## Data -/

mutual
/-- An item as data. -/
def Item.toJson : Item → Json
  | .value v => v
  | .table _ ms => .obj (membersToJson ms)
  | .tables items => .arr (tablesToJson items)

/-- The members of a table as data. -/
def membersToJson : List (String × Item) → List (String × Json)
  | [] => []
  | (k, i) :: ms => (k, i.toJson) :: membersToJson ms

/-- An array of tables as data. -/
def tablesToJson : List (List (String × Item)) → List Json
  | [] => []
  | ms :: rest => .obj (membersToJson ms) :: tablesToJson rest
end

/-- A document as data. -/
def Document.toJson? (d : Document) : Option Json := do
  return .obj (membersToJson (← d.members?))

end Toml

end CodeSurvey
