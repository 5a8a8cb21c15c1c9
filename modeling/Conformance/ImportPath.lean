import Conformance.World.Evaluation

/-!
# Import paths

A text names a class in one of three forms: `module:Outer.Inner`, a bare name of something
built in, or components joined by dots. Of a dotted path, it is not said where the module
ends and the attributes begin, so every split is tried, the longest module name first. The
first split that leads to anything decides, even if that is no class.

An object that passes for a text is taken apart with what its class has for that.
-/

namespace Conformance

/-- A path as it is written. -/
inductive ImportPath where
  /-- The name of a module, a colon, and attributes joined by dots. -/
  | colon (moduleName : String) (attributes : List String)
  /-- A name without colon and dot. -/
  | bare (name : String)
  /-- Two or more components joined by dots. -/
  | dotted (components : List String)
  deriving DecidableEq, Repr

/-- The components of a text that is joined by dots. -/
def ImportPath.components (s : String) : List String := piecesAt '.' s

/-- The path that a text is. -/
def ImportPath.ofString (s : String) : ImportPath :=
  let cs := s.toList
  if cs.contains ':' then
    .colon (String.ofList (cs.takeWhile (· != ':')))
      (components (String.ofList ((cs.dropWhile (· != ':')).drop 1)))
  else if cs.contains '.' then .dotted (components s)
  else .bare s

namespace World

variable (w : World)

/-! ### Reading paths -/

/-- The texts that objects are, if all of them are texts. -/
def textsOf? (vs : List Value) : Option (List String) := vs.mapM w.textOf?

/-- The pieces into which an object divides itself at its dots. -/
def dividedAtDots (v : Value) : Outcome Value := do w.call (← w.read v "split") [.str "."]

/-- The path that consists of three parts, of which the one in the middle does not matter. -/
def colonPath? (parts : List Value) : Outcome (Option ImportPath) :=
  match parts with
  | [moduleName, _, attributes] => do
    match w.textOf? moduleName, w.items w.evaluator (← w.dividedAtDots attributes) with
    | some m, .ok vs => return (w.textsOf? vs).map (.colon m)
    | _, _ => return none
  | _ => .ok none

/-- The bare name that an object is, which is looked up by its hash. -/
def barePath? (v : Value) : Outcome (Option ImportPath) :=
  match w.textOf? v with
  | none => .error (.nameExpected (w.typeName v))
  | some s => do
    match ← w.hash? w.evaluator v with
    | none => return some (.bare s)
    | some _ => return none

/-- The path whose components are the pieces of an object. -/
def dottedPath? (pieces : Value) : Outcome (Option ImportPath) := do
  if 1 < (← w.length w.evaluator pieces) then
    return (w.textsOf? (← w.items w.evaluator pieces)).map .dotted
  else return none

/-- The path that an object is which passes for a text, unless it leads nowhere. -/
def pathOf? (v : Value) : Outcome (Option ImportPath) :=
  match v with
  | .str s => .ok (some (.ofString s))
  | v => do
    let e := w.evaluator
    if ← w.contains e v ":" then
      let parts ← w.call (← w.read v "partition") [.str ":"]
      w.colonPath? (← w.unpack e 3 parts)
    else if ← w.contains e v "." then w.dottedPath? (← w.dividedAtDots v)
    else w.barePath? v

/-! ### Following paths -/

/-- The module of this name, if it can be imported. A name that begins with a dot is relative to
a place that is not known here. -/
def importModule? (name : String) : Option Value :=
  if name = "" ∨ name.toList.head? = some '.' then none
  else if name = "builtins" ∨ (w.module? name).isSome then some (.module name)
  else none

/-- Something that only makes a path lead nowhere. -/
def isImportFault (c : Complaint) : Bool := [.attribute, .value, .type].contains c.kind

/-- What the attributes lead to, one after the other. -/
def follow (start : Value) (attributes : List String) : Outcome Value :=
  attributes.foldlM w.read start

/-- What the attributes lead to from a module, unless it is nothing. -/
def importAttribute? (moduleName : String) (attributes : List String) : Outcome (Option Value) :=
  match w.importModule? moduleName with
  | none => .ok none
  | some start =>
    match w.follow start attributes with
    | .ok .null => .ok none
    | .ok target => .ok (some target)
    | .error c => if isImportFault c then .ok none else .error c

/-- The places where a dotted path of `n` components can be split, the longest module name
first. -/
def splits (n : Nat) : List Nat := ((List.range n).drop 1).reverse

/-- A dotted path, split behind so many components. -/
def splitAfter (components : List String) (k : Nat) : String × List String :=
  (".".intercalate (components.take k), components.drop k)

/-- The first thing that one of the paths leads to, each a module name with attributes. -/
def firstImport? : List (String × List String) → Outcome (Option Value)
  | [] => .ok none
  | (moduleName, attributes) :: rest => do
    match ← w.importAttribute? moduleName attributes with
    | some target => return some target
    | none => firstImport? rest

/-- What a dotted path leads to: the first split that leads to something decides. -/
def importDotted? (components : List String) : Outcome (Option Value) :=
  w.firstImport? ((splits components.length).map (splitAfter components))

/-- What a path leads to. -/
def importTarget? : ImportPath → Outcome (Option Value)
  | .colon moduleName attributes => w.importAttribute? moduleName attributes
  | .bare name => w.evaluator.readIfAny (.module "builtins") name
  | .dotted components => w.importDotted? components

/-- The class that a path leads to, or what passes for a class there. -/
def importAlong? (path : ImportPath) : Outcome (Option Value) := do
  match ← w.importTarget? path with
  | none => return none
  | some target => return if ← w.isClass w.evaluator target then some target else none

/-- The class that an object names which passes for a text. -/
def importClass? (v : Value) : Outcome (Option Value) := do
  match ← w.pathOf? v with
  | none => return none
  | some path => w.importAlong? path

/-! ### What following leaves behind -/

/-- The declared classes that are asked on the way what is said of the types in them. -/
def askedAlong (start : Value) : List String → List String
  | [] => []
  | name :: names =>
    let here := match name, start with
      | "__annotations__", .cls (.declared id) => [id]
      | _, _ => []
    match w.read start name with
    | .ok v => here ++ askedAlong v names
    | .error _ => here

/-- The declared classes that are asked while the paths are tried. -/
def askedWhile : List (String × List String) → List String
  | [] => []
  | (moduleName, attributes) :: rest =>
    let here := ((w.importModule? moduleName).map fun m => w.askedAlong m attributes).getD []
    match w.importAttribute? moduleName attributes with
    | .ok none => here ++ askedWhile rest
    | _ => here

/-- The world after a path has been followed. A class that is asked what is said of the types in it
keeps a dictionary of that. -/
def afterImport (v : Value) : World :=
  let paths := match w.pathOf? v with
    | .ok (some (.colon moduleName attributes)) => [(moduleName, attributes)]
    | .ok (some (.dotted components)) => (splits components.length).map (splitAfter components)
    | _ => []
  { w with annotated := w.annotated ++ w.askedWhile paths }

end World

end Conformance
