import Conformance.World.Conversion
import Conformance.World.Facts

/-!
# Making objects

A class that is called makes an object and fills it. What a built-in class makes of the arguments is
also what the objects of the classes derived from it hold: `World.make` gives new objects and
`World.fill` what comes after that. A class may have methods of its own for both. What is made by a
method of its own need not be an object of the class, and then it is not filled.
-/

namespace Conformance

/-! ### Numbers of arguments -/

/-- A class takes no more than so many arguments. -/
def atMost (className : String) (most : Nat) (arguments : List Value) : Outcome Unit :=
  if arguments.length ≤ most then .ok ()
  else .error (.badArguments (className ++ "() takes at most " ++ toString most ++ " arguments (" ++
    toString arguments.length ++ " given)"))

/-- The argument of a class that takes no more than one. -/
def single? (className : String) : List Value → Outcome (Option Value)
  | [] => .ok none
  | [v] => .ok (some v)
  | vs => .error (.badArguments (className ++ " expected at most 1 argument, got " ++
      toString vs.length))

/-- The argument of a class that takes just one. -/
def single (className : String) : List Value → Outcome Value
  | [v] => .ok v
  | vs => .error (.badArguments (className ++ " expected 1 argument, got " ++ toString vs.length))

/-- A class takes no arguments. -/
def noArguments (className : String) : Complaint :=
  .badArguments (className ++ "() takes no arguments")

namespace World

variable (w : World) (e : Evaluator)

/-- The type of an argument, where nothing goes by its own name. -/
def argumentType : Value → String
  | .null => "None"
  | v => w.typeName v

/-- The argument of a function must be a text. -/
def checkText (function argument : String) (v : Value) : Outcome Unit :=
  if (w.textOf? v).isSome then .ok ()
  else .error (.badArguments (function ++ "() " ++ argument ++ " must be str, not " ++
    w.argumentType v))

/-- The arguments behind the first one, which say how bytes stand for a text, are texts. -/
def checkEncoding (className : String) (arguments : List Value) : Outcome Unit := do
  atMost className 3 arguments
  for (v, name) in (arguments.drop 1).zip ["encoding", "errors"] do
    w.checkText className ("argument '" ++ name ++ "'") v

/-- The text that is made of something and of the way in which bytes stand for a text. -/
def decoded (v : Value) : Complaint :=
  if (w.textOf? v).isSome then .badArguments "decoding str is not supported"
  else .badArguments ("decoding to str: need a bytes-like object, " ++ w.typeName v ++ " found")

/-! ### Built-in values -/

/-- What a class makes, with this content. -/
def made (c : ClassRef) (content : Value) : Value :=
  match c with
  | .builtin _ => content
  | .declared _ => .instance c (some content)

/-- The number can be the base of a numeral; zero leaves the base to the numeral. -/
def isBase (n : Int) : Bool := n = 0 || (2 ≤ n && n ≤ 36)

/-- The integer that is made of the arguments. -/
def makeInteger (arguments : List Value) : Outcome Int := do
  atMost "int" 2 arguments
  match arguments with
  | [] => return 0
  | [v] => w.toInteger e v
  | _ :: base :: _ => do
    if isBase (← w.index e base) then
      .error (.badArguments "int() can't convert non-string with explicit base")
    else .error (.badValue "int() base must be >= 2 and <= 36, or 0")

/-- The complex number that is made of the arguments. -/
def makeComplex (arguments : List Value) : Outcome Value := do
  atMost "complex" 2 arguments
  match arguments with
  | [] => return .complex .zero .zero
  | [v] => do
    let z ← w.toComplex e v
    return .complex z.1 z.2
  | v :: part :: _ => do
    if (w.textOf? v).isSome then
      .error (.badArguments "complex() can't take second arg if first is a string")
    else if (w.textOf? part).isSome then
      .error (.badArguments "complex() second arg can't be a string")
    else
      let _ ← w.toComplex e v
      .error (.badContent ("complex() second argument must be a number, not '" ++
        w.typeName part ++ "'"))

/-- The text that is made of the arguments. -/
def makeText (arguments : List Value) : Outcome String := do
  w.checkEncoding "str" arguments
  match arguments with
  | [] => return ""
  | [v] => w.text e v
  | v :: _ => .error (w.decoded v)

/-- The bytes that are made of the arguments, one of which `convert` turns into bytes. -/
def makeBytes (className : String) (convert : Value → Outcome (List UInt8))
    (arguments : List Value) : Outcome (List UInt8) := do
  w.checkEncoding className arguments
  match arguments with
  | [] => return []
  | [v] => convert v
  | _ => .error (.badArguments "encoding without a string argument")

/-- A class is made of a name, bases and members. -/
def makeClass (arguments : List Value) : Outcome Value :=
  match arguments with
  | [name, bases, members] => do
    w.checkText "type.__new__" "argument 1" name
    let expect (argument expected : String) (b : Builtin) (v : Value) : Outcome Unit :=
      if w.isA v b then .ok ()
      else .error (.badArguments ("type.__new__() " ++ argument ++ " must be " ++ expected ++
        ", not " ++ w.argumentType v))
    expect "argument 2" "tuple" .tuple bases
    expect "argument 3" "dict" .dict members
    .ok (.unknown .type)
  | vs =>
    .error (.badArguments ("type.__new__() takes exactly 3 arguments (" ++ toString vs.length ++
      " given)"))

/-! ### Making -/

/-- The names of the methods that the class leaves to derived classes. -/
def abstractNames (c : ClassRef) : List String :=
  match c with
  | .builtin _ => []
  | .declared id => ((w.class? id).map ClassObject.abstractNames).getD []

/-- The objects of a class are filled as all objects are. -/
def isFilledPlainly (c : ClassRef) : Bool :=
  match w.lookup? (w.lineage c) "__init__" with
  | some (.member (.builtin .object) _ _) => true
  | _ => false

/-- A new object with nothing in it. -/
def makeObject (c : ClassRef) (arguments : List Value) : Outcome Value :=
  if !arguments.isEmpty && w.isFilledPlainly c then .error (noArguments (w.messageName c))
  else if (w.abstractNames c).isEmpty then .ok (.instance c none)
  else .error (.abstractClass (w.messageName c) (w.abstractNames c))

/-- The new object that a built-in class makes for the class `c`. -/
def make (b : Builtin) (c : ClassRef) (arguments : List Value) : Outcome Value :=
  match b with
  | .object => w.makeObject c arguments
  | .type => w.makeClass arguments
  | .int => do return made c (.int (← w.makeInteger e arguments))
  | .bool => do
    match ← single? "bool" arguments with
    | none => return .bool false
    | some v => return .bool (← w.truth e v)
  | .float => do
    match ← single? "float" arguments with
    | none => return made c (.float .zero)
    | some v => return made c (.float (← w.toFloat e v))
  | .complex => do return made c (← w.makeComplex e arguments)
  | .str => do return made c (.str (← w.makeText e arguments))
  | .bytes => do return made c (.bytes (← w.makeBytes "bytes" (w.toBytes e) arguments))
  | .tuple => do
    match ← single? "tuple" arguments with
    | none => return made c (.tuple [])
    | some v => return made c (.tuple (← w.toItems e v))
  | .frozenset => do
    match ← single? (w.messageName c) arguments with
    | none => return made c (.frozenset [])
    | some v => return made c (.frozenset (← w.toDistinct e v))
  | .bytearray => .ok (made c (.bytearray []))
  | .list => .ok (made c (.list []))
  | .dict => .ok (made c (.dict []))
  | .set => .ok (made c (.set []))
  | .property => .ok (made c (.property none none))
  | .staticMethod => .ok (made c (.staticMethod none none))
  | .classMethod => .ok (made c (.classMethod none none))
  | .module => .ok (.instance c (some (.unknown .module)))
  | .baseException | .exception | .valueError => .ok (.instance c (some (.arguments arguments)))
  | .noneType =>
    if arguments.isEmpty then .ok .null
    else .error (.badArguments "NoneType takes no arguments")
  | b => .error (.badArguments ("cannot create '" ++ b.messageName ++ "' instances"))

/-- The name of a module, which may have a text behind it that says what it is for. -/
def moduleName? (arguments : List Value) : Outcome String := do
  atMost "module" 2 arguments
  match arguments with
  | [] => .error (.badArguments "module() missing required argument 'name' (pos 1)")
  | name :: _ => do
    w.checkText "module" "argument 'name'" name
    return (w.textOf? name).getD ""

/-- An argument that may be left out, or be nothing instead. -/
def given? (arguments : List Value) : Option Value :=
  match arguments with
  | [] | .null :: _ => none
  | v :: _ => some v

/-- The object may have no answer to these names, but it must not fail to answer otherwise. -/
def checkAnswers (v : Value) (names : List String) : Outcome Unit :=
  names.forM fun name => do let _ ← e.readIfAny v name

/-- What a wrapper wraps, which is asked for what the wrapper copies. -/
def wrapped (className : String) (arguments : List Value) : Outcome Value := do
  let v ← single className arguments
  checkAnswers e v copiedNames
  return v

/-- The getter of a computed attribute, which is asked what it is for. -/
def getter? (arguments : List Value) : Outcome (Option Value) := do
  atMost "property" 4 arguments
  let getter := given? arguments
  getter.forM fun g => checkAnswers e g ["__doc__"]
  return getter

/-- The new object when it has been filled as the objects of a built-in class are. -/
def fill (b : Builtin) (v : Value) (arguments : List Value) : Outcome Value :=
  let c := w.classOf v
  match b with
  | .list => do
    match ← single? "list" arguments with
    | none => return made c (.list [])
    | some v => return made c (.list (← w.toItems e v))
  | .dict => do
    match ← single? "dict" arguments with
    | none => return made c (.dict [])
    | some v => return made c (.dict (← w.toEntries e v))
  | .set => do
    match ← single? (w.messageName c) arguments with
    | none => return made c (.set [])
    | some v => return made c (.set (← w.toDistinct e v))
  | .bytearray => do
    return made c (.bytearray (← w.makeBytes "bytearray" (w.toBuffer e) arguments))
  | .property => do return made c (.property (← getter? e arguments) none)
  | .staticMethod => do
    return made c (.staticMethod (some (← wrapped e "staticmethod" arguments)) none)
  | .classMethod => do
    return made c (.classMethod (some (← wrapped e "classmethod" arguments)) none)
  | .module => do return .instance c (some (.module (← w.moduleName? arguments)))
  | _ => .ok v

/-! ### Classes that are called -/

/-- The new object that a class makes. -/
def create (c : ClassRef) (arguments : List Value) : Outcome Value :=
  match w.lookup? (w.lineage c) "__new__" with
  | some (.member (.builtin b) _ .constructor) => w.make e b c arguments
  | some _ => do e.call (← e.read (.cls c) "__new__") (.cls c :: arguments)
  | none => .error (.notCallable (w.messageName c))

/-- The new object when it has been filled. -/
def initialized (v : Value) (arguments : List Value) : Outcome Value :=
  match w.special v "__init__" with
  | .absent => .ok v
  | .builtin b => w.fill e b v arguments
  | .own f => do
    match ← w.callOwn e v f arguments with
    | .null => return v
    | r => .error (.initGives (w.typeName r))

/-- What a class gives when it is called. The class of classes gives the class of an argument. -/
def construct (c : ClassRef) (arguments : List Value) : Outcome Value :=
  match c, arguments with
  | .builtin .type, [v] => .ok (.cls (w.classOf v))
  | .builtin .type, [_, _, _] => w.makeClass arguments
  | .builtin .type, _ => .error (.badArguments "type() takes 1 or 3 arguments")
  | c, arguments => do
    let v ← w.create e c arguments
    if (w.lineage (w.classOf v)).contains c then w.initialized e v arguments else return v

end World

end Conformance
