import Conformance.Builtin.Members
import Conformance.Number.Binary64

/-!
# Values

The values that a predicate is asked about, that a class or a module stores under a name, and that
a caller may hand over where a text or a flag is expected. A value is a number, a text, a
collection, something that can be called or that computes attributes, a class or an object of some
class. `Value.isTruthy` says whether it counts as true and `Value.equals` whether two of them are
the same item of a set or the same key of a dictionary, as far as their classes have nothing of
their own to say about it.
-/

namespace Conformance

open Number (Binary64)

/-- A class: a built-in one, or a declared one by its identifier. -/
inductive ClassRef where
  /-- A class that every world has. -/
  | builtin (b : Builtin)
  /-- A class that a world declares. -/
  | declared (id : String)
  deriving DecidableEq, Repr

/-- A value of the program under inspection. -/
inductive Value where
  /-- The value that stands for nothing. -/
  | null
  /-- A truth value. -/
  | bool (b : Bool)
  /-- An integer. -/
  | int (n : Int)
  /-- A floating-point number. -/
  | float (x : Binary64)
  /-- A complex number. -/
  | complex (re im : Binary64)
  /-- A text. -/
  | str (s : String)
  /-- A fixed sequence of bytes. -/
  | bytes (bs : List UInt8)
  /-- A sequence of bytes that can change. -/
  | bytearray (bs : List UInt8)
  /-- A list. -/
  | list (items : List Value)
  /-- A tuple. -/
  | tuple (items : List Value)
  /-- A set, in the order in which it lists its items. -/
  | set (items : List Value)
  /-- A set that cannot change. -/
  | frozenset (items : List Value)
  /-- A dictionary, in order of insertion. -/
  | dict (entries : List (Value × Value))
  /-- What an exception was made from. -/
  | arguments (items : List Value)
  /-- A function that was written in the language itself. A call of it gives a text, or nothing. It
  may carry the marks of a method that derived classes have to define, or may not redefine. -/
  | function (gives : Option String) (isAbstract isFinal : Option Value)
  /-- A function with some arguments filled in, with the same marks. -/
  | partialFunction (isAbstract isFinal : Option Value)
  /-- A wrapper that makes what it wraps a static method, with a final mark of its own. It wraps
  nothing before it is filled. -/
  | staticMethod (wrapped isFinal : Option Value)
  /-- A wrapper that makes what it wraps a method of the class itself. -/
  | classMethod (wrapped isFinal : Option Value)
  /-- An attribute that is computed by a getter, which it may lack, and the name that a class
  stores it under. -/
  | property (getter : Option Value) (name : Option String)
  /-- A function with some arguments filled in, which becomes a method when it is read. -/
  | partialMethod
  /-- A built-in function, by its name. -/
  | builtinFunction (name : String)
  /-- A member of a kind that only built-in classes have, or a place for a value in each object. -/
  | member (owner : ClassRef) (name : String) (kind : MemberKind)
  /-- A function with the object that it was read on; `kind` is the class of both together. -/
  | bound (kind : Builtin) (function self : Value)
  /-- A module, by its dotted name. -/
  | module (name : String)
  /-- A class. -/
  | cls (c : ClassRef)
  /-- What a class stores, as a collection that cannot be changed. -/
  | namespaceView (c : ClassRef)
  /-- An object of a class, with the built-in value that it extends, if any. -/
  | instance (c : ClassRef) (content : Option Value)
  /-- An object of a built-in class of which no more is known. -/
  | unknown (b : Builtin)
  deriving Inhabited

/-- The kind of member as a class of objects. -/
def MemberKind.descriptor : MemberKind → Builtin
  | operator => .operatorDescriptor
  | method => .methodDescriptor
  | classMethod => .classMethodDescriptor
  | constructor | free => .builtinFunction
  | computed _ => .computedDescriptor
  | field _ | slot => .fieldDescriptor
  | written => .function

namespace Value

/-- The built-in class of a value; an object of a declared class counts as a plain one here. -/
def builtinClass : Value → Builtin
  | null => .noneType
  | bool _ => .bool
  | int _ => .int
  | float _ => .float
  | complex _ _ => .complex
  | str _ => .str
  | bytes _ => .bytes
  | bytearray _ => .bytearray
  | list _ => .list
  | tuple _ => .tuple
  | set _ => .set
  | frozenset _ => .frozenset
  | dict _ => .dict
  | arguments _ => .baseException
  | function _ _ _ => .function
  | partialFunction _ _ => .partialFunction
  | staticMethod _ _ => .staticMethod
  | classMethod _ _ => .classMethod
  | property _ _ => .property
  | partialMethod => .partialMethod
  | builtinFunction _ => .builtinFunction
  | member _ _ kind => kind.descriptor
  | bound kind _ _ => kind
  | module _ => .module
  | cls _ => .type
  | namespaceView _ => .namespaceView
  | .instance (.builtin b) _ => b
  | .instance (.declared _) _ => .object
  | unknown b => b

/-- The name of the value's type, as a message about a wrong argument gives it. -/
def typeName (v : Value) : String := v.builtinClass.name

/-- The value counts as true: it is not nothing, zero or empty. -/
def isTruthy : Value → Bool
  | null => false
  | bool b => b
  | int n => n != 0
  | float x => x.isTruthy
  | complex re im => re.isTruthy || im.isTruthy
  | str s => s != ""
  | bytes bs | bytearray bs => !bs.isEmpty
  | list vs | tuple vs | set vs | frozenset vs => !vs.isEmpty
  | dict es => !es.isEmpty
  | .instance _ (some v) => isTruthy v
  | _ => true

/-- The integer that a value amounts to: an integer, or a truth value as zero or one. -/
def toInt? : Value → Option Int
  | int n => some n
  | bool b => some (if b then 1 else 0)
  | _ => none

/-- The built-in value that a value extends, or the value itself. -/
def core : Value → Value
  | .instance _ (some v) => v
  | v => v

/-! ### Equality -/

/-- The integer is the value of a number. -/
def equalsInt (n : Int) : Value → Bool
  | float x => x.equalsInt n
  | complex re im => re.equalsInt n && im.equalsInt 0
  | v => v.toInt? == some n

/-- The floating-point number is the value of a number. -/
def equalsFloat (x : Binary64) : Value → Bool
  | float y => x.equals y
  | complex re im => x.equals re && im.equalsInt 0
  | v => (v.toInt?.map x.equalsInt).getD false

/-- The complex number is the value of a number. -/
def equalsComplex (re im : Binary64) : Value → Bool
  | complex re' im' => re.equals re' && im.equals im'
  | v => im.equalsInt 0 && equalsFloat re v

mutual

/-- Two values are equal. Numbers are compared across their types, texts and collections by what
they hold; of other objects each equals nothing else. -/
def equals : Value → Value → Bool
  | null, w => match w with
    | null => true
    | _ => false
  | bool b, w => equalsInt (if b then 1 else 0) w.core
  | int n, w => equalsInt n w.core
  | float x, w => equalsFloat x w.core
  | complex re im, w => equalsComplex re im w.core
  | str s, w => match w.core with
    | str t => s == t
    | _ => false
  | bytes bs, w => match w.core with
    | bytes cs => bs == cs
    | _ => false
  | tuple vs, w => match w.core with
    | tuple ws => equalAll vs ws
    | _ => false
  | frozenset vs, w | set vs, w => match w.core with
    | frozenset ws | set ws => vs.length == ws.length && allAmong vs ws
    | _ => false
  | builtinFunction f, w => match w with
    | builtinFunction g => f == g
    | _ => false
  | module m, w => match w with
    | module n => m == n
    | _ => false
  | cls c, w => match w with
    | cls d => c == d
    | _ => false
  | member c m _, w => match w with
    | member d n _ => c == d && m == n
    | _ => false
  | list vs, w => match w.core with
    | list ws => equalAll vs ws
    | _ => false
  | dict es, w => match w.core with
    | dict fs => es.length == fs.length && entriesAmong es fs
    | _ => false
  | .instance _ (some v), w => equals v w
  | _, _ => false

/-- The values are equal one by one. -/
def equalAll : List Value → List Value → Bool
  | [], ws => ws.isEmpty
  | v :: vs, w :: ws => equals v w && equalAll vs ws
  | _ :: _, [] => false

/-- Each entry equals one of the others. -/
def entriesAmong : List (Value × Value) → List (Value × Value) → Bool
  | [], _ => true
  | e :: es, fs => fs.any (equalEntry e) && entriesAmong es fs

/-- Both keys and both values are equal. -/
def equalEntry : Value × Value → Value × Value → Bool
  | (k, v), f => equals k f.1 && equals v f.2

/-- Each value equals one of the others. -/
def allAmong : List Value → List Value → Bool
  | [], _ => true
  | v :: vs, ws => ws.any (equals v) && allAmong vs ws

end

end Value

end Conformance
