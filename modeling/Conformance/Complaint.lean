import Conformance.Text.Numeral
import Conformance.Text.Quoted

/-!
# Complaints

What goes wrong when an object of the inspected program is asked for something: it has no such
attribute, it cannot be called, counted, gone through or turned into something else, or what its
class has for that purpose gives the wrong kind of answer. `Complaint.message` puts a complaint
into words, and `Complaint.kind` is the kind of error that it is. An attribute that is missing
(`Complaint.isMissing`) often counts as absent only.
-/

namespace Conformance

/-- The kinds of errors of the inspected program. -/
inductive ComplaintKind where
  | attribute | type | value | key | runtime | overflow | recursion
  deriving DecidableEq, Repr

/-- The name of the class of errors of this kind. -/
def ComplaintKind.className : ComplaintKind → String
  | .attribute => "AttributeError"
  | .type => "TypeError"
  | .value => "ValueError"
  | .key => "KeyError"
  | .runtime => "RuntimeError"
  | .overflow => "OverflowError"
  | .recursion => "RecursionError"

/-- What goes wrong with an object of the inspected program. -/
inductive Complaint where
  /-- An object of this type has no such attribute. -/
  | noAttribute (typeName name : String)
  /-- A class has no such attribute. -/
  | classHasNone (className name : String)
  /-- A module has no such attribute. -/
  | moduleHasNone (moduleName : Option String) (name : String)
  /-- There is nothing yet under this name. -/
  | unset (name : String)
  /-- A computed attribute, which may be stored under a name, has no getter. -/
  | noGetter (name : Option String) (className : String)
  /-- A wrapper was not told what it wraps. -/
  | emptyWrapper (className : String)
  /-- An object of this type cannot be called. -/
  | notCallable (typeName : String)
  /-- An object of this type has no items. -/
  | notIterable (typeName : String)
  /-- An object of this type is no collection in which something may be looked for. -/
  | notCollection (typeName : String)
  /-- An object of this type refuses that something is looked for in it. -/
  | notContainer (typeName : String)
  /-- What goes through the items of an object does not do so. -/
  | notIterator (typeName : String)
  /-- An object goes on forever. -/
  | endless
  /-- An object of this type cannot be taken apart. -/
  | notUnpackable (typeName : String)
  /-- There are fewer items than needed. -/
  | tooFewItems (expected found : Nat)
  /-- There are more items than needed. -/
  | tooManyItems (expected : Nat)
  /-- An object of this type has no length. -/
  | noLength (typeName : String)
  /-- A length is negative. -/
  | negativeLength
  /-- An integer is too large for a length. -/
  | lengthOverflow
  /-- An object of this type is no integer. -/
  | notInteger (typeName : String)
  /-- What is to give a value of one type gives one of another. -/
  | wrongResult (method expected typeName : String)
  /-- What is to say whether an object counts as true gives no truth value. -/
  | truthExpected (typeName : String)
  /-- What is to give a hash gives no integer. -/
  | hashExpected
  /-- An object of this type has no hash. -/
  | unhashable (typeName : String)
  /-- What is to format an object gives no text. -/
  | formatExpected (typeName : String)
  /-- An object of this type has no items that can be asked for. -/
  | notSubscriptable (typeName : String)
  /-- The items of a sequence are asked for by something else than an integer. -/
  | badIndex (sequence expected typeName : String)
  /-- A dictionary has no such key. -/
  | noKey (key : String)
  /-- A text is looked for in something that holds no texts. -/
  | badNeedle (message : String)
  /-- The filling of a new object gives something. -/
  | initGives (typeName : String)
  /-- A class is called with arguments of a number or of types that it does not take. -/
  | badArguments (message : String)
  /-- A method of a built-in class is called without an object. -/
  | unboundMethod (className name : String)
  /-- A class that has abstract methods is to have an object. -/
  | abstractClass (className : String) (names : List String)
  /-- The classes of two bases are no ancestors of each other. -/
  | metaclassConflict
  /-- No class can be derived from this one. -/
  | finalBase (className : String)
  /-- The objects of two bases have shapes of which neither extends the other. -/
  | shapeConflict
  /-- A class is a base twice. -/
  | repeatedBase (className : String)
  /-- The places that the objects of a class are to have cannot be had. -/
  | badSlots (message : String)
  /-- The ancestors of these bases have no common order. -/
  | noOrder (classNames : List String)
  /-- An argument cannot be turned into what a class holds. -/
  | badContent (message : String)
  /-- An argument has the right type but no value of which something can be made. -/
  | badValue (message : String)
  /-- A number is too large. -/
  | tooLarge (message : String)
  /-- A text is no numeral. -/
  | numeral (literal : String) (why : Text.NumeralFault)
  /-- The name of an attribute is given as something else. -/
  | nameExpected (typeName : String)
  /-- An object has no namespace. -/
  | noNamespace
  /-- A step would lead too deep. -/
  | tooDeep
  deriving Repr

namespace Complaint

/-- The kind of error that a complaint is. -/
def kind : Complaint → ComplaintKind
  | noAttribute .. | classHasNone .. | moduleHasNone .. | unset _ | noGetter .. => .attribute
  | emptyWrapper _ => .runtime
  | tooFewItems .. | tooManyItems _ | negativeLength | badValue _ | numeral .. => .value
  | lengthOverflow | tooLarge _ => .overflow
  | noKey _ => .key
  | tooDeep | endless => .recursion
  | _ => .type

/-- The complaint is only that there is no such attribute. -/
def isMissing (c : Complaint) : Bool := c.kind = .attribute

/-- A name in quotation marks between a type and what is said of it. -/
def ofType (typeName what : String) : String := "'" ++ typeName ++ "' object " ++ what

/-- Why a text is not read as an integer, of which the literal is given. -/
def numeralMessage (literal : String) : Text.NumeralFault → String
  | .malformed => "invalid literal for int() with base 10: " ++ Text.shown literal
  | .tooManyDigits n =>
    "Exceeds the limit (" ++ toString Text.maxDigits ++
      " digits) for integer string conversion: value has " ++ toString n ++
      " digits; use sys.set_int_max_str_digits() to increase the limit"

/-- The abstract methods of a class, as they are listed. -/
def abstractList (names : List String) : String :=
  (if names.length = 1 then "method " else "methods ") ++ ", ".intercalate names

/-- The complaint in words. -/
def message : Complaint → String
  | noAttribute t name => ofType t ("has no attribute '" ++ name ++ "'")
  | classHasNone c name => "type object '" ++ c ++ "' has no attribute '" ++ name ++ "'"
  | moduleHasNone (some m) name => "module '" ++ m ++ "' has no attribute '" ++ name ++ "'"
  | moduleHasNone none name => "module has no attribute '" ++ name ++ "'"
  | unset name => name
  | noGetter (some name) c =>
    "property " ++ Text.quoted name ++ " of " ++ Text.quoted c ++ " object has no getter"
  | noGetter none c => "property of " ++ Text.quoted c ++ " object has no getter"
  | emptyWrapper c => "uninitialized " ++ c ++ " object"
  | notCallable t => ofType t "is not callable"
  | notIterable t => ofType t "is not iterable"
  | notCollection t => "argument of type '" ++ t ++ "' is not iterable"
  | notContainer t => ofType t "is not a container"
  | notIterator t => "iter() returned non-iterator of type '" ++ t ++ "'"
  | endless => "maximum recursion depth exceeded"
  | notUnpackable t => "cannot unpack non-iterable " ++ t ++ " object"
  | tooFewItems expected found =>
    "not enough values to unpack (expected " ++ toString expected ++ ", got " ++
      toString found ++ ")"
  | tooManyItems expected =>
    "too many values to unpack (expected " ++ toString expected ++ ")"
  | noLength t => "object of type '" ++ t ++ "' has no len()"
  | negativeLength => "__len__() should return >= 0"
  | lengthOverflow => "cannot fit 'int' into an index-sized integer"
  | notInteger t => ofType t "cannot be interpreted as an integer"
  | wrongResult method expected t =>
    method ++ " returned non-" ++ expected ++ " (type " ++ t ++ ")"
  | truthExpected t => "__bool__ should return bool, returned " ++ t
  | hashExpected => "__hash__ method should return an integer"
  | unhashable t => "unhashable type: '" ++ t ++ "'"
  | formatExpected t => "__format__ must return a str, not " ++ t
  | notSubscriptable t => ofType t "is not subscriptable"
  | badIndex sequence expected t =>
    sequence ++ " indices must be " ++ expected ++ ", not " ++ t
  | noKey key => key
  | badNeedle m => m
  | initGives t => "__init__() should return None, not '" ++ t ++ "'"
  | badArguments m => m
  | unboundMethod c name => "unbound method " ++ c ++ "." ++ name ++ "() needs an argument"
  | abstractClass c names =>
    "Can't instantiate abstract class " ++ c ++ " with abstract " ++ abstractList names
  | metaclassConflict =>
    "metaclass conflict: the metaclass of a derived class must be a (non-strict) subclass of " ++
      "the metaclasses of all its bases"
  | finalBase c => "type '" ++ c ++ "' is not an acceptable base type"
  | shapeConflict => "multiple bases have instance lay-out conflict"
  | badSlots m => m
  | repeatedBase c => "duplicate base class " ++ c
  | noOrder cs =>
    "Cannot create a consistent method resolution\norder (MRO) for bases " ++ ", ".intercalate cs
  | badContent m => m
  | badValue m => m
  | tooLarge m => m
  | numeral literal why => numeralMessage literal why
  | nameExpected t => "attribute name must be string, not '" ++ t ++ "'"
  | noNamespace => "vars() argument must have __dict__ attribute"
  | tooDeep => "maximum recursion depth exceeded"

end Complaint

/-- What an object of the inspected program answers, or a complaint. -/
abbrev Outcome := Except Complaint

/-- The answer, or nothing if there is no such attribute. -/
def Outcome.orMissing {α : Type} (o : Outcome α) : Outcome (Option α) :=
  match o with
  | .ok a => .ok (some a)
  | .error c => if c.isMissing then .ok none else .error c

end Conformance
