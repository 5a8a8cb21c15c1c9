import Conformance.Complaint
import Conformance.Text.FloatNumeral
import Conformance.Value

/-!
# Literals

How values are written in messages. Most values have a text of their own; how the objects of a
class are written depends on the class, so a literal is written with a `Naming` of the world
around it. A class may fail to say how its objects are written, and then the literal of every
collection that holds one of them fails with it.
-/

namespace Conformance

namespace Value

/-- How classes are written: what a literal needs to know of the world around it. -/
structure Naming where
  /-- The name of a class, without its module. -/
  short : ClassRef → String
  /-- The name of a class, as the class itself is written. -/
  full : ClassRef → String
  /-- What an object says of itself, if its class does not leave that to a built-in one. -/
  own? : Value → Outcome (Option String)

/-- The name of a class between angle brackets. -/
def classText (name : String) : String := "<class '" ++ name ++ "'>"

/-- A module between angle brackets, by its name as a literal and what is behind it. -/
def moduleText (name behind : String) : String := "<module " ++ name ++ behind ++ ">"

/-- In a world without declarations a declared class is known by its identifier only. -/
def Naming.plain : Naming where
  short
    | .builtin b => b.name
    | .declared id => id
  full
    | .builtin b => b.qualifiedName
    | .declared id => id
  own? _ := .ok none

/-- The items of a collection, separated by commas. -/
def commaSeparated (texts : List String) : String := ", ".intercalate texts

/-- The items of a set between braces; nothing for an empty set. -/
def braced (texts : List String) : String :=
  if texts.isEmpty then "" else "\x7b" ++ commaSeparated texts ++ "\x7d"

/-- The name of a class with something between parentheses behind it. -/
def called (name inner : String) : String := name ++ "(" ++ inner ++ ")"

/-- The items of a tuple between parentheses; a single item has a comma behind it. -/
def tupleText : List String → String
  | [t] => "(" ++ t ++ ",)"
  | ts => "(" ++ commaSeparated ts ++ ")"

/-- A wrapper around something that is written so. -/
def wrapperText (className inner : String) : String := "<" ++ called className inner ++ ">"

/-- An object of which no more is said than the name of its class. -/
def objectText (className : String) : String := "<" ++ className ++ " object>"

/-- The text, unless the object says something of itself. -/
def orOwn (n : Naming) (v : Value) (text : Outcome String) : Outcome String :=
  match n.own? v with
  | .ok (some t) => .ok t
  | .ok none => text
  | .error c => .error c

mutual

/-- A value as a message writes it, or the complaint of a class that fails to say it. -/
def literalIn? (n : Naming) : Value → Outcome String
  | null => .ok "None"
  | bool true => .ok "True"
  | bool false => .ok "False"
  | int i => .ok (toString i)
  | float x => .ok (Text.floatLiteral x)
  | complex re im => .ok (Text.complexLiteral re im)
  | str s => .ok (Text.quoted s)
  | bytes bs => .ok (Text.quotedBytes bs)
  | bytearray bs => .ok (called "bytearray" (Text.quotedBuffer bs))
  | list vs => (literalsIn? n vs).map fun ts => "[" ++ commaSeparated ts ++ "]"
  | tuple vs => (literalsIn? n vs).map tupleText
  | set vs => (literalsIn? n vs).map fun ts => if ts.isEmpty then "set()" else braced ts
  | frozenset vs => (literalsIn? n vs).map fun ts => called "frozenset" (braced ts)
  | dict es => (entryLiteralsIn? n es).map fun ts => "\x7b" ++ commaSeparated ts ++ "\x7d"
  | arguments vs => (literalsIn? n vs).map tupleText
  | staticMethod f _ => (optionLiteralIn? n f).map (wrapperText "staticmethod")
  | classMethod f _ => (optionLiteralIn? n f).map (wrapperText "classmethod")
  | builtinFunction name => .ok ("<built-in function " ++ name ++ ">")
  | module name => orOwn n (module name) (.ok (moduleText (Text.quoted name) ""))
  | cls c => orOwn n (cls c) (.ok (classText (n.full c)))
  | .instance c content => orOwn n (.instance c content) (contentLiteralIn? n c content)
  | v => .ok (objectText v.builtinClass.name)

/-- An object as the built-in class of its content writes it. -/
def contentLiteralIn? (n : Naming) (c : ClassRef) : Option Value → Outcome String
  | none | some (property _ _) => .ok (objectText (n.full c))
  | some (bytearray bs) => .ok (called (n.short c) (Text.quotedBuffer bs))
  | some (set vs) => (literalsIn? n vs).map fun ts => called (n.short c) (braced ts)
  | some (frozenset vs) => (literalsIn? n vs).map fun ts => called (n.short c) (braced ts)
  | some (arguments vs) =>
    (literalsIn? n vs).map fun ts => called (n.short c) (commaSeparated ts)
  | some v => literalIn? n v

/-- What a wrapper wraps, if it does. -/
def optionLiteralIn? (n : Naming) : Option Value → Outcome String
  | none => .ok "<NULL>"
  | some v => literalIn? n v

/-- The literals of several values. -/
def literalsIn? (n : Naming) : List Value → Outcome (List String)
  | [] => .ok []
  | v :: vs =>
    match literalIn? n v with
    | .ok t => (literalsIn? n vs).map (t :: ·)
    | .error complaint => .error complaint

/-- The literals of the entries of a dictionary. -/
def entryLiteralsIn? (n : Naming) : List (Value × Value) → Outcome (List String)
  | [] => .ok []
  | e :: es =>
    match entryLiteralIn? n e with
    | .ok t => (entryLiteralsIn? n es).map (t :: ·)
    | .error complaint => .error complaint

/-- An entry of a dictionary. -/
def entryLiteralIn? (n : Naming) : Value × Value → Outcome String
  | (k, v) =>
    match literalIn? n k with
    | .ok t => (literalIn? n v).map fun u => t ++ ": " ++ u
    | .error complaint => .error complaint

end

/-- What is written in place of a literal that fails. -/
def complaintText (complaint : Complaint) : String :=
  "<repr-error " ++ Text.quoted complaint.message ++ ">"

/-- A value as a message writes it, whatever its class says. -/
def literalIn (n : Naming) (v : Value) : String :=
  match v.literalIn? n with
  | .ok t => t
  | .error complaint => complaintText complaint

/-- A value that no declared class occurs in, as a message writes it. -/
def literal (v : Value) : String := v.literalIn .plain

/-- A value that no declared class occurs in, as a text: a text as it is, any other value as its
literal. -/
def text : Value → String
  | str s => s
  | v => v.literal

end Value

end Conformance
