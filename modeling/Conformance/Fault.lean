import Conformance.Complaint
import Conformance.Modifier
import Conformance.Notice

/-!
# Faults

Everything that can go wrong, by its cause: a specification that cannot be read or built, a
descriptor that cannot be built, an assertion that fails, settings that make no sense, and objects
of the inspected program that fail to answer.
`Fault.message` puts a fault into words, `Fault.className` names the class of errors that it is an
object of, `Fault.notice?` is the notice that a fault amounts to, and `Fault.cause?` names the fault
that it was raised for, if there is one.

One fault is no error of the program: `textUnsettled` is given where nothing is said here of what
becomes of a text, because its class has methods of its own that the program would run on it.
-/

namespace Conformance

/-- What can go wrong. -/
inductive Fault where
  /-- A specification text breaks the grammar; `remaining` is the text from the point on at
  which it does. -/
  | malformedSpec (remaining : String)
  /-- A text that was to specify a method does not; `remaining` is that of the grammar fault
  behind it, if there is one. -/
  | invalidSpec (context spec reason : String) (remaining : Option String)
  /-- A method name is no identifier. -/
  | invalidName (name : Value)
  /-- A method cannot be required to be abstract and final. -/
  | conflictingModifiers (isAbstract isFinal : Option Bool)
  /-- An assertion failed, and this is what it says in words. -/
  | assertionFailed (failure : Failure) (text : String)
  /-- A specification is not given as a text but as something of this type. -/
  | specNotText (typeName : String)
  /-- No specification is given. -/
  | specMissing
  /-- An access constraint is given as something else. -/
  | accessExpected (given : Value)
  /-- A word is not one of the access constraints. -/
  | unknownAccess (keyword : Value)
  /-- A method has no name. -/
  | emptyName
  /-- Modifiers are given as something else. -/
  | modifiersExpected (given : Value)
  /-- The word at this position of a rendered text is no text. -/
  | wordNotText (position : Nat) (given : Value)
  /-- A method has not one visibility but these. -/
  | visibilityCount (found : List Visibility)
  /-- A report is to be this wide. -/
  | widthNotPositive (width : Value)
  /-- The width of a report is no number. -/
  | widthNotNumber (width : Value)
  /-- The width of a report is no integer. -/
  | widthNotInteger (width : Value)
  /-- A title is to be cut to a width that is no integer. -/
  | widthNotIndex
  /-- What is searched for a pattern is no text but something of this type. -/
  | textExpected (typeName : String)
  /-- What is searched for a pattern are bytes. -/
  | bytesGiven
  /-- It is left open what becomes of a text that is given, an object of the class of this name. -/
  | textUnsettled (className : String)
  /-- The rule above a report is to be drawn with more characters than a text can have. -/
  | ruleTooLong
  /-- The setting for the width is no integer. -/
  | widthSettingMalformed (text : String) (why : Text.NumeralFault)
  /-- The setting for the width is an integer that is not positive. -/
  | widthSettingNotPositive (width : Int)
  /-- An object of the inspected program fails. -/
  | complaint (c : Complaint)

namespace Fault

/-- The modifiers that are visibilities, with their names and their sum. -/
def visibilityText (vs : List Visibility) : String :=
  let sum := toString (Modifiers.visibilityBits vs)
  match vs with
  | [] => "<Modifier: " ++ sum ++ ">"
  | _ => "<Modifier." ++ "|".intercalate (vs.map Visibility.label) ++ ": " ++ sum ++ ">"

/-- A flag that may be left open, as a value. -/
def flagValue : Option Bool → Value
  | none => .null
  | some b => .bool b

/-- The notice that a fault amounts to, if callers are told of it by name. -/
def notice? : Fault → Option Notice
  | malformedSpec remaining => some (.malformedSpec (.str remaining))
  | invalidSpec context spec reason _ =>
    some (.invalidSpec (.str context) (.str spec) (.str reason))
  | invalidName name => some (.invalidName name)
  | conflictingModifiers a f => some (.conflictingModifiers (flagValue a) (flagValue f))
  | assertionFailed failure _ => some (.assertionFailed failure)
  | _ => none

/-- The fault in words. -/
def message : Fault → String
  | malformedSpec remaining => Notice.malformedText remaining
  | invalidSpec context spec reason _ => Notice.invalidText context spec reason
  | invalidName name => Notice.nameText name.literal
  | conflictingModifiers a f => Notice.conflictText (flagValue a).text (flagValue f).text
  | assertionFailed _ text => text
  | specNotText typeName => "method specification must be str, got " ++ typeName
  | specMissing => "spec must not be None"
  | accessExpected given => "access must be Access or None, got " ++ given.typeName
  | unknownAccess keyword => "unknown access keyword " ++ keyword.literal
  | emptyName => "method name must not be empty"
  | modifiersExpected given => "modifiers must be Modifier, got " ++ given.typeName
  | wordNotText position given =>
    "sequence item " ++ toString position ++ ": expected str instance, " ++
      given.typeName ++ " found"
  | visibilityCount found =>
    "exactly one visibility bit required, got " ++ visibilityText found
  | widthNotPositive width => "width must be > 0, got " ++ width.literal
  | widthNotNumber width =>
    "'<=' not supported between instances of '" ++ width.typeName ++ "' and 'int'"
  | widthNotInteger width =>
    "can't multiply sequence by non-int of type '" ++ width.typeName ++ "'"
  | widthNotIndex => "slice indices must be integers or None or have an __index__ method"
  | textExpected typeName => "expected string or bytes-like object, got '" ++ typeName ++ "'"
  | bytesGiven => "cannot use a string pattern on a bytes-like object"
  | textUnsettled className => "text of the class '" ++ className ++ "' left open"
  | ruleTooLong => "cannot fit 'int' into an index-sized integer"
  | widthSettingMalformed text _ =>
    "methodcheck_report_width must be an integer, got " ++ Text.quoted text
  | widthSettingNotPositive width =>
    "methodcheck_report_width must be > 0, got " ++ toString width
  | complaint c => c.message

/-- The name of the class of errors that the fault is an object of. -/
def className (f : Fault) : String :=
  match f.notice?, f with
  | some n, _ => n.className
  | none, complaint c => c.kind.className
  | none, specNotText _ | none, specMissing | none, accessExpected _ => "TypeError"
  | none, modifiersExpected _ | none, wordNotText .. | none, widthNotNumber _ => "TypeError"
  | none, widthNotInteger _ | none, widthNotIndex => "TypeError"
  | none, textExpected _ | none, bytesGiven => "TypeError"
  | none, ruleTooLong => "OverflowError"
  | none, widthSettingMalformed .. | none, widthSettingNotPositive _ => "UsageError"
  | none, _ => "ValueError"

/-- The fault that this one was raised for. -/
def cause? : Fault → Option Fault
  | invalidSpec _ _ _ remaining => remaining.map malformedSpec
  | widthSettingMalformed text why => some (complaint (.numeral (Text.quoted text) why))
  | _ => none

end Fault

/-- The answer, or the fault that a complaint is. -/
def Outcome.orFault {α : Type} (o : Outcome α) : Except Fault α := o.mapError .complaint

end Conformance
