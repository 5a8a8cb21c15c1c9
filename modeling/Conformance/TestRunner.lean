import Conformance.Assertion
import Conformance.Settings

/-!
# In a test runner

What a test runner is told when it starts (the settings and the marker that exist) and what is
added to the report of a test that failed an assertion on a method: one more section, at the
end, with the report of the failure. All other reports stay as they are.
-/

namespace Conformance

namespace TestRunner

/-- A setting that a test runner can be given. -/
structure Setting where
  /-- The name of the setting. -/
  name : String
  /-- What the setting is for. -/
  help : String
  /-- The type of the setting, if it is no text. -/
  type : Option String
  /-- The value when nothing is set. -/
  default : Value

/-- The settings of reports. -/
def settings : List Setting :=
  [{ name := "methodcheck_report_width"
     help := "Width of methodcheck failure reports in characters"
     type := none
     default := .null },
   { name := "methodcheck_report_color"
     help := "Render methodcheck failure reports with ANSI styles"
     type := some "bool"
     default := .bool true }]

/-- The lines that are added to the runner's own settings, each with the setting that it is
added to. -/
def configurationLines : List (String × String) :=
  [("markers", "methodcheck: mark test as method signature test")]

/-- The title of the section with the report of a failure. -/
def sectionTitle : String := "methodcheck"

/-- A section of the report of a test. -/
structure Section where
  /-- The title. -/
  title : String
  /-- The text. -/
  text : String
  deriving DecidableEq, Repr

/-! ### Errors -/

/-- A class of errors. -/
inductive ErrorClass where
  /-- One of those that callers are told about by name. -/
  | own (name : String)
  /-- Any other class, by its name. -/
  | other (name : String)
  deriving DecidableEq, Repr

/-- The class of the failures of assertions. -/
def failureClass : ErrorClass := .own "HasMethodAssertionError"

/-- The classes of errors that a fault is an object of, but for those that all errors are objects
of. -/
def classesOf (f : Fault) : List ErrorClass :=
  match f.notice? with
  | some n => [.own n.className, .own Notice.rootName, .other n.builtinName]
  | none => [.other f.className]

/-- What a fault has to say as the failure of an assertion, if it is one. -/
def failureOf? : Fault → Option Failure
  | .assertionFailed f _ => some f
  | _ => none

/-- A fault is an object of the class of failures if and only if it is the failure of an
assertion. -/
theorem mem_classesOf_iff {f : Fault} :
    failureClass ∈ classesOf f ↔ (failureOf? f).isSome = true := by
  cases f <;> simp [classesOf, failureOf?, failureClass, Fault.notice?, Notice.className,
    Notice.rootName]

/-- An error that a test has raised. -/
structure Raised where
  /-- The classes that the error counts as an object of: its own and the ancestors of that. -/
  classes : List ErrorClass
  /-- What the error has to say as the failure of an assertion, which every object of that class has
  been told when it was made. -/
  failure : failureClass ∈ classes → Failure

namespace Raised

/-- A fault as an error that a test has raised. -/
def ofFault (f : Fault) : Raised where
  classes := classesOf f
  failure h := (failureOf? f).get (mem_classesOf_iff.mp h)

/-- An error of the class with this name, of which no more is known. -/
def foreign (name : String) : Raised where
  classes := [.other name]
  failure h := absurd (List.mem_singleton.mp h) (by rintro ⟨⟩)

end Raised

/-! ### Reports of tests -/

/-- The reports of tests, each by its number with its sections. -/
abbrev Reports : Type := Nat → List Section

/-- The reports with one more section at the end of this one. -/
def Reports.append (reports : Reports) (report : Nat) (s : Section) : Reports :=
  fun i => if i = report then reports i ++ [s] else reports i

/-- Adds the section with the report of a failure to the report of a test. The settings are looked
at first. -/
def addSection (w : World) (width color : Settings.Entry) (f : Failure) (report : Nat) :
    EStateM Fault Reports Unit := do
  let config ← MonadExcept.ofExcept (Settings.reportConfig width color)
  let text ← MonadExcept.ofExcept (Report.write w f (.columns config))
  modify (·.append report ⟨sectionTitle, text⟩)

/-- Completes the report of a test by the error that the test has raised, if any, and answers with
the report. Nothing is added unless the error is the failure of an assertion. -/
def makeReport (w : World) (width color : Settings.Entry) (raised : Option Raised) (report : Nat) :
    EStateM Fault Reports Nat := do
  match raised with
  | some x => if h : failureClass ∈ x.classes then addSection w width color (x.failure h) report
  | none => pure ()
  return report

/-- The sections of the report of a test, completed by what the test has raised. -/
def completeReport (w : World) (width color : Settings.Entry) (raised : Option Raised)
    (sections : List Section) : Except Fault (List Section) :=
  match (makeReport w width color raised 0).run fun _ => sections with
  | .ok report reports => .ok (reports report)
  | .error fault _ => .error fault

end TestRunner

end Conformance
