import Conformance.Handover
import Conformance.Report.Highlight
import Conformance.Report.Rule
import Conformance.Report.Table

/-!
# Reports of failures

A report shows a failed assertion on a terminal: a rule with a title, the caller's message, if there
is one, and a table of the subject, the expectation and what was found. `Report.lines` lays it out,
and `Report.render` prints it with or without styles. Colour makes no difference to the layout.
`Report.ofFailure` lays out the report of a failure, which may hold values that are no texts, and
`Report.write` writes it, if its rule is not too long for a text. That there is memory for it is
taken for granted.
-/

namespace Conformance

open Number (Binary64)

/-- How reports are laid out and printed. -/
structure ReportConfig where
  /-- The width of the terminal in columns. -/
  width : Nat := 120
  /-- Styles are printed. -/
  color : Bool := true
  /-- The table has a row for what was found. -/
  showReason : Bool := true
  /-- There is at least one column. -/
  width_pos : 0 < width := by decide
  deriving DecidableEq

namespace ReportConfig

/-- The configuration of this width, if it is positive. -/
def ofWidth (width : Int) (color showReason : Bool) : Option ReportConfig :=
  if h : 0 < width.toNat then some ⟨width.toNat, color, showReason, h⟩ else none

/-- Checks that a width is a positive number. -/
def checkWidth (width : Value) : Except Fault Unit :=
  match width with
  | .bool b => if b then .ok () else .error (.widthNotPositive width)
  | .int n => if 0 < n then .ok () else .error (.widthNotPositive width)
  | .float x => if x.isAtMostZero then .error (.widthNotPositive width) else .ok ()
  | _ => .error (.widthNotNumber width)

end ReportConfig

/-- The title of a report. -/
def Report.title : List Char := "METHOD ASSERTION FAILED".toList

/-- What a report is to be shown on. -/
inductive Terminal where
  /-- A terminal of so many columns. -/
  | columns (config : ReportConfig)
  /-- A terminal that is narrower than a column, on which nothing is shown. -/
  | sliver (showReason : Bool)

namespace Terminal

/-- The number is greater than `n`. -/
def exceeds (x : Binary64) (n : Nat) : Bool :=
  match x.truncate with
  | some m => (n : Int) < m || m == n && !x.equalsInt n
  | none => true

/-- The terminal whose width is a fraction. The rule above a report cannot be drawn on one that
is a column wide or more. Where its title has to be cut, it is that which fails. -/
def ofFraction (x : Binary64) (showReason : Bool) : Except Fault Terminal :=
  if x.truncate = some 0 then .ok (.sliver showReason)
  else if exceeds x Report.ruleEnds &&
      x.truncate.any (· < Int.ofNat (Report.ruleEnds + Report.title.length)) then
    .error .widthNotIndex
  else .error (.widthNotInteger (.float x))

/-- The terminal of a width that need not be positive. -/
def create (width : Value) (color showReason : Bool) : Except Fault Terminal := do
  ReportConfig.checkWidth width
  match width, width.toInt?.bind fun n => ReportConfig.ofWidth n color showReason with
  | _, some config => .ok (.columns config)
  | .float x, none => ofFraction x showReason
  | _, none => .error (.widthNotInteger width)

end Terminal

/-- The texts that a report shows. -/
structure Report.Content where
  /-- The subject. -/
  subject : String
  /-- What was expected of the subject. -/
  description : String
  /-- What was found instead. -/
  reason : String
  /-- What the caller adds; may be empty. -/
  message : String := ""
  deriving DecidableEq, Repr

namespace Report

/-- The message with its parts highlighted. -/
def messageText (message : String) : Line :=
  Highlight.highlight (plain (Markup.render (Markup.enclose "bold" message.toList)))

/-- The lines of the message and the empty line below, if there is a message. -/
def messageLines (w : Nat) (message : String) : List Line :=
  if message = "" then [] else wrap w .fold (messageText message) ++ [[]]

/-- A text inside a tag. -/
def tagged (tag text : String) : Line := Markup.render (Markup.enclose tag text.toList)

/-- The rows of the table. -/
def rows (f : Content) (showReason : Bool) : List Row :=
  [⟨"Subject".toList, Markup.render (Markup.escape f.subject.toList)⟩,
   ⟨"Expected".toList, tagged "green" f.description⟩] ++
  (if showReason then [⟨"Actual".toList, tagged "yellow" f.reason⟩] else [])

/-- The lines of a report, before they are cut to the width of the terminal. -/
def layout (f : Content) (config : ReportConfig) : List Line :=
  [[], rule title config.width, []] ++
  messageLines config.width f.message ++
  tableLines config.width (rows f config.showReason) ++ [[]]

/-- The lines of a report. None is wider than the terminal. -/
def lines (f : Content) (config : ReportConfig) : List Line :=
  (layout f config).map (crop config.width)

/-- The report with this content. -/
def render (f : Content) (config : ReportConfig) : String :=
  String.ofList ((lines f config).flatMap fun l => print config.color l ++ ['\n'])

/-! ### Failures -/

variable (w : World)

/-- The message of a failure that counts as true, which must be a text. One that is empty and counts
as true all the same has a class with a say in that. -/
def addedText (message : Value) : Except Fault String := do
  let text ← w.patternText message
  if text = "" then .error (.textUnsettled (w.typeName message)) else .ok text

/-- What a report on a failed assertion shows. The texts are looked at in the order in which they
are shown, and only if they are. -/
def contentOf (f : Failure) (showReason : Bool) : Except Fault Content := do
  let counts ← (w.truth w.evaluator f.message).orFault
  let message ← if counts then addedText w f.message else .ok ""
  let subject ← w.patternText f.subject
  let description ← w.patternText f.description
  let reason ← if showReason then w.patternText f.reason else .ok ""
  .ok ⟨subject, description, reason, message⟩

/-- The report of a failed assertion, as it is laid out. -/
def ofFailure (f : Failure) : Terminal → Except Fault String
  | .columns config => (contentOf w f config.showReason).map fun c => render c config
  | .sliver showReason => (contentOf w f showReason).map fun _ => ""

/-- How many characters a text can have. -/
def maxLength : Nat := 9223372036854775807

/-- The rule above a report can be drawn. On each side of the title it is cut from a text that is a
character longer. -/
def checkRule : Terminal → Except Fault Unit
  | .columns config =>
    if sideWidth title config.width < maxLength then .ok () else .error .ruleTooLong
  | .sliver _ => .ok ()

/-- The report of a failed assertion, as it is written from its rule on. -/
def write (f : Failure) (terminal : Terminal) : Except Fault String := do
  checkRule terminal
  ofFailure w f terminal

end Report

end Conformance
