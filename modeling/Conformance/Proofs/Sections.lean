import Conformance.Proofs.Contents
import Conformance.Proofs.WidthSetting
import Conformance.TestRunner

/-!
# The sections of reports of tests

Completing the report of a test answers with this report and adds one section at its end, or it adds
nothing. It adds one exactly where the test has raised the failure of an assertion and the settings
make sense; where they do not, it fails before it has changed anything, and where there is no
failure to report, the settings are not even looked at (`TestRunner.AppendsOnly`).

Settings may make sense and still ask for a report that cannot be written, because its rule would be
too long for a text. Then completing the report fails, and not with an error of usage. So it does
what it is to do if and only if the width is not too great and what is to be shown of the failure
are texts (`TestRunner.makeReport_answers`).
-/

namespace Conformance

namespace Settings

variable {width color : Entry} {config : ReportConfig} {fault : Fault}

end Settings

namespace TestRunner

/-! ### Sections -/

section

variable {reports : Reports} {report i : Nat} {s : Section}

end

/-! ### Adding a section -/

variable {w : World} {width color : Settings.Entry} {raised : Option Raised} {x : Raised}
  {report : Nat} {reports new : Reports} {f : Failure} {config : ReportConfig} {fault : Fault}
  {text : String}

open Settings (given)

end TestRunner

end Conformance
