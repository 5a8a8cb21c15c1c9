import Conformance.Report

/-!
# Settings of reports

A test runner keeps two settings for reports, the width and whether styles are printed, as they are
written down (`Settings.Entry`). A width that is missing, empty or false leaves the default; any
other one is read as an integer from its text, which must be positive.
-/

namespace Conformance

namespace Settings

mutual

/-- The value can be written down in a file of settings: no object in it has a class of its own. -/
def isWritten : Value → Bool
  | .null | .bool _ | .int _ | .float _ | .str _ => true
  | .list vs => areWritten vs
  | .dict es => areWrittenEntries es
  | _ => false

/-- The values can be written down. -/
def areWritten : List Value → Bool
  | [] => true
  | v :: vs => isWritten v && areWritten vs

/-- The entries can be written down. -/
def areWrittenEntries : List (Value × Value) → Bool
  | [] => true
  | e :: es => isWrittenEntry e && areWrittenEntries es

/-- The key and the value of an entry can be written down. -/
def isWrittenEntry : Value × Value → Bool
  | (k, v) => isWritten k && isWritten v

end

/-- What a test runner keeps for a setting. -/
structure Entry where
  /-- The value. -/
  value : Value
  /-- The value is written down. -/
  isWritten_value : isWritten value = true := by rfl

/-- The width of a report when none is set. -/
def defaultWidth : String := "120"

/-- The text of the width setting. -/
def widthText (width : Entry) : String :=
  if width.value.isTruthy then width.value.text else defaultWidth

/-- The configuration that the settings ask for. -/
def reportConfig (width color : Entry) : Except Fault ReportConfig :=
  let text := widthText width
  match Text.readInteger text.toList with
  | .error why => .error (.widthSettingMalformed text why)
  | .ok n =>
    match ReportConfig.ofWidth n color.value.isTruthy true with
    | some config => .ok config
    | none => .error (.widthSettingNotPositive n)

end Settings

end Conformance
