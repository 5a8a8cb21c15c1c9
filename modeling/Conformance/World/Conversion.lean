import Conformance.Text.FloatNumeral
import Conformance.World.Items
import Conformance.World.Wording

/-!
# Turning objects into others

What a built-in class makes of an argument: a number is read from a text or asked for by a method,
bytes are counted or listed, and a collection takes the items of another object. Where the object
does not lend itself to that, the complaint says what would.
-/

namespace Conformance

open Number (Binary64)

/-- The characters that bytes stand for in a numeral, where only the first 128 can. -/
def numeralBytes (bs : List UInt8) : List Char :=
  bs.map fun b => if b < 0x80 then Char.ofNat b.toNat else Char.ofNat 0xfffd

namespace World

variable (w : World) (e : Evaluator)

/-! ### Numbers -/

/-- The object has a method for the purpose. -/
def has (v : Value) (name : String) : Bool := (w.classAttribute? v name).isSome

/-- The integer that a text or bytes are read as. -/
def integerOfText (v : Value) : Outcome Int :=
  match v.core with
  | .str s =>
    match Text.readInteger s.toList with
    | .ok n => .ok n
    | .error why => do .error (.numeral (← w.literal e v) why)
  | .bytes bs | .bytearray bs =>
    match Text.readInteger (numeralBytes bs) with
    | .ok n => .ok n
    | .error why => .error (.numeral (Text.quotedBytes (bs.take Text.maxShown)) why)
  | _ =>
    .error (.badContent ("int() argument must be a string, a bytes-like object or a real " ++
      "number, not '" ++ w.typeName v ++ "'"))

/-- The integer that a number is cut to. -/
def integerOfNumber : Value → Outcome Int
  | .float .nan => .error (.badValue "cannot convert float NaN to integer")
  | .float (.infinite _) => .error (.tooLarge "cannot convert float infinity to integer")
  | .float x => .ok (x.truncate.getD 0)
  | v => .ok (v.toInt?.getD 0)

/-- The integer that a method has given. -/
def integerGiven (method expected : String) (r : Value) : Outcome Int :=
  match r.core.toInt? with
  | some n => .ok n
  | none => .error (.wrongResult method expected (w.typeName r))

/-- The integer that an object is turned into. -/
def toInteger (v : Value) : Outcome Int :=
  match w.special v "__int__", w.special v "__trunc__" with
  | .own f, _ => do w.integerGiven "__int__" "int" (← w.callOwn e v f [])
  | .builtin _, _ => integerOfNumber v.core
  | .absent, truncation =>
    if w.has v "__index__" then w.index e v
    else
      match truncation with
      | .own f => do
        let r ← w.callOwn e v f []
        if w.has r "__index__" then w.index e r
        else w.integerGiven "__trunc__" "Integral" r
      | _ => w.integerOfText e v

/-- The floating-point number nearest to an integer. -/
def floatOfInteger (n : Int) : Outcome Binary64 :=
  match Binary64.ofInt n with
  | .infinite _ => .error (.tooLarge "int too large to convert to float")
  | x => .ok x

/-- The floating-point number that a text or bytes are read as. -/
def floatOfText (v : Value) : Outcome Binary64 :=
  let read (cs : List Char) : Outcome Binary64 :=
    match Text.readFloat? cs with
    | some x => .ok x
    | none => do .error (.badValue ("could not convert string to float: " ++ (← w.literal e v)))
  match v.core with
  | .str s => read s.toList
  | .bytes bs | .bytearray bs => read (numeralBytes bs)
  | _ =>
    .error (.badContent ("float() argument must be a string or a real number, not '" ++
      w.typeName v ++ "'"))

/-- The floating-point number that an object is turned into. -/
def toFloat (v : Value) : Outcome Binary64 :=
  match w.special v "__float__" with
  | .own f => do
    let r ← w.callOwn e v f []
    match r.core with
    | .float x => .ok x
    | _ => .error (.wrongResult (w.typeName v ++ ".__float__") "float" (w.typeName r))
  | .builtin _ =>
    match v.core with
    | .float x => .ok x
    | v => floatOfInteger (v.toInt?.getD 0)
  | .absent =>
    if w.has v "__index__" then do floatOfInteger (← w.index e v) else w.floatOfText e v

/-- The complex number that an object is turned into. -/
def toComplex (v : Value) : Outcome (Binary64 × Binary64) :=
  match v.core, w.special v "__complex__" with
  | .str s, _ =>
    match Text.readComplex? s.toList with
    | some z => .ok z
    | none =>
      if (Text.normalize? s.toList).isSome then
        .error (.badValue "complex() arg is a malformed string")
      else do .error (.badValue ("could not convert string to complex: " ++ (← w.literal e v)))
  | _, .own f => do
    let r ← w.callOwn e v f []
    match r.core with
    | .complex re im => .ok (re, im)
    | _ => .error (.wrongResult "__complex__" "complex" (w.typeName r))
  | .complex re im, _ => .ok (re, im)
  | _, _ =>
    if w.has v "__float__" || w.has v "__index__" then do return (← w.toFloat e v, .zero)
    else .error (.badContent ("complex() first argument must be a string or a number, not '" ++
      w.typeName v ++ "'"))

/-! ### Bytes -/

/-- The byte that an object stands for among those of a sequence, of which messages speak as
`plural`. -/
def toByte (plural : String) (v : Value) : Outcome UInt8 := do
  let n ← w.index e v
  if 0 ≤ n ∧ n < 256 then return UInt8.ofNat n.toNat
  else .error (.badValue (plural ++ " must be in range(0, 256)"))

/-- So many zeros. -/
def zeros (n : Int) : Outcome (List UInt8) :=
  if maxLength < n ∨ n < -maxLength - 1 then .error .lengthOverflow
  else if n < 0 then .error (.badValue "negative count")
  else .ok (List.replicate n.toNat 0)

/-- The bytes that an object lists. -/
def listedBytes (className plural : String) (v : Value) : Outcome (List UInt8) :=
  match v.core, w.walk e v with
  | .bytes bs, _ | .bytearray bs, _ => .ok bs
  | _, .ok (.all vs) => vs.mapM (w.toByte e plural)
  | _, .ok (.endless item) => do
    let _ ← w.toByte e plural (← item)
    .error .endless
  | _, .error c =>
    .error (if c.kind = .type then
      .badContent ("cannot convert '" ++ w.typeName v ++ "' object to " ++ className) else c)

/-- The bytes that an object counts or lists. -/
def countedBytes (className plural : String) (v : Value) : Outcome (List UInt8) :=
  if (w.textOf? v).isSome then .error (.badArguments "string argument without an encoding")
  else if w.has v "__index__" then
    match w.index e v with
    | .ok n => zeros n
    | .error c => if c.kind = .type then w.listedBytes e className plural v else .error c
  else w.listedBytes e className plural v

/-- The fixed sequence of bytes that an object is turned into. -/
def toBytes (v : Value) : Outcome (List UInt8) :=
  match w.special v "__bytes__", v.core with
  | .own f, _ => do
    let r ← w.callOwn e v f []
    match r.core with
    | .bytes bs => .ok bs
    | _ => .error (.wrongResult "__bytes__" "bytes" (w.typeName r))
  | .builtin _, .bytes bs => .ok bs
  | _, _ => w.countedBytes e "bytes" "bytes" v

/-- The changing sequence of bytes that an object is turned into. -/
def toBuffer (v : Value) : Outcome (List UInt8) := w.countedBytes e "bytearray" "byte" v

/-! ### Collections -/

/-- What an object claims about the number of its items beforehand makes sense. -/
def checkLengthHint (v : Value) : Outcome Unit :=
  let hint : Outcome Unit :=
    match w.special v "__length_hint__" with
    | .own f => do
      match e.call (← w.bindOwn e v f) [] with
      | .error c => if c.kind = .type then .ok () else .error c
      | .ok r =>
        match r.core.toInt? with
        | some n =>
          if n < 0 then .error (.badValue "__length_hint__() should return >= 0") else .ok ()
        | none =>
          .error (.badContent ("__length_hint__ must be an integer, not " ++ w.typeName r))
    | _ => .ok ()
  match w.length e v with
  | .ok _ => .ok ()
  | .error c => if c.kind = .type then hint else .error c

/-- The items of the sequence that an object is turned into. -/
def toItems (v : Value) : Outcome (List Value) :=
  match v with
  | .list vs | .tuple vs => .ok vs
  | v => do
    let vs ← w.items e v
    w.checkLengthHint e v
    return vs

/-- The items of the set that an object is turned into. -/
def toDistinct (v : Value) : Outcome (List Value) :=
  match v.core with
  | .set vs | .frozenset vs => .ok vs
  | _ => do
    match ← w.walk e v with
    | .all vs => w.distinct e vs
    | .endless item => do
      let _ ← w.hashed e (← item)
      .error .endless

/-- The key and the value that an item of a sequence stands for, the item of this number. -/
def toEntry (position : Nat) (v : Value) : Outcome (Value × Value) :=
  match w.items e v with
  | .ok [k, x] => .ok (k, x)
  | .ok vs =>
    .error (.badValue ("dictionary update sequence element #" ++ toString position ++
      " has length " ++ toString vs.length ++ "; 2 is required"))
  | .error c =>
    .error (if c.kind = .type then
      .badContent ("cannot convert dictionary update sequence element #" ++ toString position ++
        " to a sequence") else c)

/-- The entries that are listed one by one. -/
def listedEntries (v : Value) : Outcome (List (Value × Value)) := do
  match ← w.walk e v with
  | .all vs =>
    let es ← vs.zipIdx.mapM fun item => w.toEntry e item.2 item.1
    w.putAll e es
  | .endless item => do
    let _ ← w.toEntry e 0 (← item)
    .error .endless

/-- The keys that an object gives. -/
def givenKeys (v : Value) : Outcome (List Value) := do
  let keys ← e.call (← e.read v "keys") []
  match w.walk e keys with
  | .ok (.all ks) => return ks
  | .ok (.endless key) => do
    let _ ← key
    .error .endless
  | .error c =>
    .error (if c.kind = .type then
      .badContent (w.typeName v ++ ".keys() returned a non-iterable (type " ++
        w.typeName keys ++ ")") else c)

/-- The entries of a dictionary that is gone through as every dictionary is. -/
def plainEntries? (v : Value) : Option (List (Value × Value)) :=
  match v.core, w.special v "__iter__" with
  | .dict es, .builtin .dict => some es
  | _, _ => none

/-- The entries of the dictionary that an object is turned into. -/
def toEntries (v : Value) : Outcome (List (Value × Value)) :=
  match v, w.plainEntries? v with
  | .dict es, _ => .ok es
  | v, plain => do
    match ← e.readIfAny v "keys", plain with
    | none, _ => w.listedEntries e v
    | some _, some es => return es
    | some _, none => w.putAll e (← (← w.givenKeys e v).mapM fun k => do return (k, ← w.item e v k))

end World

end Conformance
