import Conformance.Report.Pattern
import Conformance.Report.Span
import Conformance.Text.DecimalDigit
import Conformance.Text.WordChar

/-!
# Highlighting of messages

The message of a failure is shown in bold, and some of its parts in colour besides. A text between
angle brackets is looked for first, then names with values, then brackets of the other kinds, and
at last all else: addresses, calls, the words for truth values and for nothing, numbers, paths,
quoted texts and locators. Of those the first in this order counts where several fit. What is
found later is shown over what was found before. The text itself stays as it is
(`plain_highlight`).
-/

namespace Conformance.Report.Highlight

/-- The style of a message. -/
def base : Style := [1]

/-- A part of one style. -/
def part (look : Style) (n : Nat) : List Segment := [.span (some look) n]

/-- A part of one style that a pattern finds. -/
def matched? (look : Style) (f : Pattern) (cs : List Char) : Option (List Segment) :=
  (f.length? cs).map (part look)

/-- The text goes on with a word character. -/
def startsWord : List Char → Bool
  | [] => false
  | c :: _ => Text.isWordChar c

/-- The character before is no word character. -/
def notAfterWord (previous : Option Char) : Bool := !(previous.map Text.isWordChar).getD false

/-! ### Angle brackets -/

/-- A character of the name behind an opening angle bracket. -/
def isTagChar (c : Char) : Bool := Text.isWordChar c || ['-', '.', ':', '|'].contains c

/-- The number of characters before the last closing angle bracket. -/
def lastClosing? (cs : List Char) : Option Nat :=
  (cs.reverse.findIdx? (· == '>')).map fun behind => cs.length - 1 - behind

/-- A text between angle brackets, as long as possible: a name and what follows it. -/
def tag? : Span.Finder := fun _ cs =>
  match cs with
  | '<' :: rest =>
    (lastClosing? rest).map fun n =>
      let name := (rest.takeWhile isTagChar).length
      [.span none 1, .span (some [1, 95]) name, .span (some [1, 39]) (n - name), .span none 1]
  | _ => none

/-! ### Names with values -/

/-- The longest name that may have a value. -/
def maxName : Nat := 50

/-- Word characters, perhaps with a double quotation mark before and behind them. -/
def namedValue : Pattern :=
  (Pattern.exactly '"').optional.andThen
    ((Pattern.some Text.isWordChar).andThen (Pattern.exactly '"').optional)

/-- A name, an equals sign and perhaps a value. -/
def named? : Span.Finder := fun _ cs =>
  let n := ((cs.take (maxName + 1)).takeWhile Text.isWordChar).length
  match cs.drop n with
  | '=' :: rest =>
    if n = 0 ∨ maxName < n then none
    else some (part [1, 33] n ++ .gap 1 :: part [1, 35] ((namedValue.length? rest).getD 0))
  | _ => none

/-! ### Brackets -/

/-- The character is a bracket. -/
def isBracket (c : Char) : Bool := ['[', ']', '\x7b', '\x7d', '(', ')'].contains c

/-- A bracket. -/
def bracket? : Span.Finder := fun _ cs =>
  match cs with
  | c :: _ => if isBracket c then some [.span none 1] else none
  | [] => none

/-! ### Addresses -/

/-- An ASCII digit. -/
def isDigit (c : Char) : Bool := c.isDigit

/-- A hexadecimal digit. -/
def isHexDigit (c : Char) : Bool :=
  c.isDigit || ('a' ≤ c && c ≤ 'f') || ('A' ≤ c && c ≤ 'F')

/-- Between `least` and `most` hexadecimal digits. -/
def hexDigits (least most : Nat) : Pattern := (Pattern.one isHexDigit).between least most

/-- `n` times a group and a mark behind it, and a group at the end. -/
def grouped (group : Pattern) (mark : Char) (n : Nat) : Pattern :=
  ((group.andThen (Pattern.exactly mark)).times n).andThen group

/-- An address of four numbers. -/
def shortAddress : Pattern := grouped ((Pattern.one isDigit).between 1 3) '.' 3

/-- An address of hexadecimal numbers between single or double colons. -/
def longAddress : Pattern :=
  (((hexDigits 1 4).andThen
      ((Pattern.exactly ':').andThen (Pattern.exactly ':').optional)).between 1 7).andThen
    (hexDigits 1 4)

/-- The address of a device, of `n + 1` pairs of hexadecimal digits or of half as many fours. -/
def deviceAddress (n : Nat) : Pattern :=
  ((grouped (hexDigits 1 2) '-' n).orElse (grouped (hexDigits 1 2) ':' n)).orElse
    (grouped (hexDigits 4 4) '.' (n / 2))

/-- An identifier of 32 hexadecimal digits in five groups. -/
def identifier : Pattern :=
  [4, 4, 4, 12].foldl
    (fun f n => f.andThen ((Pattern.exactly '-').andThen (hexDigits n n))) (hexDigits 8 8)

/-- An address or an identifier. -/
def address? (cs : List Char) : Option (List Segment) :=
  (matched? [1, 92] (((shortAddress.orElse longAddress).orElse (deviceAddress 7)).orElse
    (deviceAddress 5)) cs).or (matched? [1, 93] identifier cs)

/-! ### Calls and words -/

/-- A name with dots in front of an opening parenthesis. Only the name is shown as a call. -/
def call? (cs : List Char) : Option (List Segment) :=
  let n := (cs.takeWhile fun c => Text.isWordChar c || c == '.').length
  if (cs.drop n).head? = some '(' then some (part [1, 35] n ++ [.gap 1]) else none

/-- The words that stand for values, with their styles. -/
def words : List (List Char × Style) :=
  [("True".toList, [1, 3, 92]), ("False".toList, [1, 3, 91]), ("None".toList, [1, 3, 35])]

/-- A word that stands for a value. -/
def word? (previous : Option Char) (cs : List Char) : Option (List Segment) :=
  if notAfterWord previous then
    words.findSome? fun (word, style) =>
      matched? style ((Pattern.literal word).before (!startsWord ·)) cs
  else none

/-- Three dots. -/
def dots : Pattern := Pattern.literal "...".toList

/-! ### Numbers -/

/-- A digit of any script. -/
def isDecimal (c : Char) : Bool := (Text.decimalValue? c).isSome

/-- A sign. -/
def isSign (c : Char) : Bool := c == '+' || c == '-'

/-- Digits, perhaps with a point among or behind them. -/
def mantissa : Pattern :=
  (Pattern.some isDigit).andThen
    ((Pattern.exactly '.').andThen (Pattern.many isDigit)).optional

/-- An exponent with the given digits. -/
def exponent (digits : Pattern) : Pattern :=
  (Pattern.exactly 'e').andThen ((Pattern.one isSign).optional.andThen digits)

/-- A number that may have a sign, a fraction and an exponent. -/
def signed : Pattern :=
  (Pattern.exactly '-').optional.andThen
    (mantissa.andThen (exponent (Pattern.someFew isDecimal)).optional)

/-- A complex number: an imaginary part, perhaps after a real one. -/
def imaginary : Pattern :=
  signed.andThen
    ((((Pattern.one isSign).andThen
        (mantissa.andThen (exponent (Pattern.some isDecimal)).optional)).optional).andThen
      (Pattern.exactly 'j'))

/-- A number in hexadecimal. -/
def hexadecimal : Pattern := (Pattern.literal "0x".toList).andThen (Pattern.many isHexDigit)

/-- A match ends at a word boundary if its last character is a word character and the next one
is not, or the other way round. -/
def endsAtBoundary (cs rest : List Char) : Bool :=
  let last := (cs.take (cs.length - rest.length)).getLast?
  (last.map Text.isWordChar).getD false != startsWord rest

/-- A number. -/
def number? (previous : Option Char) (cs : List Char) : Option (List Segment) :=
  let free := notAfterWord previous
  let found :=
    if free then (imaginary.length? cs).or ((signed.before (endsAtBoundary cs)).length? cs)
    else none
  (found.or (hexadecimal.length? cs)).map (part [1, 36])

/-! ### Paths -/

/-- A character of a component of a path. -/
def isPathChar (c : Char) : Bool := Text.isWordChar c || ['-', '.', '+'].contains c

/-- Components and single slashes, as far as they go. -/
def slashed : (afterSlash : Bool) → List Char → List Char
  | _, [] => []
  | afterSlash, c :: cs =>
    if c = '/' then if afterSlash then [] else c :: slashed true cs
    else if isPathChar c then c :: slashed false cs
    else []

/-- A path that begins with a slash: all up to its last slash, and the name behind it. -/
def path? (previous : Option Char) (cs : List Char) : Option (List Segment) :=
  if cs.head? = some '/' ∧ notAfterWord previous then
    let whole := slashed false cs
    let name := (whole.reverse.takeWhile (· != '/')).length
    some (part [1, 35] (whole.length - name) ++ part [1, 95] name)
  else none

/-! ### Quoted texts and locators -/

/-- The length of a text up to and with a closing mark that no backslash stands before, if the
mark comes before the end of the line. -/
def closing? (mark : List Char) : (previous : Char) → List Char → Option Nat
  | _, [] => none
  | previous, c :: cs =>
    if mark.isPrefixOf (c :: cs) && previous != '\\' then some mark.length
    else if c = '\n' then none
    else (closing? mark c cs).map (· + 1)

/-- The marks that a quoted text may stand between. -/
def marks : List (List Char) := ["'''".toList, "'".toList, "\"\"\"".toList, "\"".toList]

/-- The length of a text between two equal marks. -/
def between? (cs : List Char) : Option Nat :=
  marks.findSome? fun mark => do
    let rest ← mark.isPrefixOf? cs
    let n ← closing? mark (mark.getLastD ' ') rest
    some (mark.length + n)

/-- A quoted text, perhaps after the letter `b`. -/
def quoted? (previous : Option Char) (cs : List Char) : Option (List Segment) :=
  if notAfterWord previous && previous != some '\\' then
    let n? := match cs with
      | 'b' :: rest => ((between? rest).map (· + 1)).or (between? cs)
      | _ => between? cs
    n?.map (part [1, 32])
  else none

/-- A character of a locator. -/
def isLocatorChar (c : Char) : Bool := c.isAlphanum || "-$_+!`(),.?/;:&=%#~@".toList.contains c

/-- The ways of access that a locator may begin with. -/
def schemes : List (List Char) :=
  ["file".toList, "https".toList, "http".toList, "ws".toList, "wss".toList]

/-- A locator: a way of access, a colon, two slashes and what follows. -/
def locator : Pattern :=
  (schemes.foldr (fun s f => (Pattern.literal s).orElse f) fun _ => []).andThen
    ((Pattern.literal "://".toList).andThen (Pattern.many isLocatorChar))

/-! ### The whole message -/

/-- The part that begins here, if one does. -/
def part? : Span.Finder := fun previous cs =>
  (address? cs).or <| (call? cs).or <| (word? previous cs).or <| (matched? [1, 33] dots cs).or <|
  (number? previous cs).or <| (path? previous cs).or <| (quoted? previous cs).or <|
  matched? [1, 4, 94] locator cs

/-- The finders, in the order in which they are used. -/
def finders : List Span.Finder := [tag?, named?, bracket?, part?]

/-- The message with its parts highlighted. -/
def highlight (cs : List Char) : Line := Span.glyphs base (Span.searchAll finders cs) 0 cs

/-- Highlighting changes styles only. -/
@[simp] theorem plain_highlight (cs : List Char) : plain (highlight cs) = cs :=
  Span.plain_glyphs ..

end Conformance.Report.Highlight
