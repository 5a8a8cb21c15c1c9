import Conformance.Text.Printable

/-!
# Quoted literals

A text in a message is written as a literal. It stands between single quotation marks, or
between double ones when it holds a single mark and no double one. The delimiter and the
backslash are escaped by a backslash, and so are all characters that are not printable: line
feed, carriage return and tab by a letter, the others by two, four or eight lower-case
hexadecimal digits. A sequence of bytes has a literal of the same kind after the letter `b`; in
that of a sequence that can change, single quotation marks are escaped whatever delimits it.
-/

namespace Conformance.Text

/-- The mark that delimits the literal of a text with the characters `cs`. -/
def delimiter (cs : List Char) : Char :=
  if cs.contains '\'' && !cs.contains '"' then '"' else '\''

/-- The number `n` in lower-case hexadecimal, filled up with zeros to `width` digits. -/
def hex (width n : Nat) : List Char := (Nat.toDigits 16 n).leftpad width '0'

/-- A character that is not printable, by its code point. -/
def escapeCode (n : Nat) : List Char :=
  if n ≤ 0xff then '\\' :: 'x' :: hex 2 n
  else if n ≤ 0xffff then '\\' :: 'u' :: hex 4 n
  else '\\' :: 'U' :: hex 8 n

/-- A character inside a literal that is delimited by `mark`. -/
def escapeChar (mark c : Char) : List Char :=
  if c = '\\' ∨ c = mark then ['\\', c]
  else if c = '\n' then ['\\', 'n']
  else if c = '\r' then ['\\', 'r']
  else if c = '\t' then ['\\', 't']
  else if isPrintable c then [c]
  else escapeCode c.toNat

/-- The literal of a text. -/
def quote (cs : List Char) : List Char :=
  let mark := delimiter cs
  mark :: cs.flatMap (escapeChar mark) ++ [mark]

/-- The literal of a text. -/
def quoted (s : String) : String := String.ofList (quote s.toList)

/-- The byte stands for itself in a literal: it is a visible ASCII character or the blank. -/
def isPlainByte (b : UInt8) : Bool := 0x20 ≤ b && b ≤ 0x7e

/-- A byte inside a literal that is delimited by `mark`. -/
def escapeByte (mark : Char) (b : UInt8) : List Char :=
  let c := Char.ofNat b.toNat
  if isPlainByte b ∨ c = '\n' ∨ c = '\r' ∨ c = '\t' then escapeChar mark c
  else escapeCode b.toNat

/-- The literal of a sequence of bytes in which the marks that `inside` says are escaped. -/
def bytesLiteral (inside : Char → Char) (bs : List UInt8) : String :=
  let mark := delimiter (bs.map fun b => Char.ofNat b.toNat)
  String.ofList ('b' :: mark :: bs.flatMap (escapeByte (inside mark)) ++ [mark])

/-- The literal of a sequence of bytes. -/
def quotedBytes (bs : List UInt8) : String := bytesLiteral id bs

/-- The literal of a sequence of bytes that can change, without the name of its class. -/
def quotedBuffer (bs : List UInt8) : String := bytesLiteral (fun _ => '\'') bs

end Conformance.Text
