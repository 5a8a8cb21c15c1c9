import Conformance.Report.Emoji
import Conformance.Report.Glyph

/-!
# Markup

A text with tags in square brackets, such as `[bold]text[/bold]`, whose tags tell how it is
shown. A backslash before a tag makes it literal. `escape` prepares a text so that its tags are
literal, and `parse` reads marked-up text into characters, each with the tags around it. Codes of
emoji are replaced in each piece of text between tags on its own, so that none reaches across a tag.
-/

namespace Conformance.Report.Markup

/-- A character that a tag may begin with. -/
def isTagStart (c : Char) : Bool := ('a' ≤ c && c ≤ 'z') || c == '#' || c == '/' || c == '@'

/-- What stands between the brackets, if the text after an opening bracket goes on as a tag:
it begins as a tag does and is closed before another bracket is opened. -/
def tag? : List Char → Option (List Char)
  | [] => none
  | c :: cs =>
    let body := cs.takeWhile fun d => d != ']' && d != '['
    if isTagStart c && (cs.drop body.length).head? == some ']' then some (c :: body) else none

/-- `n` backslashes. -/
def backslashes (n : Nat) : List Char := List.replicate n '\\'

/-- The text with its tags made literal, after `n` backslashes that are not written yet. -/
def escapeTags : (n : Nat) → List Char → List Char
  | n, [] => backslashes n
  | n, c :: cs =>
    if c = '\\' then escapeTags (n + 1) cs
    else if c = '[' ∧ (tag? cs).isSome then backslashes (2 * n + 1) ++ c :: escapeTags 0 cs
    else backslashes n ++ c :: escapeTags 0 cs

/-- The text ends with a single backslash. -/
def endsWithBackslash (cs : List Char) : Bool :=
  ['\\'].isSuffixOf cs && !(['\\', '\\'].isSuffixOf cs)

/-- The text prepared so that its tags are literal. A single backslash at the end is doubled,
lest it makes what follows literal. -/
def escape (cs : List Char) : List Char :=
  let escaped := escapeTags 0 cs
  if endsWithBackslash escaped then escaped ++ ['\\'] else escaped

/-- A tag as it is written. -/
def bracketed (name : List Char) : List Char := '[' :: name ++ [']']

/-- A piece of marked-up text. -/
inductive Piece where
  /-- A part of the text, in which codes of emoji are yet to be replaced. -/
  | text (cs : List Char)
  /-- A tag that opens. -/
  | opening (name : String)
  /-- A tag that closes. -/
  | closing (name : String)
  deriving DecidableEq, Repr

/-- The piece for what stands between the brackets of a tag. -/
def tagPiece : List Char → Piece
  | '/' :: name => .closing (String.ofList name)
  | name => .opening (String.ofList name)

/-- The pieces with characters in front, which belong to the text that the pieces begin with. -/
def putBefore (cs : List Char) : List Piece → List Piece
  | .text ds :: ps => .text (cs ++ ds) :: ps
  | ps => .text cs :: ps

/-- The pieces of a text of which `skipped` characters have been read with a tag already, after
`n` backslashes that are not written yet. Two backslashes before a tag stand for one, and an
odd one makes the tag literal, which is then a piece of its own. Before any other opening bracket one
backslash is dropped. -/
def pieces : (skipped n : Nat) → List Char → List Piece
  | _, n, [] => [.text (backslashes n)]
  | skipped + 1, n, _ :: cs => pieces skipped n cs
  | 0, n, c :: cs =>
    if c = '\\' then pieces 0 (n + 1) cs
    else if c = '[' then
      match tag? cs with
      | some name =>
        .text (backslashes (n / 2)) ::
          (if n % 2 = 1 then .text (bracketed name) else tagPiece name) ::
            pieces (name.length + 1) 0 cs
      | none => putBefore (backslashes (n - 1) ++ [c]) (pieces 0 0 cs)
    else putBefore (backslashes n ++ [c]) (pieces 0 0 cs)

/-- The characters that pieces are shown as, each with the tags that are open around it, innermost
first. A tag that is never closed stays open to the end. -/
def around : (tags : List String) → List Piece → List (Char × List String)
  | _, [] => []
  | tags, .text cs :: ps => (Emoji.replace cs).map (fun c => (c, tags)) ++ around tags ps
  | tags, .opening name :: ps => around (name :: tags) ps
  | tags, .closing name :: ps => around (tags.erase name) ps

/-- The characters that marked-up text is shown as, each with the tags around it. -/
def parse (cs : List Char) : List (Char × List String) := around [] (pieces 0 0 cs)

/-- The style that a tag stands for. -/
def tagStyle (name : String) : Style :=
  if name = "bold" then [1] else if name = "green" then [32] else if name = "yellow" then [33]
  else []

/-- A control character that is never shown: bell, backspace, vertical tab, form feed and
carriage return. -/
def isDropped (c : Char) : Bool := [0x7, 0x8, 0xb, 0xc, 0xd].contains c.toNat

/-- Marked-up text as styled text. -/
def render (cs : List Char) : Line :=
  ((parse cs).filter fun e => !isDropped e.1).map fun e =>
    ⟨e.1, e.2.reverse.flatMap tagStyle, false⟩

/-- A text between an opening and a closing tag; its own tags are literal. -/
def enclose (name : String) (cs : List Char) : List Char :=
  bracketed name.toList ++ escape cs ++ bracketed ('/' :: name.toList)

end Conformance.Report.Markup
