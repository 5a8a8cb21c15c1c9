import Conformance.Report.Emoji.Signs
import Conformance.Text.Blank

/-!
# Emoji by name

A name between two colons, such as `:bear:`, is a code. Where there is a sign of that name, the code
is replaced by the sign; a code of any other name stays as it is. A name may end in `-text` or
`-emoji`, which asks for one of the two forms of the sign, and its letters may be capitals. A code is
read up to the next colon, so codes do not overlap.
-/

namespace Conformance.Report.Emoji

/-! ### Signs -/

/-- The symbol for a letter of a region. -/
def regional (c : Char) : Char := Char.ofNat (0x1f1e6 + (c.toNat - 'a'.toNat))

/-- The flag of a region. -/
def flag (a b : Char) : List Char := [regional a, regional b]

/-- The flag of a part of a country: a flag, and the letters of the part as marks behind it. -/
def partFlag (letters : List Char) : List Char :=
  '🏴' :: letters.map (fun c => Char.ofNat (0xe0000 + c.toNat)) ++ [Char.ofNat 0xe007f]

/-- The letters of regions. -/
def letters : List Char := "abcdefghijklmnopqrstuvwxyz".toList

/-- The skin tones. -/
def tones : List (String × Char) :=
  [("light", '🏻'), ("medium-light", '🏼'), ("medium", '🏽'), ("medium-dark", '🏾'), ("dark", '🏿')]

/-- The character that asks for the emoji form of the one before it. -/
def emojiForm : Char := '\ufe0f'

/-- The character that asks for the text form of the one before it. -/
def textForm : Char := '\ufe0e'

/-- The sign in a skin tone, which stands behind its first character. -/
def tint (tone : Char) : List Char → List Char
  | [] => []
  | c :: cs => c :: tone :: (if cs.head? = some emojiForm then cs.tail else cs)

/-- All signs, by name. -/
def table : List (String × List Char) :=
  signs ++ tonedSigns ++
  tonedSigns.flatMap (fun (name, cs) =>
    tones.map fun (tone, c) => (name ++ "_" ++ tone ++ "_skin_tone", tint c cs)) ++
  flags.flatMap (fun (name, a, b) => [(name, flag a b), ("flag_for_" ++ name, flag a b)]) ++
  namedFlags.map (fun (name, a, b) => (name, flag a b)) ++
  partFlags.map (fun (name, cs) => (name, partFlag cs)) ++
  letters.flatMap fun c =>
    [("regional_indicator_" ++ c.toString, [regional c]),
     ("regional_indicator_symbol_letter_" ++ c.toString, [regional c])]

/-! ### Codes -/

/-- The small letter for a capital one, as far as it occurs in names. -/
def toLower (c : Char) : Char :=
  if 0xc0 ≤ c.toNat ∧ c.toNat ≤ 0xde ∧ c.toNat ≠ 0xd7 then Char.ofNat (c.toNat + 0x20)
  else if c = '\u212a' then 'k'
  else if c = '\u212b' then 'å'
  else c.toLower

/-- The endings of a name that ask for a form, with the character for it. -/
def forms : List (List Char × Char) := [("-text".toList, textForm), ("-emoji".toList, emojiForm)]

/-- A name without the ending that asks for a form, and what stands behind the sign for it. -/
def splitForm (name : List Char) : List Char × List Char :=
  match forms.find? fun e => e.1.isSuffixOf name with
  | some (ending, form) => (name.take (name.length - ending.length), [form])
  | none => (name, [])

/-- What is shown in the place of a code with this name, if there is such a sign. -/
def sign? (name : List Char) : Option (List Char) :=
  let (plain, form) := splitForm name
  (table.lookup (String.ofList (plain.map toLower))).map (· ++ form)

/-- The name in a code, if the text behind a colon goes on as one: it is closed by another colon,
and no blank comes before that. -/
def name? (cs : List Char) : Option (List Char) :=
  let name := cs.takeWhile fun c => c != ':' && !Text.isBlank c
  if (cs.drop name.length).head? == some ':' then some name else none

/-- The code with this name. -/
def code (name : List Char) : List Char := ':' :: name ++ [':']

/-- The text with signs in the place of their codes. The first `skipped` characters belong to a code
that has been read already. -/
def replaceFrom : (skipped : Nat) → List Char → List Char
  | _, [] => []
  | skipped + 1, _ :: cs => replaceFrom skipped cs
  | 0, c :: cs =>
    match if c = ':' then name? cs else none with
    | some name => (sign? name).getD (code name) ++ replaceFrom (name.length + 1) cs
    | none => c :: replaceFrom 0 cs

/-- The text with signs in the place of their codes. -/
def replace (cs : List Char) : List Char := replaceFrom 0 cs

end Conformance.Report.Emoji
