import Runboard.Json.Basic
import Runboard.Text.Half

/-!
# `Runboard.Json.Parser`: reading values

The reader takes the grammar of RFC 8259 with three additions: the words `NaN`, `Infinity` and
`-Infinity` are numbers, of several fields of one name the last value counts, at the place of the
first, and an escaped half of a character may stand without its partner. What a numeral stands for
is a parameter, so that a reader may keep numerals as text or refuse long ones.

Every function on the input gives the value with the rest of the text. The recursion over nested
values is by fuel, of which the length of the text is enough.

## Contents

* `skipBlanks`: the blanks between tokens;
* `readUnits`, `joinUnits`, `readString`: strings, in two steps: code units, then characters;
* `Numeral.Parts`, `readNumeral`: numerals, split into their parts;
* `NumberReader`, `NumberReader.standard`, `NumberReader.bounded`, `NumberReader.verbatim`: what a
  numeral stands for;
* `Json.parse?`: a whole text.
-/

namespace Runboard

open Text

namespace Json

/-! ## Blanks and strings -/

/-- The four characters that may stand between tokens. -/
def isGap (c : Char) : Bool :=
  c == ' ' || c == '\t' || c == '\n' || c == '\r'

/-- A text without the blanks at its start. -/
def skipBlanks (cs : List Char) : List Char := cs.dropWhile isGap

/-- The value of an ASCII digit of base sixteen. -/
def hexDigit? (c : Char) : Option Nat :=
  let n := c.toNat
  if 0x30 ≤ n ∧ n ≤ 0x39 then some (n - 0x30)
  else if 0x61 ≤ n ∧ n ≤ 0x66 then some (n - 0x57)
  else if 0x41 ≤ n ∧ n ≤ 0x46 then some (n - 0x37)
  else none

/-- The code unit of four digits. -/
def hexUnit? (a b c d : Char) : Option Nat :=
  match hexDigit? a, hexDigit? b, hexDigit? c, hexDigit? d with
  | some a, some b, some c, some d => some (((a * 16 + b) * 16 + c) * 16 + d)
  | _, _, _, _ => none

/-- The code unit of a one-letter escape. -/
def escapeUnit? (c : Char) : Option Nat :=
  match c with
  | '"' => some 0x22
  | '\\' => some 0x5c
  | '/' => some 0x2f
  | 'b' => some 0x08
  | 'f' => some 0x0c
  | 'n' => some 0x0a
  | 'r' => some 0x0d
  | 't' => some 0x09
  | _ => none

/-- Puts a code unit before the rest of a string. -/
def consUnit (unit : Option Nat) (rest : Option (List Nat × List Char)) :
    Option (List Nat × List Char) :=
  match unit, rest with
  | some n, some (units, tail) => some (n :: units, tail)
  | _, _ => none

/-- The code units of a string up to its closing quote, with the text after it. A character that is
not escaped is one unit, its code point; control characters must be escaped. -/
def readUnits : List Char → Option (List Nat × List Char)
  | [] => none
  | '"' :: rest => some ([], rest)
  | '\\' :: 'u' :: a :: b :: c :: d :: rest => consUnit (hexUnit? a b c d) (readUnits rest)
  | '\\' :: c :: rest => consUnit (escapeUnit? c) (readUnits rest)
  | c :: rest => if c.toNat < 0x20 then none else consUnit (some c.toNat) (readUnits rest)

/-- The first half of a pair of code units. -/
def isHighUnit (n : Nat) : Bool := 0xd800 ≤ n && n < 0xdc00

/-- The second half of a pair of code units. -/
def isLowUnit (n : Nat) : Bool := 0xdc00 ≤ n && n < 0xe000

/-- The character of a code unit that stands alone. -/
def loneUnit (n : Nat) : Char :=
  if isHighUnit n || isLowUnit n then ofHalf n else Char.ofNat n

/-- The characters of some code units: a pair of halves is one character. -/
def joinUnits : List Nat → List Char
  | [] => []
  | [n] => [loneUnit n]
  | h :: l :: rest =>
    if isHighUnit h && isLowUnit l then
      Char.ofNat (0x10000 + (h - 0xd800) * 0x400 + (l - 0xdc00)) :: joinUnits rest
    else loneUnit h :: joinUnits (l :: rest)

/-- A string whose opening quote has been read. -/
def readString (cs : List Char) : Option (String × List Char) :=
  (readUnits cs).map fun (units, rest) => (String.ofList (joinUnits units), rest)

/-! ## Numerals -/

/-- A numeral split into its parts: the digits before the point, those after it, and the exponent
with its sign. -/
structure Parts where
  negative : Bool
  whole : List Char
  fraction : Option (List Char)
  exponent : Option (List Char)
  deriving DecidableEq, Repr

/-- A numeral without point and exponent. -/
def Parts.isWhole (p : Parts) : Bool := p.fraction.isNone && p.exponent.isNone

/-- The numeral as it was written. The exponent carries its letter. -/
def Parts.text (p : Parts) : String :=
  String.ofList ((if p.negative then ['-'] else []) ++ p.whole ++
    (match p.fraction with | some f => '.' :: f | none => []) ++ p.exponent.getD [])

/-- The integer of a numeral's digits before the point. -/
def Parts.integer (p : Parts) : Int :=
  Binary64.signed p.negative (Binary64.digitsValue p.whole)

/-- The double of a numeral. -/
def Parts.double (p : Parts) : Binary64 :=
  Binary64.ofParts p.negative p.whole (p.fraction.getD [])
    (Binary64.signedDigits ((p.exponent.getD []).drop 1))

/-- The point and the digits after it, if a digit follows the point. -/
def readFraction : List Char → Option (List Char) × List Char
  | '.' :: d :: rest =>
    if d.isDigit then (some (d :: rest.takeWhile Char.isDigit), rest.dropWhile Char.isDigit)
    else (none, '.' :: d :: rest)
  | cs => (none, cs)

/-- The digits of an exponent after its letter and sign, if there are any. -/
def readExponentDigits (mark cs whole : List Char) : Option (List Char) × List Char :=
  match cs.takeWhile Char.isDigit with
  | [] => (none, whole)
  | digits => (some (mark ++ digits), cs.dropWhile Char.isDigit)

/-- An exponent, if a digit follows its letter and sign. -/
def readExponent (cs : List Char) : Option (List Char) × List Char :=
  match cs with
  | e :: rest =>
    if e = 'e' ∨ e = 'E' then
      match rest with
      | '+' :: digits => readExponentDigits [e, '+'] digits cs
      | '-' :: digits => readExponentDigits [e, '-'] digits cs
      | digits => readExponentDigits [e] digits cs
    else (none, cs)
  | [] => (none, [])

/-- The digits before the point: a zero alone, or digits that do not begin with zero. -/
def readWhole : List Char → Option (List Char × List Char)
  | '0' :: rest => some (['0'], rest)
  | c :: rest =>
    if c.isDigit then some (c :: rest.takeWhile Char.isDigit, rest.dropWhile Char.isDigit) else none
  | [] => none

/-- A numeral whose sign has been read. -/
def readUnsigned (negative : Bool) (cs : List Char) : Option (Parts × List Char) :=
  (readWhole cs).map fun (whole, rest) =>
    let (fraction, rest) := readFraction rest
    let (exponent, rest) := readExponent rest
    (⟨negative, whole, fraction, exponent⟩, rest)

/-- A numeral. -/
def readNumeral : List Char → Option (Parts × List Char)
  | '-' :: rest => readUnsigned true rest
  | cs => readUnsigned false cs

/-- What a numeral stands for, if it stands for anything. -/
abbrev NumberReader := Parts → Option Json

/-- A whole numeral is an integer and every other a double. -/
def NumberReader.standard : NumberReader := fun p =>
  some (if p.isWhole then .int p.integer else .float p.double)

/-- As the standard reading, but a whole numeral has at most `most` digits. -/
def NumberReader.bounded (most : Nat) : NumberReader := fun p =>
  if p.isWhole && most < p.whole.length then none else NumberReader.standard p

/-- A numeral stands for its own text. -/
def NumberReader.verbatim : NumberReader := fun p => some (.str p.text)

/-! ## Values -/

/-- The text after a word, if it begins with that word. -/
def afterWord? (word : List Char) (cs : List Char) : Option (List Char) :=
  if word.isPrefixOf cs then some (cs.drop word.length) else none

/-- The words that are values. -/
def words : List (List Char × Json) :=
  [ ("null".toList, .null), ("true".toList, .bool true), ("false".toList, .bool false),
    ("NaN".toList, .float .nan), ("Infinity".toList, .float (.infinite false)),
    ("-Infinity".toList, .float (.infinite true)) ]

/-- A value that is a word. -/
def readWord (cs : List Char) : Option (Json × List Char) :=
  words.findSome? fun (word, v) => (afterWord? word cs).map (v, ·)

/-- A value that is a word or a numeral. -/
def readAtom (number : NumberReader) (cs : List Char) : Option (Json × List Char) :=
  match readWord cs with
  | some r => some r
  | none =>
    match readNumeral cs with
    | some (p, rest) => (number p).map (·, rest)
    | none => none

mutual

/-- A value at the start of a text. -/
def readValue (number : NumberReader) : (fuel : Nat) → List Char → Option (Json × List Char)
  | 0, _ => none
  | fuel + 1, cs =>
    match cs with
    | '"' :: rest => (readString rest).map fun (s, rest) => (.str s, rest)
    | '[' :: rest =>
      match skipBlanks rest with
      | ']' :: rest => some (.arr [], rest)
      | rest => (readItems number fuel rest).map fun (items, rest) => (.arr items, rest)
    | '{' :: rest =>
      match skipBlanks rest with
      | '}' :: rest => some (.obj [], rest)
      | rest => (readFields number fuel [] rest).map fun (fields, rest) => (.obj fields, rest)
    | cs => readAtom number cs

/-- The items of a list up to its closing bracket. -/
def readItems (number : NumberReader) :
    (fuel : Nat) → List Char → Option (List Json × List Char)
  | 0, _ => none
  | fuel + 1, cs =>
    match readValue number fuel cs with
    | none => none
    | some (v, rest) =>
      match skipBlanks rest with
      | ']' :: rest => some ([v], rest)
      | ',' :: rest =>
        (readItems number fuel (skipBlanks rest)).map fun (items, rest) => (v :: items, rest)
      | _ => none

/-- The fields of an object up to its closing brace, put after those read before. -/
def readFields (number : NumberReader) :
    (fuel : Nat) → List (String × Json) → List Char → Option (List (String × Json) × List Char)
  | 0, _, _ => none
  | fuel + 1, before, cs =>
    match cs with
    | '"' :: rest =>
      match readString rest with
      | none => none
      | some (name, rest) =>
        match skipBlanks rest with
        | ':' :: rest =>
          match readValue number fuel (skipBlanks rest) with
          | none => none
          | some (v, rest) =>
            match skipBlanks rest with
            | '}' :: rest => some (Fields.put before name v, rest)
            | ',' :: rest => readFields number fuel (Fields.put before name v) (skipBlanks rest)
            | _ => none
        | _ => none
    | _ => none

end

/-- The value of a whole text. -/
def parseChars? (number : NumberReader) (cs : List Char) : Option Json :=
  match readValue number (cs.length + 1) (skipBlanks cs) with
  | some (v, rest) => if (skipBlanks rest).isEmpty then some v else none
  | none => none

/-- The value of a whole text, with integers of any size. -/
def parse? (s : String) : Option Json :=
  parseChars? NumberReader.standard s.toList

end Json

end Runboard
