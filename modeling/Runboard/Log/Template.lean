import Runboard.Json.Literal
import Runboard.Number.Places

/-!
# `Runboard.Log.Template`: messages with gaps

The text of a record may have gaps that are filled from a list of values: a percent sign, optionally
a name in parentheses, flags, a width, a precision, and the letter of a conversion. A template whose
record has no values is taken as it is. A single object among the values is a source of named
values.

## Contents

* `TemplateFault`, `TemplateFault.message`: what may be wrong with a template or its values;
* `Supply`: the values still to be used;
* `Gap`, `readGap`: a gap and its reading;
* `convert`, `place`: the text of a gap;
* `Template.fill`: the whole.
-/

namespace Runboard

open Runboard.Text

/-- What may be wrong with a template or the values for it. -/
inductive TemplateFault where
  | tooFew
  | tooMany
  | noMapping
  | unclosedName
  | missingName (name : String)
  | starKind
  | starWidthTooLarge
  | starPrecisionTooLarge
  | widthTooLarge
  | precisionTooLarge
  | digitsTooMany
  | incomplete
  | notNumber (letter : Char) (kind : String)
  | notInteger (letter : Char) (kind : String)
  | notReal (kind : String)
  | tooLargeForDouble
  | notFinite (infinite : Bool)
  | notCharacter
  | outsideCharacters
  | unknownLetter (letter : Char) (position : Nat)
  deriving DecidableEq, Repr

/-- How a fault of a template is reported. -/
def TemplateFault.message : TemplateFault → String
  | .tooFew => "not enough arguments for format string"
  | .tooMany => "not all arguments converted during string formatting"
  | .noMapping => "format requires a mapping"
  | .unclosedName => "incomplete format key"
  | .missingName name => quote name
  | .starKind => "* wants int"
  | .starWidthTooLarge => "Python int too large to convert to C ssize_t"
  | .starPrecisionTooLarge => "Python int too large to convert to C int"
  | .widthTooLarge => "width too big"
  | .precisionTooLarge => "precision too big"
  | .digitsTooMany => "precision too large"
  | .incomplete => "incomplete format"
  | .notNumber letter kind =>
    "%" ++ String.singleton letter ++ " format: a real number is required, not " ++ kind
  | .notInteger letter kind =>
    "%" ++ String.singleton letter ++ " format: an integer is required, not " ++ kind
  | .notReal kind => "must be real number, not " ++ kind
  | .tooLargeForDouble => "int too large to convert to float"
  | .notFinite infinite =>
    if infinite then "cannot convert float infinity to integer"
    else "cannot convert float NaN to integer"
  | .notCharacter => "%c requires int or char"
  | .outsideCharacters => "%c arg not in range(0x110000)"
  | .unknownLetter letter position =>
    let number := (half? letter).getD letter.toNat
    let shown := if 31 ≤ number ∧ number < 127 then letter else '?'
    "unsupported format character '" ++ String.singleton shown ++ "' (0x" ++
      String.ofList (Nat.toDigits 16 number) ++ ") at index " ++ toString position

/-! ## Values -/

/-- The values still to be used, and the object that names are looked up in. -/
structure Supply where
  queue : List Json
  named : Option (List (String × Json))

/-- The supply of some values: one object that is not empty is a source of named values. -/
def Supply.ofValues : List Json → Supply
  | [.obj (f :: fs)] => ⟨[.obj (f :: fs)], some (f :: fs)⟩
  | values => ⟨values, none⟩

/-- The next value. -/
def Supply.next (s : Supply) : Except TemplateFault (Json × Supply) :=
  match s.queue with
  | [] => .error .tooFew
  | v :: rest => .ok (v, { s with queue := rest })

/-- The next value as an integer that stands for a star: at least the opposite of a bound, and below
the bound. -/
def Supply.star (s : Supply) (tooLarge : TemplateFault) (bound : Nat) :
    Except TemplateFault (Int × Supply) :=
  match s.next with
  | .error e => .error e
  | .ok (.int n, s) => if -bound ≤ n ∧ n < bound then .ok (n, s) else .error tooLarge
  | .ok (.bool b, s) => .ok (if b then 1 else 0, s)
  | .ok _ => .error .starKind

/-! ## Gaps -/

/-- What stands between the percent sign and the letter. -/
structure Gap where
  left : Bool := false
  plus : Bool := false
  blank : Bool := false
  alternate : Bool := false
  zero : Bool := false
  width : Nat := 0
  precision : Option Nat := none
  deriving DecidableEq, Repr

/-- The name in parentheses, up to the one that closes it, at a depth of parentheses. -/
def readName : (depth : Nat) → List Char → Option (List Char × List Char)
  | _, [] => none
  | depth, c :: cs =>
    if c = ')' then
      match depth with
      | 0 => some ([], cs)
      | depth + 1 => (readName depth cs).map fun (name, rest) => (c :: name, rest)
    else
      (readName (if c = '(' then depth + 1 else depth) cs).map fun (name, rest) =>
        (c :: name, rest)

/-- The flags of a gap. -/
def readFlags (g : Gap) : List Char → Gap × List Char
  | [] => (g, [])
  | c :: cs =>
    if c = '-' then readFlags { g with left := true } cs
    else if c = '+' then readFlags { g with plus := true } cs
    else if c = ' ' then readFlags { g with blank := true } cs
    else if c = '#' then readFlags { g with alternate := true } cs
    else if c = '0' then readFlags { g with zero := true } cs
    else (g, c :: cs)

/-- A number of the template itself, below a bound. -/
def readCount (tooLarge : TemplateFault) (bound : Nat) (cs : List Char) :
    Except TemplateFault (Nat × List Char) :=
  let n := Binary64.digitsValue (cs.takeWhile Char.isDigit)
  if n < bound then .ok (n, cs.dropWhile Char.isDigit) else .error tooLarge

/-- The width of a gap. -/
def readWidth (g : Gap) (s : Supply) :
    List Char → Except TemplateFault (Gap × Supply × List Char)
  | '*' :: cs =>
    match s.star .starWidthTooLarge 0x8000000000000000 with
    | .error e => .error e
    | .ok (n, s) =>
      -- The least integer of a star has no opposite, and asks for no width.
      let width := if n.natAbs < 0x8000000000000000 then n.natAbs else 0
      .ok ({ g with width := width, left := g.left || decide (n < 0) }, s, cs)
  | cs =>
    match readCount .widthTooLarge 0x8000000000000000 cs with
    | .error e => .error e
    | .ok (n, rest) => .ok ({ g with width := n }, s, rest)

/-- The precision of a gap. -/
def readPrecision (g : Gap) (s : Supply) :
    List Char → Except TemplateFault (Gap × Supply × List Char)
  | '.' :: '*' :: cs =>
    match s.star .starPrecisionTooLarge 0x80000000 with
    | .error e => .error e
    | .ok (n, s) => .ok ({ g with precision := some n.toNat }, s, cs)
  | '.' :: cs =>
    match readCount .precisionTooLarge 0x80000000 cs with
    | .error e => .error e
    | .ok (n, rest) => .ok ({ g with precision := some n }, s, rest)
  | cs => .ok (g, s, cs)

/-- Leaves a letter out that says how wide a number is. -/
def skipSize : List Char → List Char
  | c :: cs => if c = 'h' ∨ c = 'l' ∨ c = 'L' then cs else c :: cs
  | [] => []

/-- The supply of a gap that may name its value. -/
def readSource (s : Supply) : List Char → Except TemplateFault (Supply × List Char)
  | '(' :: cs =>
    match s.named with
    | none => .error .noMapping
    | some fields =>
      match readName 0 cs with
      | none => .error .unclosedName
      | some (name, rest) =>
        match Fields.get? fields (String.ofList name) with
        | none => .error (.missingName (String.ofList name))
        | some v => .ok ({ s with queue := [v] }, rest)
  | cs => .ok (s, cs)

/-- A gap after its percent sign, up to its letter. -/
def readGap (s : Supply) (cs : List Char) :
    Except TemplateFault (Gap × Supply × Char × List Char) := do
  let (s, cs) ← readSource s cs
  let (g, cs) := readFlags {} cs
  let (g, s, cs) ← readWidth g s cs
  let (g, s, cs) ← readPrecision g s cs
  match skipSize cs with
  | [] => .error .incomplete
  | c :: rest => .ok (g, s, c, rest)

/-! ## The text of a gap -/

/-- A text in parts: what stands before the padding of zeros, and what after it. -/
structure Converted where
  sign : List Char := []
  mark : List Char := []
  body : List Char
  deriving DecidableEq, Repr

/-- A text with every character beyond ASCII written by its code point. -/
def asciiOnly (s : String) : List Char :=
  s.toList.flatMap fun c =>
    if c.toNat < 0x80 then [c]
    else if c.toNat < 0x100 then '\\' :: 'x' :: hexDigits 2 c.toNat
    else if c.toNat < 0x10000 then '\\' :: 'u' :: hexDigits 4 c.toNat
    else '\\' :: 'U' :: hexDigits 8 c.toNat

/-- The sign of a number under the flags of a gap. -/
def signOf (g : Gap) (negative : Bool) : List Char :=
  if negative then ['-'] else if g.plus then ['+'] else if g.blank then [' '] else []

/-- An integer as digits of a base, with a mark where the gap asks for one. -/
def convertInteger (g : Gap) (letter : Char) (n : Int) : Converted :=
  let base := if letter = 'o' then 8 else if letter = 'x' ∨ letter = 'X' then 16 else 10
  let digits := Nat.toDigits base n.natAbs
  let filled := List.replicate (g.precision.getD 0 - digits.length) '0' ++ digits
  let mark :=
    if !g.alternate then []
    else if letter = 'o' then ['0', 'o']
    else if letter = 'x' then ['0', 'x']
    else if letter = 'X' then ['0', 'X']
    else []
  { sign := signOf g (decide (n < 0))
    mark := mark
    body := if letter = 'X' then filled.map Char.toUpper else filled }

/-- The least precision that no integer can be written with. -/
def digitsBound : Nat := 0x80000000 - 3

/-- An integer under a gap, unless it asks for too many digits. -/
def convertWhole (g : Gap) (letter : Char) (n : Int) : Except TemplateFault Converted :=
  if digitsBound ≤ g.precision.getD 0 then .error .digitsTooMany
  else .ok (convertInteger g letter n)

/-- The integer that a value stands for in a conversion of integers. -/
def integerFor (letter : Char) : Json → Except TemplateFault Int
  | .int n => .ok n
  | .bool b => .ok (if b then 1 else 0)
  | .float x =>
    if letter = 'o' ∨ letter = 'x' ∨ letter = 'X' then .error (.notInteger letter "float")
    else
      match x.truncate? with
      | some n => .ok n
      | none => .error (.notFinite (x != .nan))
  | v =>
    if letter = 'o' ∨ letter = 'x' ∨ letter = 'X' then .error (.notInteger letter v.kind)
    else .error (.notNumber letter v.kind)

/-- The double that an integer is rounded to. -/
def doubleOfInteger (n : Int) : Except TemplateFault Binary64 :=
  match Binary64.ofInteger n with
  | .infinite _ => .error .tooLargeForDouble
  | x => .ok x

/-- The double that a value stands for in a conversion of doubles. -/
def doubleFor : Json → Except TemplateFault Binary64
  | .float x => .ok x
  | .int n => doubleOfInteger n
  | .bool b => doubleOfInteger (if b then 1 else 0)
  | v => .error (.notReal v.kind)

/-- A double in the notation of a letter. -/
def convertDouble (g : Gap) (letter : Char) (x : Binary64) : Converted :=
  let places := g.precision.getD 6
  let text :=
    if letter = 'e' ∨ letter = 'E' then x.powerPlaces places g.alternate
    else if letter = 'f' ∨ letter = 'F' then x.fixedPlaces places g.alternate
    else x.generalPlaces places g.alternate
  let cased := (if letter.isUpper then text.toUpper else text).toList
  match cased with
  | '-' :: body => { sign := ['-'], body := body }
  | body => { sign := signOf g false, body := body }

/-- The character that a value stands for. -/
def characterFor : Json → Except TemplateFault Char
  | .str s =>
    match s.toList with
    | [c] => .ok c
    | _ => .error .notCharacter
  | .int n =>
    if 0xd800 ≤ n ∧ n < 0xe000 then .ok (ofHalf n.toNat)
    else if 0 ≤ n ∧ n < 0x110000 then .ok (Char.ofNat n.toNat)
    else .error .outsideCharacters
  | .bool b => .ok (Char.ofNat (if b then 1 else 0))
  | _ => .error .notCharacter

/-- A text cut to the precision of a gap. -/
def cutText (g : Gap) (cs : List Char) : List Char :=
  match g.precision with
  | some n => cs.take n
  | none => cs

/-- The text of a value under a gap; `position` is that of the letter. -/
def convert (g : Gap) (letter : Char) (position : Nat) (v : Json) :
    Except TemplateFault Converted :=
  if letter = 's' then .ok { body := cutText g v.display.toList }
  else if letter = 'r' then .ok { body := cutText g v.literal.toList }
  else if letter = 'a' then .ok { body := cutText g (asciiOnly v.literal) }
  else if ['d', 'i', 'u', 'o', 'x', 'X'].contains letter then
    (integerFor letter v).bind (convertWhole g letter)
  else if ['e', 'E', 'f', 'F', 'g', 'G'].contains letter then
    (doubleFor v).map (convertDouble g letter)
  else if letter = 'c' then (characterFor v).map fun c => { body := [c] }
  else .error (.unknownLetter letter position)

/-- Whether the letter of a conversion is that of a number. -/
def isNumeric (letter : Char) : Bool :=
  ['d', 'i', 'u', 'o', 'x', 'X', 'e', 'E', 'f', 'F', 'g', 'G'].contains letter

/-- A converted value brought to the width of its gap: blanks before or after it, or zeros after its
sign and mark. -/
def place (g : Gap) (letter : Char) (c : Converted) : List Char :=
  let text := c.sign ++ c.mark ++ c.body
  let missing := g.width - text.length
  if g.left then text ++ List.replicate missing ' '
  else if g.zero && isNumeric letter then
    c.sign ++ c.mark ++ List.replicate missing '0' ++ c.body
  else List.replicate missing ' ' ++ text

/-! ## Whole templates -/

namespace Template

/-- Fills the gaps of a template; `size` is the length of the whole template, and `fuel` bounds the
number of gaps. -/
def fillFrom (size : Nat) : (fuel : Nat) → Supply → List Char → Except TemplateFault (List Char)
  | 0, _, cs => .ok cs
  | fuel + 1, s, cs =>
    let plain := cs.takeWhile (· != '%')
    match cs.dropWhile (· != '%') with
    | [] => if s.named.isNone && !s.queue.isEmpty then .error .tooMany else .ok plain
    | _ :: '%' :: rest =>
      match fillFrom size fuel s rest with
      | .error e => .error e
      | .ok tail => .ok (plain ++ '%' :: tail)
    | _ :: rest =>
      match readGap s rest with
      | .error e => .error e
      | .ok (g, s, letter, rest) =>
        match s.next with
        | .error e => .error e
        | .ok (v, s) =>
          match convert g letter (size - rest.length - 1) v with
          | .error e => .error e
          | .ok c =>
            match fillFrom size fuel s rest with
            | .error e => .error e
            | .ok tail => .ok (plain ++ place g letter c ++ tail)

/-- The text of a template with some values. Without values the template is the text. -/
def fill (template : String) (values : List Json) : Except TemplateFault String :=
  if values.isEmpty then .ok template
  else
    let cs := template.toList
    (fillFrom cs.length (cs.length + 1) (Supply.ofValues values) cs).map String.ofList

@[simp] theorem fill_nil (template : String) : fill template [] = .ok template := rfl

end Template

end Runboard
