import Runboard.Time.Instant

/-!
# `Runboard.Time.Pattern`: dates by pattern

A pattern is a text in which a percent sign begins a directive: flags, a width, perhaps the sign of a
variant, and a letter, which names a part of a moment. All else stands for itself, and so does a
directive whose letter has no meaning, or has none in its variant. What a directive writes is filled up
in front to its width.

A text that a pattern makes has limited room, which grows with the pattern; one that does not fit is
empty.

## Contents

* `Directive`, `Piece`, `Pattern.pieces`: the parts of a pattern;
* `Part`, `Pattern.part?`: what a letter names;
* `Part.written`: how a directive writes it;
* `TimeFault`, `Pattern.apply`: the text of a moment by a pattern.
-/

namespace Runboard

/-! ## Directives -/

/-- What fills a number in front. -/
inductive Filling where
  /-- What its letter prefers. -/
  | own
  | blanks
  | zeros
  /-- Nothing, beyond the width that is asked for. -/
  | bare
  deriving DecidableEq, Repr

/-- The part of a directive that is being read. -/
inductive DirectiveStage where
  | flags
  | width
  | letter
  deriving DecidableEq, Repr

/-- A directive without its letter. -/
structure Directive where
  filling : Filling := .own
  /-- Whether letters become capitals. -/
  capitals : Bool := false
  /-- Whether names change their case in the way that is theirs. -/
  swapped : Bool := false
  width : Nat := 0
  /-- The sign of a variant: `E` for eras, `O` for other digits. -/
  variant : Option Char := none
  stage : DirectiveStage := .flags
  /-- The characters read so far. -/
  written : List Char := ['%']
  deriving DecidableEq, Repr

namespace Directive

/-- A directive with one more flag, if the character is one. -/
def flag? (d : Directive) (c : Char) : Option Directive :=
  if d.stage ≠ .flags then none
  else match c with
    | '_' => some { d with filling := .blanks }
    | '-' => some { d with filling := .bare }
    | '0' => some { d with filling := .zeros }
    | '^' => some { d with capitals := true }
    | '#' => some { d with swapped := true }
    | _ => none

/-- A directive with one more character, unless the character is its letter. -/
def extend? (d : Directive) (c : Char) : Option Directive :=
  let longer (d : Directive) : Directive := { d with written := d.written ++ [c] }
  match d.flag? c with
  | some d => some (longer d)
  | none =>
    if d.stage = .letter then none
    else if c.isDigit then
      some (longer { d with width := d.width * 10 + (c.toNat - 48), stage := .width })
    else if c = 'E' ∨ c = 'O' then some (longer { d with variant := some c, stage := .letter })
    else none

end Directive

/-- A piece of a pattern. -/
inductive Piece where
  /-- A character that stands for itself. -/
  | plain (c : Char)
  | directive (d : Directive) (letter : Char)
  /-- A directive that the end of the pattern cuts off. -/
  | cut (d : Directive)

/-- The pieces of a pattern, the first of which may have begun. -/
def Pattern.pieces : Option Directive → List Char → List Piece
  | none, [] => []
  | some d, [] => [.cut d]
  | none, c :: rest =>
    if c = '%' then pieces (some {}) rest else .plain c :: pieces none rest
  | some d, c :: rest =>
    match d.extend? c with
    | some d => pieces (some d) rest
    | none => .directive d c :: pieces none rest

/-! ## Parts of a moment -/

/-- How the case of a text can be changed. -/
inductive Casing where
  /-- The flag for capitals raises it. -/
  | plain
  /-- Both flags raise it. -/
  | raised
  /-- The flag for the other case lowers it, and that for capitals alone raises it. -/
  | lowered
  /-- It stays in small letters. -/
  | small
  deriving DecidableEq, Repr

/-- A part of a moment, as it is written. -/
inductive Part where
  /-- A number of at least so many digits, with zeros in front. -/
  | number (digits : Nat) (value : Int)
  /-- A number of at least so many places, with blanks in front. -/
  | spaced (digits : Nat) (value : Int)
  | text (casing : Casing) (s : String)
  /-- The distance from universal time, in hours and minutes. -/
  | offset (hoursMinutes : Nat)

namespace Pattern

/-- The names of the days of the week, from Sunday. -/
def weekdays : List String :=
  ["Sunday", "Monday", "Tuesday", "Wednesday", "Thursday", "Friday", "Saturday"]

/-- The names of the months. -/
def months : List String :=
  ["January", "February", "March", "April", "May", "June", "July", "August", "September",
    "October", "November", "December"]

/-- The first three letters of a name. -/
def short (name : String) : String := String.ofList (name.toList.take 3)

/-- A number filled up with a blank to two places. -/
def blankPadded (n : Nat) : String := if n < 10 then " " ++ toString n else toString n

/-- The hour on a clock of twelve hours. -/
def twelve (hour : Nat) : Nat := if hour % 12 = 0 then 12 else hour % 12

/-- The year and number of the week that begins on Monday and holds the day's Thursday. -/
def isoWeek (d : Day) : Int × Nat :=
  let fromMonday := (d.weekday + 6) % 7
  let thursday : Day := ⟨d.number - fromMonday + 3⟩
  (thursday.civil.year, (thursday.dayOfYear - 1) / 7 + 1)

/-- The century of a year: hundreds are cut off toward zero, and a negative rest takes one more. -/
def century (year : Int) : Int := year.tdiv 100 - (if year.tmod 100 < 0 then 1 else 0)

/-- What a letter names at a moment. -/
def part? (t : Instant) (letter : Char) : Option Part :=
  let d := t.day
  let c := d.civil
  let k := t.timeOfDay
  let weekday := weekdays.getD d.weekday ""
  let month := months.getD (c.month - 1) ""
  let clock := padded 2 k.hour ++ ":" ++ padded 2 k.minute ++ ":" ++ padded 2 k.second
  let half := if k.hour < 12 then "AM" else "PM"
  let slashed := padded 2 c.month ++ "/" ++ padded 2 c.day ++ "/" ++ padded 2 (c.year % 100)
  match letter with
  | '%' => some (.text .plain "%")
  | 'n' => some (.text .plain "\n")
  | 't' => some (.text .plain "\t")
  | 'a' => some (.text .raised (short weekday))
  | 'A' => some (.text .raised weekday)
  | 'b' => some (.text .raised (short month))
  | 'h' => some (.text .raised (short month))
  | 'B' => some (.text .raised month)
  | 'c' => some (.text .plain (short weekday ++ " " ++ short month ++ " " ++ blankPadded c.day ++
      " " ++ clock ++ " " ++ toString c.year))
  | 'C' => some (.number 1 (century c.year))
  | 'd' => some (.number 2 c.day)
  | 'D' => some (.text .plain slashed)
  | 'x' => some (.text .plain slashed)
  | 'e' => some (.spaced 2 c.day)
  | 'F' => some (.text .plain
      (toString c.year ++ "-" ++ padded 2 c.month ++ "-" ++ padded 2 c.day))
  | 'g' => some (.number 2 ((isoWeek d).1 % 100))
  | 'G' => some (.number 1 (isoWeek d).1)
  | 'H' => some (.number 2 k.hour)
  | 'I' => some (.number 2 (twelve k.hour))
  | 'j' => some (.number 3 d.dayOfYear)
  | 'k' => some (.spaced 2 k.hour)
  | 'l' => some (.spaced 2 (twelve k.hour))
  | 'm' => some (.number 2 c.month)
  | 'M' => some (.number 2 k.minute)
  | 'p' => some (.text .lowered half)
  | 'P' => some (.text .small (if k.hour < 12 then "am" else "pm"))
  | 'r' => some (.text .plain (padded 2 (twelve k.hour) ++ ":" ++ padded 2 k.minute ++ ":" ++
      padded 2 k.second ++ " " ++ half))
  | 'R' => some (.text .plain (padded 2 k.hour ++ ":" ++ padded 2 k.minute))
  | 's' => some (.text .plain (toString t.seconds))
  | 'S' => some (.number 2 k.second)
  | 'T' => some (.text .plain clock)
  | 'X' => some (.text .plain clock)
  | 'u' => some (.number 1 (if d.weekday = 0 then 7 else d.weekday : Nat))
  | 'U' => some (.number 2 ((d.dayOfYear + 6 - d.weekday) / 7 : Nat))
  | 'V' => some (.number 2 (isoWeek d).2)
  | 'w' => some (.number 1 d.weekday)
  | 'W' => some (.number 2 ((d.dayOfYear + 6 - (d.weekday + 6) % 7) / 7 : Nat))
  | 'y' => some (.number 2 (c.year % 100))
  | 'Y' => some (.number 1 c.year)
  | 'z' => some (.offset 0)
  | 'Z' => some (.text .lowered "UTC")
  | _ => none

/-- The letters that have no variant with a sign. -/
def withoutVariant (sign : Char) : List Char :=
  if sign = 'E' then "deHIjklMmSUVgGWwbhBaADF%".toList else "cxXYaADF%".toList

/-- Whether a letter has the variant that a directive asks for. -/
def admits (d : Directive) (letter : Char) : Bool :=
  match d.variant with
  | none => true
  | some sign => !(withoutVariant sign).contains letter

/-- The casing of a directive that stands as it is written, since its letter has no such variant. The
short name of a month gives its own casing to it. -/
def refusedCasing (letter : Char) : Casing :=
  if letter = 'b' ∨ letter = 'h' then .raised else .plain

end Pattern

/-! ## Writing -/

namespace Directive

/-- A text filled up in front to the width, with zeros where they are asked for. -/
def filled (d : Directive) (s : String) : String :=
  let fill := if d.filling = .zeros then '0' else ' '
  String.ofList (List.replicate (d.width - s.length) fill) ++ s

/-- A text in the case that the flags give it. -/
def cased (d : Directive) (casing : Casing) (s : String) : String :=
  match casing with
  | .plain => if d.capitals then s.toUpper else s
  | .raised => if d.capitals || d.swapped then s.toUpper else s
  | .lowered => if d.swapped then s.toLower else if d.capitals then s.toUpper else s
  | .small => s

/-- A number: bare, with blanks before its sign, or with zeros after it. -/
def number (d : Directive) (filling : Filling) (digits : Nat) (n : Int) : String :=
  let bare := toString n
  let places := Nat.max digits d.width
  match filling with
  | .bare => d.filled bare
  | .blanks => String.ofList (List.replicate (places - bare.length) ' ') ++ bare
  | _ => padded places n

end Directive

/-- What a directive writes for a part. -/
def Part.written (d : Directive) : Part → String
  | .number digits n => d.number d.filling digits n
  | .spaced digits n =>
    d.number (if d.filling = .own then .blanks else d.filling) digits n
  | .text casing s => d.filled (d.cased casing s)
  | .offset hoursMinutes => d.filled "+" ++ d.number d.filling 4 hoursMinutes

/-- The text of a piece at a moment. -/
def Piece.text (t : Instant) : Piece → String
  | .plain c => String.singleton c
  | .cut d => d.filled (d.cased .plain (String.ofList d.written))
  | .directive d letter =>
    let found := if Pattern.admits d letter then Pattern.part? t letter else none
    match found with
    | some part => part.written d
    | none =>
      let asWritten := if letter = '%' then ['%'] else d.written ++ [letter]
      d.filled (d.cased (Pattern.refusedCasing letter) (String.ofList asWritten))

/-- The width that a piece asks for. -/
def Piece.width : Piece → Nat
  | .plain _ => 0
  | .directive d _ => d.width
  | .cut d => d.width

/-! ## Moments by pattern -/

/-- Why a moment cannot be written. -/
inductive TimeFault where
  /-- The pattern holds the character zero. -/
  | zeroCharacter
  /-- The year is beyond those that `strftime` takes, a C `int`. -/
  | yearTooLarge
  /-- The year is beyond those of the C calendar. -/
  | beyondYears
  /-- The second is beyond those of the clock. -/
  | beyondSeconds
  deriving DecidableEq, Repr

/-- How a fault is reported. -/
def TimeFault.message : TimeFault → String
  | .zeroCharacter => "embedded null character"
  | .yearTooLarge => "signed integer is greater than maximum"
  | .beyondYears => "[Errno 75] Value too large for defined data type"
  | .beyondSeconds => "Python int too large to convert to C int"

namespace Pattern

/-- The room for the text of a pattern of some length: the least power of two from 1024 on that is
at least 256 times the length. -/
def room (length : Nat) : Nat :=
  if 256 * length ≤ 1024 then 1024 else Nat.pow 2 ((256 * length - 1).log2 + 1)

/-- The text of a moment by a pattern; empty if it does not fit the room. -/
def write (pattern : String) (t : Instant) : String :=
  let parts := pieces none pattern.toList
  let room := room pattern.length
  if parts.any (room ≤ ·.width) then ""
  else
    let text := String.join (parts.map (Piece.text t))
    if text.length < room then text else ""

/-- The first and last second of the C calendar, whose `tm_year` counts from 1900 in 32 bits. -/
def calendarSeconds : Int × Int := (-67768040609740800, 67768036191676799)

/-- The last second that is written: the end of the year 2147483647, the greatest C `int`. -/
def lastSecond : Int := 67767976233532799

/-- The text of a moment by a pattern, unless the moment or the pattern forbids it. -/
def apply (pattern : String) (t : Instant) : Except TimeFault String :=
  let s := t.seconds
  if s < -0x8000000000000000 || 0x8000000000000000 ≤ s then .error .beyondSeconds
  else if s < calendarSeconds.1 || calendarSeconds.2 < s then .error .beyondYears
  else if lastSecond < s then .error .yearTooLarge
  else if pattern.contains '\x00' then .error .zeroCharacter
  else .ok (write pattern t)

end Pattern

end Runboard
