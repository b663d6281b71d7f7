import Runboard.Text.Half
import Runboard.Text.Quoted

/-!
# `Runboard.Text.Utf8`: characters as bytes

The encoding of a character in one to four bytes, and a decoder that reads one byte at a time. The
decoder keeps what it has of the current character; a byte that cannot continue it ends a fault, and
is then read again as a first byte. What comes out is a list with one entry per character and one
`none` per fault, from which the strict and the lenient reading both follow.

## Contents

* `encodeChar`, `encodeUtf8`: characters to bytes;
* `EncodeFault`, `encodeFault?`, `encodeWhole`: the bytes of a text that may hold halves;
* `Pending`, `Pending.push`, `scanUtf8`: the decoder;
* `decodeUtf8?`: refuses a text with a fault;
* `decodeUtf8Lossy`: puts U+FFFD for each fault;
* `encodeFault?_eq_none`: which texts have bytes.
-/

namespace Runboard.Text

/-! ## Encoding -/

/-- A byte from a number below 256. -/
def byte (n : Nat) : UInt8 := UInt8.ofNat n

/-- The bytes of a character. -/
def encodeChar (c : Char) : List UInt8 :=
  let n := c.toNat
  if n < 0x80 then [byte n]
  else if n < 0x800 then [byte (0xc0 + n / 64), byte (0x80 + n % 64)]
  else if n < 0x10000 then
    [byte (0xe0 + n / 4096), byte (0x80 + n / 64 % 64), byte (0x80 + n % 64)]
  else
    [byte (0xf0 + n / 262144), byte (0x80 + n / 4096 % 64), byte (0x80 + n / 64 % 64),
      byte (0x80 + n % 64)]

/-- The bytes of a text. -/
def encodeUtf8 (cs : List Char) : List UInt8 :=
  cs.flatMap encodeChar

/-! ## Texts with halves -/

/-- Why a text has no bytes: `count` halves stand at `place`, the first of which is `unit`. -/
structure EncodeFault where
  place : Nat
  count : Nat
  unit : Nat
  deriving DecidableEq, Repr

/-- How a fault is reported. -/
def EncodeFault.message (f : EncodeFault) : String :=
  if f.count = 1 then
    "'utf-8' codec can't encode character '\\u" ++ String.ofList (hexDigits 4 f.unit) ++
      "' in position " ++ toString f.place ++ ": surrogates not allowed"
  else
    "'utf-8' codec can't encode characters in position " ++ toString f.place ++ "-" ++
      toString (f.place + f.count - 1) ++ ": surrogates not allowed"

/-- The first halves of a text that starts at a place, side by side. A half that `passes` may stand
at their beginning, but does not count. -/
def faultFrom? (passes : Nat → Bool) (place : Nat) : List Char → Option EncodeFault
  | [] => none
  | c :: rest =>
    match half? c with
    | none => faultFrom? passes (place + 1) rest
    | some unit =>
      if passes unit then faultFrom? passes (place + 1) rest
      else some ⟨place, 1 + (rest.takeWhile fun c => (half? c).isSome).length, unit⟩

/-- The first halves of a text. -/
def encodeFault? (cs : List Char) : Option EncodeFault := faultFrom? (fun _ => false) 0 cs

/-- The bytes of a text. -/
def encodeWhole (cs : List Char) : Except EncodeFault (List UInt8) :=
  match encodeFault? cs with
  | some f => .error f
  | none => .ok (encodeUtf8 cs)

/-! ## Decoding -/

/-- What is known of the character being read: nothing, or the value so far with the number of
bytes still owed and the bounds of the next one. -/
inductive Pending where
  | start
  | owed (count : Nat) (low high : Nat) (value : Nat)
  deriving DecidableEq, Repr

/-- Reads a byte as the first of a character. -/
def Pending.first (b : UInt8) : Pending × List (Option Char) :=
  let n := b.toNat
  if n < 0x80 then (.start, [some (Char.ofNat n)])
  else if 0xc2 ≤ n ∧ n ≤ 0xdf then (.owed 1 0x80 0xbf (n - 0xc0), [])
  else if n = 0xe0 then (.owed 2 0xa0 0xbf 0, [])
  else if n = 0xed then (.owed 2 0x80 0x9f 0xd, [])
  else if 0xe1 ≤ n ∧ n ≤ 0xef then (.owed 2 0x80 0xbf (n - 0xe0), [])
  else if n = 0xf0 then (.owed 3 0x90 0xbf 0, [])
  else if 0xf1 ≤ n ∧ n ≤ 0xf3 then (.owed 3 0x80 0xbf (n - 0xf0), [])
  else if n = 0xf4 then (.owed 3 0x80 0x8f 4, [])
  else (.start, [none])

/-- Reads a byte, giving the characters and faults that it completes. -/
def Pending.push : Pending → UInt8 → Pending × List (Option Char)
  | .start, b => first b
  | .owed count low high value, b =>
    let n := b.toNat
    if low ≤ n ∧ n ≤ high then
      let value := value * 64 + (n - 0x80)
      if count ≤ 1 then (.start, [some (Char.ofNat value)])
      else (.owed (count - 1) 0x80 0xbf value, [])
    else
      let (next, out) := first b
      (next, none :: out)

/-- The characters and faults of a byte text read from a given point. -/
def scanUtf8 : Pending → List UInt8 → List (Option Char)
  | .start, [] => []
  | .owed .., [] => [none]
  | p, b :: bs => (p.push b).2 ++ scanUtf8 (p.push b).1 bs

/-- The text of some bytes, if they hold no fault. -/
def decodeUtf8? (bs : List UInt8) : Option (List Char) :=
  (scanUtf8 .start bs).mapM id

/-- The text of some bytes, with U+FFFD for each fault. -/
def decodeUtf8Lossy (bs : List UInt8) : List Char :=
  (scanUtf8 .start bs).map (·.getD '\uFFFD')

/-! ## Small facts -/

theorem encodeUtf8_cons (c : Char) (cs : List Char) :
    encodeUtf8 (c :: cs) = encodeChar c ++ encodeUtf8 cs := by
  simp [encodeUtf8]

theorem faultFrom?_eq_none (place : Nat) (cs : List Char) :
    faultFrom? (fun _ => false) place cs = none ↔ ∀ c ∈ cs, half? c = none := by
  induction cs generalizing place with
  | nil => simp [faultFrom?]
  | cons c rest ih =>
    cases h : half? c with
    | none => simp [faultFrom?, h, ih]
    | some unit => simp [faultFrom?, h]

/-- There is a fault exactly if the text holds a half. -/
theorem encodeFault?_eq_none {s : String} :
    encodeFault? s.toList = none ↔ holdsHalf s = false := by
  simp [encodeFault?, faultFrom?_eq_none, holdsHalf]

end Runboard.Text
