import Runboard.Text.Utf8

/-!
# `Runboard.Text.Base64`: bytes as letters

The writer uses the URL alphabet and leaves the padding away. The reader is lenient: it accepts both
alphabets, skips every other character, and stops where padding completes a group of four. It
follows the text one character at a time, keeping the place in the group and the number of paddings
seen since the last letter.

## Contents

* `sextetChar`, `sextet?`: the six-bit values and their letters;
* `encodeBase64Url`: bytes to letters;
* `Base64.Reader`, `Base64.Reader.push`: the reader's state and step;
* `decodeBase64`: letters to bytes, with the two ways to fail.
-/

namespace Runboard.Text

/-! ## Letters -/

/-- The letter of a six-bit value in the URL alphabet. -/
def sextetChar (v : Nat) : Char :=
  if v < 26 then Char.ofNat (0x41 + v)
  else if v < 52 then Char.ofNat (0x61 + (v - 26))
  else if v < 62 then Char.ofNat (0x30 + (v - 52))
  else if v = 62 then '-'
  else '_'

/-- The six-bit value of a letter of either alphabet. -/
def sextet? (c : Char) : Option Nat :=
  let n := c.toNat
  if 0x41 ≤ n ∧ n ≤ 0x5a then some (n - 0x41)
  else if 0x61 ≤ n ∧ n ≤ 0x7a then some (n - 0x61 + 26)
  else if 0x30 ≤ n ∧ n ≤ 0x39 then some (n - 0x30 + 52)
  else if c = '-' ∨ c = '+' then some 62
  else if c = '_' ∨ c = '/' then some 63
  else none

/-! ## Writing -/

/-- Bytes as letters of the URL alphabet, without padding. -/
def encodeBase64Url : List UInt8 → List Char
  | [] => []
  | [a] =>
    [sextetChar (a.toNat / 4), sextetChar (a.toNat % 4 * 16)]
  | [a, b] =>
    [sextetChar (a.toNat / 4), sextetChar (a.toNat % 4 * 16 + b.toNat / 16),
      sextetChar (b.toNat % 16 * 4)]
  | a :: b :: c :: rest =>
    sextetChar (a.toNat / 4) :: sextetChar (a.toNat % 4 * 16 + b.toNat / 16) ::
      sextetChar (b.toNat % 16 * 4 + c.toNat / 64) :: sextetChar (c.toNat % 64) ::
        encodeBase64Url rest

/-! ## Reading -/

namespace Base64

/-- Why a text is no base64. -/
inductive Fault where
  /-- A group lacks padding. -/
  | padding
  /-- A single letter is left over; `letters` counts all of them. -/
  | lone (letters : Nat)
  deriving DecidableEq, Repr

/-- How a fault is reported. -/
def Fault.message : Fault → String
  | .padding => "Incorrect padding"
  | .lone letters =>
    "Invalid base64-encoded string: number of data characters (" ++ toString letters ++
      ") cannot be 1 more than a multiple of 4"

/-- The reader between two characters: the place in the group of four, the paddings since the last
letter, the bits of the current group that are not yet a byte, and the bytes, the last first. -/
structure Reader where
  place : Nat := 0
  pads : Nat := 0
  carry : Nat := 0
  bytes : List UInt8 := []
  deriving DecidableEq, Repr

/-- Reads a letter of the value `v`. -/
def Reader.letter (r : Reader) (v : Nat) : Reader :=
  match r.place with
  | 0 => { r with place := 1, pads := 0, carry := v }
  | 1 => { place := 2, pads := 0, carry := v % 16, bytes := byte (r.carry * 4 + v / 16) :: r.bytes }
  | 2 => { place := 3, pads := 0, carry := v % 4, bytes := byte (r.carry * 16 + v / 4) :: r.bytes }
  | _ => { place := 0, pads := 0, carry := 0, bytes := byte (r.carry * 64 + v) :: r.bytes }

/-- Reads a text to its end, or to the padding that completes a group. -/
def Reader.run (r : Reader) : List Char → Except Fault (List UInt8)
  | [] =>
    if r.place = 0 then .ok r.bytes.reverse
    else if r.place = 1 then .error (.lone (r.bytes.length / 3 * 4 + 1))
    else .error .padding
  | c :: cs =>
    if c = '=' then
      if 2 ≤ r.place ∧ 4 ≤ r.place + (r.pads + 1) then .ok r.bytes.reverse
      else if 2 ≤ r.place then Reader.run { r with pads := r.pads + 1 } cs
      else Reader.run r cs
    else
      match sextet? c with
      | some v => Reader.run (r.letter v) cs
      | none => Reader.run r cs

end Base64

/-- The padding that fills a text of the given length up to a multiple of four. -/
def base64Padding (length : Nat) : List Char :=
  List.replicate ((4 - length % 4) % 4) '='

/-- The bytes of a text that has been filled up, by its length in bytes, to whole groups. -/
def decodeBase64 (cs : List Char) : Except Base64.Fault (List UInt8) :=
  Base64.Reader.run {} (cs ++ base64Padding (encodeUtf8 cs).length)

end Runboard.Text
