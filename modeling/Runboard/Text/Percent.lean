import Runboard.Json.Parser
import Runboard.Text.Quoted
import Runboard.Text.Utf8

/-!
# `Runboard.Text.Percent`: bytes as percent signs with digits

A byte may be written as a percent sign and two hexadecimal digits. Decoding replaces each such
group by its byte and reads the bytes as a text, with U+FFFD for each fault; a percent sign without
two digits stays. Encoding leaves a class of safe characters as they are.

## Contents

* `percentBytes`, `percentDecode`: decoding;
* `isUnreserved`, `percentEncode`: encoding.
-/

namespace Runboard.Text

/-- The bytes of a text with percent signs. -/
def percentBytes : List Char → List UInt8
  | '%' :: a :: b :: rest =>
    match Json.hexDigit? a, Json.hexDigit? b with
    | some x, some y => byte (x * 16 + y) :: percentBytes rest
    | _, _ => encodeChar '%' ++ percentBytes (a :: b :: rest)
  | c :: rest => encodeChar c ++ percentBytes rest
  | [] => []

/-- The text that a text with percent signs stands for. -/
def percentDecode (cs : List Char) : List Char :=
  decodeUtf8Lossy (percentBytes cs)

/-- The characters that never need a percent sign: ASCII letters and digits and four marks. -/
def isUnreserved (c : Char) : Bool :=
  c.isAlphanum || c == '-' || c == '.' || c == '_' || c == '~'

/-- A digit in upper case. -/
def upperHexDigit (n : Nat) : Char := (hexDigit n).toUpper

/-- A text in which every character is written by its bytes, unless it is unreserved or in a class
of safe characters. -/
def percentEncode (safe : Char → Bool) (cs : List Char) : List Char :=
  cs.flatMap fun c =>
    if isUnreserved c || safe c then [c]
    else
      (encodeChar c).flatMap fun b =>
        ['%', upperHexDigit (b.toNat / 16), upperHexDigit (b.toNat % 16)]

end Runboard.Text
