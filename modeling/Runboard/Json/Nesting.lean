import Runboard.Json.Parser

/-!
# `Runboard.Json.Nesting`: texts that are nested too deep

`json.loads` reads a list or an object inside another one by a further call of the scanner, and raises
`RecursionError` where the stack has no room for it. A text is too deep when it is in order up to such a
bracket: that is, when what stands before the bracket, with `null` in its place and all that is open
closed again, is a JSON text. A text that is out of order before raises `JSONDecodeError` as any other.

## Contents

* `Json.Bracket`, `Json.Place`: what can be opened, and where a character stands;
* `Json.closedUp?`: the text before the first bracket without room, closed again;
* `Json.Reading`, `Json.read`: a text read with limited room.
-/

namespace Runboard.Json

/-- What a bracket opens. -/
inductive Bracket where
  | list
  | object
  deriving DecidableEq, Repr

/-- The bracket that a character is. -/
def Bracket.ofChar? (c : Char) : Option Bracket :=
  if c = '[' then some .list else if c = '{' then some .object else none

/-- The character that closes what a bracket opened. -/
def Bracket.closing : Bracket → Char
  | .list => ']'
  | .object => '}'

/-- How a bracket is named in reports. -/
def Bracket.name : Bracket → String
  | .list => "array"
  | .object => "object"

/-- Where a character stands: between strings, in a string, or after a backslash in a string. -/
inductive Place where
  | between
  | within
  | escaped
  deriving DecidableEq, Repr

/-- The place after a character. -/
def Place.next (p : Place) (c : Char) : Place :=
  match p with
  | .between => if c = '"' then .within else .between
  | .within => if c = '"' then .between else if c = '\\' then .escaped else .within
  | .escaped => .within

/-- The first bracket for which there is no room, with the text before it, which has a value in the
place of the bracket and is closed again. The characters that close what is open, and those read so
far, are kept backwards. -/
def closedUp? : (room : Nat) → (closers before : List Char) → Place → List Char →
    Option (Bracket × List Char)
  | _, _, _, _, [] => none
  | room, closers, before, place, c :: rest =>
    if place ≠ .between then closedUp? room closers (c :: before) (place.next c) rest
    else
      match Bracket.ofChar? c with
      | some bracket =>
        match room with
        | 0 => some (bracket, before.reverse ++ "null".toList ++ closers)
        | room + 1 => closedUp? room (bracket.closing :: closers) (c :: before) place rest
      | none =>
        if closers.head? = some c then
          closedUp? (room + 1) (closers.drop 1) (c :: before) place rest
        else closedUp? room closers (c :: before) (place.next c) rest

/-- What reading a text comes to. -/
inductive Reading where
  | value (v : Json)
  | malformed
  | tooDeep (bracket : Bracket)

/-- Whether a value was read. -/
def Reading.isValue : Reading → Bool
  | .value _ => true
  | _ => false

/-- Reads a text with room for so many brackets inside the outermost one. -/
def read (room : Nat) (number : NumberReader) (cs : List Char) : Reading :=
  let tooDeep? := (closedUp? (room + 1) [] [] .between cs).bind fun (bracket, closed) =>
    (parseChars? number closed).map fun _ => bracket
  match tooDeep? with
  | some bracket => .tooDeep bracket
  | none =>
    match parseChars? number cs with
    | some v => .value v
    | none => .malformed

end Runboard.Json
