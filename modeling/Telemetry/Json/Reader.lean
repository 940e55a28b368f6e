import Telemetry.Json

/-! A strict reader of JSON texts. It accepts the JSON grammar and nothing else, keeps the members
of an object in order with their repetitions, and keeps a number as its literal. Escapes must decode
to characters, so a surrogate stands only in a pair. -/
namespace Telemetry.Json.Reader

def skipBlank (cs : List Char) : List Char :=
  cs.dropWhile fun c => c = ' ' || c = '\t' || c = '\n' || c = '\r'

def hexValue? (c : Char) : Option Nat :=
  if '0' ≤ c ∧ c ≤ '9' then some (c.toNat - '0'.toNat)
  else if 'a' ≤ c ∧ c ≤ 'f' then some (c.toNat - 'a'.toNat + 10)
  else if 'A' ≤ c ∧ c ≤ 'F' then some (c.toNat - 'A'.toNat + 10)
  else none

def unit? : List Char → Option (Nat × List Char)
  | a :: b :: c :: d :: rest => do
    return (4096 * (← hexValue? a) + 256 * (← hexValue? b) + 16 * (← hexValue? c) + (← hexValue? d), rest)
  | _ => none

def isHighSurrogate (unit : Nat) : Bool :=
  0xd800 ≤ unit && unit < 0xdc00

def isLowSurrogate (unit : Nat) : Bool :=
  0xdc00 ≤ unit && unit < 0xe000

/-- The character of an escape that began with a backslash and the letter u. -/
def unicode? (cs : List Char) : Option (Char × List Char) := do
  let (first, rest) ← unit? cs
  if isHighSurrogate first then
    match rest with
    | '\\' :: 'u' :: rest =>
      let (second, rest) ← unit? rest
      if isLowSurrogate second then
        return (Char.ofNat (0x10000 + 0x400 * (first - 0xd800) + (second - 0xdc00)), rest)
      else none
    | _ => none
  else if isLowSurrogate first then none
  else return (Char.ofNat first, rest)

def character? : List Char → Option (Char × List Char)
  | '\\' :: 'u' :: rest => unicode? rest
  | '\\' :: c :: rest =>
    match c with
    | '"' => some ('"', rest)
    | '\\' => some ('\\', rest)
    | '/' => some ('/', rest)
    | 'b' => some ('\x08', rest)
    | 'f' => some ('\x0c', rest)
    | 'n' => some ('\n', rest)
    | 'r' => some ('\r', rest)
    | 't' => some ('\t', rest)
    | _ => none
  | c :: rest => if c = '\\' || c.toNat < 0x20 then none else some (c, rest)
  | [] => none

/-- The rest of a string, after the characters already read, given in reverse. -/
def string? : Nat → List Char → List Char → Option (String × List Char)
  | 0, _, _ => none
  | fuel + 1, read, cs =>
    match cs with
    | '"' :: rest => some (String.ofList read.reverse, rest)
    | _ =>
      match character? cs with
      | some (c, rest) => string? fuel (c :: read) rest
      | none => none

def digits? (cs : List Char) : Option (List Char × List Char) :=
  match cs.takeWhile Char.isDigit with
  | [] => none
  | digits => some (digits, cs.dropWhile Char.isDigit)

def whole? (cs : List Char) : Option (List Char × List Char) :=
  match cs with
  | '0' :: rest => some (['0'], rest)
  | _ => digits? cs

def fraction? (cs : List Char) : Option (List Char × List Char) :=
  match cs with
  | '.' :: rest => (digits? rest).map fun (digits, rest) => ('.' :: digits, rest)
  | _ => some ([], cs)

def exponentDigits? (mark : List Char) (cs : List Char) : Option (List Char × List Char) :=
  (digits? cs).map fun (digits, rest) => (mark ++ digits, rest)

def exponent? (cs : List Char) : Option (List Char × List Char) :=
  match cs with
  | c :: rest =>
    if c = 'e' || c = 'E' then
      match rest with
      | '+' :: rest => exponentDigits? [c, '+'] rest
      | '-' :: rest => exponentDigits? [c, '-'] rest
      | _ => exponentDigits? [c] rest
    else some ([], cs)
  | [] => some ([], [])

def number? (cs : List Char) : Option (String × List Char) := do
  let (sign, rest) := match cs with
    | '-' :: rest => (['-'], rest)
    | _ => ([], cs)
  let (whole, rest) ← whole? rest
  let (fraction, rest) ← fraction? rest
  let (exponent, rest) ← exponent? rest
  return (String.ofList (sign ++ whole ++ fraction ++ exponent), rest)

def key? (fuel : Nat) (cs : List Char) : Option (String × List Char) :=
  match skipBlank cs with
  | '"' :: rest =>
    match string? fuel [] rest with
    | some (key, rest) =>
      match skipBlank rest with
      | ':' :: rest => some (key, rest)
      | _ => none
    | none => none
  | _ => none

mutual

def value? : Nat → List Char → Option (Json × List Char)
  | 0, _ => none
  | fuel + 1, cs =>
    match skipBlank cs with
    | 'n' :: 'u' :: 'l' :: 'l' :: rest => some (.null, rest)
    | 't' :: 'r' :: 'u' :: 'e' :: rest => some (.bool true, rest)
    | 'f' :: 'a' :: 'l' :: 's' :: 'e' :: rest => some (.bool false, rest)
    | '"' :: rest => (string? fuel [] rest).map fun (s, rest) => (.string s, rest)
    | '[' :: rest =>
      match skipBlank rest with
      | ']' :: rest => some (.array [], rest)
      | _ => (items? fuel rest).map fun (items, rest) => (.array items, rest)
    | '\x7b' :: rest =>
      match skipBlank rest with
      | '\x7d' :: rest => some (.object [], rest)
      | _ => (members? fuel rest).map fun (members, rest) => (.object members, rest)
    | rest => (number? rest).map fun (literal, rest) => (.number literal, rest)

def items? : Nat → List Char → Option (List Json × List Char)
  | 0, _ => none
  | fuel + 1, cs =>
    match value? fuel cs with
    | some (item, rest) =>
      match skipBlank rest with
      | ',' :: rest => (items? fuel rest).map fun (items, rest) => (item :: items, rest)
      | ']' :: rest => some ([item], rest)
      | _ => none
    | none => none

def members? : Nat → List Char → Option (List (String × Json) × List Char)
  | 0, _ => none
  | fuel + 1, cs =>
    match key? fuel cs with
    | some (key, rest) =>
      match value? fuel rest with
      | some (value, rest) =>
        match skipBlank rest with
        | ',' :: rest => (members? fuel rest).map fun (members, rest) => ((key, value) :: members, rest)
        | '\x7d' :: rest => some ([(key, value)], rest)
        | _ => none
      | none => none
    | none => none

end

end Reader

/-- The tree of a text that is one JSON value and nothing else. Every step of the reader takes a
character, so twice the length of the text is fuel enough. -/
def parse? (s : String) : Option Json :=
  match Reader.value? (2 * s.toList.length + 2) s.toList with
  | some (tree, rest) => if (Reader.skipBlank rest).isEmpty then some tree else none
  | none => none

end Telemetry.Json
