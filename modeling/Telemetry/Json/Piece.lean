import Telemetry.Json

/-! Compact printing of JSON trees. A tree is printed piece by piece: a piece is text that is handed on
as a whole, or a gap. Inside a string a maximal run of plain characters is one piece and every escape
is one piece. The text that reaches a reader ends at the first gap. -/
namespace Telemetry.Json

inductive Piece where
  | text (s : String)
  | gap (kind : String)
  deriving DecidableEq

def escape? (c : Char) : Option String :=
  if c = '"' then some "\\\""
  else if c = '\\' then some "\\\\"
  else if 0x20 ≤ c.toNat then none
  else if c = '\n' then some "\\n"
  else if c = '\r' then some "\\r"
  else if c = '\t' then some "\\t"
  else if c.toNat = 0x08 then some "\\b"
  else if c.toNat = 0x0c then some "\\f"
  else some ("\\u00" ++ String.ofList [Nat.digitChar (c.toNat / 16), Nat.digitChar (c.toNat % 16)])

def run (plain : List Char) (rest : List Piece) : List Piece :=
  if plain.isEmpty then rest else .text (String.ofList plain.reverse) :: rest

/-- The pieces of characters inside a string, after a run of plain ones, given in reverse. -/
def contents (plain : List Char) : List Char → List Piece → List Piece
  | [], rest => run plain rest
  | c :: cs, rest =>
    match escape? c with
    | none => contents (c :: plain) cs rest
    | some escaped => run plain (.text escaped :: contents [] cs rest)

def quoted (s : String) (rest : List Piece) : List Piece :=
  .text "\"" :: contents [] s.toList (.text "\"" :: rest)

def separated (first : Bool) (rest : List Piece) : List Piece :=
  if first then rest else .text "," :: rest

mutual

def pieces : Json → List Piece → List Piece
  | .null, rest => .text "null" :: rest
  | .bool b, rest => .text (if b then "true" else "false") :: rest
  | .number literal, rest => .text literal :: rest
  | .string s, rest => quoted s rest
  | .array items, rest => .text "[" :: itemPieces true items (.text "]" :: rest)
  | .object members, rest => .text "\x7b" :: memberPieces true members (.text "\x7d" :: rest)
  | .gap kind, rest => .gap kind :: rest
termination_by structural tree => tree

def itemPieces (first : Bool) : List Json → List Piece → List Piece
  | [], rest => rest
  | item :: items, rest => separated first (pieces item (itemPieces false items rest))
termination_by structural items => items

def memberPieces (first : Bool) : List (String × Json) → List Piece → List Piece
  | [], rest => rest
  | (key, value) :: members, rest =>
    separated first (quoted key (.text ":" :: pieces value (memberPieces false members rest)))
termination_by structural members => members

end

def written : List Piece → List String
  | .text s :: rest => s :: written rest
  | _ => []

def firstGap? : List Piece → Option String
  | [] => none
  | .text _ :: rest => firstGap? rest
  | .gap kind :: _ => some kind

def render (tree : Json) : String :=
  String.join (written (tree.pieces []))

end Telemetry.Json
