/-! JSON values and their written form over several lines: two spaces for each level, the entries
of an object as they are listed. -/
namespace Wallpaper.Text

inductive Json where
  | null
  | bool (value : Bool)
  | number (value : Nat)
  | string (value : String)
  | array (items : List Json)
  | object (entries : List (String × Json))

namespace Json

def hexDigits (c : Char) : List Char :=
  [Nat.digitChar (c.toNat / 16), Nat.digitChar (c.toNat % 16)]

/-- What stands for a character within a string: short escapes where there are any, the code
point for the other control characters, and else the character itself. -/
def escapeChar (c : Char) : List Char :=
  match c with
  | '"' => ['\\', '"']
  | '\\' => ['\\', '\\']
  | '\x08' => ['\\', 'b']
  | '\x0c' => ['\\', 'f']
  | '\n' => ['\\', 'n']
  | '\r' => ['\\', 'r']
  | '\t' => ['\\', 't']
  | c => if c.toNat < 0x20 then ['\\', 'u', '0', '0'] ++ hexDigits c else [c]

def stringText (s : String) : String :=
  String.ofList ('"' :: s.toList.flatMap escapeChar ++ ['"'])

def newline (depth : Nat) : String := String.ofList ('\n' :: List.replicate (2 * depth) ' ')

/- Arrays and objects hold values, so the pieces of all three are found together. -/
mutual

/-- The written form, in the pieces it is written in. -/
def pieces (depth : Nat) : Json → List String
  | null => ["null"]
  | bool value => [toString value]
  | number value => [toString value]
  | string value => [stringText value]
  | array [] => ["[]"]
  | array (first :: rest) =>
    ["[", newline (depth + 1)] ++ first.pieces (depth + 1) ++ morePieces (depth + 1) rest ++
      [newline depth, "]"]
  | object [] => ["\x7b\x7d"]
  | object (first :: rest) =>
    ["\x7b", newline (depth + 1)] ++ entryPieces (depth + 1) first ++
      moreEntries (depth + 1) rest ++ [newline depth, "\x7d"]

def morePieces (depth : Nat) : List Json → List String
  | [] => []
  | item :: rest => [",", newline depth] ++ item.pieces depth ++ morePieces depth rest

def entryPieces (depth : Nat) : String × Json → List String
  | (key, value) => [stringText key, ": "] ++ value.pieces depth

def moreEntries (depth : Nat) : List (String × Json) → List String
  | [] => []
  | entry :: rest => [",", newline depth] ++ entryPieces depth entry ++ moreEntries depth rest

end

def text (value : Json) : String := String.join (value.pieces 0)

end Json

end Wallpaper.Text
