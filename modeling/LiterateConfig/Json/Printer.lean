import LiterateConfig.Json.Basic
import LiterateConfig.Number.Shortest
import LiterateConfig.Text.Hex

/-!
# Writing JSON

The written form is pure ASCII: other characters are `\u` escapes in UTF-16.
Every member and item stands on a line of its own, indented by two spaces per
level; an empty list or record is written `[]` or `\x7b\x7d`.
-/
namespace LiterateConfig.Json

/-- The `\u` escape of a UTF-16 unit. -/
def escapeUnit (n : Nat) : List Char := '\\' :: 'u' :: Text.hexPadded 4 n

/-- How a character is written between double quotes. -/
def writeChar (c : Char) : List Char :=
  if c = '"' then ['\\', '"']
  else if c = '\\' then ['\\', '\\']
  else if c = '\n' then ['\\', 'n']
  else if c = '\r' then ['\\', 'r']
  else if c = '\t' then ['\\', 't']
  else if c.toNat = 8 then ['\\', 'b']
  else if c.toNat = 12 then ['\\', 'f']
  else if 32 ≤ c.toNat && c.toNat < 127 then [c]
  else if c.toNat < 0x10000 then escapeUnit c.toNat
  else
    let n := c.toNat - 0x10000
    escapeUnit (0xd800 + n / 0x400) ++ escapeUnit (0xdc00 + n % 0x400)

def writeText (l : List Char) : List Char := '"' :: l.flatMap writeChar ++ ['"']

def writeFloat (x : Float) : List Char :=
  if x.isNaN then "NaN".toList
  else if x.isInf then (if x < 0 then "-Infinity" else "Infinity").toList
  else (Number.floatText x).toList

/-- A line feed and the indentation of a level. -/
def newline (level : Nat) : List Char := '\n' :: List.replicate (2 * level) ' '

mutual

/-- The written form of `d`, nested `level` deep. -/
def write (level : Nat) : Data → List Char
  | .null => ['n', 'u', 'l', 'l']
  | .bool true => ['t', 'r', 'u', 'e']
  | .bool false => ['f', 'a', 'l', 's', 'e']
  | .int n => (toString n).toList
  | .float x => writeFloat x
  | .text s => writeText s.toList
  | .list [] => ['[', ']']
  | .list (x :: xs) =>
    '[' :: newline (level + 1) ++ write (level + 1) x ++ writeItems (level + 1) xs ++
      newline level ++ [']']
  | .record [] => ['{', '}']
  | .record ((k, v) :: ms) =>
    '{' :: newline (level + 1) ++ writeText k.toList ++ [':', ' '] ++ write (level + 1) v ++
      writeMembers (level + 1) ms ++ newline level ++ ['}']

/-- The further items of a list. -/
def writeItems (level : Nat) : List Data → List Char
  | [] => []
  | x :: xs => ',' :: newline level ++ write level x ++ writeItems level xs

/-- The further members of a record. -/
def writeMembers (level : Nat) : List (String × Data) → List Char
  | [] => []
  | (k, v) :: ms =>
    ',' :: newline level ++ writeText k.toList ++ [':', ' '] ++ write level v ++ writeMembers level ms

end

/-- The text of a JSON file. -/
def print (d : Data) : String := String.ofList (write 0 d)

end LiterateConfig.Json
