import LiterateConfig.Yaml.Basic

/-!
# Binary data in a document

Bytes are written in base 64: four characters for three bytes, `=` filling up
the last four. Characters outside the alphabet do not count.
-/
namespace LiterateConfig.Yaml

/-- The value of a character of the alphabet. -/
def base64Value? (c : Char) : Option Nat :=
  if 'A' ≤ c && c ≤ 'Z' then some (c.toNat - 65)
  else if 'a' ≤ c && c ≤ 'z' then some (c.toNat - 71)
  else if '0' ≤ c && c ≤ '9' then some (c.toNat + 4)
  else if c = '+' then some 62
  else if c = '/' then some 63
  else none

/-- The bytes of a text in base 64: `place` is the number of characters of the
current four so far, `left` the bits left over, `fills` the fillers in a row. -/
def base64Bytes (place left fills : Nat) (done : List UInt8) : List Char → Option (List UInt8)
  | [] => if place = 0 then some done else none
  | '=' :: r =>
    if 2 ≤ place && 4 ≤ place + fills + 1 then some done else base64Bytes place left (fills + 1) done r
  | c :: r =>
    match base64Value? c with
    | none => base64Bytes place left fills done r
    | some v =>
      match place with
      | 0 => base64Bytes 1 v 0 done r
      | 1 => base64Bytes 2 (v % 16) 0 (done ++ [UInt8.ofNat (left * 4 + v / 16)]) r
      | 2 => base64Bytes 3 (v % 4) 0 (done ++ [UInt8.ofNat (left * 16 + v / 4)]) r
      | _ => base64Bytes 0 0 0 (done ++ [UInt8.ofNat (left * 64 + v)]) r

/-- The bytes that a text spells. -/
def readBinary (text : String) : Except Problem (List UInt8) :=
  if text.toList.any fun c => 128 ≤ c.toNat then .error .malformed
  else match base64Bytes 0 0 0 [] text.toList with
    | some bytes => .ok bytes
    | none => .error .malformed

end LiterateConfig.Yaml
