import Jose.Bytes
import Jose.Json.Basic

/-!
The compact text of a JSON value: no blanks, members in order, and only the escapes that JSON
requires.
-/

namespace Jose.Json

/-- Quotes, backslashes and controls are escaped; every other character stands for itself. -/
def escape (char : Char) : List Char :=
  if char = '"' then ['\\', '"']
  else if char = '\\' then ['\\', '\\']
  else if char = '\x08' then ['\\', 'b']
  else if char = '\x0c' then ['\\', 'f']
  else if char = '\n' then ['\\', 'n']
  else if char = '\r' then ['\\', 'r']
  else if char = '\t' then ['\\', 't']
  else if char.toNat < 32 then
    ['\\', 'u', '0', '0', Bytes.hexDigit (char.toNat / 16),
      Bytes.hexDigit (char.toNat % 16)]
  else [char]

def quote (text : String) : List Char := ['"'] ++ text.toList.flatMap escape ++ ['"']

mutual

def chars : Json → List Char
  | .null => ['n', 'u', 'l', 'l']
  | .bool true => ['t', 'r', 'u', 'e']
  | .bool false => ['f', 'a', 'l', 's', 'e']
  | .number value => value.text.toList
  | .text value => quote value
  | .list [] => ['[', ']']
  | .list (item :: rest) => ['['] ++ item.chars ++ charsOfItems rest ++ [']']
  | .object [] => ['\x7b', '\x7d']
  | .object ((name, value) :: rest) =>
      ['\x7b'] ++ quote name ++ [':'] ++ value.chars ++ charsOfMembers rest ++ ['\x7d']

def charsOfItems : List Json → List Char
  | [] => []
  | item :: rest => [','] ++ item.chars ++ charsOfItems rest

def charsOfMembers : List (String × Json) → List Char
  | [] => []
  | (name, value) :: rest =>
      [','] ++ quote name ++ [':'] ++ value.chars ++ charsOfMembers rest

end

def write (value : Json) : String := String.ofList value.chars

def encode (value : Json) : Bytes := Bytes.ofText value.write

end Jose.Json
