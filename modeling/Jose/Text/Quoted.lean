import Jose.Bytes
import Jose.Text.Hidden

/-!
A text between quotes, as it stands in messages and log fields: a quote, a backslash and the common
controls have short escapes, and any other character that would not show is given by its number.
-/

namespace Jose.Text

def hexDigits (code : Nat) : List Char := Nat.toDigits 16 code

def quoteChar (char : Char) : List Char :=
  if char = '\x00' then ['\\', '0']
  else if char = '\t' then ['\\', 't']
  else if char = '\r' then ['\\', 'r']
  else if char = '\n' then ['\\', 'n']
  else if char = '"' then ['\\', '"']
  else if char = '\\' then ['\\', '\\']
  else if isHidden char.toNat then
    ['\\', 'u', '\x7b'] ++ hexDigits char.toNat ++ ['\x7d']
  else [char]

def quoted (text : String) : String :=
  String.ofList (['"'] ++ text.toList.flatMap quoteChar ++ ['"'])

/-- An optional text, as a log field shows it. -/
def quotedOption : Option String → String
  | none => "None"
  | some text => "Some(" ++ quoted text ++ ")"

end Jose.Text
