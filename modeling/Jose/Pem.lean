import Jose.Base64
import Jose.Text.Blank

/-!
Armoured text. A block stands between a BEGIN and an END line with the same label; between them are
lines of 64 base64 symbols, of which only the last may be shorter. A block may follow other text,
but nothing may follow it.
-/

namespace Jose.Pem

def beginMark : List Char := "-----BEGIN ".toList

def endMark : List Char := "-----END ".toList

def dashes : List Char := "-----".toList

inductive LabelProblem where
  | missing
  | malformed
  deriving DecidableEq, Repr

def LabelProblem.message : LabelProblem → String
  | missing => "Missing PEM BEGIN line"
  | malformed => "Malformed PEM BEGIN line"

/-- The label of the first BEGIN line, wherever it stands. -/
def label (text : List Char) : Except LabelProblem String :=
  match Text.splitAt? beginMark text with
  | none => .error .missing
  | some (_, rest) =>
      match Text.splitAt? dashes rest with
      | none => .error .malformed
      | some (name, _) => .ok (String.ofList name)

def afterBegin? (lineStart : Bool) : List Char → Option (List Char)
  | [] => none
  | char :: rest =>
      if lineStart ∧ beginMark.isPrefixOf (char :: rest) then
        some ((char :: rest).drop beginMark.length)
      else if char = '\x00' then none
      else afterBegin? (char == '\n') rest

def dropLineEnd? : List Char → Option (List Char)
  | '\r' :: '\n' :: rest => some rest
  | '\n' :: rest => some rest
  | '\r' :: rest => some rest
  | _ => none

/-- The same for a line end written backwards. -/
def dropReversedLineEnd? : List Char → Option (List Char)
  | '\n' :: '\r' :: rest => some rest
  | '\n' :: rest => some rest
  | '\r' :: rest => some rest
  | _ => none

def dropSuffix? (suffix text : List Char) : Option (List Char) :=
  if suffix.isSuffixOf text then some (text.take (text.length - suffix.length)) else none

/-- The lines between BEGIN and END with the label, without the last line end. -/
def body? (name : String) (text : List Char) : Option (List Char) := do
  let start ← afterBegin? true text
  let head := name.toList ++ dashes
  guard (head.isPrefixOf start)
  let lines ← dropLineEnd? (start.drop head.length)
  let reversed := lines.reverse
  let reversed := (dropReversedLineEnd? reversed).getD reversed
  let lines ← dropSuffix? (endMark ++ name.toList ++ dashes) reversed.reverse
  let reversed ← dropReversedLineEnd? lines.reverse
  return reversed.reverse

def lineLength : Nat := 64

def joinLines? : (fuel : Nat) → List Char → Option (List Char)
  | 0, _ => none
  | fuel + 1, text =>
      if text.length ≤ lineLength then some text
      else do
        let rest ← dropLineEnd? (text.drop lineLength)
        let later ← joinLines? fuel rest
        return text.take lineLength ++ later

def decode? (name : String) (text : List Char) : Option Bytes := do
  let body ← body? name text
  guard !body.isEmpty
  let symbols ← joinLines? (body.length + 1) body
  Base64.decodePadded? Base64.classic (Bytes.ofText (String.ofList symbols))

end Jose.Pem
