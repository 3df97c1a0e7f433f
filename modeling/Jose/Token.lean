import Jose.Base64
import Jose.Text.Pieces

/-!
Tokens in compact form: base64url segments with dots between them, three for a signed token and five
for an encrypted one.
-/

namespace Jose

structure Token where
  text : String
  deriving DecidableEq, Repr

namespace Token

def ofSegments (segments : List String) : Token :=
  ⟨String.ofList (Text.joined '.' (segments.map String.toList))⟩

def segments (token : Token) : List String :=
  (Text.pieces '.' token.text.toList).map String.ofList

def encode (token : Token) : Bytes := Bytes.ofText token.text

end Token

end Jose
