import Jose.Json.Document
import Jose.Text.Quoted

/-!
Readers of simple values from a document. A reader that meets something else says what it found and
what it expected. Where a document comes from matters in two places: a text is refused at its first
octet where a value is refused as a whole.
-/

namespace Jose

/-- Whether a document was scanned from a text or stands for a value. -/
inductive Origin where
  | text
  | value
  deriving DecidableEq, Repr

abbrev Reader (α : Type) := Document → Except Problem α

namespace Document

def found : Document → Except Problem String
  | .null => .ok "null"
  | .bool value => .ok ("boolean `" ++ (if value then "true" else "false") ++ "`")
  | .number (some (.int value)) => .ok ("integer `" ++ toString value ++ "`")
  | .number (some (.real value)) => .ok ("floating point `" ++ value.text ++ "`")
  | .number none => .error .numberOutOfRange
  | .text (.ok value) => .ok ("string " ++ Text.quoted value)
  | .text (.error problem) => .error problem
  | .list _ _ => .ok "sequence"
  | .object _ _ => .ok "map"
  | .broken _ fault => .error fault.read

def mismatch (expected : String) (document : Document) : Except Problem α := do
  let found ← document.found
  .error (.invalidType found expected)

def skip (document : Document) : Except Problem Unit := refuse document.skipped

def toText : Reader String
  | .text value => value
  | document => document.mismatch "a string"

def toBool : Reader Bool
  | .bool value => .ok value
  | document => document.mismatch "a boolean"

def toUnsigned : Reader Nat
  | .number (some (.int value)) =>
      if value < 0 then .error (.invalidValue ("integer `" ++ toString value ++ "`") "u64")
      else .ok value.toNat
  | document => document.mismatch "u64"

def toUnit : Reader Unit
  | .null => .ok ()
  | document => document.mismatch "unit"

def toOption (reader : Reader α) : Reader (Option α)
  | .null => .ok none
  | .broken .null fault => .error fault.read
  | document => (reader document).map some

def readAll (reader : Reader α) : List Document → Except Problem (List α)
  | [] => .ok []
  | item :: rest => do
      let value ← reader item
      let values ← readAll reader rest
      return value :: values

def toList (reader : Reader α) : Reader (List α)
  | .list items ending => do
      let values ← readAll reader items
      refuse (ending.map Fault.read)
      return values
  | document => document.mismatch "a sequence"

def variant (known : Members α) (name : String) : Except Problem α :=
  match known.get? name with
  | some value => .ok value
  | none => .error (.unknownVariant name known.names)

def toIdentifier : Reader String
  | .text value => value
  | document => document.mismatch "variant identifier"

def endVariant (rest : List (Document × Document)) (ending : Option Fault) :
    Except Problem Unit :=
  match rest, ending with
  | [], none => .ok ()
  | [], some fault => .error (if fault.read = .endInObject then .endInObject else .expectedValue)
  | _ :: _, _ => .error .expectedValue

/-- A variant in a text: its name, or an object with its name and `null`. -/
def toVariantOfText (known : Members α) : Reader α
  | .text value => value.bind (variant known)
  | .object [] (some fault) =>
      .error (if fault.read = .endInObject then .endInValue else .expectedValue)
  | .object ((key, item) :: rest) ending => do
      let name ← key.toIdentifier
      let value ← variant known name
      item.toUnit
      endVariant rest ending
      return value
  | .broken .text fault => .error fault.read
  | .broken .nothing fault => .error fault.read
  | _ => .error .expectedValue

def toVariantOfValue (known : Members α) : Reader α
  | .text value => value.bind (variant known)
  | .object [(key, item)] _ => do
      let name ← key.toIdentifier
      let value ← variant known name
      item.toUnit
      return value
  | .object _ _ => .error (.invalidValue "map" "map with a single key")
  | document => document.mismatch "string or map"

def toVariant (origin : Origin) (known : Members α) : Reader α :=
  match origin with
  | .text => toVariantOfText known
  | .value => toVariantOfValue known

end Document

end Jose
