import Jose.Bytes
import Jose.Json.Document
import Jose.Json.Literal

/-!
From octets to a document, one octet at a time. The scanner keeps the lists and objects that are
still open and what it expects next; a fault ends the scan with everything open closed around it.
-/

namespace Jose

structure QuotedText where
  /-- Octets so far, latest first. -/
  octets : Bytes
  /-- Why the text cannot be read, although it can still be skipped. -/
  problem : Option Problem
  /-- A leading surrogate that waits for its partner. -/
  leading : Option Nat
  deriving DecidableEq, Repr

namespace QuotedText

def empty : QuotedText := ⟨[], none, none⟩

def push (scanned : QuotedText) (octets : Bytes) : QuotedText :=
  { scanned with octets := octets.reverse ++ scanned.octets }

/-- Notes a problem unless there is one already. -/
def note (scanned : QuotedText) (problem : Problem) : QuotedText :=
  { scanned with problem := scanned.problem.or (some problem), leading := none }

/-- Something other than an escape follows; a waiting surrogate stays alone. -/
def settle (scanned : QuotedText) : QuotedText :=
  match scanned.leading with
  | none => scanned
  | some _ => scanned.note .unpairedEscape

def isLeading (unit : Nat) : Bool := 0xD800 ≤ unit && unit ≤ 0xDBFF

def isTrailing (unit : Nat) : Bool := 0xDC00 ≤ unit && unit ≤ 0xDFFF

def pushCode (scanned : QuotedText) (code : Nat) : QuotedText :=
  { scanned.push (String.utf8EncodeChar (Char.ofNat code)) with leading := none }

def pushUnit (scanned : QuotedText) (unit : Nat) : QuotedText :=
  match scanned.leading with
  | some leading =>
      if isTrailing unit then
        scanned.pushCode ((leading - 0xD800) * 0x400 + (unit - 0xDC00) + 0x10000)
      else scanned.note .loneSurrogate
  | none =>
      if isTrailing unit then scanned.note .loneSurrogate
      else if isLeading unit then { scanned with leading := some unit }
      else scanned.pushCode unit

def escaped? (byte : UInt8) : Option UInt8 :=
  if byte = 34 ∨ byte = 92 ∨ byte = 47 then some byte
  else if byte = 98 then some 8
  else if byte = 102 then some 12
  else if byte = 110 then some 10
  else if byte = 114 then some 13
  else if byte = 116 then some 9
  else none

/-- A problem that ends the text for reader and skipper alike. -/
def fault (scanned : QuotedText) (problem : Problem) : Fault :=
  ⟨scanned.problem.getD problem, problem⟩

def value (scanned : QuotedText) : Except Problem String :=
  match scanned.problem with
  | some problem => .error problem
  | none =>
      match Bytes.text? scanned.octets.reverse with
      | some text => .ok text
      | none => .error .invalidCodePoint

end QuotedText

inductive TextStage where
  | plain
  | escape
  | digits (seen : Bytes)

inductive Place where
  | item
  | firstItem
  | nextItem
  | firstName
  | nextName

inductive Expectation where
  | value (place : Place)
  | word (left : Bytes) (opening : Opening) (result : Document)
  | number (stage : Literal.Stage) (literal : Literal)
  | text (stage : TextStage) (scanned : QuotedText)
  | colon
  | comma
  | finished (root : Document) (trailing : Bool)

/-- An open list or object: in a `list` the items so far, in a `name` the members before the name
that comes next or has just got its value, in a `value` also the name that waits for one. Latest
first. -/
inductive Frame where
  | list (items : List Document)
  | name (members : List (Document × Document))
  | value (members : List (Document × Document)) (name : Document)

structure Scan where
  frames : List Frame
  next : Expectation

namespace Scan

def start : Scan := ⟨[], .value .item⟩

def isBlank (byte : UInt8) : Bool := byte == 32 || byte == 9 || byte == 10 || byte == 13

def enclose : List Frame → Document → Document
  | [], document => document
  | .list items :: rest, document => enclose rest (.list (document :: items).reverse none)
  | .name members :: rest, document =>
      enclose rest (.object ((document, .null) :: members).reverse none)
  | .value members name :: rest, document =>
      enclose rest (.object ((name, document) :: members).reverse none)

def stop (frames : List Frame) (document : Document) : Scan :=
  ⟨[], .finished (enclose frames document) false⟩

def fail (frames : List Frame) (opening : Opening) (fault : Fault) : Scan :=
  stop frames (.broken opening fault)

def failEnding (frames : List Frame) (fault : Fault) : Scan :=
  match frames with
  | .list items :: rest => stop rest (.list items.reverse (some fault))
  | .name members :: rest => stop rest (.object members.reverse (some fault))
  | _ => fail frames .nothing fault

def isText : Document → Bool
  | .text _ => true
  | _ => false

def complete (frames : List Frame) (document : Document) : Scan :=
  match frames with
  | [] => ⟨[], .finished document false⟩
  | .list items :: rest => ⟨.list (document :: items) :: rest, .comma⟩
  | .name members :: rest =>
      if isText document then ⟨.value members document :: rest, .colon⟩ else stop frames document
  | .value members name :: rest => ⟨.name ((name, document) :: members) :: rest, .comma⟩

def closeFrame (frames : List Frame) : Scan :=
  match frames with
  | .list items :: rest => complete rest (.list items.reverse none)
  | .name members :: rest => complete rest (.object members.reverse none)
  | _ => fail frames .nothing (.both .expectedValue)

def nullTail : Bytes := [117, 108, 108]

def trueTail : Bytes := [114, 117, 101]

def falseTail : Bytes := [97, 108, 115, 101]

def openValue (frames : List Frame) (byte : UInt8) : Scan :=
  if byte = 34 then ⟨frames, .text .plain .empty⟩
  else if byte = 91 then ⟨.list [] :: frames, .value .firstItem⟩
  else if byte = 123 then ⟨.name [] :: frames, .value .firstName⟩
  else if byte = 110 then ⟨frames, .word nullTail .null .null⟩
  else if byte = 116 then ⟨frames, .word trueTail .other (.bool true)⟩
  else if byte = 102 then ⟨frames, .word falseTail .other (.bool false)⟩
  else match Literal.open? byte with
    | some (stage, literal) => ⟨frames, .number stage literal⟩
    | none => fail frames .other (.both .expectedValue)

def beginValue (frames : List Frame) (place : Place) (byte : UInt8) : Scan :=
  match place with
  | .item => openValue frames byte
  | .firstItem => if byte = 93 then closeFrame frames else openValue frames byte
  | .nextItem =>
      if byte = 93 then failEnding frames ⟨.trailingComma, .expectedValue⟩
      else openValue frames byte
  | .firstName => if byte = 125 then closeFrame frames else openValue frames byte
  | .nextName =>
      if byte = 125 then failEnding frames ⟨.trailingComma, .nameNotText⟩
      else openValue frames byte

def afterValue (frames : List Frame) (byte : UInt8) : Scan :=
  match frames with
  | .list _ :: _ =>
      if byte = 44 then ⟨frames, .value .nextItem⟩
      else if byte = 93 then closeFrame frames
      else failEnding frames (.both .expectedCommaInList)
  | _ =>
      if byte = 44 then ⟨frames, .value .nextName⟩
      else if byte = 125 then closeFrame frames
      else failEnding frames (.both .expectedCommaInObject)

def between (scan : Scan) (byte : UInt8) : Scan :=
  if isBlank byte then scan
  else match scan.next with
    | .value place => beginValue scan.frames place byte
    | .colon =>
        if byte = 58 then ⟨scan.frames, .value .item⟩
        else fail scan.frames .nothing (.both .expectedColon)
    | .comma => afterValue scan.frames byte
    | .finished root _ => ⟨scan.frames, .finished root true⟩
    | _ => scan

def inText (frames : List Frame) (scanned : QuotedText) (byte : UInt8) : TextStage → Scan
  | .plain =>
      if byte = 34 then complete frames (.text scanned.settle.value)
      else if byte = 92 then ⟨frames, .text .escape scanned⟩
      else if byte < 32 then fail frames .text (scanned.settle.fault .controlCharacter)
      else ⟨frames, .text .plain (scanned.settle.push [byte])⟩
  | .escape =>
      if byte = 117 then ⟨frames, .text (.digits []) scanned⟩
      else match QuotedText.escaped? byte with
        | some octet => ⟨frames, .text .plain (scanned.settle.push [octet])⟩
        | none => fail frames .text (scanned.settle.fault .invalidEscape)
  | .digits seen =>
      if seen.length < 3 then ⟨frames, .text (.digits (seen ++ [byte])) scanned⟩
      else match (seen ++ [byte]).mapM Bytes.hexValue? with
        | some values =>
            let unit := values.foldl (fun total value => total * 16 + value) 0
            ⟨frames, .text .plain (scanned.pushUnit unit)⟩
        | none => fail frames .text (scanned.fault .invalidEscape)

def inNumber (frames : List Frame) (stage : Literal.Stage) (literal : Literal) (byte : UInt8) :
    Scan :=
  match literal.advance stage byte with
  | .more stage literal => ⟨frames, .number stage literal⟩
  | .ended => between (complete frames (.number literal.value?)) byte
  | .refused => fail frames .other (.both .invalidNumber)

def inWord (frames : List Frame) (opening : Opening) (result : Document) (byte : UInt8) :
    Bytes → Scan
  | [] => between (complete frames result) byte
  | [last] =>
      if byte = last then complete frames result
      else fail frames opening (.both .expectedWord)
  | first :: left =>
      if byte = first then ⟨frames, .word left opening result⟩
      else fail frames opening (.both .expectedWord)

def step (scan : Scan) (byte : UInt8) : Scan :=
  match scan.next with
  | .word left opening result => inWord scan.frames opening result byte left
  | .number stage literal => inNumber scan.frames stage literal byte
  | .text stage scanned => inText scan.frames scanned byte stage
  | _ => between scan byte

def finishBetween (scan : Scan) : Scan :=
  match scan.next with
  | .value .item => fail scan.frames .nothing (.both .endInValue)
  | .value .nextItem => fail scan.frames .nothing (.both .endInValue)
  | .value .firstItem => failEnding scan.frames (.both .endInList)
  | .value .firstName => failEnding scan.frames (.both .endInObject)
  | .value .nextName => failEnding scan.frames ⟨.endInValue, .endInObject⟩
  | .colon => fail scan.frames .nothing (.both .endInObject)
  | .comma =>
      match scan.frames with
      | .list _ :: _ => failEnding scan.frames (.both .endInList)
      | _ => failEnding scan.frames (.both .endInObject)
  | _ => scan

def finish (scan : Scan) : Scan :=
  match scan.next with
  | .word _ opening _ => fail scan.frames opening (.both .endInValue)
  | .number stage literal =>
      if stage.complete then finishBetween (complete scan.frames (.number literal.value?))
      else fail scan.frames .other ⟨.endInValue, .invalidNumber⟩
  | .text _ scanned => fail scan.frames .text (scanned.fault .endInText)
  | _ => finishBetween scan

end Scan

/-- A scanned text: its document, and whether more than blanks follow it. -/
structure Scanned where
  root : Document
  trailing : Bool

def Scanned.ofBytes (bytes : Bytes) : Scanned :=
  match (Scan.finish (bytes.foldl Scan.step Scan.start)).next with
  | .finished root trailing => ⟨root, trailing⟩
  | _ => ⟨.broken .nothing (.both .endInValue), false⟩

def Scanned.readWith (scanned : Scanned) (reader : Document → Except Problem α) :
    Except Problem α := do
  let value ← reader scanned.root
  if scanned.trailing then .error .trailingCharacters else .ok value

namespace Json

/-- How many lists and objects may stand inside each other in a value that is read. -/
def depthLimit : Nat := 127

def decodeWithin (depth : Nat) (bytes : Bytes) : Except Problem Json :=
  (Scanned.ofBytes bytes).readWith (Document.toJson depth)

def decode (bytes : Bytes) : Except Problem Json := decodeWithin depthLimit bytes

end Json

end Jose
