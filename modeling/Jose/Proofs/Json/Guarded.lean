import Jose.Proofs.Guarded
import Jose.Proofs.Json.Scan

/-!
JSON read with every operation that can crash. A waiting surrogate makes a code with its partner,
which must stand for a character. A counter of the lists and objects that may still open is lowered
at each of them, and reading goes down as far as the counter lets it.
-/

namespace Jose

namespace QuotedText

def IsSound (scanned : QuotedText) : Prop :=
  ∀ unit, scanned.leading = some unit → isLeading unit = true

def pushCodeGuarded (scanned : QuotedText) (code : Nat) : Guarded Problem QuotedText :=
  if code.isValidChar then pure (scanned.pushCode code) else .crash

def pushUnitGuarded (scanned : QuotedText) (unit : Nat) : Guarded Problem QuotedText :=
  match scanned.leading with
  | some leading =>
      if isTrailing unit then do
        let high ← Guarded.sub leading 0xD800
        let low ← Guarded.sub unit 0xDC00
        scanned.pushCodeGuarded (high * 0x400 + low + 0x10000)
      else pure (scanned.note .loneSurrogate)
  | none =>
      if isTrailing unit then pure (scanned.note .loneSurrogate)
      else if isLeading unit then pure { scanned with leading := some unit }
      else scanned.pushCodeGuarded unit

theorem isSound_of_none {scanned : QuotedText} (alone : scanned.leading = none) :
    scanned.IsSound := by
  intro unit waiting
  rw [alone] at waiting
  contradiction

theorem settle_leading (scanned : QuotedText) : scanned.settle.leading = none := by
  rw [settle]
  split
  · assumption
  · rfl

theorem settle_push_isSound (scanned : QuotedText) (octets : Bytes) :
    (scanned.settle.push octets).IsSound :=
  isSound_of_none (settle_leading scanned)

theorem pushCodeGuarded_eq {code : Nat} (valid : code.isValidChar) (scanned : QuotedText) :
    scanned.pushCodeGuarded code = pure (scanned.pushCode code) := if_pos valid

/-- The code of two surrogates lies beyond the first plane and within the last one. -/
theorem pushUnitGuarded_eq {scanned : QuotedText} (sound : scanned.IsSound) {unit : Nat}
    (short : unit < 0x10000) : scanned.pushUnitGuarded unit = pure (scanned.pushUnit unit) := by
  rw [pushUnitGuarded, pushUnit]
  cases waiting : scanned.leading with
  | some leading =>
      have first := sound leading waiting
      simp only [isLeading, Bool.and_eq_true, decide_eq_true_eq] at first
      by_cases trailing : isTrailing unit = true
      · have second := trailing
        simp only [isTrailing, Bool.and_eq_true, decide_eq_true_eq] at second
        have valid : ((leading - 0xD800) * 0x400 + (unit - 0xDC00) + 0x10000).isValidChar := by
          simp only [Nat.isValidChar]
          omega
        simp only [if_pos trailing]
        rw [Guarded.sub_of_le first.1, Guarded.ok_bind, Guarded.sub_of_le second.1,
          Guarded.ok_bind, pushCodeGuarded_eq valid]
      · simp only [if_neg trailing]
  | none =>
      by_cases trailing : isTrailing unit = true
      · simp only [trailing, if_true]
      · by_cases leading : isLeading unit = true
        · simp only [if_neg trailing, leading, if_true]
        · have valid : unit.isValidChar := by
            simp only [isTrailing, Bool.and_eq_true, decide_eq_true_eq] at trailing
            simp only [isLeading, Bool.and_eq_true, decide_eq_true_eq] at leading
            simp only [Nat.isValidChar]
            omega
          simp only [if_neg trailing, if_neg leading, pushCodeGuarded_eq valid]

theorem pushUnit_isSound {scanned : QuotedText} (unit : Nat) :
    (scanned.pushUnit unit).IsSound := by
  rw [pushUnit]
  split
  · split
    · exact isSound_of_none rfl
    · exact isSound_of_none rfl
  · split
    · exact isSound_of_none rfl
    · split
      · next leading =>
          intro other same
          injection same with same
          rw [← same]
          exact leading
      · exact isSound_of_none rfl

end QuotedText

section Escapes

theorem Bytes.hexValue?_lt {byte : UInt8} {value : Nat} (found : hexValue? byte = some value) :
    value < 16 := by
  simp only [hexValue?, UInt8.le_iff_toNat_le, UInt8.reduceToNat] at found
  split at found
  · injection found with same
    omega
  · split at found
    · injection found with same
      omega
    · split at found
      · injection found with same
        omega
      · contradiction

theorem Bytes.mapM_hexValue? {octets : Bytes} {values : List Nat}
    (read : octets.mapM hexValue? = some values) :
    values.length = octets.length ∧ ∀ value ∈ values, value < 16 := by
  induction octets generalizing values with
  | nil =>
      simp only [List.mapM_nil, Option.pure_def, Option.some.injEq] at read
      subst read
      simp
  | cons octet rest ih =>
      simp only [List.mapM_cons, Option.pure_def, Option.bind_eq_bind, Option.bind_eq_some_iff,
        Option.some.injEq] at read
      obtain ⟨value, first, others, later, rfl⟩ := read
      obtain ⟨length, small⟩ := ih later
      exact ⟨by simp [length], by simpa using ⟨hexValue?_lt first, small⟩⟩

/-- Digits of base sixteen after a number that others before made. -/
theorem foldl_digits_lt {digits : List Nat} (small : ∀ digit ∈ digits, digit < 16) (before : Nat) :
    digits.foldl (fun total digit => total * 16 + digit) before <
      (before + 1) * Nat.pow 16 digits.length := by
  induction digits generalizing before with
  | nil => simp
  | cons digit rest ih =>
      have first : digit < 16 := small digit List.mem_cons_self
      have later := ih (fun other member => small other (List.mem_cons_of_mem _ member))
        (before * 16 + digit)
      calc (digit :: rest).foldl (fun total digit => total * 16 + digit) before
          < (before * 16 + digit + 1) * Nat.pow 16 rest.length := later
        _ ≤ ((before + 1) * 16) * Nat.pow 16 rest.length := Nat.mul_le_mul_right _ (by omega)
        _ = (before + 1) * Nat.pow 16 (rest.length + 1) := by
          rw [Nat.mul_assoc, Nat.mul_comm 16]
          rfl

/-- Four digits make a unit of sixteen bits. -/
theorem Bytes.escapedUnit_lt {octets : Bytes} (short : octets.length ≤ 4) {values : List Nat}
    (read : octets.mapM hexValue? = some values) :
    values.foldl (fun total value => total * 16 + value) 0 < 0x10000 := by
  obtain ⟨length, small⟩ := mapM_hexValue? read
  calc values.foldl (fun total value => total * 16 + value) 0
      < (0 + 1) * Nat.pow 16 values.length := foldl_digits_lt small 0
    _ ≤ (0 + 1) * Nat.pow 16 4 :=
      Nat.mul_le_mul_left _ (Nat.pow_le_pow_right (by decide) (by omega))
    _ = 0x10000 := by decide

end Escapes

namespace Scan

def stepGuarded (scan : Scan) (byte : UInt8) : Guarded Problem Scan :=
  match scan.next with
  | .text (.digits seen) scanned =>
      if seen.length < 3 then pure ⟨scan.frames, .text (.digits (seen ++ [byte])) scanned⟩
      else match (seen ++ [byte]).mapM Bytes.hexValue? with
        | some values => do
            let unit := values.foldl (fun total value => total * 16 + value) 0
            let pushed ← scanned.pushUnitGuarded unit
            return ⟨scan.frames, .text .plain pushed⟩
        | none => pure (fail scan.frames .text (scanned.fault .invalidEscape))
  | _ => pure (scan.step byte)

def runGuarded (scan : Scan) : Bytes → Guarded Problem Scan
  | [] => pure scan
  | byte :: rest => do
      let next ← scan.stepGuarded byte
      runGuarded next rest

def Expectation.IsSound : Expectation → Prop
  | .text (.digits seen) scanned => scanned.IsSound ∧ seen.length ≤ 3
  | .text _ scanned => scanned.IsSound
  | _ => True

theorem Expectation.IsBetween.isSound {next : Expectation} (between : IsBetween next) :
    IsSound next := by
  cases next with
  | text => exact between.elim
  | _ => trivial

section Sound

variable (frames : List Frame)

theorem complete_isSound (document : Document) :
    Expectation.IsSound (complete frames document).next :=
  (complete_isBetween frames document).isSound

theorem failEnding_isSound (fault : Fault) :
    Expectation.IsSound (failEnding frames fault).next := by
  unfold failEnding
  split <;> trivial

theorem closeFrame_isSound : Expectation.IsSound (closeFrame frames).next := by
  unfold closeFrame
  split
  · exact complete_isSound _ _
  · exact complete_isSound _ _
  · trivial

theorem openValue_isSound (byte : UInt8) :
    Expectation.IsSound (openValue frames byte).next := by
  unfold openValue
  split
  · exact QuotedText.isSound_of_none rfl
  · repeat' split
    all_goals trivial

theorem beginValue_isSound (place : Place) (byte : UInt8) :
    Expectation.IsSound (beginValue frames place byte).next := by
  have opened := openValue_isSound frames byte
  have closed := closeFrame_isSound frames
  cases place with
  | item => exact opened
  | firstItem =>
      rw [beginValue]
      split <;> assumption
  | nextItem =>
      rw [beginValue]
      split
      · exact failEnding_isSound frames _
      · exact opened
  | firstName =>
      rw [beginValue]
      split <;> assumption
  | nextName =>
      rw [beginValue]
      split
      · exact failEnding_isSound frames _
      · exact opened

theorem afterValue_isSound (byte : UInt8) :
    Expectation.IsSound (afterValue frames byte).next := by
  unfold afterValue
  split
  · split
    · trivial
    · split
      · exact closeFrame_isSound _
      · exact failEnding_isSound _ _
  · split
    · trivial
    · split
      · exact closeFrame_isSound _
      · exact failEnding_isSound _ _

end Sound

theorem between_isSound {scan : Scan} (sound : Expectation.IsSound scan.next) (byte : UInt8) :
    Expectation.IsSound (scan.between byte).next := by
  rw [between]
  split
  · exact sound
  · split
    · exact beginValue_isSound _ _ _
    · split <;> trivial
    · exact afterValue_isSound _ _
    · trivial
    · exact sound

theorem inNumber_isSound (frames : List Frame) (stage : Literal.Stage) (literal : Literal)
    (byte : UInt8) : Expectation.IsSound (inNumber frames stage literal byte).next := by
  rw [inNumber]
  split
  · trivial
  · exact between_isSound (complete_isSound _ _) byte
  · trivial

theorem inWord_isSound (frames : List Frame) (opening : Opening) (result : Document) (byte : UInt8)
    (left : Bytes) : Expectation.IsSound (inWord frames opening result byte left).next := by
  rw [inWord.eq_def]
  split
  · exact between_isSound (complete_isSound _ _) byte
  · split
    · exact complete_isSound _ _
    · trivial
  · split <;> trivial

/-- A surrogate only waits while escapes follow each other. -/
theorem inText_isSound {frames : List Frame} {scanned : QuotedText} {stage : TextStage}
    (sound : Expectation.IsSound (.text stage scanned)) (byte : UInt8) :
    Expectation.IsSound (inText frames scanned byte stage).next := by
  cases stage with
  | plain =>
      rw [inText]
      split
      · exact complete_isSound _ _
      · split
        · exact sound
        · split
          · trivial
          · exact QuotedText.settle_push_isSound _ _
  | escape =>
      rw [inText]
      split
      · exact ⟨sound, Nat.zero_le _⟩
      · split
        · exact QuotedText.settle_push_isSound _ _
        · trivial
  | digits seen =>
      rw [inText]
      split
      · next few => exact ⟨sound.1, by rw [List.length_append, List.length_singleton]; omega⟩
      · split
        · exact QuotedText.pushUnit_isSound _
        · trivial

theorem step_isSound {scan : Scan} (sound : Expectation.IsSound scan.next) (byte : UInt8) :
    Expectation.IsSound (scan.step byte).next := by
  rw [step]
  split
  · exact inWord_isSound _ _ _ _ _
  · exact inNumber_isSound _ _ _ _
  · next text => exact inText_isSound (by rwa [text] at sound) byte
  · exact between_isSound sound byte

theorem stepGuarded_eq {scan : Scan} (sound : Expectation.IsSound scan.next) (byte : UInt8) :
    scan.stepGuarded byte = pure (scan.step byte) := by
  rw [stepGuarded]
  split
  · next seen scanned escape =>
      rw [escape] at sound
      obtain ⟨sound, short⟩ := sound
      simp only [step, escape, inText]
      by_cases few : seen.length < 3
      · simp only [if_pos few]
      · simp only [if_neg few]
        cases read : (seen ++ [byte]).mapM Bytes.hexValue? with
        | none => rfl
        | some values =>
            have within : (seen ++ [byte]).length ≤ 4 := by
              rw [List.length_append, List.length_singleton]
              omega
            simp only [QuotedText.pushUnitGuarded_eq sound (Bytes.escapedUnit_lt within read)]
            rfl
  · rfl

theorem runGuarded_eq {scan : Scan} (sound : Expectation.IsSound scan.next) (bytes : Bytes) :
    scan.runGuarded bytes = pure (scan.run bytes) := by
  induction bytes generalizing scan with
  | nil => rfl
  | cons byte rest ih =>
      rw [runGuarded, stepGuarded_eq sound]
      exact ih (step_isSound sound byte)

def Expectation.IsFinished (next : Expectation) : Prop :=
  ∃ root trailing, next = .finished root trailing

theorem failEnding_isFinished (frames : List Frame) (fault : Fault) :
    Expectation.IsFinished (failEnding frames fault).next := by
  unfold failEnding
  split <;> exact ⟨_, _, rfl⟩

theorem finishBetween_isFinished {scan : Scan} (between : Expectation.IsBetween scan.next) :
    Expectation.IsFinished scan.finishBetween.next := by
  obtain ⟨frames, next⟩ := scan
  cases next with
  | value place =>
      cases place with
      | item => exact ⟨_, _, rfl⟩
      | nextItem => exact ⟨_, _, rfl⟩
      | _ => exact failEnding_isFinished _ _
  | colon => exact ⟨_, _, rfl⟩
  | comma =>
      simp only [finishBetween]
      split
      · exact failEnding_isFinished _ _
      · exact failEnding_isFinished _ _
  | finished root trailing => exact ⟨_, _, rfl⟩
  | _ => exact between.elim

theorem finish_isFinished (scan : Scan) : Expectation.IsFinished scan.finish.next := by
  obtain ⟨frames, next⟩ := scan
  cases next with
  | word left opening result => exact ⟨_, _, rfl⟩
  | number stage literal =>
      simp only [finish]
      split
      · exact finishBetween_isFinished (complete_isBetween _ _)
      · exact ⟨_, _, rfl⟩
  | text stage scanned => exact ⟨_, _, rfl⟩
  | value place => exact finishBetween_isFinished (by trivial)
  | colon => exact finishBetween_isFinished (by trivial)
  | comma => exact finishBetween_isFinished (by trivial)
  | finished root trailing => exact finishBetween_isFinished (by trivial)

end Scan

def Scanned.ofBytesGuarded (bytes : Bytes) : Guarded Problem Scanned := do
  let scan ← Scan.start.runGuarded bytes
  match scan.finish.next with
  | .finished root trailing => return ⟨root, trailing⟩
  | _ => .crash

theorem Scanned.ofBytesGuarded_eq (bytes : Bytes) :
    ofBytesGuarded bytes = pure (ofBytes bytes) := by
  have start : Scan.Expectation.IsSound Scan.start.next := trivial
  obtain ⟨root, trailing, finished⟩ := Scan.finish_isFinished (Scan.start.run bytes)
  rw [ofBytesGuarded, Scan.runGuarded_eq start, ofBytes, ← Scan.run]
  simp only [pure, Guarded.ok_bind, finished]

namespace Document

mutual

/-- Reads a value where `remaining` counts the lists and objects that may still open, the last of
which is refused. -/
def toJsonGuarded (remaining : Nat) : Document → Guarded Problem Json
  | .list items ending => do
      let inner ← Guarded.sub remaining 1
      if inner = 0 then .fail .tooDeep
      else do
        let values ← toItemsGuarded inner items
        .answer (refuse (ending.map Fault.read))
        return .list values
  | .object members ending => do
      let inner ← Guarded.sub remaining 1
      if inner = 0 then .fail .tooDeep
      else do
        let values ← toMembersGuarded inner [] members
        .answer (refuse (ending.map Fault.read))
        return .object values
  | document => .answer (toJson 0 document)

def toItemsGuarded (remaining : Nat) : List Document → Guarded Problem (List Json)
  | [] => pure []
  | item :: rest => do
      let value ← toJsonGuarded remaining item
      let values ← toItemsGuarded remaining rest
      return value :: values

def toMembersGuarded (remaining : Nat) (before : Members Json) :
    List (Document × Document) → Guarded Problem (Members Json)
  | [] => pure before
  | (key, item) :: rest => do
      let label ← .answer key.name
      let value ← toJsonGuarded remaining item
      toMembersGuarded remaining (before.put label value) rest

end

mutual

theorem toJsonGuarded_eq : (limit : Nat) → (document : Document) →
    toJsonGuarded (limit + 1) document = .answer (toJson limit document)
  | _, .null => rfl
  | _, .bool _ => rfl
  | _, .number (some _) => rfl
  | _, .number none => rfl
  | _, .text (.ok _) => rfl
  | _, .text (.error _) => rfl
  | _, .broken _ _ => rfl
  | 0, .list _ _ => by
      rw [toJsonGuarded, Guarded.sub_one]
      rfl
  | 0, .object _ _ => by
      rw [toJsonGuarded, Guarded.sub_one]
      rfl
  | inner + 1, .list items ending => by
      rw [toJsonGuarded, Guarded.sub_one, Guarded.ok_bind,
        if_neg (Nat.succ_ne_zero _), toItemsGuarded_eq inner items]
      apply Guarded.answer_bind
      intro values _
      exact Guarded.answer_bind fun _ _ => rfl
  | inner + 1, .object members ending => by
      rw [toJsonGuarded, Guarded.sub_one, Guarded.ok_bind,
        if_neg (Nat.succ_ne_zero _), toMembersGuarded_eq inner [] members]
      apply Guarded.answer_bind
      intro values _
      exact Guarded.answer_bind fun _ _ => rfl

theorem toItemsGuarded_eq : (limit : Nat) → (items : List Document) →
    toItemsGuarded (limit + 1) items = .answer (toItems limit items)
  | _, [] => rfl
  | limit, item :: rest => by
      rw [toItemsGuarded, toJsonGuarded_eq limit item, toItemsGuarded_eq limit rest]
      apply Guarded.answer_bind
      intro value _
      exact Guarded.answer_bind fun _ _ => rfl

theorem toMembersGuarded_eq : (limit : Nat) → (before : Members Json) →
    (members : List (Document × Document)) →
    toMembersGuarded (limit + 1) before members = .answer (toMembers limit before members)
  | _, _, [] => rfl
  | limit, before, (key, item) :: rest => by
      rw [toMembersGuarded, toJsonGuarded_eq limit item]
      apply Guarded.answer_bind
      intro label _
      apply Guarded.answer_bind
      intro value _
      exact toMembersGuarded_eq limit (before.put label value) rest

end

end Document

namespace Json

def decodeGuarded (bytes : Bytes) : Guarded Problem Json := do
  let scanned ← Scanned.ofBytesGuarded bytes
  let value ← Document.toJsonGuarded 128 scanned.root
  if scanned.trailing then .fail .trailingCharacters else return value

theorem decodeGuarded_eq (bytes : Bytes) : decodeGuarded bytes = .answer (decode bytes) := by
  rw [decodeGuarded, Scanned.ofBytesGuarded_eq]
  change (Document.toJsonGuarded (depthLimit + 1) _ >>= _) = _
  rw [Document.toJsonGuarded_eq]
  apply Guarded.answer_bind
  intro value _
  split <;> rfl

end Json

end Jose
