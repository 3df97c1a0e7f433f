import Jose.Key.Source
import Jose.Proofs.Answer
import Jose.Proofs.Token

/-!
Where the locations below a base folder lead. A path is brought into its plain form, without empty
parts and dots, and with the ways up in front of it. A location stays below its base exactly if it
does not climb out of it, or comes back by the names that it has left.
-/

namespace Jose

inductive PlainPath where
  | rooted (names : FilePlace)
  | relative (up : Nat) (names : FilePlace)
  deriving DecidableEq, Repr

namespace PlainPath

def parent : PlainPath → PlainPath
  | rooted names => rooted names.dropLast
  | relative up [] => relative (up + 1) []
  | relative up (name :: names) => relative up (name :: names).dropLast

def below (names : FilePlace) : PlainPath → PlainPath
  | rooted held => rooted (held ++ names)
  | relative up held => relative up (held ++ names)

def step (path : PlainPath) (part : String) : PlainPath :=
  if part = "" ∨ part = "." then path
  else if part = ".." then path.parent
  else path.below [part]

def follow (parts : List String) (path : PlainPath) : PlainPath := parts.foldl step path

def start (chars : List Char) : PlainPath :=
  if chars.head? = some '/' then rooted [] else relative 0 []

def ofString (path : String) : PlainPath :=
  (start path.toList).follow (Files.components path)

def ofLocation (location : String) : PlainPath :=
  ofString (String.ofList (location.toList.dropWhile (· = '/')))

inductive IsBelow : PlainPath → PlainPath → Prop
  | rooted (base names : FilePlace) : IsBelow (rooted base) (rooted (base ++ names))
  | relative (up : Nat) (base names : FilePlace) :
      IsBelow (relative up base) (relative up (base ++ names))

def climb : Nat → PlainPath → PlainPath
  | 0, path => path
  | up + 1, path => (path.climb up).parent

def attach (base : PlainPath) : PlainPath → PlainPath
  | rooted names => rooted names
  | relative up names => (base.climb up).below names

/-- A relative path leaves no more than the names of a base, and comes back by those it leaves. -/
def Readmits : PlainPath → PlainPath → Prop
  | rooted held, relative up names => held.drop (held.length - up) <+: names
  | relative _ held, relative up names =>
      up ≤ held.length ∧ held.drop (held.length - up) <+: names
  | _, rooted _ => False

section Steps

@[simp] theorem below_nil (path : PlainPath) : path.below [] = path := by
  cases path <;> simp [below]

theorem below_append (path : PlainPath) (names more : FilePlace) :
    path.below (names ++ more) = (path.below names).below more := by
  cases path <;> simp [below]

theorem parent_relative {names : FilePlace} (some : names ≠ []) (up : Nat) :
    (relative up names).parent = relative up names.dropLast := by
  obtain ⟨first, rest, rfl⟩ := List.exists_cons_of_ne_nil some
  rfl

theorem parent_below {names : FilePlace} (some : names ≠ []) (path : PlainPath) :
    (path.below names).parent = path.below names.dropLast := by
  cases path with
  | rooted held => rw [below, parent, List.dropLast_append_of_ne_nil some, below]
  | relative up held =>
      rw [below, parent_relative (List.append_ne_nil_of_right_ne_nil held some),
        List.dropLast_append_of_ne_nil some, below]

theorem attach_parent (base path : PlainPath) :
    (base.attach path).parent = base.attach path.parent := by
  cases path with
  | rooted names => rfl
  | relative up names =>
      cases names with
      | nil => simp [attach, parent, climb]
      | cons name names => exact parent_below (by simp) _

theorem attach_step (base path : PlainPath) (part : String) :
    base.attach (path.step part) = (base.attach path).step part := by
  simp only [step]
  split
  · rfl
  · split
    · exact (attach_parent base path).symm
    · cases path with
      | rooted names => rfl
      | relative up names => exact below_append _ names [part]

/-- To go on from a base is to go on from the working folder, seen from the base. -/
theorem attach_follow (base path : PlainPath) (parts : List String) :
    base.attach (path.follow parts) = (base.attach path).follow parts := by
  induction parts generalizing path with
  | nil => rfl
  | cons part rest ih =>
      have next := ih (path.step part)
      rwa [attach_step] at next

theorem follow_eq_attach (base : PlainPath) (parts : List String) :
    base.follow parts = base.attach ((relative 0 []).follow parts) := by
  rw [attach_follow, attach, climb, below_nil]

theorem follow_append (path : PlainPath) (parts more : List String) :
    path.follow (parts ++ more) = (path.follow parts).follow more := List.foldl_append

theorem step_relative (up : Nat) (names : FilePlace) (part : String) :
    ∃ next left, (relative up names).step part = relative next left := by
  simp only [step]
  split
  · exact ⟨_, _, rfl⟩
  · split
    · cases names <;> exact ⟨_, _, rfl⟩
    · exact ⟨_, _, rfl⟩

theorem follow_relative (up : Nat) (names : FilePlace) (parts : List String) :
    ∃ next left, (relative up names).follow parts = relative next left := by
  induction parts generalizing up names with
  | nil => exact ⟨up, names, rfl⟩
  | cons part rest ih =>
      obtain ⟨next, left, stepped⟩ := step_relative up names part
      obtain ⟨last, found, followed⟩ := ih next left
      exact ⟨last, found, (congrArg (follow rest) stepped).trans followed⟩

/-- Only a part of two dots leads up. -/
theorem follow_downward {parts : List String} (downward : ".." ∉ parts) (up : Nat)
    (names : FilePlace) : ∃ more, (relative up names).follow parts = relative up (names ++ more) := by
  induction parts generalizing names with
  | nil => exact ⟨[], by simp [follow]⟩
  | cons part rest ih =>
      simp only [List.mem_cons, not_or] at downward
      by_cases void : part = "" ∨ part = "."
      · obtain ⟨more, followed⟩ := ih downward.2 names
        refine ⟨more, ?_⟩
        rw [← followed, follow, List.foldl_cons, step, if_pos void]
        rfl
      · obtain ⟨more, followed⟩ := ih downward.2 (names ++ [part])
        refine ⟨part :: more, ?_⟩
        rw [follow, List.foldl_cons, step, if_neg void, if_neg (Ne.symm downward.1)]
        refine Eq.trans followed ?_
        simp

end Steps

section Below

theorem dropLast_take_sub (held : FilePlace) (up : Nat) :
    (held.take (held.length - up)).dropLast = held.take (held.length - (up + 1)) := by
  rw [List.dropLast_eq_take, List.take_take, List.length_take]
  congr 1
  omega

theorem climb_rooted (up : Nat) (held : FilePlace) :
    (rooted held).climb up = rooted (held.take (held.length - up)) := by
  induction up with
  | zero => simp [climb]
  | succ up ih => rw [climb, ih, parent, dropLast_take_sub]

theorem climb_relative (up above : Nat) (held : FilePlace) :
    (relative above held).climb up =
      relative (above + (up - held.length)) (held.take (held.length - up)) := by
  induction up with
  | zero => simp [climb]
  | succ up ih =>
      rw [climb, ih]
      by_cases inside : up < held.length
      · have some : held.take (held.length - up) ≠ [] := by
          rw [← List.length_pos_iff, List.length_take]
          omega
        rw [parent_relative some, dropLast_take_sub]
        congr 1
        omega
      · have none : held.length - up = 0 := by omega
        have noneThen : held.length - (up + 1) = 0 := by omega
        rw [none, noneThen, List.take_zero, parent]
        congr 1
        omega

theorem isBelow_rooted_iff {held names : FilePlace} :
    (rooted held).IsBelow (rooted names) ↔ held <+: names := by
  constructor
  · rintro ⟨⟩
    exact List.prefix_append _ _
  · rintro ⟨more, rfl⟩
    exact .rooted held more

theorem isBelow_relative_iff {up next : Nat} {held names : FilePlace} :
    (relative up held).IsBelow (relative next names) ↔ up = next ∧ held <+: names := by
  constructor
  · rintro ⟨⟩
    exact ⟨rfl, List.prefix_append _ _⟩
  · rintro ⟨rfl, more, rfl⟩
    exact .relative up held more

theorem prefix_take_append_iff {held names : FilePlace} (kept : Nat) :
    held <+: held.take kept ++ names ↔ held.drop kept <+: names := by
  calc held <+: held.take kept ++ names
      ↔ held.take kept ++ held.drop kept <+: held.take kept ++ names := by
        rw [List.take_append_drop]
    _ ↔ held.drop kept <+: names := List.prefix_append_right_inj _

/-- What lies below a base, seen from it. -/
theorem isBelow_attach_iff (base : PlainPath) (up : Nat) (names : FilePlace) :
    base.IsBelow (base.attach (relative up names)) ↔ base.Readmits (relative up names) := by
  cases base with
  | rooted held =>
      rw [attach, climb_rooted, below, isBelow_rooted_iff, prefix_take_append_iff]
      rfl
  | relative above held =>
      have level : above = above + (up - held.length) ↔ up ≤ held.length := by omega
      rw [attach, climb_relative, below, isBelow_relative_iff, prefix_take_append_iff, level]
      rfl

theorem readmits_downward (base : PlainPath) (names : FilePlace) :
    base.Readmits (relative 0 names) := by
  cases base <;> simp [Readmits]

end Below

section Join

def ofChars (chars : List Char) : PlainPath :=
  (start chars).follow ((Text.pieces '/' chars).map String.ofList)

theorem ofString_eq (path : String) : ofString path = ofChars path.toList := rfl

theorem ofChars_slash (chars rest : List Char) :
    ofChars (chars ++ '/' :: rest) = (ofChars (chars ++ ['/'])).follow
      ((Text.pieces '/' rest).map String.ofList) := by
  have same : start (chars ++ '/' :: rest) = start (chars ++ ['/']) := by
    cases chars <;> rfl
  rw [ofChars, ofChars, Text.pieces_append, Text.pieces_append, List.map_append, List.map_append,
    follow_append, follow_append, same]
  rfl

theorem ofChars_closed {chars : List Char} (some : chars ≠ []) :
    ofChars (chars ++ ['/']) = ofChars chars := by
  obtain ⟨first, rest, rfl⟩ := List.exists_cons_of_ne_nil some
  rw [ofChars, Text.pieces_append, List.map_append, follow_append]
  rfl

theorem head?_dropWhile_slash (chars : List Char) :
    (chars.dropWhile (· = '/')).head? ≠ some '/' := by
  intro first
  have kept := List.head?_dropWhile_not (fun char => decide (char = '/')) chars
  rw [first] at kept
  simp at kept

theorem ofLocation_eq (location : String) :
    ofLocation location = (relative 0 []).follow ((Text.pieces '/'
      (location.toList.dropWhile (· = '/'))).map String.ofList) := by
  rw [ofLocation, ofString_eq, String.toList_ofList, ofChars, start,
    if_neg (head?_dropWhile_slash _)]

theorem ofLocation_relative (location : String) :
    ∃ up names, ofLocation location = relative up names := by
  rw [ofLocation_eq]
  exact follow_relative 0 [] _

theorem ofString_join (base location : String) :
    ofString (Files.join base location) = (ofString base).attach (ofLocation location) := by
  rw [ofLocation_eq, ← follow_eq_attach, ofString_eq, ofString_eq]
  by_cases void : base = ""
  · subst void
    have joined : (Files.join "" location).toList = location.toList.dropWhile (· = '/') := by
      simp [Files.join]
    rw [joined, ofChars, start, if_neg (head?_dropWhile_slash _)]
    rfl
  · by_cases closed : base.toList.getLast? = some '/'
    · obtain ⟨stem, ends⟩ := List.getLast?_eq_some_iff.mp closed
      have joined : (Files.join base location).toList =
          stem ++ '/' :: location.toList.dropWhile (· = '/') := by
        simp [Files.join, ends]
      rw [joined, ends, ofChars_slash]
    · have joined : (Files.join base location).toList =
          base.toList ++ '/' :: location.toList.dropWhile (· = '/') := by
        simp [Files.join, void, closed]
      have some : base.toList ≠ [] := by simpa using void
      rw [joined, ofChars_slash, ofChars_closed some]

end Join

section Walk

inductive LeadsTo (files : Files) : PlainPath → Files.Spot → Prop
  | inside (folder : FilePlace) : LeadsTo files (relative 0 folder) (.inside folder)
  | outside {path : PlainPath} : (∀ folder, path ≠ relative 0 folder) →
      LeadsTo files path .outside
  | file {place : FilePlace} {bytes : Bytes} : files.contents.lookup place = some bytes →
      LeadsTo files (relative 0 place) (.file bytes)

variable {files : Files}

theorem parent_outside {path : PlainPath} (outside : ∀ folder, path ≠ relative 0 folder) :
    ∀ folder, path.parent ≠ relative 0 folder := by
  intro folder same
  cases path with
  | rooted names => contradiction
  | relative up names =>
      cases names with
      | nil => simp [parent] at same
      | cons name names =>
          injection same with ground
          exact outside (name :: names) (ground ▸ rfl)

theorem leadsTo_start (chars : List Char) : LeadsTo files (start chars)
    (if chars.head? = some '/' then .outside else .inside []) := by
  rw [start]
  split
  · exact .outside fun _ => nofun
  · exact .inside []

theorem leadsTo_parent (folder : FilePlace) : LeadsTo files (relative 0 folder).parent
    (if folder = [] then .outside else .inside folder.dropLast) := by
  split
  · next ground =>
      subst ground
      exact .outside fun _ => nofun
  · next some =>
      rw [parent_relative some]
      exact .inside folder.dropLast

theorem LeadsTo.walkPart {path : PlainPath} {spot next : Files.Spot} {part : String}
    (leads : LeadsTo files path spot) (walked : files.walkPart spot part = .ok next) :
    LeadsTo files (path.step part) next := by
  cases leads with
  | inside folder =>
      simp only [Files.walkPart] at walked
      by_cases void : part = "" ∨ part = "."
      · rw [if_pos void] at walked
        injection walked with same
        rw [step, if_pos void]
        exact same ▸ .inside folder
      · rw [if_neg void] at walked
        rw [step, if_neg void]
        by_cases dots : part = ".."
        · rw [if_pos dots] at walked ⊢
          injection walked with same
          exact same ▸ leadsTo_parent folder
        · rw [if_neg dots] at walked ⊢
          split at walked
          · contradiction
          · split at walked
            · next bytes stored =>
                injection walked with same
                exact same ▸ .file stored
            · split at walked
              · injection walked with same
                exact same ▸ .inside (folder ++ [part])
              · contradiction
  | @outside path outside =>
      simp only [Files.walkPart] at walked
      split at walked
      · next dotted =>
          injection walked with same
          refine same ▸ .outside ?_
          by_cases void : part = "" ∨ part = "."
          · rwa [step, if_pos void]
          · have dots : part = ".." := (or_assoc.mpr dotted).resolve_left void
            rw [step, if_neg void, if_pos dots]
            exact parent_outside outside
      · split at walked <;> contradiction
  | file stored => contradiction

theorem LeadsTo.walk {path : PlainPath} {spot last : Files.Spot} {parts : List String}
    (leads : LeadsTo files path spot) (walked : files.walk spot parts = .ok last) :
    LeadsTo files (path.follow parts) last := by
  induction parts generalizing path spot with
  | nil =>
      injection walked with same
      exact same ▸ leads
  | cons part rest ih =>
      obtain ⟨next, first, later⟩ := bind_eq_ok_iff.mp walked
      exact ih (leads.walkPart first) later

/-- What is read is the file whose place is the plain form of the path. -/
theorem lookup_of_read {path : String} {bytes : Bytes} (read : files.read path = .ok bytes) :
    ∃ place, ofString path = relative 0 place ∧ files.contents.lookup place = some bytes := by
  simp only [Files.read] at read
  split at read
  · contradiction
  · split at read
    · contradiction
    · split at read
      · contradiction
      · split at read
        · contradiction
        · next found walked =>
            injection read with same
            subst same
            have leads : LeadsTo files (ofString path) (.file found) :=
              (leadsTo_start path.toList).walk walked
            generalize ofString path = plain at leads ⊢
            cases leads with
            | file stored => exact ⟨_, rfl, stored⟩
        · contradiction

end Walk

end PlainPath

namespace KeySource

structure ResolvesFrom (base : String) (files : Files) (location : String) : Prop where
  opened : (ofFiles (some base) files).paths location = [Files.join base location]
  unslashed : ∀ slashes : List Char, (∀ char ∈ slashes, char = '/') →
    Files.join base (String.ofList slashes ++ location) = Files.join base location
  attached : PlainPath.ofString (Files.join base location) =
    (PlainPath.ofString base).attach (.ofLocation location)
  below_iff : (PlainPath.ofString base).IsBelow (.ofString (Files.join base location)) ↔
    (PlainPath.ofString base).Readmits (.ofLocation location)
  downward : ".." ∉ Files.components location →
    (PlainPath.ofString base).IsBelow (.ofString (Files.join base location))
  stored : ∀ bytes, (ofFiles (some base) files).answer location = .done bytes →
    ∃ place, PlainPath.ofString (Files.join base location) = .relative 0 place ∧
      files.contents.lookup place = some bytes

theorem join_unslashed (base location : String) {slashes : List Char}
    (only : ∀ char ∈ slashes, char = '/') :
    Files.join base (String.ofList slashes ++ location) = Files.join base location := by
  have below : (String.ofList slashes ++ location).toList.dropWhile (· = '/') =
      location.toList.dropWhile (· = '/') := by
    rw [String.toList_append, String.toList_ofList]
    exact List.dropWhile_append_of_pos fun char inside => decide_eq_true (only char inside)
  rw [Files.join, below, ← Files.join]

theorem ofLocation_downward {location : String} (downward : ".." ∉ Files.components location) :
    ∃ names, PlainPath.ofLocation location = .relative 0 names := by
  rw [PlainPath.ofLocation_eq]
  refine (PlainPath.follow_downward ?_ 0 []).imp fun _ followed => followed
  intro inside
  obtain ⟨piece, among, dots⟩ := List.mem_map.mp inside
  exact downward (List.mem_map.mpr ⟨piece, Text.mem_pieces_of_dropWhile among, dots⟩)

theorem lookup_of_answer {base location : String} {files : Files} {bytes : Bytes}
    (answered : (ofFiles (some base) files).answer location = .done bytes) :
    ∃ place, PlainPath.ofString (Files.join base location) = .relative 0 place ∧
      files.contents.lookup place = some bytes := by
  cases read : files.read (Files.join base location) with
  | error problem => simp [ofFiles, pathOf, read] at answered
  | ok found =>
      obtain rfl : found = bytes := by simpa [ofFiles, pathOf, read] using answered
      exact PlainPath.lookup_of_read read

/-- The path that is opened for a location lies below the base folder exactly if the base readmits
the location, and so whenever no part of the location leads up; what is read is the file in the
place that the path comes to. -/
theorem resolvesFrom (base : String) (files : Files) (location : String) :
    ResolvesFrom base files location := by
  have attached := PlainPath.ofString_join base location
  have iff : (PlainPath.ofString base).IsBelow (.ofString (Files.join base location)) ↔
      (PlainPath.ofString base).Readmits (.ofLocation location) := by
    obtain ⟨up, names, plain⟩ := PlainPath.ofLocation_relative location
    rw [attached, plain]
    exact PlainPath.isBelow_attach_iff _ up names
  refine ⟨rfl, fun slashes only => join_unslashed base location only, attached, iff, ?_,
    fun bytes => lookup_of_answer⟩
  intro downward
  obtain ⟨names, plain⟩ := ofLocation_downward downward
  rw [iff, plain]
  exact PlainPath.readmits_downward _ names

def besideKeys : Files :=
  (Files.empty.write "keys/own.pem" [111]).write "other.pem" [112]

theorem resolvesFrom_besideKeys :
    ".." ∉ Files.components "//./own.pem" ∧
      (PlainPath.ofString "keys").IsBelow (.ofString (Files.join "keys" "//./own.pem")) ∧
      (ofFiles (some "keys") besideKeys).answer "../keys//own.pem" = .done [111] ∧
      (PlainPath.ofString "keys").IsBelow (.ofString (Files.join "keys" "../keys//own.pem")) := by
  have downward : ".." ∉ Files.components "//./own.pem" := by decide
  refine ⟨downward, (resolvesFrom "keys" besideKeys _).downward downward, rfl, ?_⟩
  rw [(resolvesFrom "keys" besideKeys "../keys//own.pem").below_iff]
  exact ⟨by decide, by decide⟩

/-- A location that leads up out of the base folder is opened and read there. -/
theorem not_confined :
    (ofFiles (some "keys") besideKeys).paths "../other.pem" = ["keys/../other.pem"] ∧
      ¬ (PlainPath.ofString "keys").IsBelow (.ofString "keys/../other.pem") ∧
      (ofFiles (some "keys") besideKeys).answer "../other.pem" = .done [112] := by
  refine ⟨rfl, ?_, rfl⟩
  have outside : PlainPath.ofString "keys/../other.pem" = .relative 0 ["other.pem"] := rfl
  have base : PlainPath.ofString "keys" = .relative 0 ["keys"] := rfl
  rw [outside, base, PlainPath.isBelow_relative_iff]
  decide

end KeySource

end Jose
