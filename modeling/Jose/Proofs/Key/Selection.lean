import Jose.Proofs.Key.Resolution
import Mathlib.Logic.Relation

/-!
Which key of a set is used. With an id it is the first key that has the id, so that no key with
another id matters; without an id it is the only key. What is made of a key comes afterwards, and
concerns the chosen key alone.
-/

namespace Jose

namespace JwkSet

def IsFirst (keyId : String) (keys : List Jwk) (key : Jwk) : Prop :=
  key.kid = some keyId ∧
    ∃ before after, keys = before ++ key :: after ∧ ∀ other ∈ before, other.kid ≠ some keyId

theorem IsFirst.mem {keyId : String} {keys : List Jwk} {key : Jwk}
    (first : IsFirst keyId keys key) : key ∈ keys := by
  obtain ⟨_, before, after, rfl, _⟩ := first
  simp

variable {set : JwkSet} {keyId : String}

theorem select_eq_ok_iff {key : Jwk} :
    set.select (some keyId) = .ok key ↔ IsFirst keyId set.keys key := by
  have found : set.select (some keyId) = .ok key ↔
      set.keys.find? (fun key => key.kid == some keyId) = some key := by
    simp only [select]
    split
    · next first first? => simp [first?]
    · next none? => simp [none?]
  rw [found, List.find?_eq_some_iff_append, IsFirst]
  simp

theorem select_unmatched (unmatched : ∀ key ∈ set.keys, key.kid ≠ some keyId) :
    set.select (some keyId) = .error (.keyNotFound keyId) := by
  have none : (set.keys.find? fun key => key.kid == some keyId) = none := by
    rw [List.find?_eq_none]
    intro key member same
    exact unmatched key member (by simpa using same)
  simp only [select, none]

theorem select_only {key : Jwk} (only : set.keys = [key]) : set.select none = .ok key := by
  simp only [select, only]

theorem select_ambiguous (several : 1 < set.keys.length) :
    set.select none = .error (.keyNotFound unsetKeyId) := by
  obtain ⟨keys⟩ := set
  match keys, several with
  | first :: second :: rest, _ => rfl

theorem select_unclear (unclear : set.keys.length ≠ 1) :
    ∃ error, set.select none = .error error := by
  by_cases several : 1 < set.keys.length
  · exact ⟨_, select_ambiguous several⟩
  · have empty : set.keys = [] := List.length_eq_zero_iff.mp (by omega)
    exact ⟨.invalidKey "JWK set is empty", by simp only [select, empty]⟩

/-- One change to a row of keys that leaves the first key with an id where it is found: a key with
another id comes, goes, gives way to another such key or changes places with a neighbour, or one
more key with the id follows the first. -/
inductive Edit (keyId : String) : List Jwk → List Jwk → Prop
  | added (before after : List Jwk) {other : Jwk} : other.kid ≠ some keyId →
      Edit keyId (before ++ after) (before ++ other :: after)
  | removed (before after : List Jwk) {other : Jwk} : other.kid ≠ some keyId →
      Edit keyId (before ++ other :: after) (before ++ after)
  | replaced (before after : List Jwk) {other another : Jwk} : other.kid ≠ some keyId →
      another.kid ≠ some keyId →
      Edit keyId (before ++ other :: after) (before ++ another :: after)
  | movedBack (before after : List Jwk) {key other : Jwk} : other.kid ≠ some keyId →
      Edit keyId (before ++ other :: key :: after) (before ++ key :: other :: after)
  | movedUp (before after : List Jwk) {key other : Jwk} : other.kid ≠ some keyId →
      Edit keyId (before ++ key :: other :: after) (before ++ other :: key :: after)
  | repeated (before after : List Jwk) {key other : Jwk} : key ∈ before →
      key.kid = some keyId → other.kid = some keyId →
      Edit keyId (before ++ after) (before ++ other :: after)

theorem Edit.find?_eq {left right : List Jwk} (edit : Edit keyId left right) :
    left.find? (fun key => key.kid == some keyId) =
      right.find? (fun key => key.kid == some keyId) := by
  cases edit with
  | added before after different => simp [List.find?_append, different]
  | removed before after different => simp [List.find?_append, different]
  | replaced before after different differentToo =>
      simp [List.find?_append, different, differentToo]
  | movedBack before after different => simp [List.find?_append, List.find?_cons, different]
  | movedUp before after different => simp [List.find?_append, List.find?_cons, different]
  | repeated before after inside same sameToo =>
      have found : (before.find? fun key => key.kid == some keyId).isSome := by
        rw [List.find?_isSome]
        exact ⟨_, inside, by simp [same]⟩
      obtain ⟨first, found⟩ := Option.isSome_iff_exists.mp found
      simp [List.find?_append, found]

theorem find?_edited {left right : List Jwk}
    (edits : Relation.ReflTransGen (Edit keyId) left right) :
    left.find? (fun key => key.kid == some keyId) =
      right.find? (fun key => key.kid == some keyId) := by
  induction edits with
  | refl => rfl
  | tail _ edit ih => exact ih.trans edit.find?_eq

theorem select_edited {left right : JwkSet}
    (edits : Relation.ReflTransGen (Edit keyId) left.keys right.keys) :
    left.select (some keyId) = right.select (some keyId) := by
  simp only [select, find?_edited edits]

end JwkSet

structure KeyConfig.HoldsSet (key : KeyConfig) (source : KeySource) (set : JwkSet) : Prop where
  available : key.available = true
  format : key.format = .jwk
  stored : ∃ location material, key.location = some location ∧
    source.answer location = .done material ∧ JwkSet.ofBytes material = .ok set

namespace KeyReader

variable {κ : Type} {reader : KeyReader κ} {source : KeySource} {set : JwkSet}

theorem read_jwk {material : Bytes} (keyId : Option String)
    (decoded : JwkSet.ofBytes material = .ok set) :
    reader.read .jwk keyId material = (set.select keyId).bind reader.ofJwk := by
  simp only [read, decoded]
  rfl

theorem outcome_resolve_jwk {role : KeyRole} {config : Config} {requested : Option String}
    (holds : (config.key role).HoldsSet source set) :
    (reader.resolve source (.ofConfig role requested config)).outcome =
      .ofExcept (((set.select (requested.or (config.key role).keyId)).bind reader.ofJwk).map
        .key) := by
  obtain ⟨location, material, present, answered, decoded⟩ := holds.stored
  have target : (KeySpec.ofConfig role requested config).target = .ok location :=
    KeySpec.target_eq_ok_iff.mpr ⟨holds.available, present⟩
  have read : reader.read (KeySpec.ofConfig role requested config).format
      (KeySpec.ofConfig role requested config).keyId material =
        (set.select (requested.or (config.key role).keyId)).bind reader.ofJwk := by
    have format : (KeySpec.ofConfig role requested config).format = .jwk := holds.format
    rw [format, read_jwk _ decoded]
    rfl
  cases made : (set.select (requested.or (config.key role).keyId)).bind reader.ofJwk with
  | error error => rw [resolve_unusable target answered (read.trans made)]; rfl
  | ok key => rw [resolve_usable target answered (read.trans made)]; rfl

/-- A key that was resolved by an id is made of the first key of the set with that id. -/
theorem resolve_named (role : KeyRole) {config : Config} {requested : Option String}
    {keyId : String} {key : κ} (format : (config.key role).format = .jwk)
    (wanted : requested.or (config.key role).keyId = some keyId)
    (resolved : (reader.resolve source (.ofConfig role requested config)).outcome =
      .done (.key key)) :
    ∃ set first, (config.key role).HoldsSet source set ∧
      JwkSet.IsFirst keyId set.keys first ∧ reader.ofJwk first = .ok key := by
  rcases resolve_eq_done_iff.mp resolved with
    ⟨_, _, absent⟩ | ⟨location, material, found, target, answered, read, same⟩
  · contradiction
  · injection same with same
    subst same
    obtain ⟨available, present⟩ := KeySpec.target_eq_ok_iff.mp target
    have jwk : (KeySpec.ofConfig role requested config).format = .jwk := format
    have named : (KeySpec.ofConfig role requested config).keyId = some keyId := wanted
    rw [jwk, named] at read
    cases decoded : JwkSet.ofBytes material with
    | error error =>
        simp only [KeyReader.read, decoded] at read
        contradiction
    | ok set =>
        rw [read_jwk _ decoded] at read
        cases selected : set.select (some keyId) with
        | error error =>
            rw [selected] at read
            contradiction
        | ok first =>
            rw [selected] at read
            exact ⟨set, first, ⟨available, format, location, material, present, answered, decoded⟩,
              JwkSet.select_eq_ok_iff.mp selected, read⟩

end KeyReader

end Jose
