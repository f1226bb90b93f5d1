/-
JSON values, dynamic casts and keyed decoding.

`Json` is the value tree a JSON parser hands out.  On it are defined the dynamic
casts (`asDictionary`, `asDictionaries`, `asInts`) and the decoding of typed
records (`decodeInt`, `decodeString`, `field`, `keyed`, `decodeArray`), each
with a lemma that says exactly which values it accepts:

* `asDictionaries_eq_some_iff` — a cast to a list of dictionaries succeeds
  exactly on the arrays of objects;
* `asInts_eq_some_iff` — a cast to a list of integers succeeds exactly on the
  arrays of values that stand for 64-bit integers;
* `decodeInt_eq_ok_iff`, `decodeString_eq_ok_iff`, `field_eq_ok_iff` — what a
  field of a declared type holds;
* `decodeArray_keyed_eq_ok_iff` — an array of objects decodes all or nothing,
  element by element and in order.

`JSONServices` stands for the parser and the serialiser themselves; all that is
assumed of them is that a serialised member of a parsed object reads back.

Design note: a number carries its exact value, so a declared integer accepts a
number that is integral and fits into 64 bits, however it was written.
-/
import Mathlib.Algebra.Group.Int.Defs
import Mathlib.Data.Rat.Defs
import Mathlib.Data.List.Forall2

/-- A JSON value. -/
inductive Json where
  | null
  | bool (b : Bool)
  | number (q : ℚ)
  | string (s : String)
  | array (elements : List Json)
  | object (members : List (String × Json))

namespace Json

/-- The members of an object, looked up by key. -/
abbrev Dictionary := List (String × Json)

/-- `n` is a value of a 64-bit signed integer. -/
def IsInt64 (n : Int) : Prop := -2 ^ 63 ≤ n ∧ n < 2 ^ 63

instance (n : Int) : Decidable (IsInt64 n) := inferInstanceAs (Decidable (_ ∧ _))

/-! ### Dynamic casts -/

/-- The cast to a dictionary. -/
def asDictionary : Json → Option Dictionary
  | object members => some members
  | _ => none

/-- The cast to a list of dictionaries: one element that is no object makes the
whole cast fail. -/
def asDictionaries : Json → Option (List Dictionary)
  | array elements => elements.mapM asDictionary
  | _ => none

/-- The cast to an integer.  A boolean is bridged as the number it stands for. -/
def asInt : Json → Option Int
  | number q => if q.den = 1 ∧ IsInt64 q.num then some q.num else none
  | bool b => some (if b then 1 else 0)
  | _ => none

/-- The cast to a list of integers. -/
def asInts : Json → Option (List Int)
  | array elements => elements.mapM asInt
  | _ => none

theorem asDictionary_eq_some_iff {v : Json} {m : Dictionary} :
    v.asDictionary = some m ↔ v = object m := by
  cases v <;> simp [asDictionary]

theorem mapM_eq_some_iff {α β : Type} {f : α → Option β} {xs : List α} {ys : List β} :
    xs.mapM f = some ys ↔ List.Forall₂ (fun x y => f x = some y) xs ys := by
  induction xs generalizing ys with
  | nil => cases ys <;> simp
  | cons x xs ih =>
    simp only [List.mapM_cons, Option.bind_eq_bind, Option.bind_eq_some_iff,
      Option.pure_def, Option.some_inj, ih]
    constructor
    · rintro ⟨y, hy, ys', hys', rfl⟩
      exact .cons hy hys'
    · rintro (_ | ⟨hy, hys⟩)
      exact ⟨_, hy, _, hys, rfl⟩

theorem mapM_asDictionary_eq_some_iff {vs : List Json} {ms : List Dictionary} :
    vs.mapM asDictionary = some ms ↔ vs = ms.map object := by
  simp only [mapM_eq_some_iff, asDictionary_eq_some_iff]
  rw [← List.forall₂_map_right_iff (R := fun v w => v = w), List.forall₂_eq_eq_eq]

theorem asDictionaries_eq_some_iff {v : Json} {ms : List Dictionary} :
    v.asDictionaries = some ms ↔ v = array (ms.map object) := by
  cases v <;> simp [asDictionaries, mapM_asDictionary_eq_some_iff]

/-- `v` is the 64-bit integer `n`, or a boolean bridged to it. -/
inductive StandsForInt : Json → Int → Prop
  | number {n : Int} (h : IsInt64 n) : StandsForInt (number n) n
  | bool (b : Bool) : StandsForInt (bool b) (if b then 1 else 0)

/-- The test on a number, in terms of the integer it yields. -/
theorem integral_iff {q : ℚ} {n : Int} :
    (q.den = 1 ∧ IsInt64 q.num) ∧ q.num = n ↔ q = n ∧ IsInt64 n := by
  constructor
  · rintro ⟨⟨hden, hnum⟩, rfl⟩
    exact ⟨Rat.ext rfl (by simpa using hden), hnum⟩
  · rintro ⟨rfl, hn⟩
    exact ⟨⟨Rat.den_intCast n, hn⟩, Rat.num_intCast n⟩

theorem asInt_eq_some_iff {v : Json} {n : Int} : v.asInt = some n ↔ StandsForInt v n := by
  constructor
  · intro h
    cases v with
    | number q =>
      rw [asInt, Option.ite_none_right_eq_some, Option.some_inj] at h
      obtain ⟨rfl, hn⟩ := integral_iff.mp h
      exact .number hn
    | bool b =>
      obtain rfl : (if b then 1 else 0) = n := by simpa [asInt] using h
      exact .bool b
    | _ => simp [asInt] at h
  · rintro (hn | b)
    · rw [asInt, Option.ite_none_right_eq_some, Option.some_inj]
      exact integral_iff.mpr ⟨rfl, hn⟩
    · rfl

theorem asInts_eq_some_iff {v : Json} {ns : List Int} :
    v.asInts = some ns ↔ ∃ vs, v = array vs ∧ List.Forall₂ StandsForInt vs ns := by
  cases v <;> simp [asInts, mapM_eq_some_iff, asInt_eq_some_iff]

/-! ### Typed decoding -/

/-- Why a value does not decode as the declared type. -/
inductive DecodingError where
  | keyNotFound (key : String)
  | valueNotFound
  | typeMismatch
  | dataCorrupted
  deriving DecidableEq, Repr

/-- Decode a declared integer. -/
def decodeInt : Json → Except DecodingError Int
  | number q => if q.den = 1 ∧ IsInt64 q.num then .ok q.num else .error .dataCorrupted
  | null => .error .valueNotFound
  | _ => .error .typeMismatch

/-- Decode a declared string. -/
def decodeString : Json → Except DecodingError String
  | string s => .ok s
  | null => .error .valueNotFound
  | _ => .error .typeMismatch

variable {α β : Type}

/-- Decode the value under `key`. -/
def field (m : Dictionary) (key : String) (decode : Json → Except DecodingError α) :
    Except DecodingError α :=
  match m.lookup key with
  | some v => decode v
  | none => .error (.keyNotFound key)

/-- Decode a value that has to be an object, by its members. -/
def keyed (decode : Dictionary → Except DecodingError α) : Json → Except DecodingError α
  | object members => decode members
  | null => .error .valueNotFound
  | _ => .error .typeMismatch

/-- Decode a value that has to be an array, element by element; the first
element that does not decode makes the whole array fail. -/
def decodeArray (decode : Json → Except DecodingError α) : Json → Except DecodingError (List α)
  | array elements => elements.mapM decode
  | null => .error .valueNotFound
  | _ => .error .typeMismatch

/-- Under `key` the dictionary holds the integer `n`. -/
def HoldsInt (m : Dictionary) (key : String) (n : Int) : Prop :=
  m.lookup key = some (number n) ∧ IsInt64 n

/-- Under `key` the dictionary holds the string `s`. -/
def HoldsString (m : Dictionary) (key : String) (s : String) : Prop :=
  m.lookup key = some (string s)

theorem bind_eq_ok_iff {ε : Type} {x : Except ε α} {f : α → Except ε β} {b : β} :
    x >>= f = .ok b ↔ ∃ a, x = .ok a ∧ f a = .ok b := by
  cases x with
  | error e => simp [bind, Except.bind]
  | ok a => simp [bind, Except.bind]

theorem decodeInt_eq_ok_iff {v : Json} {n : Int} :
    decodeInt v = .ok n ↔ v = number n ∧ IsInt64 n := by
  cases v with
  | number q =>
    rw [number.injEq, ← integral_iff, decodeInt]
    by_cases hq : q.den = 1 ∧ IsInt64 q.num
    · simp [hq]
    · simp [hq]
  | _ => simp [decodeInt]

theorem decodeString_eq_ok_iff {v : Json} {s : String} :
    decodeString v = .ok s ↔ v = string s := by
  cases v <;> simp [decodeString]

theorem field_eq_ok_iff {m : Dictionary} {key : String}
    {decode : Json → Except DecodingError α} {x : α} :
    field m key decode = .ok x ↔ ∃ v, m.lookup key = some v ∧ decode v = .ok x := by
  cases h : m.lookup key <;> simp [field, h]

theorem field_int_eq_ok_iff {m : Dictionary} {key : String} {n : Int} :
    field m key decodeInt = .ok n ↔ HoldsInt m key n := by
  simp only [field_eq_ok_iff, decodeInt_eq_ok_iff, HoldsInt]
  constructor
  · rintro ⟨v, hv, rfl, hn⟩
    exact ⟨hv, hn⟩
  · rintro ⟨hv, hn⟩
    exact ⟨_, hv, rfl, hn⟩

theorem field_string_eq_ok_iff {m : Dictionary} {key : String} {s : String} :
    field m key decodeString = .ok s ↔ HoldsString m key s := by
  simp only [field_eq_ok_iff, decodeString_eq_ok_iff, HoldsString]
  simp

theorem mapM_eq_ok_iff {decode : Json → Except DecodingError α} {vs : List Json} {xs : List α} :
    vs.mapM decode = .ok xs ↔ List.Forall₂ (fun v x => decode v = .ok x) vs xs := by
  induction vs generalizing xs with
  | nil => cases xs <;> simp [pure, Except.pure]
  | cons v vs ih =>
    simp only [List.mapM_cons, bind_eq_ok_iff, ih]
    constructor
    · rintro ⟨x, hx, xs', hxs', h⟩
      obtain rfl : x :: xs' = xs := by simpa [pure, Except.pure] using h
      exact .cons hx hxs'
    · rintro (_ | ⟨hx, hxs⟩)
      exact ⟨_, hx, _, hxs, rfl⟩

/-- An array of objects decodes to `xs` exactly when its members decode to the
records of `xs`, one by one and in order. -/
theorem decodeArray_keyed_eq_ok_iff {decode : Dictionary → Except DecodingError α}
    {ms : List Dictionary} {xs : List α} :
    decodeArray (keyed decode) (array (ms.map object)) = .ok xs
      ↔ List.Forall₂ (fun m x => decode m = .ok x) ms xs := by
  rw [decodeArray, mapM_eq_ok_iff, List.forall₂_map_left_iff]
  rfl

end Json

/-! ### Parser and serialiser -/

/-- What can go wrong between a text and the records decoded from it. -/
inductive JSONError where
  | malformed
  | notSerialisable
  | decoding (e : Json.DecodingError)
  deriving DecidableEq, Repr

/-- A JSON parser and serialiser, with what is relied on. -/
structure JSONServices where
  /-- Serialised JSON, as the decoder receives it. -/
  Serialised : Type
  /-- Parse a text; `none` when it is malformed. -/
  jsonObject : ByteArray → Option Json
  /-- Serialise a value; `none` when that fails. -/
  data : Json → Option Serialised
  /-- The value the decoder finds in serialised JSON. -/
  read : Serialised → Option Json
  /-- A member of a parsed object reads back once serialised. -/
  read_data : ∀ bytes members key value, jsonObject bytes = some (.object members) →
    members.lookup key = some value → (data value).bind read = some value

namespace JSONServices

/-- Services around a given parser, with a serialiser that keeps the value. -/
def ofParser (jsonObject : ByteArray → Option Json) : JSONServices where
  Serialised := Json
  jsonObject := jsonObject
  data := some
  read := some
  read_data _ _ _ _ _ _ := rfl

/-- Services whose parser knows one text, and takes any other for malformed. -/
def exactOn (text : String) (json : Json) : JSONServices :=
  ofParser fun bytes => if bytes.data = text.toUTF8.data then some json else none

@[simp] theorem exactOn_jsonObject (text : String) (json : Json) :
    (exactOn text json).jsonObject text.toUTF8 = some json :=
  if_pos rfl

variable {α : Type} (S : JSONServices)

/-- Serialise a list of dictionaries and decode it as a list of records. -/
def decodeList (decode : Json.Dictionary → Except Json.DecodingError α)
    (array : List Json.Dictionary) : Except JSONError (List α) :=
  match S.data (.array (array.map .object)) with
  | none => .error .notSerialisable
  | some data =>
    match S.read data with
    | none => .error .malformed
    | some json => (Json.decodeArray (Json.keyed decode) json).mapError .decoding

/-- For the array found under a key of a parsed object, the round through the
serialiser is invisible: its records are those of its members. -/
theorem decodeList_eq_ok_iff {decode : Json.Dictionary → Except Json.DecodingError α}
    {bytes : ByteArray} {top : Json.Dictionary} {key : String} {ms : List Json.Dictionary}
    {xs : List α} (hparse : S.jsonObject bytes = some (.object top))
    (hlookup : top.lookup key = some (.array (ms.map .object))) :
    S.decodeList decode ms = .ok xs ↔ List.Forall₂ (fun m x => decode m = .ok x) ms xs := by
  obtain ⟨data, hdata, hread⟩ := Option.bind_eq_some_iff.mp
    (S.read_data bytes top key _ hparse hlookup)
  rw [decodeList, hdata]
  simp only [hread, ← Json.decodeArray_keyed_eq_ok_iff]
  cases Json.decodeArray (Json.keyed decode) (.array (ms.map .object)) <;> simp [Except.mapError]

end JSONServices
