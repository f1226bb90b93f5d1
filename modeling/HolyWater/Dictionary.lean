/-
Dictionaries.

Foundation's dictionary is a finite map.  It has no order of its own: whoever
enumerates it meets the keys in some order, in which every key occurs once.

* `insertAll` — setting entries one after the other;
* `enumerate` — the entries met in an enumeration, converted on the way;
* `EnumeratedBy.lookup_insertAll` — a dictionary copied entry by entry has the
  lookups of the original, whatever the order;
* `isPart_insertAll_take` — copied half way, it is a part of the copy.
-/
import Mathlib.Data.Finmap

namespace HolyWater

/-- A dictionary with string keys. -/
abbrev NSDictionary (β : Type) := Finmap fun _ : String => β

namespace NSDictionary

variable {β : Type}

/-- `keys` is an order in which the dictionary may be enumerated. -/
def EnumeratedBy (dict : NSDictionary β) (keys : List String) : Prop :=
  keys.Nodup ∧ ∀ key, key ∈ keys ↔ key ∈ dict

/-- All entries of `dict` are entries of `dict'`. -/
def IsPart (dict dict' : NSDictionary β) : Prop :=
  ∀ key value, dict.lookup key = some value → dict'.lookup key = some value

theorem IsPart.refl (dict : NSDictionary β) : dict.IsPart dict := fun _ _ h => h

theorem isPart_empty (dict : NSDictionary β) : IsPart ∅ dict := by
  intro key value h
  rw [Finmap.lookup_empty] at h
  exact absurd h (by simp)

/-- Set the entries one after the other. -/
def insertAll (dict : NSDictionary β) (entries : List (String × β)) : NSDictionary β :=
  entries.foldl (fun dict entry => dict.insert entry.1 entry.2) dict

@[simp] theorem insertAll_nil (dict : NSDictionary β) : dict.insertAll [] = dict := rfl

@[simp] theorem insertAll_cons (dict : NSDictionary β) (entry : String × β)
    (entries : List (String × β)) :
    dict.insertAll (entry :: entries) =
      NSDictionary.insertAll (dict.insert entry.1 entry.2) entries := rfl

theorem lookup_insertAll_of_notMem {dict : NSDictionary β} {entries : List (String × β)}
    {key : String} (h : key ∉ entries.map Prod.fst) :
    (dict.insertAll entries).lookup key = dict.lookup key := by
  induction entries generalizing dict with
  | nil => rfl
  | cons entry entries ih =>
    rw [List.map_cons, List.mem_cons, not_or] at h
    rw [insertAll_cons, ih h.2, Finmap.lookup_insert_of_ne _ h.1]

theorem lookup_insertAll_of_mem {dict : NSDictionary β} {entries : List (String × β)}
    (hnodup : (entries.map Prod.fst).Nodup) {key : String} {value : β}
    (h : (key, value) ∈ entries) : (dict.insertAll entries).lookup key = some value := by
  induction entries generalizing dict with
  | nil => exact absurd h (by simp)
  | cons entry entries ih =>
    rw [List.map_cons, List.nodup_cons] at hnodup
    rw [insertAll_cons]
    rcases List.mem_cons.mp h with rfl | hmem
    · rw [lookup_insertAll_of_notMem hnodup.1, Finmap.lookup_insert]
    · exact ih hnodup.2 hmem

theorem mem_of_lookup_insertAll {entries : List (String × β)} {key : String} {value : β}
    {dict : NSDictionary β} (h : (dict.insertAll entries).lookup key = some value) :
    dict.lookup key = some value ∨ (key, value) ∈ entries := by
  induction entries generalizing dict with
  | nil => exact .inl h
  | cons entry entries ih =>
    rcases ih h with hdict | hmem
    · by_cases hkey : key = entry.1
      · subst hkey
        rw [Finmap.lookup_insert, Option.some_inj] at hdict
        subst hdict
        exact .inr List.mem_cons_self
      · rw [Finmap.lookup_insert_of_ne _ hkey] at hdict
        exact .inl hdict
    · exact .inr (List.mem_cons_of_mem _ hmem)

/-- Half of the entries make a part of the dictionary. -/
theorem isPart_insertAll_take {entries : List (String × β)} (h : (entries.map Prod.fst).Nodup)
    (n : ℕ) : IsPart (insertAll ∅ (entries.take n)) (insertAll ∅ entries) := by
  intro key value hlookup
  rcases mem_of_lookup_insertAll hlookup with hempty | hmem
  · rw [Finmap.lookup_empty] at hempty
    exact absurd hempty (by simp)
  · exact lookup_insertAll_of_mem h (List.mem_of_mem_take hmem)

/-- The entries of the dictionary in the order `keys`, as far as they can be
converted. -/
def enumerate {γ : Type} (dict : NSDictionary β) (convert : β → Option γ) (keys : List String) :
    List (String × γ) :=
  keys.filterMap fun key => (dict.lookup key).bind fun value => (convert value).map (key, ·)

theorem mem_enumerate {γ : Type} {dict : NSDictionary β} {convert : β → Option γ}
    {keys : List String} {key : String} {value : γ} :
    (key, value) ∈ dict.enumerate convert keys ↔
      key ∈ keys ∧ ∃ old, dict.lookup key = some old ∧ convert old = some value := by
  simp only [enumerate, List.mem_filterMap, Option.bind_eq_some_iff, Option.map_eq_some_iff,
    Prod.mk.injEq]
  constructor
  · rintro ⟨k, hk, old, hold, w, hw, rfl, rfl⟩
    exact ⟨hk, old, hold, hw⟩
  · rintro ⟨hk, old, hold, hw⟩
    exact ⟨key, hk, old, hold, value, hw, rfl, rfl⟩

theorem keys_enumerate_sublist {γ : Type} (dict : NSDictionary β) (convert : β → Option γ)
    (keys : List String) : ((dict.enumerate convert keys).map Prod.fst).Sublist keys := by
  induction keys with
  | nil => exact List.Sublist.slnil
  | cons key keys ih =>
    rw [enumerate, List.filterMap_cons]
    split
    · exact ih.cons key
    · rename_i entry hentry
      obtain ⟨old, _, hmap⟩ := Option.bind_eq_some_iff.mp hentry
      obtain ⟨w, _, rfl⟩ := Option.map_eq_some_iff.mp hmap
      exact ih.cons_cons key

theorem EnumeratedBy.nodup_enumerate {γ : Type} {dict : NSDictionary β} {keys : List String}
    (h : dict.EnumeratedBy keys) (convert : β → Option γ) :
    ((dict.enumerate convert keys).map Prod.fst).Nodup :=
  h.1.sublist (keys_enumerate_sublist dict convert keys)

/-- **Copying a dictionary entry by entry** gives the same lookups, whatever the
order of the enumeration. -/
theorem EnumeratedBy.lookup_insertAll {γ : Type} {dict : NSDictionary β} {keys : List String}
    (h : dict.EnumeratedBy keys) (convert : β → Option γ) (key : String) :
    (insertAll ∅ (dict.enumerate convert keys)).lookup key = (dict.lookup key).bind convert := by
  refine Option.ext fun value => ?_
  constructor
  · intro hlookup
    rcases mem_of_lookup_insertAll hlookup with hempty | hmem
    · rw [Finmap.lookup_empty] at hempty
      exact absurd hempty (by simp)
    · obtain ⟨-, old, hold, hconvert⟩ := mem_enumerate.mp hmem
      rw [hold, Option.bind_some, hconvert]
  · intro hbind
    obtain ⟨old, hold, hconvert⟩ := Option.bind_eq_some_iff.mp hbind
    have hkey : key ∈ keys := (h.2 key).mpr (Finmap.mem_of_lookup_eq_some hold)
    exact lookup_insertAll_of_mem (h.nodup_enumerate convert)
      (mem_enumerate.mpr ⟨hkey, old, hold, hconvert⟩)

end NSDictionary

end HolyWater
