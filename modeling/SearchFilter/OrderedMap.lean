/-!
# Maps in the order of their keys

Maps keep the order in which their keys first came in. A map is the list of its entries; a key that
is put again keeps its place.

* `get?_put`: what a map holds after an entry was put into it.
* `keys_put`: the keys stay, and a new one comes last.
-/

namespace SearchFilter

/-- A list of entries, read as a map by its first entry for each key. -/
abbrev OrderedMap (κ ν : Type) := List (κ × ν)

namespace OrderedMap

variable {κ ν : Type}

/-- The keys of a map, in order. -/
def keys (map : OrderedMap κ ν) : List κ := map.map Prod.fst

@[simp] theorem keys_nil : keys ([] : OrderedMap κ ν) = [] := rfl

@[simp] theorem keys_cons (entry : κ × ν) (map : OrderedMap κ ν) :
    keys (entry :: map) = entry.1 :: keys map := rfl

variable [DecidableEq κ]

/-- The value under a key. -/
def get? (map : OrderedMap κ ν) (key : κ) : Option ν :=
  match map with
  | [] => none
  | (k, value) :: rest => if k = key then some value else get? rest key

/-- Whether a map has a key. -/
def has (map : OrderedMap κ ν) (key : κ) : Bool := (get? map key).isSome

/-- A map with a value under a key: in place of the old value, or behind all entries. -/
def put (map : OrderedMap κ ν) (key : κ) (value : ν) : OrderedMap κ ν :=
  match map with
  | [] => [(key, value)]
  | (k, old) :: rest => if k = key then (k, value) :: rest else (k, old) :: put rest key value

/-- A map without a key. -/
def remove (map : OrderedMap κ ν) (key : κ) : OrderedMap κ ν :=
  map.filter fun entry => entry.1 ≠ key

@[simp] theorem get?_nil (key : κ) : get? ([] : OrderedMap κ ν) key = none := rfl

theorem get?_put (map : OrderedMap κ ν) (key : κ) (value : ν) (k : κ) :
    get? (put map key value) k = if k = key then some value else get? map k := by
  induction map with
  | nil =>
    by_cases h : k = key
    · simp [put, get?, h]
    · simp [put, get?, h, Ne.symm h]
  | cons entry map ih =>
    obtain ⟨k', old⟩ := entry
    unfold put
    split
    · next hsame =>
      subst hsame
      by_cases h : k = k'
      · simp [get?, h]
      · simp [get?, h, Ne.symm h]
    · next hother =>
      by_cases h : k' = k
      · subst h
        simp [get?, hother]
      · simp [get?, h, ih]

/-- A key has a value exactly if it is among the keys. -/
theorem get?_eq_none_iff {map : OrderedMap κ ν} {key : κ} :
    get? map key = none ↔ key ∉ keys map := by
  induction map with
  | nil => simp
  | cons entry map ih =>
    obtain ⟨k, old⟩ := entry
    by_cases h : k = key
    · simp [get?, h]
    · simp [get?, h, ih, Ne.symm h]

/-- Putting a value adds its key at the end, unless the key is there already. -/
theorem keys_put (map : OrderedMap κ ν) (key : κ) (value : ν) :
    keys (put map key value) = if key ∈ keys map then keys map else keys map ++ [key] := by
  induction map with
  | nil => simp [put]
  | cons entry map ih =>
    obtain ⟨k, old⟩ := entry
    unfold put
    split
    · next hsame => simp [hsame]
    · next hother =>
      by_cases h : key ∈ keys map
      · simp [ih, h]
      · simp [ih, h, Ne.symm hother]

end OrderedMap

end SearchFilter
