import Mathlib.Data.List.Induction
import Mathlib.Data.List.Nodup
import SearchFilter.OrderedMap

/-!
# Ordered maps as functions

A map without repeated keys is determined by its keys in order and by what it holds under each key,
so that an equation between maps is one between lists of keys and one between values.

* `ext_get?`: two maps with the same keys and the same values are equal.
* `perm_of_get?`: without the order of the keys they are equal up to order.
* `latest_append_singleton`: grouping pairs by their keys, the last value of each, is putting them
  one by one.
-/

namespace SearchFilter

namespace OrderedMap

variable {κ ν : Type} [DecidableEq κ]

/-! ### Entries -/

theorem mem_of_get? {map : OrderedMap κ ν} {key : κ} {value : ν} (h : get? map key = some value) :
    (key, value) ∈ map := by
  induction map with
  | nil => exact absurd h (by simp)
  | cons entry map ih =>
    obtain ⟨k, old⟩ := entry
    rw [get?] at h
    split at h
    · next hkey =>
      rw [hkey, Option.some.inj h]
      exact List.mem_cons_self
    · exact List.mem_cons_of_mem _ (ih h)

/-- A map with a value put holds that entry and old ones. -/
theorem mem_put {map : OrderedMap κ ν} {key : κ} {value : ν} {entry : κ × ν}
    (h : entry ∈ put map key value) : entry = (key, value) ∨ entry ∈ map := by
  induction map with
  | nil => exact Or.inl (List.mem_singleton.1 h)
  | cons first map ih =>
    obtain ⟨k, old⟩ := first
    rw [put] at h
    split at h
    · next hkey =>
      rcases List.mem_cons.1 h with rfl | h
      · exact Or.inl (by rw [hkey])
      · exact Or.inr (List.mem_cons_of_mem _ h)
    · rcases List.mem_cons.1 h with rfl | h
      · exact Or.inr List.mem_cons_self
      · exact (ih h).imp_right (List.mem_cons_of_mem _)

theorem put_ne_nil (map : OrderedMap κ ν) (key : κ) (value : ν) : put map key value ≠ [] := by
  cases map with
  | nil => exact List.cons_ne_nil _ _
  | cons entry map =>
    rw [put]
    split
    · exact List.cons_ne_nil _ _
    · exact List.cons_ne_nil _ _

/-- Putting a value repeats no key. -/
theorem nodup_keys_put {map : OrderedMap κ ν} (h : (keys map).Nodup) (key : κ) (value : ν) :
    (keys (put map key value)).Nodup := by
  rw [keys_put]
  split
  · exact h
  · next hfresh =>
    refine h.append (List.nodup_singleton key) ?_
    rwa [List.disjoint_singleton]

theorem get?_cons_self (key : κ) (value : ν) (map : OrderedMap κ ν) :
    get? ((key, value) :: map) key = some value := if_pos rfl

theorem get?_cons_of_ne {k key : κ} (h : k ≠ key) (value : ν) (map : OrderedMap κ ν) :
    get? ((k, value) :: map) key = get? map key := if_neg h

/-- Keys in order and values by key determine a map without repeated keys. -/
theorem ext_get? {map other : OrderedMap κ ν} (hkeys : keys map = keys other)
    (hnodup : (keys map).Nodup) (hget : ∀ key, get? map key = get? other key) : map = other := by
  induction map generalizing other with
  | nil => exact (List.map_eq_nil_iff.1 hkeys.symm).symm
  | cons entry map ih =>
    cases other with
    | nil => exact absurd hkeys (List.cons_ne_nil _ _)
    | cons entry' other =>
      obtain ⟨key, value⟩ := entry
      obtain ⟨key', value'⟩ := entry'
      obtain ⟨hkey, hrest⟩ := List.cons.inj hkeys
      obtain rfl : key = key' := hkey
      obtain ⟨hfresh, hnodup'⟩ := List.nodup_cons.1 hnodup
      have hvalue := hget key
      rw [get?_cons_self, get?_cons_self] at hvalue
      -- the first key is in neither rest, and no other key looks at the first entries
      have hget' (k : κ) : get? map k = get? other k := by
        by_cases hk : key = k
        · subst hk
          have hrest' : keys map = keys other := hrest
          have hfresh' : key ∉ keys other := by
            rw [← hrest']
            exact hfresh
          rw [get?_eq_none_iff.2 hfresh, get?_eq_none_iff.2 hfresh']
        · have hall := hget k
          rwa [get?_cons_of_ne hk, get?_cons_of_ne hk] at hall
      rw [Option.some.inj hvalue, ih hrest hnodup' hget']

/-! ### Maps up to order -/

/-- Without repeated keys the entries are what the map holds. -/
theorem mem_iff_get? {map : OrderedMap κ ν} (h : (keys map).Nodup) {key : κ} {value : ν} :
    (key, value) ∈ map ↔ get? map key = some value := by
  refine ⟨fun hmem => ?_, mem_of_get?⟩
  induction map with
  | nil => cases hmem
  | cons entry map ih =>
    obtain ⟨k, old⟩ := entry
    obtain ⟨hfresh, hnodup⟩ := List.nodup_cons.1 h
    rcases List.mem_cons.1 hmem with heq | hmem
    · obtain ⟨rfl, rfl⟩ := Prod.mk.inj heq
      exact get?_cons_self key value map
    · have hne : k ≠ key := by
        rintro rfl
        exact hfresh (List.mem_map.2 ⟨_, hmem, rfl⟩)
      rw [get?_cons_of_ne hne]
      exact ih hnodup hmem

/-- Maps without repeated keys that hold the same have the same entries. -/
theorem perm_of_get? {map other : OrderedMap κ ν} (hmap : (keys map).Nodup)
    (hother : (keys other).Nodup) (h : ∀ key, get? map key = get? other key) :
    List.Perm map other := by
  rw [List.perm_ext_iff_of_nodup (hmap.of_map _) (hother.of_map _)]
  rintro ⟨key, value⟩
  rw [mem_iff_get? hmap, mem_iff_get? hother, h]

/-! ### Maps behind one another -/

/-- A key that is not in the front map is looked up behind it. -/
theorem get?_append_of_not_mem {front : OrderedMap κ ν} {key : κ} (h : key ∉ keys front)
    (back : OrderedMap κ ν) : get? (front ++ back) key = get? back key := by
  induction front with
  | nil => rfl
  | cons entry front ih =>
    obtain ⟨k, value⟩ := entry
    rw [keys_cons, List.mem_cons, not_or] at h
    obtain ⟨hk, hfront⟩ := h
    rw [List.cons_append, get?_cons_of_ne (Ne.symm hk), ih hfront]

/-- A value under such a key is put behind the front map. -/
theorem put_append_of_not_mem {front : OrderedMap κ ν} {key : κ} (h : key ∉ keys front)
    (back : OrderedMap κ ν) (value : ν) :
    put (front ++ back) key value = front ++ put back key value := by
  induction front with
  | nil => rfl
  | cons entry front ih =>
    obtain ⟨k, old⟩ := entry
    rw [keys_cons, List.mem_cons, not_or] at h
    obtain ⟨hk, hfront⟩ := h
    rw [List.cons_append, put, if_neg (Ne.symm hk), ih hfront, List.cons_append]

/-! ### Maps made from their keys -/

variable {entryOf : κ → Option (κ × ν)}

/-- A map that is made key by key holds what its function gives for the key. -/
theorem get?_filterMap (hentry : ∀ key entry, entryOf key = some entry → entry.1 = key)
    (list : List κ) (key : κ) :
    get? (list.filterMap entryOf) key =
      if key ∈ list then (entryOf key).map Prod.snd else none := by
  induction list with
  | nil => rfl
  | cons k list ih =>
    cases hk : entryOf k with
    | none =>
      rw [List.filterMap_cons_none hk, ih]
      by_cases heq : key = k
      · simp [heq, hk]
      · simp [heq]
    | some entry =>
      obtain ⟨k', value⟩ := entry
      -- an entry made for a key is held under that key
      obtain rfl : k' = k := hentry k _ hk
      rw [List.filterMap_cons_some hk]
      by_cases heq : k' = key
      · subst heq
        rw [get?_cons_self, if_pos List.mem_cons_self, hk]
        rfl
      · rw [get?_cons_of_ne heq, ih]
        simp [Ne.symm heq]

omit [DecidableEq κ] in
/-- A map that is made key by key has these keys, in order. -/
theorem keys_filterMap (hentry : ∀ key entry, entryOf key = some entry → entry.1 = key)
    {list : List κ} (hsome : ∀ key ∈ list, (entryOf key).isSome = true) :
    keys (list.filterMap entryOf) = list := by
  induction list with
  | nil => rfl
  | cons k list ih =>
    obtain ⟨hk, hlist⟩ := List.forall_mem_cons.1 hsome
    obtain ⟨entry, hk⟩ := Option.isSome_iff_exists.1 hk
    rw [List.filterMap_cons_some hk, keys_cons, ih hlist, hentry k entry hk]

/-! ### Grouping -/

section

variable {α : Type} [BEq α] [LawfulBEq α]

/-- Each element of a list at its first place: a further element changes nothing if the list
has it. -/
theorem eraseDups_append_of_mem {list : List α} {a : α} (h : a ∈ list) :
    (list ++ [a]).eraseDups = list.eraseDups := by
  rw [List.eraseDups_append, List.removeAll]
  simp [h]

theorem eraseDups_append_of_not_mem {list : List α} {a : α} (h : a ∉ list) :
    (list ++ [a]).eraseDups = list.eraseDups ++ [a] := by
  rw [List.eraseDups_append, List.removeAll]
  simp [h, List.eraseDups_cons]

theorem nodup_eraseDups (list : List α) : list.eraseDups.Nodup := by
  induction list using List.reverseRecOn with
  | nil => exact List.nodup_nil
  | append_singleton list a ih =>
    by_cases h : a ∈ list
    · rw [eraseDups_append_of_mem h]
      exact ih
    · rw [eraseDups_append_of_not_mem h]
      refine ih.append (List.nodup_singleton a) ?_
      rwa [List.disjoint_singleton, List.mem_eraseDups]

theorem perm_eraseDups {list other : List α} (h : list.Perm other) :
    list.eraseDups.Perm other.eraseDups := by
  rw [List.perm_ext_iff_of_nodup (nodup_eraseDups list) (nodup_eraseDups other)]
  intro a
  rw [List.mem_eraseDups, List.mem_eraseDups, h.mem_iff]

/-- A map whose keys are those of a list, each at its first place, becomes one for the list with
a further key when a value is put under that key. -/
theorem eq_put_of_eraseDups {ν : Type} [DecidableEq α] {map other : OrderedMap α ν}
    {list : List α} {key : α} {value : ν} (hmap : keys map = list.eraseDups)
    (hother : keys other = (list ++ [key]).eraseDups)
    (hget : ∀ k, get? other k = if k = key then some value else get? map k) :
    other = put map key value := by
  have hkeys : keys other = keys (put map key value) := by
    rw [keys_put, hmap, hother]
    by_cases hmem : key ∈ list
    · rw [eraseDups_append_of_mem hmem, if_pos (List.mem_eraseDups.2 hmem)]
    · rw [eraseDups_append_of_not_mem hmem, if_neg (mt List.mem_eraseDups.1 hmem)]
  have hnodup : (keys other).Nodup := by
    rw [hother]
    exact nodup_eraseDups _
  refine ext_get? hkeys hnodup fun k => ?_
  rw [hget, get?_put]

end

/-- The last pair of each key, in the order in which the keys first come. -/
def latest (pairs : List (κ × ν)) : OrderedMap κ ν :=
  (pairs.map Prod.fst).eraseDups.filterMap fun key => pairs.reverse.find? fun pair => pair.1 = key

theorem fst_of_find? {pairs : List (κ × ν)} (key : κ) (pair : κ × ν)
    (h : (pairs.reverse.find? fun pair => pair.1 = key) = some pair) : pair.1 = key := by
  have hfound := List.find?_some h
  rwa [decide_eq_true_eq] at hfound

theorem keys_latest (pairs : List (κ × ν)) :
    keys (latest pairs) = (pairs.map Prod.fst).eraseDups := by
  refine keys_filterMap fst_of_find? fun key hkey => ?_
  obtain ⟨pair, hpair, hfst⟩ := List.mem_map.1 (List.mem_eraseDups.1 hkey)
  rw [List.find?_isSome]
  exact ⟨pair, List.mem_reverse.2 hpair, by simpa using hfst⟩

theorem get?_latest (pairs : List (κ × ν)) (key : κ) :
    get? (latest pairs) key =
      (pairs.reverse.find? fun pair => pair.1 = key).map Prod.snd := by
  rw [latest, get?_filterMap fst_of_find?]
  split
  · rfl
  · next hfresh =>
    rw [List.mem_eraseDups] at hfresh
    have hnone : (pairs.reverse.find? fun pair => pair.1 = key) = none := by
      rw [List.find?_eq_none]
      intro pair hpair hfst
      rw [decide_eq_true_eq] at hfst
      exact hfresh (hfst ▸ List.mem_map_of_mem (List.mem_reverse.1 hpair))
    rw [hnone, Option.map_none]

/-- Only the pairs of a key decide what it is mapped to. -/
theorem get?_latest_congr {pairs others : List (κ × ν)} {key : κ}
    (h : (pairs.filter fun pair => pair.1 = key) = others.filter fun pair => pair.1 = key) :
    get? (latest pairs) key = get? (latest others) key := by
  rw [get?_latest, get?_latest, ← List.getLast?_filter, ← List.getLast?_filter, h]

/-- A further pair takes the place of the last one of its key. -/
theorem latest_append_singleton (pairs : List (κ × ν)) (key : κ) (value : ν) :
    latest (pairs ++ [(key, value)]) = put (latest pairs) key value := by
  refine eq_put_of_eraseDups (keys_latest pairs) ?_ fun k => ?_
  · rw [keys_latest, List.map_append, List.map_singleton]
  · rw [get?_latest, get?_latest, List.reverse_append, List.reverse_singleton,
      List.singleton_append, List.find?_cons]
    by_cases hk : k = key
    · subst hk
      simp
    · simp [hk, Ne.symm hk]

end OrderedMap

end SearchFilter
