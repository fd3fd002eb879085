import Mathlib.Data.List.Induction

/-!
# Computations that may fail, and folds of them

Such a fold goes on as long as its steps succeed, so that it fails where a step first fails, and
what every step keeps holds of all that it reaches.

* `foldlM_eq_error_iff`: a fold fails where a step first fails.
* `foldlM_prefix_induction`: what steps keep, folds keep.
-/

namespace SearchFilter

/-! ### One step -/

section

variable {α β ε : Type} {g : α → β} {outcome : Except ε α}

theorem map_eq_ok_iff {result : β} :
    g <$> outcome = .ok result ↔ ∃ a, outcome = .ok a ∧ g a = result := by
  cases outcome with
  | error error => exact ⟨nofun, nofun⟩
  | ok a =>
    constructor
    · intro h
      exact ⟨a, rfl, Except.ok.inj h⟩
    · rintro ⟨_, ha, rfl⟩
      rw [Except.ok.inj ha]
      rfl

theorem map_eq_error_iff {error : ε} :
    g <$> outcome = .error error ↔ outcome = .error error := by
  cases outcome with
  | error other =>
    constructor
    · intro h
      rw [Except.error.inj h]
    · intro h
      rw [h]
      rfl
  | ok a => exact ⟨nofun, nofun⟩

end

/-! ### Folds -/

variable {α β ε : Type} {f : β → α → Except ε β}

theorem foldlM_cons_of_ok {start next : β} {a : α} (h : f start a = .ok next) (list : List α) :
    (a :: list).foldlM f start = list.foldlM f next := by
  rw [List.foldlM_cons, h]
  rfl

theorem foldlM_cons_of_error {start : β} {a : α} {error : ε} (h : f start a = .error error)
    (list : List α) : (a :: list).foldlM f start = .error error := by
  rw [List.foldlM_cons, h]
  rfl

/-- A fold over more goes on from what the fold over the first part reached. -/
theorem foldlM_append_eq_ok_iff {start reached : β} {list more : List α} :
    (list ++ more).foldlM f start = .ok reached ↔
      ∃ middle, list.foldlM f start = .ok middle ∧ more.foldlM f middle = .ok reached := by
  rw [List.foldlM_append]
  cases hlist : list.foldlM f start with
  | error error =>
    constructor
    · intro h
      cases h
    · rintro ⟨_, h, -⟩
      cases h
  | ok middle =>
    constructor
    · intro h
      exact ⟨middle, rfl, h⟩
    · rintro ⟨_, hmiddle, h⟩
      rw [Except.ok.inj hmiddle]
      exact h

/-- A fold fails exactly with the failure of a step, at what the steps before it reached. -/
theorem foldlM_eq_error_iff {start : β} {list : List α} {error : ε} :
    list.foldlM f start = .error error ↔
      ∃ before a after reached, list = before ++ a :: after ∧
        before.foldlM f start = .ok reached ∧ f reached a = .error error := by
  induction list generalizing start with
  | nil =>
    constructor
    · intro h
      cases h
    · rintro ⟨before, a, after, _, hlist, _⟩
      exact absurd hlist.symm (by simp)
  | cons a list ih =>
    cases hstep : f start a with
    | error other =>
      rw [foldlM_cons_of_error hstep]
      constructor
      · intro h
        exact ⟨[], a, list, start, rfl, rfl, by rw [hstep, Except.error.inj h]⟩
      · -- the fold never gets past `a`, so nothing stands before the step that failed
        rintro ⟨before, b, after, reached, hlist, hreached, hb⟩
        cases before with
        | nil =>
          obtain ⟨rfl, -⟩ := List.cons.inj hlist
          obtain rfl : start = reached := Except.ok.inj hreached
          rw [← hstep, hb]
        | cons c before =>
          obtain ⟨rfl, -⟩ := List.cons.inj hlist
          rw [foldlM_cons_of_error hstep] at hreached
          cases hreached
    | ok next =>
      rw [foldlM_cons_of_ok hstep, ih]
      constructor
      · rintro ⟨before, b, after, reached, rfl, hreached, hb⟩
        exact ⟨a :: before, b, after, reached, rfl, by rwa [foldlM_cons_of_ok hstep], hb⟩
      · rintro ⟨before, b, after, reached, hlist, hreached, hb⟩
        cases before with
        | nil =>
          obtain ⟨rfl, -⟩ := List.cons.inj hlist
          obtain rfl : start = reached := Except.ok.inj hreached
          rw [hstep] at hb
          cases hb
        | cons c before =>
          obtain ⟨rfl, hrest⟩ := List.cons.inj hlist
          rw [foldlM_cons_of_ok hstep] at hreached
          exact ⟨before, b, after, reached, hrest, hreached, hb⟩

/-- What holds of nothing taken and is kept by every step holds of a whole list and what its
fold reached. The motive sees the elements that were taken so far. -/
theorem foldlM_prefix_induction {motive : List α → β → Prop} {start reached : β} {list : List α}
    (hstart : motive [] start)
    (hstep : ∀ before state a next, motive before state → f state a = .ok next →
      motive (before ++ [a]) next)
    (h : list.foldlM f start = .ok reached) : motive list reached := by
  -- from the end, for the last step takes the element that the motive gains
  induction list using List.reverseRecOn generalizing reached with
  | nil =>
    obtain rfl : start = reached := Except.ok.inj h
    exact hstart
  | append_singleton before a ih =>
    obtain ⟨state, hstate, hlast⟩ := foldlM_append_eq_ok_iff.1 h
    rw [List.foldlM_cons] at hlast
    cases hnext : f state a with
    | error error =>
      rw [hnext] at hlast
      cases hlast
    | ok next =>
      rw [hnext] at hlast
      obtain rfl : next = reached := Except.ok.inj hlast
      exact hstep before state a next (ih hstate) hnext

end SearchFilter
