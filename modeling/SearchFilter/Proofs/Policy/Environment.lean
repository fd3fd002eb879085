import SearchFilter.Proofs.Command.Session
import SearchFilter.Proofs.Text.Spelling

/-!
# Policies told from the variables alone

Each of the two variables is silent, spells one of its words or is misspelled; of two misspelled
variables the one for matching is blamed, and a flag hides a misspelled variable no more than it
hides a good one. Otherwise a choice other than the default is made by a flag or by a variable that
spells it.

* `readChoice_eq_ok_iff`: when a variable gives a choice.
* `readChoice_eq_error_iff`: when it is refused.
* `Session.outcome_resolve_undotted`: both variables, with the flags.
-/

namespace SearchFilter

namespace Environment

variable {environment : Environment} {name word : Text} {words : List Text}

/-! ### Variables for choices -/

/-- A variable is set to a spelling of a word. -/
def Spells (environment : Environment) (name word : Text) : Prop :=
  ∃ raw, environment.get? name = some raw ∧ Text.Spells raw word

/-- A variable is not set, or is set to nothing but white space. -/
def IsSilent (environment : Environment) (name : Text) : Prop :=
  ∀ raw, environment.get? name = some raw → ∀ c ∈ raw, Text.isBlank c = true

/-- A variable is set to a value that is not blank and spells none of the words. -/
def Misspells (environment : Environment) (name : Text) (words : List Text) (raw : Text) : Prop :=
  environment.get? name = some raw ∧ (∃ c ∈ raw, Text.isBlank c = false) ∧
    ∀ word ∈ words, ¬ Text.Spells raw word

end Environment

namespace Policies

variable {α : Type} {ofWord? : Text → Option α} {wordOf : α → Text} {allowed : List Text}
  {default choice : α} {environment : Environment} {name : Text}

/-- Choices that are read from their words, which consist of plain letters. -/
structure HasPlainWords (ofWord? : Text → Option α) (wordOf : α → Text) (allowed : List Text) :
    Prop where
  read : ∀ word choice, ofWord? word = some choice ↔ wordOf choice = word
  isPlain : ∀ choice, ∀ c ∈ wordOf choice, Text.IsPlain c
  ne_nil : ∀ choice, wordOf choice ≠ []
  allowed : ∀ word, word ∈ allowed ↔ ∃ choice, wordOf choice = word

namespace HasPlainWords

variable (h : HasPlainWords ofWord? wordOf allowed)

include h

/-- A value is read as a choice if it spells the word for it. -/
theorem ofWord?_eq_some_iff {raw : Text} :
    ofWord? (Text.lowerCase (Text.trim raw)) = some choice ↔ Text.Spells raw (wordOf choice) := by
  rw [h.read, Text.spells_iff (h.isPlain choice) (h.ne_nil choice), eq_comm]

theorem not_spells_of_isBlank {raw : Text} (hblank : ∀ c ∈ raw, Text.isBlank c = true) :
    ¬ Text.Spells raw (wordOf choice) := by
  rw [Text.spells_iff (h.isPlain choice) (h.ne_nil choice), Text.trim_eq_nil_iff.2 hblank]
  exact (h.ne_nil choice).symm

theorem ofWord?_eq_none_iff {raw : Text} :
    ofWord? (Text.lowerCase (Text.trim raw)) = none ↔ ∀ word ∈ allowed, ¬ Text.Spells raw word := by
  constructor
  · intro hnone word hword hspells
    obtain ⟨choice, rfl⟩ := (h.allowed word).1 hword
    rw [h.ofWord?_eq_some_iff.2 hspells] at hnone
    cases hnone
  · intro hno
    cases hread : ofWord? (Text.lowerCase (Text.trim raw)) with
    | none => rfl
    | some choice =>
      exact absurd (h.ofWord?_eq_some_iff.1 hread) (hno _ ((h.allowed _).2 ⟨choice, rfl⟩))

/-- A variable chooses what it spells, and the default where it is silent. -/
theorem readChoice_eq_ok_iff :
    readChoice ofWord? allowed default environment name = .ok choice ↔
      environment.Spells name (wordOf choice) ∨ choice = default ∧ environment.IsSilent name := by
  unfold readChoice Environment.Spells Environment.IsSilent
  cases environment.get? name with
  | none =>
    simp only [reduceCtorEq, false_and, exists_false, false_or, false_imp_iff, implies_true,
      and_true, Except.ok.injEq]
    exact eq_comm
  | some raw =>
    simp only [Option.some.injEq, forall_eq', exists_eq_left']
    by_cases hblank : ∀ c ∈ raw, Text.isBlank c = true
    · rw [if_pos (by rw [Text.trim_eq_nil_iff.2 hblank]; rfl)]
      rw [or_iff_right (h.not_spells_of_isBlank hblank), and_iff_left hblank, Except.ok.injEq]
      exact eq_comm
    · have hne : (Text.trim raw).isEmpty = false := by
        rw [List.isEmpty_eq_false_iff, ne_eq, Text.trim_eq_nil_iff]
        exact hblank
      rw [hne, if_neg Bool.false_ne_true, ← h.ofWord?_eq_some_iff,
        or_iff_left fun hsilent => hblank hsilent.2]
      cases ofWord? (Text.lowerCase (Text.trim raw)) with
      | none => exact iff_of_false nofun nofun
      | some found => rw [Except.ok.injEq, Option.some.injEq]

/-- A variable is refused where it is misspelled, and shown as it is. -/
theorem readChoice_eq_error_iff {error : QueryError} :
    readChoice ofWord? allowed default environment name = .error error ↔
      ∃ raw, environment.Misspells name allowed raw ∧ error = .configuration name raw allowed := by
  unfold readChoice Environment.Misspells
  cases environment.get? name with
  | none => simp
  | some raw =>
    simp only [Option.some.injEq, and_assoc, exists_eq_left']
    -- a blank value is as good as none, and only another one can be misspelled
    by_cases hblank : ∀ c ∈ raw, Text.isBlank c = true
    · rw [if_pos (by rw [Text.trim_eq_nil_iff.2 hblank]; rfl)]
      refine iff_of_false nofun ?_
      rintro ⟨⟨c, hc, hvisible⟩, -⟩
      rw [hblank c hc] at hvisible
      cases hvisible
    · have hne : (Text.trim raw).isEmpty = false := by
        rw [List.isEmpty_eq_false_iff, ne_eq, Text.trim_eq_nil_iff]
        exact hblank
      have hvisible : ∃ c ∈ raw, Text.isBlank c = false := by
        simpa using hblank
      rw [hne, if_neg Bool.false_ne_true, and_iff_right hvisible, ← h.ofWord?_eq_none_iff]
      cases ofWord? (Text.lowerCase (Text.trim raw)) with
      | none => simp [eq_comm]
      | some found => simp

/-- Unless it is misspelled, a variable makes a choice other than the default by spelling it. -/
theorem exists_readChoice_eq_ok (hne : choice ≠ default)
    (hno : ∀ raw, ¬ environment.Misspells name allowed raw) :
    ∃ found, readChoice ofWord? allowed default environment name = .ok found ∧
      (found = choice ↔ environment.Spells name (wordOf choice)) := by
  cases hread : readChoice ofWord? allowed default environment name with
  | error error =>
    obtain ⟨raw, hraw, -⟩ := h.readChoice_eq_error_iff.1 hread
    exact absurd hraw (hno raw)
  | ok found =>
    have hspells : readChoice ofWord? allowed default environment name = .ok choice ↔
        environment.Spells name (wordOf choice) := by
      rw [h.readChoice_eq_ok_iff]
      exact or_iff_left fun hdefault => hne hdefault.1
    exact ⟨found, rfl, by rw [← hspells, hread, Except.ok.injEq]⟩

end HasPlainWords

/-- Choices that are looked up by their words are read from them. -/
theorem hasPlainWords_find? {all : List α}
    (hread : ∀ choice, (all.find? fun other => wordOf other == wordOf choice) = some choice)
    (hplain : ∀ choice, (wordOf choice).all (fun c => decide (Text.IsPlain c)) = true ∧
      wordOf choice ≠ []) :
    HasPlainWords (fun word => all.find? fun choice => wordOf choice == word) wordOf
      (all.map wordOf) where
  read word choice := by
    constructor
    · intro h
      have hword := List.find?_some h
      exact beq_iff_eq.1 hword
    · rintro rfl
      exact hread choice
  isPlain choice c hc := of_decide_eq_true (List.all_eq_true.1 (hplain choice).1 c hc)
  ne_nil choice := (hplain choice).2
  allowed word := by
    constructor
    · intro h
      obtain ⟨choice, -, hword⟩ := List.mem_map.1 h
      exact ⟨choice, hword⟩
    · rintro ⟨choice, rfl⟩
      exact List.mem_map_of_mem (List.mem_of_find?_eq_some (hread choice))

theorem hasPlainWords_matching :
    HasPlainWords Matching.ofWord? Matching.word (Matching.all.map Matching.word) :=
  hasPlainWords_find? Matching.ofWord?_word fun choice => by cases choice <;> decide

theorem hasPlainWords_unparsed :
    HasPlainWords Unparsed.ofWord? Unparsed.word (Unparsed.all.map Unparsed.word) :=
  hasPlainWords_find? Unparsed.ofWord?_word fun choice => by cases choice <;> decide

/-! ### Both variables -/

/-- The value of the variable for matching, if it is misspelled. -/
def MisspellsMatching (environment : Environment) (raw : Text) : Prop :=
  environment.Misspells matchingVariable (Matching.all.map Matching.word) raw

/-- The value of the variable for unparsed tokens, if it is misspelled. -/
def MisspellsUnparsed (environment : Environment) (raw : Text) : Prop :=
  environment.Misspells unparsedVariable (Unparsed.all.map Unparsed.word) raw

/-- The error for a misspelled variable for matching. -/
def matchingError (raw : Text) : QueryError :=
  .configuration matchingVariable raw (Matching.all.map Matching.word)

/-- The error for a misspelled variable for unparsed tokens. -/
def unparsedError (raw : Text) : QueryError :=
  .configuration unparsedVariable raw (Unparsed.all.map Unparsed.word)

theorem exists_readMatching_eq_ok (h : ∀ raw, ¬ MisspellsMatching environment raw) :
    ∃ matching, readMatching environment = .ok matching ∧
      (matching = .anchored ↔ environment.Spells matchingVariable Matching.anchored.word) :=
  hasPlainWords_matching.exists_readChoice_eq_ok nofun h

theorem exists_readUnparsed_eq_ok (h : ∀ raw, ¬ MisspellsUnparsed environment raw) :
    ∃ unparsed, readUnparsed environment = .ok unparsed ∧
      (unparsed = .error ↔ environment.Spells unparsedVariable Unparsed.error.word) :=
  hasPlainWords_unparsed.exists_readChoice_eq_ok nofun h

/-- A misspelled variable for matching is blamed before all else. -/
theorem ofEnvironment_of_misspellsMatching {raw : Text} (h : MisspellsMatching environment raw) :
    ofEnvironment environment = .error (matchingError raw) := by
  have hmatching : readMatching environment = .error (matchingError raw) :=
    hasPlainWords_matching.readChoice_eq_error_iff.2 ⟨raw, h, rfl⟩
  rw [ofEnvironment, hmatching]
  rfl

theorem ofEnvironment_of_misspellsUnparsed {raw : Text}
    (hmatching : ∀ other, ¬ MisspellsMatching environment other)
    (h : MisspellsUnparsed environment raw) :
    ofEnvironment environment = .error (unparsedError raw) := by
  obtain ⟨matching, hread, -⟩ := exists_readMatching_eq_ok hmatching
  have hunparsed : readUnparsed environment = .error (unparsedError raw) :=
    hasPlainWords_unparsed.readChoice_eq_error_iff.2 ⟨raw, h, rfl⟩
  rw [ofEnvironment, hread, hunparsed]
  rfl

/-- Where neither variable is misspelled there are policies, with the choices that are spelled. -/
theorem exists_ofEnvironment_eq_ok (hmatching : ∀ raw, ¬ MisspellsMatching environment raw)
    (hunparsed : ∀ raw, ¬ MisspellsUnparsed environment raw) :
    ∃ policies, ofEnvironment environment = .ok policies ∧
      (policies.matching = .anchored ↔
        environment.Spells matchingVariable Matching.anchored.word) ∧
      (policies.unparsed = .error ↔ environment.Spells unparsedVariable Unparsed.error.word) := by
  obtain ⟨matching, hmread, hanchored⟩ := exists_readMatching_eq_ok hmatching
  obtain ⟨unparsed, huread, herror⟩ := exists_readUnparsed_eq_ok hunparsed
  refine ⟨⟨matching, unparsed⟩, ?_, hanchored, herror⟩
  rw [ofEnvironment, hmread, huread]
  rfl

theorem matching_override_eq_anchored_iff {anchored strict : Bool} {policies : Policies} :
    (policies.override anchored strict).matching = .anchored ↔
      anchored = true ∨ policies.matching = .anchored := by
  cases anchored <;> simp [override]

theorem unparsed_override_eq_error_iff {anchored strict : Bool} {policies : Policies} :
    (policies.override anchored strict).unparsed = .error ↔
      strict = true ∨ policies.unparsed = .error := by
  cases strict <;> simp [override]

end Policies

namespace Session

open Policies

variable {files : Files} {environment : Environment} {session : Session} {anchored strict : Bool}

theorem outcome_resolve_of_misspellsMatching {raw : Text} (hdotenv : session.dotenv = false)
    (h : MisspellsMatching environment raw) :
    (session.resolve files environment anchored strict).outcome =
      .error (.query (matchingError raw)) := by
  rw [outcome_resolve_of_undotted anchored strict hdotenv, ofEnvironment_of_misspellsMatching h]
  rfl

theorem outcome_resolve_of_misspellsUnparsed {raw : Text} (hdotenv : session.dotenv = false)
    (hmatching : ∀ other, ¬ MisspellsMatching environment other)
    (h : MisspellsUnparsed environment raw) :
    (session.resolve files environment anchored strict).outcome =
      .error (.query (unparsedError raw)) := by
  rw [outcome_resolve_of_undotted anchored strict hdotenv,
    ofEnvironment_of_misspellsUnparsed hmatching h]
  rfl

/-- A flag adds its choice to those that the variables make. -/
theorem exists_outcome_resolve_eq_ok (hdotenv : session.dotenv = false)
    (hmatching : ∀ raw, ¬ MisspellsMatching environment raw)
    (hunparsed : ∀ raw, ¬ MisspellsUnparsed environment raw) :
    ∃ policies, (session.resolve files environment anchored strict).outcome = .ok policies ∧
      (policies.matching = .anchored ↔
        anchored = true ∨ environment.Spells matchingVariable Matching.anchored.word) ∧
      (policies.unparsed = .error ↔
        strict = true ∨ environment.Spells unparsedVariable Unparsed.error.word) := by
  obtain ⟨policies, hpolicies, hanchored, herror⟩ := exists_ofEnvironment_eq_ok hmatching hunparsed
  refine ⟨policies.override anchored strict, ?_, ?_, ?_⟩
  · rw [outcome_resolve_of_undotted anchored strict hdotenv, hpolicies]
    rfl
  · rw [matching_override_eq_anchored_iff, hanchored]
  · rw [unparsed_override_eq_error_iff, herror]

/-- Only a misspelled variable is a failure of the configuration. -/
theorem outcome_resolve_eq_configuration_iff (hdotenv : session.dotenv = false) :
    (∃ name raw allowed, (session.resolve files environment anchored strict).outcome =
        .error (.query (.configuration name raw allowed))) ↔
      (∃ raw, MisspellsMatching environment raw) ∨ ∃ raw, MisspellsUnparsed environment raw := by
  constructor
  · rintro ⟨name, raw, allowed, hfailed⟩
    by_contra hnone
    obtain ⟨hmatching, hunparsed⟩ := not_or.1 hnone
    obtain ⟨policies, hpolicies, -⟩ := exists_outcome_resolve_eq_ok hdotenv
      (not_exists.1 hmatching) (not_exists.1 hunparsed)
    rw [hpolicies] at hfailed
    cases hfailed
  · intro hmisspelled
    by_cases hmatching : ∃ raw, MisspellsMatching environment raw
    · obtain ⟨raw, hraw⟩ := hmatching
      exact ⟨_, _, _, outcome_resolve_of_misspellsMatching hdotenv hraw⟩
    · obtain ⟨raw, hraw⟩ := hmisspelled.resolve_left hmatching
      exact ⟨_, _, _,
        outcome_resolve_of_misspellsUnparsed hdotenv (not_exists.1 hmatching) hraw⟩

/-- **Policies without an env file.** A session that wants no env file fails to resolve its policies
exactly if one of the two variables is misspelled: its value is not blank and, without the white
space around it, is none of the words in any mixture of ASCII cases. The error names the variable
for matching whenever that one is misspelled, and shows the value as it is, whatever the flags are.
Otherwise there are policies, where matching is anchored if the flag is given or the variable spells
it, and likewise unparsed tokens are refused. Nothing else has any influence. -/
theorem outcome_resolve_undotted (files : Files) (environment : Environment) (envFile : Text)
    (loaded anchored strict : Bool) :
    let session : Session := { dotenv := false, envFile, loaded }
    let outcome := (session.resolve files environment anchored strict).outcome
    ((∃ name raw allowed, outcome = .error (.query (.configuration name raw allowed))) ↔
      (∃ raw, MisspellsMatching environment raw) ∨ ∃ raw, MisspellsUnparsed environment raw) ∧
    (∀ raw, MisspellsMatching environment raw → outcome = .error (.query (matchingError raw))) ∧
    ((∀ raw, ¬ MisspellsMatching environment raw) →
      (∀ raw, MisspellsUnparsed environment raw → outcome = .error (.query (unparsedError raw))) ∧
      ((∀ raw, ¬ MisspellsUnparsed environment raw) → ∃ policies, outcome = .ok policies ∧
        (policies.matching = .anchored ↔
          anchored = true ∨ environment.Spells matchingVariable Matching.anchored.word) ∧
        (policies.unparsed = .error ↔
          strict = true ∨ environment.Spells unparsedVariable Unparsed.error.word))) ∧
    ∀ (otherFiles : Files) (other : Environment),
      other.get? matchingVariable = environment.get? matchingVariable →
      other.get? unparsedVariable = environment.get? unparsedVariable →
      (session.resolve otherFiles other anchored strict).outcome = outcome := by
  intro session outcome
  refine ⟨outcome_resolve_eq_configuration_iff rfl, fun raw hraw => ?_, fun hmatching => ⟨?_, ?_⟩,
    fun otherFiles other hsame hsame' => ?_⟩
  · exact outcome_resolve_of_misspellsMatching rfl hraw
  · intro raw hraw
    exact outcome_resolve_of_misspellsUnparsed rfl hmatching hraw
  · intro hunparsed
    exact exists_outcome_resolve_eq_ok rfl hmatching hunparsed
  · show (session.resolve otherFiles other anchored strict).outcome =
      (session.resolve files environment anchored strict).outcome
    rw [outcome_resolve_of_undotted anchored strict rfl,
      outcome_resolve_of_undotted anchored strict rfl, ofEnvironment_congr hsame hsame']

/-- A word that is not allowed is refused although the flag would take its place, and the other
variable may spell its word with white space and capital letters. -/
theorem outcome_resolve_undotted_overridden :
    let environment : Environment := [("FINDEXPR_MATCHING".toList, "\tAnchoreD ".toList),
      ("FINDEXPR_UNPARSED".toList, " fail".toList)]
    (∀ raw, ¬ MisspellsMatching environment raw) ∧ MisspellsUnparsed environment " fail".toList ∧
      (Session.resolve (fun _ => .absent) environment false true { dotenv := false }).outcome =
        .error (.query (unparsedError " fail".toList)) := by
  intro environment
  have hmatching : ∀ raw, ¬ MisspellsMatching environment raw := by
    rintro raw ⟨hget, -, hno⟩
    obtain rfl : "\tAnchoreD ".toList = raw := Option.some.inj hget
    exact hno "anchored".toList (by decide)
      (hasPlainWords_matching.ofWord?_eq_some_iff.1
        (show Matching.ofWord? _ = some Matching.anchored by decide +kernel))
  have hunparsed : MisspellsUnparsed environment " fail".toList :=
    ⟨rfl, ⟨'f', by decide, by decide⟩,
      hasPlainWords_unparsed.ofWord?_eq_none_iff.1 (by decide +kernel)⟩
  obtain ⟨-, -, hgood, -⟩ :=
    outcome_resolve_undotted (fun _ => .absent) environment ".env".toList false false true
  exact ⟨hmatching, hunparsed, (hgood hmatching).1 _ hunparsed⟩

end Session

end SearchFilter
