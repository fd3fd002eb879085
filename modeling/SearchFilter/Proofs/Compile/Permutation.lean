import SearchFilter.Proofs.Compile.Report
import SearchFilter.Proofs.Document.Order
import SearchFilter.Proofs.Query.Tokens

/-!
# Queries in another order

Whether a token can be taken at all depends on the token alone, and whether its constraint fits
depends on the constraints there are; so pieces of a query may change places without making it
succeed or fail. What they come to is then the same up to order, as long as no two of them constrain
one field with one operator, since among such constraints the last one counts.

* `exists_run?_iff`: when a run succeeds, told without a run.
* `compileReport_perm`: the reports of two queries with the same pieces.
-/

namespace SearchFilter

/-! ### Tokens that can be taken -/

/-- The constraint that a token stands for, if it is a term and its value is one. -/
def constraint? (matching : Matching) (token : Text) : Option Constraint :=
  match Term.ofToken? token with
  | none => none
  | some term =>
    match Value.ofRaw matching (some term.field) term.rawValue with
    | .ok value => some (Run.constraintOf term value)
    | .error _ => none

/-- A token that nothing but other constraints can keep from being taken: it may be dropped, or it
is a term with a value. -/
inductive IsAdmissible (policies : Policies) (token : Text) : Prop
  | dropped (hterm : Term.ofToken? token = none) (hpolicy : policies.unparsed = .drop) :
      IsAdmissible policies token
  | valued {term : Term} {value : Value} (hterm : Term.ofToken? token = some term)
      (hvalue : Value.ofRaw policies.matching (some term.field) term.rawValue = .ok value) :
      IsAdmissible policies token

theorem constraint?_of_ofToken?_eq_none {matching : Matching} {token : Text}
    (h : Term.ofToken? token = none) : constraint? matching token = none := by
  rw [constraint?, h]

theorem constraint?_of_ofRaw {matching : Matching} {token : Text} {term : Term} {value : Value}
    (hterm : Term.ofToken? token = some term)
    (hvalue : Value.ofRaw matching (some term.field) term.rawValue = .ok value) :
    constraint? matching token = some (Run.constraintOf term value) := by
  simp only [constraint?, hterm, hvalue]

namespace Run

variable {policies : Policies} {run next reached : Run} {token : Text} {tokens : List Text}

theorem Takes.isAdmissible (h : Takes policies run token next) : IsAdmissible policies token := by
  cases h with
  | drop hterm hpolicy => exact .dropped hterm hpolicy
  | apply hterm hvalue hadd => exact .valued hterm hvalue

theorem isAdmissible_of_run? (h : run.run? policies tokens = .ok reached) :
    ∀ token ∈ tokens, IsAdmissible policies token := by
  refine run?_prefix_induction
    (motive := fun before _ => ∀ token ∈ before, IsAdmissible policies token)
    (List.forall_mem_nil _) (fun before _ token _ hbefore htakes => ?_) h
  rw [List.forall_mem_append, List.forall_mem_singleton]
  exact ⟨hbefore, htakes.isAdmissible⟩

/-- The document of a run is what the constraints of its tokens add up to. -/
theorem addAll_of_run? (h : Run.run? policies {} tokens = .ok reached) :
    addAll (tokens.filterMap (constraint? policies.matching)) = .ok reached.document := by
  refine run?_prefix_induction (motive := fun before state =>
    addAll (before.filterMap (constraint? policies.matching)) = .ok state.document) rfl
    (fun before state token next hstate htakes => ?_) h
  rw [List.filterMap_append]
  cases htakes with
  | drop hterm hpolicy =>
    rw [List.filterMap_cons_none (constraint?_of_ofToken?_eq_none hterm), List.filterMap_nil,
      List.append_nil]
    exact hstate
  | apply hterm hvalue hadd =>
    rw [List.filterMap_cons_some (constraint?_of_ofRaw hterm hvalue), List.filterMap_nil]
    exact addAll_append_singleton_eq_ok_iff.2 ⟨_, hstate, hadd⟩

theorem document_eq_grouped (h : Run.run? policies {} tokens = .ok reached) :
    IsCompatible (tokens.filterMap (constraint? policies.matching)) ∧
      reached.document = grouped (tokens.filterMap (constraint? policies.matching)) :=
  addAll_eq_ok_iff.1 (addAll_of_run? h)

/-- A run succeeds exactly if every token can be taken and their constraints are compatible. -/
theorem exists_run?_iff :
    (∃ reached, Run.run? policies {} tokens = .ok reached) ↔
      (∀ token ∈ tokens, IsAdmissible policies token) ∧
        IsCompatible (tokens.filterMap (constraint? policies.matching)) := by
  constructor
  · rintro ⟨reached, h⟩
    exact ⟨isAdmissible_of_run? h, (document_eq_grouped h).1⟩
  · rintro ⟨hadmissible, hcompatible⟩
    induction tokens using List.reverseRecOn with
    | nil => exact ⟨{}, rfl⟩
    | append_singleton tokens token ih =>
      rw [List.forall_mem_append, List.forall_mem_singleton] at hadmissible
      rw [List.filterMap_append] at hcompatible
      obtain ⟨reached, hreached⟩ := ih hadmissible.1 hcompatible.of_append
      have htakes : ∃ next, Takes policies reached token next := by
        cases hadmissible.2 with
        | dropped hterm hpolicy => exact ⟨_, .drop hterm hpolicy⟩
        | @valued term value hterm hvalue =>
          -- what was reached are the groups so far, and a compatible constraint joins them
          rw [List.filterMap_cons_some (constraint?_of_ofRaw hterm hvalue),
            List.filterMap_nil] at hcompatible
          have hadd := add_grouped hcompatible
          rw [← (document_eq_grouped hreached).2] at hadd
          exact ⟨_, .apply hterm hvalue hadd⟩
      obtain ⟨next, hnext⟩ := htakes
      exact ⟨next, run?_append_of_takes hreached hnext⟩

end Run

/-! ### Tokens in another order -/

variable {policies : Policies} {tokens others : List Text}

theorem exists_run?_perm_iff (h : tokens.Perm others) :
    (∃ reached, Run.run? policies {} tokens = .ok reached) ↔
      ∃ reached, Run.run? policies {} others = .ok reached := by
  rw [Run.exists_run?_iff, Run.exists_run?_iff, isCompatible_perm_iff (h.filterMap _)]
  simp only [h.mem_iff]

theorem dropped_perm {reached other : Run} (h : tokens.Perm others)
    (hreached : Run.run? policies {} tokens = .ok reached)
    (hother : Run.run? policies {} others = .ok other) : reached.dropped.Perm other.dropped := by
  rw [(Run.accounts_of_run? hreached).dropped, (Run.accounts_of_run? hother).dropped]
  exact h.filter _

/-! ### Pieces in another order -/

/-- The fields that a query constrains, each with the operator, term by term. -/
def Query.constrained (query : Text) : List (Text × Operator) :=
  ((Query.tokens query).filterMap Term.ofToken?).map fun term => (term.field, term.operator)

theorem mem_constrained {matching : Matching} {query token : Text} {constraint : Constraint}
    (htoken : token ∈ Query.tokens query) (h : constraint? matching token = some constraint) :
    (constraint.field, constraint.operator) ∈ Query.constrained query := by
  cases hterm : Term.ofToken? token with
  | none =>
    rw [constraint?_of_ofToken?_eq_none hterm] at h
    cases h
  | some term =>
    have hmem : term ∈ (Query.tokens query).filterMap Term.ofToken? :=
      List.mem_filterMap.2 ⟨token, htoken, hterm⟩
    cases hvalue : Value.ofRaw matching (some term.field) term.rawValue with
    | error failure => simp [constraint?, hterm, hvalue] at h
    | ok value =>
      rw [constraint?_of_ofRaw hterm hvalue] at h
      obtain rfl := Option.some.inj h
      exact List.mem_map.2 ⟨term, hmem, rfl⟩

/-- Lists that may change places with each other may change places among any others. -/
theorem flatMap_eq_of_perm {α β : Type} {f : α → List β} {list other : List α}
    (hperm : list.Perm other) (h : ∀ a ∈ list, ∀ b ∈ list, f a ++ f b = f b ++ f a) :
    list.flatMap f = other.flatMap f := by
  induction hperm with
  | nil => rfl
  | cons a hperm ih =>
    have hrest := ih fun b hb c hc =>
      h b (List.mem_cons_of_mem a hb) c (List.mem_cons_of_mem a hc)
    rw [List.flatMap_cons, List.flatMap_cons, hrest]
  | swap a b list =>
    have hswap := h b List.mem_cons_self a (List.mem_cons_of_mem b List.mem_cons_self)
    simp only [List.flatMap_cons, ← List.append_assoc, hswap]
  | trans hfirst hsecond ihfirst ihsecond =>
    rw [ihfirst h]
    exact ihsecond fun a ha b hb => h a (hfirst.mem_iff.2 ha) b (hfirst.mem_iff.2 hb)

theorem constraintsWith_eq_nil {matching : Matching} {piece field : Text} {operator : Operator}
    (h : (field, operator) ∉ Query.constrained piece) :
    constraintsWith field operator ((Query.tokens piece).filterMap (constraint? matching)) =
      [] := by
  rw [constraintsWith, List.filter_eq_nil_iff]
  intro constraint hconstraint hpair
  obtain ⟨token, htoken, hsome⟩ := List.mem_filterMap.1 hconstraint
  obtain ⟨rfl, rfl⟩ := of_decide_eq_true hpair
  exact h (mem_constrained htoken hsome)

theorem constraintsWith_flatMap_tokens (matching : Matching) (field : Text) (operator : Operator)
    (pieces : List Text) :
    constraintsWith field operator
        ((pieces.flatMap Query.tokens).filterMap (constraint? matching)) =
      pieces.flatMap fun piece =>
        constraintsWith field operator ((Query.tokens piece).filterMap (constraint? matching)) := by
  rw [List.filterMap_flatMap, constraintsWith, List.filter_flatMap]
  rfl

/-- Where only pieces of the same text constrain a field with one operator, the constraints on that
field with that operator are the same in every order of the pieces. -/
theorem constraintsWith_perm {matching : Matching} {pieces others : List Text}
    (hperm : pieces.Perm others) (field : Text) (operator : Operator)
    (h : ∀ piece ∈ pieces, ∀ next ∈ pieces, piece ≠ next →
      (field, operator) ∈ Query.constrained piece → (field, operator) ∉ Query.constrained next) :
    constraintsWith field operator
        ((pieces.flatMap Query.tokens).filterMap (constraint? matching)) =
      constraintsWith field operator
        ((others.flatMap Query.tokens).filterMap (constraint? matching)) := by
  rw [constraintsWith_flatMap_tokens, constraintsWith_flatMap_tokens]
  refine flatMap_eq_of_perm hperm fun piece hpiece next hnext => ?_
  -- of two different pieces one adds nothing here
  by_cases hsame : piece = next
  · rw [hsame]
  · by_cases hpair : (field, operator) ∈ Query.constrained piece
    · have hnil := h piece hpiece next hnext hsame hpair
      rw [constraintsWith_eq_nil hnil, List.append_nil, List.nil_append]
    · rw [constraintsWith_eq_nil hpair, List.append_nil, List.nil_append]

/-- The tokens of joined pieces, in another order of the pieces. -/
theorem tokens_intercalate_perm {pieces others : List Text} (hperm : pieces.Perm others)
    (h : ∀ piece ∈ pieces, Even (piece.count '"')) :
    (Query.tokens (List.intercalate [' '] pieces)).Perm
      (Query.tokens (List.intercalate [' '] others)) := by
  have h' : ∀ piece ∈ others, Even (piece.count '"') :=
    fun piece hpiece => h piece (hperm.mem_iff.2 hpiece)
  rw [Query.tokens_intercalate h, Query.tokens_intercalate h']
  exact hperm.flatMap_right _

theorem exists_compileReport_iff {settings : RenderSettings} {query : Option Text} :
    (∃ report, compileReport policies settings query = .ok report) ↔
      ∃ run, Run.run? policies {} (Query.tokens (query.getD [])) = .ok run := by
  simp only [compileReport_eq_ok_iff, runQuery?]
  constructor
  · rintro ⟨_, run, hrun, -⟩
    exact ⟨run, hrun⟩
  · rintro ⟨run, hrun⟩
    exact ⟨_, run, hrun, rfl⟩

theorem exists_compileReport_of_buildDocument {query : Option Text} {document : Document}
    (settings : RenderSettings) (h : buildDocument policies query = .ok document) :
    ∃ report, compileReport policies settings query = .ok report ∧ report.document = document := by
  rw [buildDocument, map_eq_ok_iff] at h
  obtain ⟨run, hrun, rfl⟩ := h
  exact ⟨run.report settings, compileReport_eq_ok_iff.2 ⟨run, hrun, rfl⟩, rfl⟩

/-- **Pieces in any order.** Whether a query of pieces with paired quotes succeeds does not depend
on their order. If it does, the same tokens are dropped, and unless different pieces constrain one
field with one operator, the documents differ in the order of fields and of comparisons only. -/
theorem compileReport_perm (policies : Policies) (settings : RenderSettings)
    (pieces others : List Text) (hperm : pieces.Perm others)
    (heven : ∀ piece ∈ pieces, Even (piece.count '"')) :
    ((∃ report,
        compileReport policies settings (some (List.intercalate [' '] pieces)) = .ok report) ↔
      ∃ report,
        compileReport policies settings (some (List.intercalate [' '] others)) = .ok report) ∧
    ∀ report other,
      compileReport policies settings (some (List.intercalate [' '] pieces)) = .ok report →
      compileReport policies settings (some (List.intercalate [' '] others)) = .ok other →
        report.droppedTerms.Perm other.droppedTerms ∧
        ((∀ piece ∈ pieces, ∀ next ∈ pieces, piece ≠ next →
            ∀ pair ∈ Query.constrained piece, pair ∉ Query.constrained next) →
          report.document.IsReordering other.document) := by
  have htokens := tokens_intercalate_perm hperm heven
  refine ⟨?_, fun report other hreport hother => ?_⟩
  · rw [exists_compileReport_iff, exists_compileReport_iff]
    exact exists_run?_perm_iff htokens
  · rw [compileReport_eq_ok_iff] at hreport hother
    obtain ⟨run, hrun, rfl⟩ := hreport
    obtain ⟨otherRun, hotherRun, rfl⟩ := hother
    refine ⟨dropped_perm htokens hrun hotherRun, fun hpairs => ?_⟩
    -- a run that ends has grouped its constraints, so the two groupings are compared
    obtain ⟨hcompatible, hdocument⟩ := Run.document_eq_grouped hrun
    obtain ⟨-, hotherDocument⟩ := Run.document_eq_grouped hotherRun
    show run.document.IsReordering otherRun.document
    rw [hdocument, hotherDocument]
    refine isReordering_grouped hcompatible (htokens.filterMap _) fun field c => ?_
    have heven' : ∀ piece ∈ others, Even (piece.count '"') :=
      fun piece hpiece => heven piece (hperm.mem_iff.2 hpiece)
    rw [Option.getD_some, Option.getD_some, Query.tokens_intercalate heven,
      Query.tokens_intercalate heven']
    exact constraintsWith_perm hperm field _
      fun piece hpiece next hnext hne => hpairs piece hpiece next hnext hne _

/-- Comparisons on one field from two pieces, and a comparison that one piece makes twice. -/
theorem compileReport_perm_reversed :
    let pieces : List Text := ["n>a x".toList, "t:\"u v\"".toList, "n<b y n<c".toList]
    let others : List Text := ["n<b y n<c".toList, "t:\"u v\"".toList, "n>a x".toList]
    pieces.Perm others ∧ (∀ piece ∈ pieces, Even (piece.count '"')) ∧
      ∃ report other,
        compileReport {} {} (some (List.intercalate [' '] pieces)) = .ok report ∧
        compileReport {} {} (some (List.intercalate [' '] others)) = .ok other ∧
        report.document.IsReordering other.document ∧
        report.document.fields =
          [(['n'], .comparisons [(.greater, .string ['a']), (.less, .string ['c'])]),
            (['t'], .scalar (.string "u v".toList))] ∧
        other.document.fields =
          [(['n'], .comparisons [(.less, .string ['c']), (.greater, .string ['a'])]),
            (['t'], .scalar (.string "u v".toList))] := by
  intro pieces others
  have hperm : pieces.Perm others := by decide
  have heven : ∀ piece ∈ pieces, Even (piece.count '"') := by decide
  have hpairs : ∀ piece ∈ pieces, ∀ next ∈ pieces, piece ≠ next →
      ∀ pair ∈ Query.constrained piece, pair ∉ Query.constrained next := by decide +kernel
  obtain ⟨report, hreport, hdocument⟩ := exists_compileReport_of_buildDocument {}
    (show buildDocument {} (some (List.intercalate [' '] pieces)) =
      .ok ⟨[(['n'], .comparisons [(.greater, .string ['a']), (.less, .string ['c'])]),
        (['t'], .scalar (.string "u v".toList))]⟩ by decide +kernel)
  obtain ⟨other, hother, hotherDocument⟩ := exists_compileReport_of_buildDocument {}
    (show buildDocument {} (some (List.intercalate [' '] others)) =
      .ok ⟨[(['n'], .comparisons [(.less, .string ['c']), (.greater, .string ['a'])]),
        (['t'], .scalar (.string "u v".toList))]⟩ by decide +kernel)
  refine ⟨hperm, heven, report, other, hreport, hother, ?_, ?_, ?_⟩
  · have hreports := (compileReport_perm {} {} pieces others hperm heven).2
    exact (hreports report other hreport hother).2 hpairs
  · rw [hdocument]
  · rw [hotherDocument]

end SearchFilter
