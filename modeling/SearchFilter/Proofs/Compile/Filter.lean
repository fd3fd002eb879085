import SearchFilter.Proofs.Compile.Outcome
import SearchFilter.Proofs.Document.Rendering
import SearchFilter.Proofs.Json.Characters

/-!
# What a query can write into its filter

Field names and strings are the only parts of a query that come into the text of a filter as they
are, and each of them stays in a literal of its own. Whatever it holds, a query can therefore choose
names and values, and nothing else: neither a member that is no condition, nor a key besides the
comparisons, nor a character between them.

* `Document.isFilter_toJson`: the JSON value of a proper document is a filter.
* `compileQuery_isConfined`: the text of a filter reads as one, on one line and without white space
  outside its literals.
-/

namespace SearchFilter

/-! ### The form of a filter -/

/-- A string, a number or a truth value. -/
inductive Json.IsPlain : Json → Prop
  | string (text : Text) : IsPlain (.string text)
  | number (x : Binary64) : IsPlain (.number x)
  | boolean (b : Bool) : IsPlain (.boolean b)

/-- What a filter may hold for a field: a plain value, or at least one comparison with a plain
value. -/
inductive Json.IsCondition : Json → Prop
  | plain {value : Json} (h : value.IsPlain) : IsCondition value
  | comparisons {members : List (Text × Json)} (hne : members ≠ [])
      (hnodup : (members.map Prod.fst).Nodup)
      (hkeys : ∀ key ∈ members.map Prod.fst, key ∈ Comparison.filterKeys)
      (hvalues : ∀ member ∈ members, member.2.IsPlain) : IsCondition (.object members)

/-- An object that holds a condition for each of its fields. -/
inductive Json.IsFilter : Json → Prop
  | object {members : List (Text × Json)} (hnodup : (members.map Prod.fst).Nodup)
      (hconditions : ∀ member ∈ members, member.2.IsCondition) : IsFilter (.object members)

theorem Value.isPlain_toJson (value : Value) : value.toJson.IsPlain := by
  cases value with
  | number x => exact .number x
  | boolean b => exact .boolean b
  | string text => exact .string text

namespace Document

theorem isCondition_entryJson {entry : Entry} (h : entry.IsProper) :
    (entryJson entry).IsCondition := by
  cases h with
  | scalar value => exact .plain value.isPlain_toJson
  | @comparisons values hne hnodup hkeys =>
    have hnames : (values.map comparisonMember).map Prod.fst =
        values.keys.map Comparison.filterKey := by
      rw [OrderedMap.keys, List.map_map, List.map_map]
      rfl
    refine .comparisons (mt List.map_eq_nil_iff.1 hne) (hnames.symm ▸ hnodup)
      (hnames.symm ▸ hkeys) ?_
    exact List.forall_mem_map.2 fun pair _ => pair.2.isPlain_toJson

/-- The JSON value of a proper document is a filter. -/
theorem isFilter_toJson {document : Document} (h : document.IsProper) :
    document.toJson.IsFilter := by
  have hnames : (document.fields.map fun pair => (pair.1, entryJson pair.2)).map Prod.fst =
      document.names := List.map_map
  refine .object (hnames.symm ▸ h.names) ?_
  exact List.forall_mem_map.2 fun pair hpair => isCondition_entryJson (h.entries pair hpair)

end Document

/-! ### The text of a filter -/

/-- The document of a run is proper at every point. -/
theorem Run.isProper_document {policies : Policies} {run reached : Run} {tokens : List Text}
    (hstart : run.document.IsProper) (h : run.run? policies tokens = .ok reached) :
    reached.document.IsProper := by
  refine run?_induction (motive := fun state => state.document.IsProper) hstart
    (fun state token next hstate htakes => ?_) h
  cases htakes with
  | drop hterm hpolicy => exact hstate
  | apply hterm hvalue hadd => exact Document.isProper_add hstate hadd

/-- One filter on one line: the text reads as a filter, it has no control character, no white space
outside its literals and, if it is held to ASCII, nothing but printable ASCII. -/
structure IsConfined (style : Json.Style) (text : Text) : Prop where
  reads : ∃ value, Json.ofText? text = some value ∧ value.IsFilter
  visible : ∀ c ∈ text, 0x20 ≤ c.toNat
  unpadded : ∀ c ∈ Json.bare text, Text.isBlank c = false
  ascii : style.asciiOnly = true → ∀ c ∈ text, 0x20 ≤ c.toNat ∧ c.toNat ≤ 0x7E

theorem isConfined_text {style : Json.Style} (h : style.IsCompact) {document : Document}
    (hproper : document.IsProper) (hfinite : document.toJson.isFinite = true) :
    IsConfined style (document.toJson.text style) where
  reads := ⟨_, Json.ofText?_text h.isPadded hfinite, Document.isFilter_toJson hproper⟩
  visible := fun _ hc => (Json.bounds_of_mem_text h hfinite hc).1
  unpadded := fun _ hc => Json.not_isBlank_of_mem_bare_text h hfinite hc
  ascii := fun hascii _ hc =>
    have hbounds := Json.bounds_of_mem_text h hfinite hc
    ⟨hbounds.1, hbounds.2 hascii⟩

/-- The numbers of a document that was built are finite, so that it is rendered with any settings,
and as one text whether or not other numbers would be allowed. Unless the separators are other than
a comma and a colon, that text is confined, whatever the query holds. -/
theorem compileQuery_isConfined (policies : Policies) (query : Option Text) (document : Document)
    (h : buildDocument policies query = .ok document) :
    document.toJson.isFinite = true ∧
      (∀ settings : RenderSettings,
        document.render settings = .ok (document.toJson.text settings.style) ∧
          compileQuery policies settings query = .ok (document.toJson.text settings.style)) ∧
      ∀ settings : RenderSettings, settings.style.itemSeparator = [','] →
        settings.style.keySeparator = [':'] →
          ∃ text, compileQuery policies settings query = .ok text ∧
            Json.ofText? text = some document.toJson ∧ IsConfined settings.style text := by
  rw [buildDocument] at h
  cases hrun : runQuery? policies query with
  | error failure =>
    rw [hrun] at h
    cases h
  | ok run =>
    rw [hrun] at h
    obtain rfl : run.document = document := Except.ok.inj h
    have hfinite : run.document.toJson.isFinite = true := Run.isFinite_document rfl hrun
    have hproper : run.document.IsProper := Run.isProper_document Document.isProper_empty hrun
    -- rendering can only fail for a number that is not finite, whatever the settings are
    have htext : ∀ settings : RenderSettings,
        compileQuery policies settings query = .ok (run.document.toJson.text settings.style) := by
      intro settings
      rw [compileQuery_eq, hrun]
      rfl
    refine ⟨hfinite, fun settings => ⟨?_, htext settings⟩, fun settings hitem hkey => ?_⟩
    · exact Document.render_eq_ok_iff.2 ⟨Or.inr hfinite, rfl⟩
    · have hcompact : settings.style.IsCompact := ⟨hitem, hkey⟩
      exact ⟨_, htext settings, Json.ofText?_text hcompact.isPadded hfinite,
        isConfined_text hcompact hproper hfinite⟩

/-- Braces, backslashes, a line feed and a delete character in a query, and numbers at either end of
their range. -/
theorem compileQuery_isConfined_escapes :
    let query : Text := "\\\x7b\n:\"\x7d,\\\" n>=1e308 n!:-0 é:\x7f".toList
    let settings : RenderSettings := ⟨⟨[','], [':'], true⟩, true⟩
    let document : Document :=
      ⟨[("\\\x7b\n".toList, .scalar (.string "\x7d,\\".toList)),
        (['n'], .comparisons [(.greaterOrEqual, .number (Binary64.ofDecimal ⟨false, 1, 308⟩)),
          (.notEqual, .number (Binary64.zero true))]),
        (['é'], .scalar (.string ['\x7f']))]⟩
    let text : Text :=
      "\x7b\"\\\\\x7b\\n\":\"\x7d,\\\\\",\"n\":\x7b\"$gte\":1e+308,\"$ne\":-0.0\x7d,".toList ++
        "\"\\u00e9\":\"\\u007f\"\x7d".toList
    buildDocument {} (some query) = .ok document ∧
      compileQuery {} settings (some query) = .ok text ∧ IsConfined settings.style text := by
  intro query settings document text
  have hdocument : buildDocument {} (some query) = .ok document := by decide +kernel
  have htext : compileQuery {} settings (some query) = .ok text := by decide +kernel
  obtain ⟨-, -, hconfined⟩ := compileQuery_isConfined {} (some query) document hdocument
  obtain ⟨written, hwritten, -, hwrittenConfined⟩ := hconfined settings rfl rfl
  rw [htext] at hwritten
  obtain rfl : text = written := Except.ok.inj hwritten
  exact ⟨hdocument, htext, hwrittenConfined⟩

end SearchFilter
