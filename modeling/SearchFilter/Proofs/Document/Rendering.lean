import SearchFilter.Document.Render
import SearchFilter.Proofs.Document.Attempts
import SearchFilter.Proofs.Json.RoundTrip

/-!
# Rendered documents read back

The text of a document gives the document's own JSON value, member by member, and that value
determines the document: a scalar is never an object, and a comparison is told by its name.

* `toJson_injective`: the JSON value determines the document.
* `hasDistinctNames_toJson`: a document that was built by adding is made of dictionaries.
* `ofText?_render`: the text of a document reads as its JSON value.
-/

namespace SearchFilter

/-- No object in a value has two members of one name, so that the members of each are those of a
dictionary and no reader can drop one for another. -/
inductive Json.HasDistinctNames : Json → Prop where
  | null : HasDistinctNames .null
  | boolean (value : Bool) : HasDistinctNames (.boolean value)
  | integer (value : Int) : HasDistinctNames (.integer value)
  | number (value : Binary64) : HasDistinctNames (.number value)
  | string (value : Text) : HasDistinctNames (.string value)
  | array {items : List Json} (h : ∀ item ∈ items, HasDistinctNames item) :
    HasDistinctNames (.array items)
  | object {members : List (Text × Json)} (hnames : (members.map Prod.fst).Nodup)
    (h : ∀ member ∈ members, HasDistinctNames member.2) : HasDistinctNames (.object members)

theorem Value.hasDistinctNames_toJson (value : Value) : value.toJson.HasDistinctNames := by
  cases value with
  | number x => exact .number x
  | boolean b => exact .boolean b
  | string text => exact .string text

namespace Document

/-! ### The JSON value of a document -/

/-- A comparison and its value as a member. -/
def comparisonMember (pair : Comparison × Value) : Text × Json :=
  (pair.1.filterKey, pair.2.toJson)

theorem comparisonMember_injective : Function.Injective comparisonMember := by
  rintro ⟨c, v⟩ ⟨d, w⟩ h
  obtain ⟨hkey, hvalue⟩ := Prod.mk.inj h
  exact Prod.ext (Comparison.filterKey_inj.1 hkey) (Value.toJson_inj.1 hvalue)

theorem toJson_ne_object (value : Value) (members : List (Text × Json)) :
    value.toJson ≠ .object members := by
  cases value with
  | number x => exact nofun
  | boolean b => exact nofun
  | string text => exact nofun

/-- Distinct entries stay distinct in JSON. -/
theorem entryJson_injective : Function.Injective entryJson := by
  intro entry other h
  cases entry with
  | scalar value =>
    cases other with
    | scalar other => rw [Value.toJson_inj.1 h]
    | comparisons others => exact absurd h (toJson_ne_object value _)
  | comparisons values =>
    cases other with
    | scalar other => exact absurd h.symm (toJson_ne_object other _)
    | comparisons others =>
      have hvalues : values = others :=
        comparisonMember_injective.list_map (Json.object.inj h)
      rw [hvalues]

/-- Distinct documents stay distinct in JSON. -/
theorem toJson_injective : Function.Injective toJson := by
  rintro ⟨fields⟩ ⟨others⟩ h
  have hmember : Function.Injective fun pair : Text × Entry => (pair.1, entryJson pair.2) := by
    rintro ⟨field, entry⟩ ⟨other, otherEntry⟩ hpair
    obtain ⟨hfield, hentry⟩ := Prod.mk.inj hpair
    exact Prod.ext hfield (entryJson_injective hentry)
  have hfields : fields = others := hmember.list_map (Json.object.inj h)
  rw [hfields]

theorem hasDistinctNames_entryJson {entry : Entry} (h : entry.IsProper) :
    (entryJson entry).HasDistinctNames := by
  cases h with
  | scalar value => exact value.hasDistinctNames_toJson
  | @comparisons values hne hnodup hkeys =>
    refine .object ?_ ?_
    · have hnames : (values.map comparisonMember).map Prod.fst =
          values.keys.map Comparison.filterKey := by
        rw [OrderedMap.keys, List.map_map, List.map_map]
        rfl
      exact hnames.symm ▸ hnodup
    · exact List.forall_mem_map.2 fun pair _ => pair.2.hasDistinctNames_toJson

/-- A proper document is made of dictionaries. -/
theorem hasDistinctNames_toJson {document : Document} (h : document.IsProper) :
    document.toJson.HasDistinctNames := by
  refine .object ?_ ?_
  · have hnames : (document.fields.map fun pair => (pair.1, entryJson pair.2)).map Prod.fst =
        document.names := List.map_map
    exact hnames.symm ▸ h.names
  · exact List.forall_mem_map.2 fun pair hpair => hasDistinctNames_entryJson (h.entries pair hpair)

/-! ### Reading back -/

/-- A document with finite numbers is rendered in every style, and in one with the separators of
JSON its text reads back as its JSON value. -/
theorem exists_render_eq_ok {settings : RenderSettings} (h : settings.style.IsPadded)
    {document : Document} (hfinite : document.toJson.isFinite = true) :
    ∃ text, document.render settings = .ok text ∧ Json.ofText? text = some document.toJson :=
  ⟨_, render_eq_ok_iff.2 ⟨Or.inr hfinite, rfl⟩, Json.ofText?_text h hfinite⟩

/-- Rendering loses nothing. The text of a document with finite numbers reads back as its JSON
value; no other document with finite numbers has the same text; and the objects in what was built
by adding, whatever was refused on the way, are dictionaries. -/
theorem ofText?_render (settings : RenderSettings) (h : settings.style.IsPadded) :
    (∀ document : Document, document.toJson.isFinite = true →
      ∃ text, document.render settings = .ok text ∧ Json.ofText? text = some document.toJson) ∧
    (∀ document other : Document, document.toJson.isFinite = true → other.toJson.isFinite = true →
      document.render settings = other.render settings → document = other) ∧
    ∀ constraints, (attemptAll empty constraints).toJson.HasDistinctNames := by
  refine ⟨fun document hfinite => exists_render_eq_ok h hfinite, ?_, ?_⟩
  · -- one text has one JSON value
    intro document other hfinite hother hrender
    obtain ⟨text, htext, hvalue⟩ := exists_render_eq_ok h hfinite
    obtain ⟨otherText, hotherText, hotherValue⟩ := exists_render_eq_ok h hother
    have hsame : text = otherText := by
      rw [htext, hotherText] at hrender
      exact Except.ok.inj hrender
    rw [hsame, hotherValue] at hvalue
    exact toJson_injective (Option.some.inj hvalue).symm
  · intro constraints
    exact hasDistinctNames_toJson (isProper_attemptAll isProper_empty constraints)

/-- Separators with white space on either side, escapes of every kind, a zero with a sign and a
number with an exponent. -/
theorem ofText?_render_padded :
    let settings : RenderSettings := ⟨⟨[' ', ',', '\n'], ['\t', ':', ' '], true⟩, false⟩
    let document : Document :=
      ⟨[("q\"\\\x7f😀".toList, .comparisons [(.less, .number (Binary64.zero true)),
          (.greater, .string "\x1f\né".toList)]),
        ([], .scalar (.number (Binary64.ofDecimal ⟨false, 15, 21⟩)))]⟩
    let text : Text :=
      "\x7b\"q\\\"\\\\\\u007f\\ud83d\\ude00\"\t: \x7b\"$lt\"\t: -0.0 ,\n".toList ++
        "\"$gt\"\t: \"\\u001f\\n\\u00e9\"\x7d ,\n\"\"\t: 1.5e+22\x7d".toList
    settings.style.IsPadded ∧ document.toJson.isFinite = true ∧
      document.render settings = .ok text ∧ Json.ofText? text = some document.toJson := by
  intro settings document text
  have hspace : ∀ mark, Json.isSpace mark = true → ∀ c ∈ [mark], Json.isSpace c = true :=
    fun _ hmark => List.forall_mem_singleton.2 hmark
  have hstyle : settings.style.IsPadded :=
    ⟨⟨[' '], ['\n'], rfl, hspace ' ' (by decide), hspace '\n' (by decide)⟩,
      ⟨['\t'], [' '], rfl, hspace '\t' (by decide), hspace ' ' (by decide)⟩⟩
  have hfinite : document.toJson.isFinite = true := by decide +kernel
  have hrender : document.render settings = .ok text := by decide +kernel
  obtain ⟨written, hwritten, hvalue⟩ := (ofText?_render settings hstyle).1 document hfinite
  rw [hrender] at hwritten
  rw [← Except.ok.inj hwritten] at hvalue
  exact ⟨hstyle, hfinite, hrender, hvalue⟩

end Document

end SearchFilter
