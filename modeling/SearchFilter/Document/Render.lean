import SearchFilter.Document.Basic
import SearchFilter.Json.Display

/-!
# The text of a document

Compact JSON for a filter, or a display that names the type.

* `render_eq_ok_iff`: a document has a text exactly if its numbers are finite or need not be.
-/

namespace SearchFilter

/-- How a document is rendered (`SerializerSettings`). -/
structure RenderSettings where
  style : Json.Style := .compact
  /-- Whether numbers that are not finite may be written as words. -/
  allowNonFinite : Bool := false
  deriving DecidableEq

namespace Document

/-- The JSON text of a document. -/
def render (settings : RenderSettings) (document : Document) : Except Fault Text :=
  if settings.allowNonFinite || document.toJson.isFinite then
    .ok (document.toJson.text settings.style)
  else .error .numberOutOfRange

/-- The display of a document. -/
def display (document : Document) : Text :=
  "FilterDocument(".toList ++ document.toJson.display ++ [')']

theorem render_eq_ok_iff {settings : RenderSettings} {document : Document} {text : Text} :
    document.render settings = .ok text ↔
      (settings.allowNonFinite = true ∨ document.toJson.isFinite = true) ∧
        text = document.toJson.text settings.style := by
  unfold render
  split
  · next h =>
    rw [Bool.or_eq_true] at h
    exact ⟨fun hwritten => ⟨h, (Except.ok.inj hwritten).symm⟩, fun ⟨_, htext⟩ => by rw [htext]⟩
  · next h =>
    rw [Bool.or_eq_true] at h
    simp [h]

end Document

end SearchFilter
