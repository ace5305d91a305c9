import EscapeTime.Picture.Document
import EscapeTime.Proofs.Json.Decode
import EscapeTime.Proofs.Picture.Rgb

namespace EscapeTime

/-!
# Stored colours

A gradient is read back from its document, in any order of the keys, and has the standard colours in
place of those that are left out.
-/

open Json

namespace Rgb

lemma ofJson?_toJson (c : Rgb) : ofJson? c.toJson = some c := by
  simp only [ofJson?, toJson, Json.text, string?, Option.bind_some, ofText_text]
  rfl

lemma orderFree_ofJson? : OrderFree ofJson? := by
  intro v w h
  rw [ofJson?, ofJson?, orderFree_string? h]

@[simp] lemma writable_toJson (c : Rgb) : Writable c.toJson := writable_text c.text

end Rgb

namespace Gradient

/-- The gradient with the standard colours where a name is left out. -/
def without (omitted : String → Bool) (g : Gradient) : Gradient where
  low := if omitted "low" then standard.low else g.low
  high := if omitted "high" then standard.high else g.high
  interior := if omitted "interior" then standard.interior else g.interior

lemma ofJson?_leaveOut (g : Gradient) (omitted : String → Bool) :
    ofJson? (g.toJson.leaveOut omitted) = some (g.without omitted) := by
  have hfields := fields?_leaveOut [("low", g.low.toJson), ("high", g.high.toJson),
    ("interior", g.interior.toJson)] (by simp) omitted
  simp only [List.map_cons, List.map_nil] at hfields
  simp only [ofJson?, toJson, hfields, Option.bind_eq_bind, Option.bind_some,
    orDefault_ite (Rgb.ofJson?_toJson _)]
  rfl

lemma orderFree_ofJson? : OrderFree ofJson? := by
  intro v w h
  refine bind_congr_rel (fields?_rel _ h) ?_
  rintro _ _ (- | ⟨hlow, - | ⟨hhigh, - | ⟨hinterior, - | -⟩⟩⟩)
  on_goal 4 => simp only [Rgb.orderFree_ofJson?.orDefault _ hlow,
    Rgb.orderFree_ofJson?.orDefault _ hhigh, Rgb.orderFree_ofJson?.orDefault _ hinterior]
  all_goals rfl

@[simp] lemma writable_toJson (g : Gradient) : Writable g.toJson := writable_record (by simp)

end Gradient

end EscapeTime
