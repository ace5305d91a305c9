import EscapeTime.Formula.Document
import EscapeTime.Proofs.Json.Decode
import Mathlib.Order.MinMax

namespace EscapeTime

/-!
# Stored expressions

An expression is read back from its document as long as no more containers nest in it than may, which
are as many as there are nodes on the longest path down to a leaf. A higher expression is refused as a
whole. Neither depends on the order in which the nodes list their parts.
-/

lemma NodeKind.orderFree_ofJson? (nested : Bool) : Json.OrderFree (ofJson? nested) :=
  fun _ _ h => by cases h <;> rfl

namespace Expr

open Json

/-! ### Any order of keys -/

lemma orderFree_ofJsonWithin? (room : Nat) (nested : Bool) :
    OrderFree (ofJsonWithin? nested room) := by
  induction room generalizing nested with
  | zero => exact fun _ _ _ => rfl
  | succ room ih =>
    intro v w h
    refine bind_congr_rel (variant?_rel h) ?_
    rintro ⟨kind, body⟩ ⟨kind', body'⟩ ⟨hkind, hbody⟩
    simp only [NodeKind.orderFree_ofJson? nested hkind]
    cases NodeKind.ofJson? nested kind' with
    | none => rfl
    | some k =>
      simp only [Option.bind_eq_bind, Option.bind_some]
      cases k with
      | literal | raw =>
        refine bind_congr_rel (fields?_rel _ hbody) ?_
        rintro _ _ (- | ⟨htext, - | -⟩)
        · rfl
        · simp only [orderFree_string?.required htext]
        · rfl
      | symbol =>
        refine bind_congr_rel (fields?_rel _ hbody) ?_
        rintro _ _ (- | ⟨hsymbol, - | -⟩)
        · rfl
        · simp only [(orderFree_name? true).required hsymbol]
        · rfl
      | binary =>
        refine bind_congr_rel (fields?_rel _ hbody) ?_
        rintro _ _ (- | ⟨hop, - | ⟨hleft, - | ⟨hright, - | -⟩⟩⟩)
        · rfl
        · rfl
        · rfl
        · simp only [(orderFree_name? true).required hop, (ih true).required hleft,
            (ih true).required hright]
        · rfl
      | call =>
        refine bind_congr_rel (fields?_rel _ hbody) ?_
        rintro _ _ (- | ⟨hfunc, - | ⟨hoperand, - | -⟩⟩)
        · rfl
        · rfl
        · simp only [(orderFree_name? true).required hfunc, (ih true).required hoperand]
        · rfl

lemma orderFree_ofJson? : OrderFree ofJson? := by
  intro v w h
  rw [ofJson?, ofJson?, sound_reordered depthLimit h, orderFree_ofJsonWithin? depthLimit false h]

/-! ### Writing and reading -/

lemma writable_toJson (e : Expr) : Writable e.toJson := by
  induction e with
  | literal | symbol | raw => exact writable_record (by simp)
  | binary op left right ihl ihr => exact writable_record (by simp [ihl, ihr])
  | call f operand ih => exact writable_record (by simp [ih])

/-- As many containers nest in the document as the expression is high. -/
lemma sound_toJson (e : Expr) (room : Nat) : sound room e.toJson = decide (e.height ≤ room) := by
  induction e generalizing room with
  | literal | symbol | raw => cases room <;> simp [toJson, sound, record, height, Json.text]
  | binary op left right ihl ihr =>
    cases room <;> simp [toJson, sound, record, height, Json.text, ihl, ihr]
  | call f operand ih => cases room <;> simp [toJson, sound, record, height, Json.text, ih]

lemma ofJsonWithin?_binary (nested : Bool) (room : Nat) (op : Operator) (left right : Expr) :
    ofJsonWithin? nested (room + 1) (binary op left right).toJson =
      (ofJsonWithin? true room left.toJson).bind fun l =>
        (ofJsonWithin? true room right.toJson).bind fun r => some (binary op l r) := by
  cases op <;> rfl

lemma ofJsonWithin?_call (nested : Bool) (room : Nat) (f : Func) (operand : Expr) :
    ofJsonWithin? nested (room + 1) (call f operand).toJson =
      (ofJsonWithin? true room operand.toJson).bind fun x => some (call f x) := by
  cases f <;> rfl

lemma ofJsonWithin?_toJson (e : Expr) (nested : Bool) {room : Nat} (h : e.height ≤ room) :
    ofJsonWithin? nested room e.toJson = some e := by
  induction e generalizing nested room with
  | literal text | raw text =>
    cases room with
    | zero => simp [height] at h
    | succ room => rfl
  | symbol s =>
    cases room with
    | zero => simp [height] at h
    | succ room => cases s <;> rfl
  | binary op left right ihl ihr =>
    cases room with
    | zero => simp [height] at h
    | succ room =>
      have hmax : max left.height right.height ≤ room := Nat.le_of_succ_le_succ h
      rw [ofJsonWithin?_binary, ihl true (by omega), ihr true (by omega)]
      rfl
  | call f operand ih =>
    cases room with
    | zero => simp [height] at h
    | succ room =>
      rw [ofJsonWithin?_call, ih true (Nat.le_of_succ_le_succ h)]
      rfl

/-- What is read is the expression, if it is not too high. -/
lemma ofJson?_toJson (e : Expr) :
    ofJson? e.toJson = if e.height ≤ depthLimit then some e else none := by
  rw [ofJson?, sound_toJson]
  by_cases h : e.height ≤ depthLimit
  · rw [if_pos (by simpa using h), if_pos h, ofJsonWithin?_toJson e false h]
  · rw [if_neg (by simpa using h), if_neg h]

lemma ofText?_reordered {e : Expr} {j : Json} (h : Reordered e.toJson j) :
    ∀ text ∈ [j.compact, j.pretty],
      ofText? (String.ofList text) = if e.height ≤ 127 then some e else none := by
  have hread : ofJson? j = if e.height ≤ 127 then some e else none := by
    rw [← orderFree_ofJson? h]
    exact ofJson?_toJson e
  intro text htext
  have hparse : parse? text = some j := parse?_of_reordered (writable_toJson e) h text htext
  rw [ofText?, String.toList_ofList, hparse, Option.bind_some, hread]

/-- **A stored expression is read back.** From either layout of its document an expression of a height
of at most 127 is read as it was, and a higher one is refused. The keys of every node may stand in any
order. -/
theorem ofText?_toJson (e : Expr) :
    (∀ text ∈ [e.toJson.compact, e.toJson.pretty],
      ofText? (String.ofList text) = if e.height ≤ 127 then some e else none) ∧
    ∀ j, Reordered e.toJson j → ∀ text ∈ [j.compact, j.pretty],
      ofText? (String.ofList text) = if e.height ≤ 127 then some e else none :=
  ⟨ofText?_reordered (.refl e.toJson), fun _ => ofText?_reordered⟩

/-- The parts of each node from last to first, with a quote, a control character and one beyond the
first plane in a leaf; and the two heights at the limit. -/
theorem ofText?_toJson_reversed :
    (let leaf : Json := .record [("text", .text "\"\x01😀"), ("kind", .text "raw_leaf")]
      let node : Json :=
        .record [("operand", leaf), ("func", .text "conj"), ("kind", .text "unary_func")]
      ofText? (String.ofList node.compact) = some (call .conj (raw "\"\x01😀"))) ∧
    (ofText? (String.ofList (Nat.repeat (call .sin) 126 (literal "1")).toJson.compact)).isSome ∧
    ofText? (String.ofList (Nat.repeat (call .sin) 127 (literal "1")).toJson.pretty) = none := by
  refine ⟨?_, ?_, ?_⟩
  · intro leaf node
    have hleaf : Reordered (raw "\"\x01😀").toJson leaf :=
      reordered_reverse (.cons ⟨rfl, .refl _⟩ (.cons ⟨rfl, .refl _⟩ .nil))
    have hnode : Reordered (call .conj (raw "\"\x01😀")).toJson node :=
      reordered_reverse (.cons ⟨rfl, .refl _⟩ (.cons ⟨rfl, .refl _⟩ (.cons ⟨rfl, hleaf⟩ .nil)))
    exact (ofText?_toJson (call .conj (raw "\"\x01😀"))).2 node hnode _ List.mem_cons_self
  · rw [(ofText?_toJson (Nat.repeat (call .sin) 126 (literal "1"))).1 _ List.mem_cons_self,
      if_pos (by decide +kernel)]
    rfl
  · rw [(ofText?_toJson (Nat.repeat (call .sin) 127 (literal "1"))).1 _ (by simp),
      if_neg (by decide +kernel)]

example : String.ofList (call .ch (symbol .imagUnit)).toJson.compact =
    "\x7b\"kind\":\"unary_func\",\"func\":\"ch\",\"operand\":" ++
      "\x7b\"kind\":\"symbol\",\"symbol\":\"ImagUnit\"\x7d\x7d" := by
  decide

end Expr

end EscapeTime
