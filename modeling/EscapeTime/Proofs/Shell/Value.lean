import EscapeTime.Proofs.Formula.Spelling
import EscapeTime.Shell.Session

namespace EscapeTime.Shell

/-!
# Asking for a value

A line may ask for the value of a formula at a point: behind the command stand the formula and two
numbers. The line is split into words and the formula joined again from all but the last two, which
keeps its normal form. So what is evaluated is the formula as it was typed.
-/

open Text Formula

/-- The line asks for the value of a formula at the point that two words give. The command ends with
a space. There may be blanks at the ends of the line, and there are some before each of the
words. -/
structure Asks (line formula z c : List Char) : Prop where
  layout : ∃ lead gap gap' trail, (∀ b ∈ lead ++ gap ++ gap' ++ trail, isBlank b) ∧
    gap ≠ [] ∧ gap' ≠ [] ∧
    line = lead ++ (":eval ".toList ++ (formula ++ gap ++ z ++ gap' ++ c)) ++ trail
  formula : ∃ x ∈ formula, isBlank x = false
  z : z ≠ [] ∧ ∀ x ∈ z, isBlank x = false
  c : c ≠ [] ∧ ∀ x ∈ c, isBlank x = false

/-- What is shown of the value of a formula at the point that two words give. -/
def valueAt (policy : Policy) (formula : String) (z c : List Char) : Output :=
  match readComplex? z, readComplex? c with
  | some z, some c =>
    match evaluate policy formula z c with
    | .ok v => .say (v.text ++ "\n")
    | .error e => .complain (e.message ++ "\n")
  | _, _ => .complain "Numbers must look like 1.5 or 1.5,-2\n"

lemma valueAt_congr {s t : String} (h : ReadAlike s t) (policy : Policy) (z c : List Char) :
    valueAt policy t z c = valueAt policy s z c := by
  simp only [valueAt, evaluate, h.compileWith]

lemma splitOnce_append {c : Char} {front : List Char} (h : c ∉ front) (back : List Char) :
    splitOnce c (front ++ c :: back) = (front, some back) := by
  have hfront : ∀ x ∈ front, (x != c) = true := fun x hx => by
    simpa using fun heq : x = c => h (heq ▸ hx)
  rw [splitOnce, List.dropWhile_append_of_pos hfront, List.takeWhile_append_of_pos hfront]
  simp

lemma getLast?_append_of_ne_nil {back : List Char} (h : back ≠ []) (front : List Char) :
    (front ++ back).getLast? = back.getLast? := by
  rw [List.getLast?_append, List.getLast?_eq_some_getLast h, Option.some_or]

/-- The last two words are the point, and those before them are joined to the formula. -/
lemma showValue_of_words (policy : Policy) {rest z c : List Char} {ws : List (List Char)}
    (hws : ws ≠ []) (h : words rest = ws ++ [z, c]) :
    showValue policy rest = valueAt policy (" ".intercalate (ws.map String.ofList)) z c := by
  obtain ⟨w, others, hreverse⟩ := List.exists_cons_of_ne_nil (List.reverse_ne_nil_iff.2 hws)
  have hjoined : (w :: others).reverse = ws := by rw [← hreverse, List.reverse_reverse]
  have hwords : (words rest).reverse = c :: z :: w :: others := by
    rw [h, List.reverse_append, hreverse]
    rfl
  rw [showValue, hwords, ← hjoined]
  rfl

lemma command_eval (policy : Policy) (rest : List Char) :
    command policy ":eval" (some rest) = .next policy (showValue policy rest) := by
  simp [command]

/-- A line that asks for a value is answered with the value of the formula as it was typed. -/
lemma turn_of_asks (policy : Policy) {line formula : String} {z c : List Char}
    (h : Asks line.toList formula.toList z c) :
    turn policy line = .next policy (valueAt policy formula z c) := by
  obtain ⟨⟨lead, gap, gap', trail, hblank, hgap, hgap', hline⟩, ⟨x, hx, hsolid⟩, hz, hc⟩ := h
  simp only [List.forall_mem_append] at hblank
  obtain ⟨⟨⟨hlead, hbetween⟩, hbetween'⟩, htrail⟩ := hblank
  set rest := formula.toList ++ gap ++ z ++ gap' ++ c with hrest
  have hwords : words rest = words formula.toList ++ [z, c] := by
    rw [hrest, words_append_blank hbetween' hgap', words_append_blank hbetween hgap,
      words_of_solid hz.1 hz.2, words_of_solid hc.1 hc.2, List.append_assoc]
    rfl
  have hformula : words formula.toList ≠ [] := fun hnil => by
    have := words_eq_nil_iff.1 hnil x hx
    rw [hsolid] at this
    cases this
  have htrim : trim line.toList = [':', 'e', 'v', 'a', 'l'] ++ ' ' :: rest := by
    rw [hline]
    refine trim_append hlead htrail (by simp) ?_ ?_
    · intro d hd
      obtain rfl : ':' = d := by simpa using hd
      decide
    · intro d hd
      rw [hrest, ← List.append_assoc, getLast?_append_of_ne_nil hc.1] at hd
      exact hc.2 d (List.mem_of_mem_getLast? hd)
  -- the first space of the trimmed line is the one that ends the command
  have hsplit := splitOnce_append (show ' ' ∉ [':', 'e', 'v', 'a', 'l'] by decide) rest
  have hword : String.ofList [':', 'e', 'v', 'a', 'l'] = ":eval" := by decide
  rw [turn, htrim]
  simp only [List.cons_append, List.nil_append] at hsplit ⊢
  simp only [hsplit, hword, Option.map_some]
  rw [command_eval, showValue_of_words policy hformula ((words_trim rest).trans hwords),
    valueAt_congr (readAlike_words formula)]

/-- **Only the normal form counts.** The normal form of a text is its own normal form and has
neither blanks nor the minus sign of mathematics. Another spelling has the same normal form, and the
same is made of it: the tree, what is wrong and where, the kernel. So is a formula that was split
into words and joined again, and a session that is asked for a value evaluates the formula as it was
typed. -/
theorem reading_of_normal_form :
    (∀ s : List Char, normalize (normalize s) = normalize s ∧
        ∀ c ∈ normalize s, isBlank c = false ∧ c ≠ '−') ∧
      (∀ s t : String, Respelled s.toList t.toList →
        normalize t.toList = normalize s.toList ∧ ReadAlike s t) ∧
      (∀ s : String, ReadAlike s (" ".intercalate ((words s.toList).map String.ofList))) ∧
      ∀ (policy : Policy) (line formula : String) (z c : List Char),
        Asks line.toList formula.toList z c →
          turn policy line = .next policy (valueAt policy formula z c) := by
  refine ⟨fun s => ⟨normalize_normalize s, fun c hc => ?_⟩, fun s t h => ?_, readAlike_words,
    fun policy line formula z c h => turn_of_asks policy h⟩
  · have hsettled := settled_normalize s c hc
    exact ⟨hsettled.1, hsettled.ne_minus⟩
  · exact ⟨h.normalize_eq, readAlike_of_chars_eq h.normalize_eq⟩

/-- A text with a mathematical minus sign and with a blank between a sigma and its word, which is a
final one when the blank is gone; and a line with a tabulator in the formula. -/
theorem reading_of_normal_form_typed :
    normalize " Z − Α Σ ".toList = ['z', '-', 'α', 'ς'] ∧ ReadAlike "Z-ΑΣ" " Z − Α Σ " ∧
      turn .strict "  :eval Z ^\t2 − c  0.5 1,-1 " =
        .next .strict (valueAt .strict "Z ^\t2 − c" ['0', '.', '5'] ['1', ',', '-', '1']) := by
  have hspace : isBlank ' ' := by decide
  have hrespelled : Respelled "Z-ΑΣ".toList " Z − Α Σ ".toList := by
    simp only [String.reduceToList]
    exact .blank hspace (.keep _ (.blank hspace (.minus (.blank hspace (.keep _ (.blank hspace
      (.keep _ (.blank hspace .nil))))))))
  obtain ⟨hnormal, halike⟩ := reading_of_normal_form.2.1 _ _ hrespelled
  refine ⟨hnormal.trans (by decide +kernel), halike, reading_of_normal_form.2.2.2 _ _ _ _ _ ?_⟩
  exact ⟨⟨[' ', ' '], [' ', ' '], [' '], [' '], by simp [hspace], by simp, by simp, by simp⟩,
    ⟨'Z', by simp, by decide⟩, ⟨by simp, by simp [isBlank]⟩, ⟨by simp, by simp [isBlank]⟩⟩

end EscapeTime.Shell
