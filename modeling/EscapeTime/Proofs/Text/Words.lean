import EscapeTime.Text.Basic
import Mathlib.Tactic.Common

namespace EscapeTime.Text

/-!
# Words

A blank parts the words before it from those behind it, and blanks at the ends of a text make no
difference. What the words hold together is the text without its blanks, and that is still so after
they are joined again with blanks between them.
-/

variable {cs front back : List Char}

/-- The text without its blanks. -/
def shown (cs : List Char) : List Char := cs.filter (!isBlank ·)

lemma shown_append (front back : List Char) : shown (front ++ back) = shown front ++ shown back :=
  List.filter_append ..

lemma shown_of_blank (h : ∀ b ∈ cs, isBlank b) : shown cs = [] :=
  List.filter_eq_nil_iff.2 fun b hb => by simp [h b hb]

lemma shown_of_solid (h : ∀ c ∈ cs, isBlank c = false) : shown cs = cs :=
  List.filter_eq_self.2 fun c hc => by simp [h c hc]

/-! ### Splitting -/

@[simp] lemma words_nil : words [] = [] := by simp [words]

lemma words_append_cons {b : Char} (hb : isBlank b) (front back : List Char) :
    words (front ++ b :: back) = words front ++ words back := by
  rw [words, List.splitOnP_append_cons front back hb, List.filter_append]
  rfl

lemma words_of_blank (h : ∀ b ∈ cs, isBlank b) : words cs = [] := by
  induction cs with
  | nil => exact words_nil
  | cons b rest ih =>
    obtain ⟨hb, hrest⟩ := List.forall_mem_cons.1 h
    have hfirst := words_append_cons hb [] rest
    rwa [List.nil_append, ih hrest, List.append_nil, words_nil] at hfirst

/-- Blanks between two texts part their words. -/
lemma words_append_blank {gap : List Char} (hgap : ∀ b ∈ gap, isBlank b) (hne : gap ≠ [])
    (front back : List Char) : words (front ++ gap ++ back) = words front ++ words back := by
  induction gap generalizing front with
  | nil => exact absurd rfl hne
  | cons b rest ih =>
    obtain ⟨hb, hrest⟩ := List.forall_mem_cons.1 hgap
    rw [List.append_assoc, List.cons_append, words_append_cons hb]
    by_cases hempty : rest = []
    · rw [hempty, List.nil_append]
    · have hback := ih hrest hempty []
      rw [List.nil_append, words_nil, List.nil_append] at hback
      rw [hback]

lemma words_append_right (hback : ∀ b ∈ back, isBlank b) : words (front ++ back) = words front := by
  by_cases hempty : back = []
  · rw [hempty, List.append_nil]
  · have h := words_append_blank hback hempty front []
    rwa [List.append_nil, words_nil, List.append_nil] at h

lemma words_append_left (hfront : ∀ b ∈ front, isBlank b) : words (front ++ back) = words back := by
  by_cases hempty : front = []
  · rw [hempty, List.nil_append]
  · have h := words_append_blank hfront hempty [] back
    rwa [List.nil_append, words_nil, List.nil_append] at h

lemma words_of_solid (hne : cs ≠ []) (h : ∀ c ∈ cs, isBlank c = false) : words cs = [cs] := by
  rw [words, List.splitOnP_eq_singleton h]
  simp [hne]

/-! ### Cutting off the ends -/

/-- A text is its trimmed middle between blanks. -/
lemma exists_trim (cs : List Char) :
    ∃ lead trail, cs = lead ++ trim cs ++ trail ∧ (∀ b ∈ lead, isBlank b) ∧
      ∀ b ∈ trail, isBlank b := by
  refine ⟨cs.takeWhile isBlank, ((cs.dropWhile isBlank).reverse.takeWhile isBlank).reverse,
    ?_, ?_, ?_⟩
  · rw [List.append_assoc, trim, ← List.reverse_append, List.takeWhile_append_dropWhile,
      List.reverse_reverse, List.takeWhile_append_dropWhile]
  · exact List.all_eq_true.1 List.all_takeWhile
  · exact fun b hb => List.all_eq_true.1 List.all_takeWhile b (List.mem_reverse.1 hb)

lemma words_trim (cs : List Char) : words (trim cs) = words cs := by
  obtain ⟨lead, trail, hcs, hlead, htrail⟩ := exists_trim cs
  conv_rhs => rw [hcs]
  rw [words_append_right htrail, words_append_left hlead]

lemma dropWhile_blank_append (hfront : ∀ b ∈ front, isBlank b)
    (hback : ∀ c ∈ back.head?, isBlank c = false) :
    (front ++ back).dropWhile isBlank = back := by
  rw [List.dropWhile_append_of_pos hfront]
  cases back with
  | nil => rfl
  | cons c rest => rw [List.dropWhile_cons_of_neg (by simp [hback c rfl])]

/-- Blanks around a text that begins and ends with none are cut off. -/
lemma trim_append {lead trail : List Char} (hlead : ∀ b ∈ lead, isBlank b)
    (htrail : ∀ b ∈ trail, isBlank b) (hne : cs ≠ []) (hhead : ∀ c ∈ cs.head?, isBlank c = false)
    (hlast : ∀ c ∈ cs.getLast?, isBlank c = false) : trim (lead ++ cs ++ trail) = cs := by
  have hfront : ∀ c ∈ (cs ++ trail).head?, isBlank c = false := by
    obtain ⟨c, rest, rfl⟩ := List.exists_cons_of_ne_nil hne
    exact hhead
  have hend : ∀ c ∈ cs.reverse.head?, isBlank c = false := by
    rwa [List.head?_reverse]
  rw [trim, List.append_assoc, dropWhile_blank_append hlead hfront, List.reverse_append,
    dropWhile_blank_append (fun b hb => htrail b (List.mem_reverse.1 hb)) hend,
    List.reverse_reverse]

lemma isBlank_of_getLast?_trim {c : Char} (h : c ∈ (trim cs).getLast?) : isBlank c = false := by
  rw [trim, List.getLast?_reverse] at h
  have hhead := List.head?_dropWhile_not isBlank (cs.dropWhile isBlank).reverse
  rw [Option.mem_def.1 h] at hhead
  simpa using hhead

lemma isBlank_of_head?_trim {c : Char} (h : c ∈ (trim cs).head?) : isBlank c = false := by
  have hprefix : trim cs <+: cs.dropWhile isBlank := by
    rw [trim, ← List.reverse_suffix, List.reverse_reverse]
    exact List.dropWhile_suffix _
  obtain ⟨rest, hrest⟩ := List.head?_eq_some_iff.1 h
  obtain ⟨trail, htrail⟩ := hprefix
  have hhead := List.head?_dropWhile_not isBlank cs
  rw [← htrail, hrest] at hhead
  simpa using hhead

/-- Blanks before a text that has been trimmed are cut off. -/
lemma trim_append_trim {lead : List Char} (hlead : ∀ b ∈ lead, isBlank b) (hne : trim cs ≠ []) :
    trim (lead ++ trim cs) = trim cs := by
  have htrail : ∀ b ∈ ([] : List Char), isBlank b := by simp
  have h := trim_append hlead htrail hne (fun c => isBlank_of_head?_trim) fun c =>
    isBlank_of_getLast?_trim
  rwa [List.append_nil] at h

/-- Behind a text that begins with no blank, only the blanks at the end are cut off. -/
lemma exists_trim_append (hhead : ∃ c ∈ front.head?, isBlank c = false) (hne : trim back ≠ []) :
    ∃ lead, (∀ b ∈ lead, isBlank b) ∧ trim (front ++ back) = front ++ (lead ++ trim back) := by
  obtain ⟨lead, trail, hback, hlead, htrail⟩ := exists_trim back
  refine ⟨lead, hlead, ?_⟩
  have hlast : ∀ c ∈ (trim back).getLast?, isBlank c = false := fun c => isBlank_of_getLast?_trim
  generalize trim back = cs at hback hne hlast ⊢
  subst hback
  obtain ⟨x, hx, hsolid⟩ := hhead
  obtain ⟨rest, rfl⟩ := List.head?_eq_some_iff.1 hx
  have htrim := trim_append (show ∀ b ∈ ([] : List Char), isBlank b by simp) htrail
    (show x :: rest ++ (lead ++ cs) ≠ [] by simp) (fun c hc => ?_) (fun c hc => hlast c ?_)
  · simpa using htrim
  · obtain rfl : x = c := by simpa using hc
    exact hsolid
  · rwa [← List.append_assoc, List.getLast?_append, List.getLast?_eq_some_getLast hne,
      Option.some_or, ← List.getLast?_eq_some_getLast hne] at hc

/-! ### Joining -/

lemma flatten_splitOnP (cs : List Char) : (cs.splitOnP isBlank).flatten = shown cs := by
  induction cs with
  | nil => rfl
  | cons c rest ih =>
    rw [List.splitOnP_cons_eq_if_modifyHead]
    by_cases hc : isBlank c
    · simp [hc, ih, shown]
    · obtain ⟨piece, pieces, hpieces⟩ :=
        List.exists_cons_of_ne_nil (List.splitOnP_ne_nil isBlank rest)
      rw [hpieces, List.flatten_cons] at ih
      simp [hc, hpieces, ih, shown]

/-- The words hold all of the text but its blanks. -/
lemma flatten_words (cs : List Char) : (words cs).flatten = shown cs := by
  rw [words, List.flatten_filter_not_isEmpty, flatten_splitOnP]

lemma words_eq_nil_iff : words cs = [] ↔ ∀ b ∈ cs, isBlank b := by
  refine ⟨fun h b hb => ?_, words_of_blank⟩
  have hshown : shown cs = [] := by rw [← flatten_words, h, List.flatten_nil]
  by_contra hsolid
  exact List.filter_eq_nil_iff.1 hshown b hb (by simpa using hsolid)

lemma shown_intercalate {gap : List Char} (hgap : ∀ b ∈ gap, isBlank b)
    (pieces : List (List Char)) :
    shown (gap.intercalate pieces) = shown pieces.flatten := by
  induction pieces with
  | nil => rfl
  | cons piece rest ih =>
    cases rest with
    | nil => simp [List.intercalate]
    | cons next rest =>
      rw [List.intercalate_cons_cons, shown_append, shown_append, shown_of_blank hgap, ih,
        List.append_nil, ← shown_append, ← List.flatten_cons]

/-- Words that are joined again show the same text. -/
lemma shown_intercalate_words {gap : List Char} (hgap : ∀ b ∈ gap, isBlank b) (cs : List Char) :
    shown (gap.intercalate (words cs)) = shown cs := by
  rw [shown_intercalate hgap, flatten_words]
  exact shown_of_solid fun c hc => by simpa using (List.mem_filter.1 hc).2

end EscapeTime.Text
