import EscapeTime.Formula.Parse
import Mathlib.Tactic.Common

namespace EscapeTime

/-!
# Normal form is final

A text in normal form is left as it is when it is read again. This comes down to the table of lower
case: what a row of the table puts out is no blank, no minus sign of mathematics and no capital
sigma, and no row applies to it. Rows are compared by where their code points begin and end; rows
that take every other code point may overlap, as long as they take different ones.
-/

namespace Text.CaseRow

/-- The least code point that the row puts out. -/
def lowest (row : CaseRow) : Nat := (row.first + row.shift).toNat

/-- The greatest code point that the row puts out. -/
def highest (row : CaseRow) : Nat := (row.last + row.shift).toNat

/-- Nothing that the first row puts out is taken by the second. -/
def apart (s t : CaseRow) : Bool :=
  s.highest.blt t.first || t.last.blt s.lowest ||
    ((s.first.beq s.last || s.step.beq 2) && t.step.beq 2 && ((s.lowest + t.first) % 2).beq 1)

/-- Code points that no row may put out: the blanks behind the letters of ASCII, the minus sign of
mathematics, the capital sigma, the capital I with a dot, and those that are no characters. -/
def reserved : List (Nat × Nat) :=
  [(0x85, 0x85), (0xA0, 0xA0), (0x130, 0x130), (0x3A3, 0x3A3), (0x1680, 0x1680), (0x2000, 0x200A),
    (0x2028, 0x2029), (0x202F, 0x202F), (0x205F, 0x205F), (0x2212, 0x2212), (0x3000, 0x3000),
    (0xD800, 0xDFFF)]

/-- All that the row puts out is a character, behind the capitals of ASCII and not reserved. -/
def clean (row : CaseRow) : Bool :=
  Nat.blt 0x60 row.lowest && row.highest.blt 0x110000 &&
    reserved.all fun r => row.highest.blt r.1 || r.2.blt row.lowest

lemma apart_lowerRows : lowerRows.all (fun s => lowerRows.all s.apart) = true := by
  decide +kernel

lemma clean_lowerRows : lowerRows.all clean = true := by
  decide +kernel

variable {s t : CaseRow} {n : Nat}

lemma image_bounds (hs : s.clean) (h : s.applies n) :
    s.lowest ≤ (n + s.shift).toNat ∧ (n + s.shift).toNat ≤ s.highest ∧ 0x60 < s.lowest := by
  simp only [clean, applies, lowest, highest, Bool.and_eq_true, decide_eq_true_eq, Nat.blt_eq] at *
  omega

lemma not_applies_of_apart (hs : s.clean) (hapart : s.apart t) (h : s.applies n) :
    t.applies (n + s.shift).toNat = false := by
  obtain ⟨hlow, hhigh, hpos⟩ := image_bounds hs h
  by_contra hcontra
  simp only [applies, Bool.not_eq_false, Bool.and_eq_true, decide_eq_true_eq, beq_iff_eq] at h hcontra
  simp only [apart, Bool.or_eq_true, Bool.and_eq_true, Nat.blt_eq, Nat.beq_eq] at hapart
  obtain ⟨⟨hfirst, hlast⟩, hstep⟩ := h
  obtain ⟨⟨hfirst', hlast'⟩, hstep'⟩ := hcontra
  rcases hapart with (habove | hbelow) | ⟨⟨hfew, htwo⟩, hodd⟩
  · omega
  · omega
  · -- both rows go in steps of two from starting points of different parity
    rw [htwo] at hstep'
    simp only [lowest] at hlow hpos hodd
    rcases hfew with hone | hstep2
    · omega
    · rw [hstep2] at hstep
      omega

/-- What a row puts out is a character, and none of the reserved ones. -/
lemma image_not_reserved (hs : s.clean) (h : s.applies n) :
    (n + s.shift).toNat.isValidChar ∧
      ∀ r ∈ reserved, (n + s.shift).toNat < r.1 ∨ r.2 < (n + s.shift).toNat := by
  obtain ⟨hlow, hhigh, -⟩ := image_bounds hs h
  simp only [clean, Bool.and_eq_true, List.all_eq_true, Bool.or_eq_true, Nat.blt_eq] at hs
  obtain ⟨⟨-, htop⟩, hreserved⟩ := hs
  have houtside : ∀ r ∈ reserved, (n + s.shift).toNat < r.1 ∨ r.2 < (n + s.shift).toNat := by
    intro r hr
    rcases hreserved r hr with habove | hbelow
    · exact .inl (by omega)
    · exact .inr (by omega)
  refine ⟨?_, houtside⟩
  have hsurrogate := houtside (0xD800, 0xDFFF) (by decide)
  unfold Nat.isValidChar
  omega

end Text.CaseRow

namespace Formula

open Text

/-- The character stands for itself in every text in normal form. -/
def Settled (c : Char) : Prop :=
  isBlank c = false ∧ plainMinus c = c ∧ c ≠ 'Σ' ∧ lowerChar c = [c]

instance : DecidablePred Settled := fun c =>
  inferInstanceAs (Decidable (isBlank c = false ∧ plainMinus c = c ∧ c ≠ 'Σ' ∧ lowerChar c = [c]))

lemma settled_image {s : CaseRow} {n : Nat} (hmem : s ∈ lowerRows) (h : s.applies n) :
    Settled (Char.ofNat (n + s.shift).toNat) := by
  have hclean : s.clean := List.all_eq_true.1 CaseRow.clean_lowerRows s hmem
  obtain ⟨hlow, -, hpos⟩ := CaseRow.image_bounds hclean h
  obtain ⟨hvalid, hreserved⟩ := CaseRow.image_not_reserved hclean h
  have hnone : ∀ t ∈ lowerRows, t.applies (n + s.shift).toNat = false := fun t ht =>
    CaseRow.not_applies_of_apart hclean
      (List.all_eq_true.1 (List.all_eq_true.1 CaseRow.apart_lowerRows s hmem) t ht) h
  generalize (n + s.shift).toNat = m at *
  have hm : (Char.ofNat m).toNat = m := by
    rw [Char.ofNat, dif_pos hvalid]
    rfl
  simp only [CaseRow.reserved, List.forall_mem_cons, List.not_mem_nil, false_imp_iff, implies_true,
    and_true] at hreserved
  refine ⟨?_, ?_, ?_, ?_⟩
  · simp only [isBlank, hm, Bool.or_eq_false_iff, Bool.and_eq_false_iff, decide_eq_false_iff_not,
      beq_eq_false_iff_ne]
    omega
  · rw [plainMinus, hm, if_neg]
    simp only [beq_iff_eq]
    omega
  · intro heq
    have : m = 0x3A3 := by rw [← hm, heq]; rfl
    omega
  · have hfind : (lowerRows.takeWhile (·.first ≤ m)).find? (·.applies m) = none := by
      rw [List.find?_eq_none]
      intro t ht
      rw [hnone t (List.takeWhile_subset _ ht)]
      simp
    rw [lowerChar, hm, if_neg (by simp only [beq_iff_eq]; omega), hfind]

lemma settled_lowerChar {c : Char} (hblank : isBlank c = false) (hminus : plainMinus c = c)
    (hsigma : c ≠ 'Σ') : ∀ d ∈ lowerChar c, Settled d := by
  intro d hd
  by_cases hdot : c.toNat = 0x130
  · have hlower : lowerChar c = ['i', Char.ofNat 0x307] := by simp [lowerChar, hdot]
    rw [hlower] at hd
    rcases List.mem_cons.1 hd with rfl | hd
    · decide +kernel
    · rw [List.mem_singleton.1 hd]
      decide +kernel
  · cases hfind : (lowerRows.takeWhile (·.first ≤ c.toNat)).find? (·.applies c.toNat) with
    | none =>
      have hlower : lowerChar c = [c] := by simp [lowerChar, hdot, hfind]
      rw [hlower] at hd
      rw [List.mem_singleton.1 hd]
      exact ⟨hblank, hminus, hsigma, hlower⟩
    | some row =>
      have hlower : lowerChar c = [Char.ofNat (c.toNat + row.shift).toNat] := by
        simp [lowerChar, hdot, hfind]
      rw [hlower] at hd
      rw [List.mem_singleton.1 hd]
      have happlies : row.applies c.toNat := by simpa using List.find?_some hfind
      exact settled_image (List.takeWhile_subset _ (List.mem_of_find?_eq_some hfind)) happlies

lemma settled_lowerAfter (before : List Char) {cs : List Char}
    (h : ∀ c ∈ cs, isBlank c = false ∧ plainMinus c = c) : ∀ d ∈ lowerAfter before cs, Settled d := by
  induction cs generalizing before with
  | nil => simp [lowerAfter]
  | cons c rest ih =>
    obtain ⟨⟨hblank, hminus⟩, hrest⟩ := List.forall_mem_cons.1 h
    intro d hd
    rcases List.mem_append.1 hd with hhere | hlater
    · by_cases hsigma : c = 'Σ'
      · -- either form of the small sigma is settled
        rw [if_pos (by simpa using hsigma)] at hhere
        split at hhere
        · rw [List.mem_singleton.1 hhere]
          decide +kernel
        · rw [List.mem_singleton.1 hhere]
          decide +kernel
      · rw [if_neg (by simpa using hsigma)] at hhere
        exact settled_lowerChar hblank hminus hsigma d hhere
    · exact ih (c :: before) hrest d hlater

/-- Every character of a text in normal form is settled. -/
theorem settled_normalize (source : List Char) : ∀ d ∈ normalize source, Settled d := by
  refine settled_lowerAfter [] fun c hc => ?_
  obtain ⟨e, he, rfl⟩ := List.mem_map.1 hc
  have hblank : isBlank e = false := by simpa using (List.mem_filter.1 he).2
  by_cases hminus : e.toNat = 0x2212
  · rw [plainMinus, if_pos (by simpa using hminus)]
    decide +kernel
  · have hplain : plainMinus e = e := by rw [plainMinus, if_neg (by simpa using hminus)]
    rw [hplain]
    exact ⟨hblank, hplain⟩

lemma lowerAfter_of_settled (before : List Char) {cs : List Char} (h : ∀ c ∈ cs, Settled c) :
    lowerAfter before cs = cs := by
  induction cs generalizing before with
  | nil => rfl
  | cons c rest ih =>
    obtain ⟨⟨-, -, hsigma, hlower⟩, hrest⟩ := List.forall_mem_cons.1 h
    rw [lowerAfter, if_neg (by simpa using hsigma), hlower, ih (c :: before) hrest]
    rfl

/-- A text of settled characters is in normal form. -/
theorem normalize_of_settled {cs : List Char} (h : ∀ c ∈ cs, Settled c) : normalize cs = cs := by
  have hshown : cs.filter (!isBlank ·) = cs := List.filter_eq_self.2 fun c hc => by simp [(h c hc).1]
  have hplain : cs.map plainMinus = cs := by
    rw [List.map_congr_left fun c hc => (h c hc).2.1, List.map_id']
  rw [normalize, hshown, hplain, lower, lowerAfter_of_settled [] h]

/-- The text is in normal form: some text is read as it. -/
def Normal (text : String) : Prop := ∃ source, chars source = text.toList

lemma Normal.settled {text : String} (h : Normal text) : ∀ c ∈ text.toList, Settled c := by
  obtain ⟨source, hsource⟩ := h
  rw [← hsource]
  exact settled_normalize source.toList

lemma chars_of_settled {text : String} (h : ∀ c ∈ text.toList, Settled c) :
    chars text = text.toList := normalize_of_settled h

end Formula

end EscapeTime
