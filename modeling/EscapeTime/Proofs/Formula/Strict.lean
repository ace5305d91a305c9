import EscapeTime.Proofs.Formula.Grammar
import EscapeTime.Proofs.Formula.Reading

namespace EscapeTime

/-!
# Strict reading accepts the grammar

A text of the grammar is read, with nothing to report, as the expression it stands for. The other
way round a text that is read with nothing to report is of the grammar, as long as it closes as many
brackets as it opens. This is needed where brackets are taken off: the last character goes
unseen, but a piece of text that closes more than it opens is never read, so on a text that closes
as many as it opens the character can only be a closing bracket. On a text that opens more than it
closes it can be anything.
-/

namespace Grammar

open Formula SyntaxTree

/-! ### What the grammar derives is read -/

lemma rootOperator?_signed {w : List Char} {n : Expr} (h : Derives .signed w n) :
    rootOperator? w = none := by
  rw [rootOperator?_eq_none_iff]
  intro k op hop
  have h₁ := h.operators hop
  have h₂ := precedence_le_three op
  simp only [Level.precedence] at h₁
  omega

lemma leafExpr_of_isNumeral {w : List Char} (h : isNumeral w) :
    leafExpr w = .literal (String.ofList w) := by
  rw [leafExpr, if_pos h]

lemma reads_leaf {w : List Char} {n : Expr} (h : Derives .signed w n)
    (hname : ∀ j f, ¬ NameAt w j f) (hhead : w.head? ≠ some '(') (hleaf : leafExpr w = n)
    (hraw : ∀ t, n ≠ .raw t) : Reads w n :=
  .leaf (rootOperator?_signed h) (rootFunc?_eq_none_iff.2 hname) hhead hleaf hraw

lemma derives_token (s : Symbol) : Derives .signed s.token.toList (.symbol s) := by
  cases s with
  | iterate => exact .lift .iterate
  | parameter => exact .lift .parameter
  | imagUnit => exact .lift .imagUnit
  | negImagUnit => exact .negImagUnit

lemma leafExpr_token (s : Symbol) : leafExpr s.token.toList = .symbol s := by
  cases s <;> rfl

lemma reads_token (s : Symbol) : Reads s.token.toList (.symbol s) := by
  refine reads_leaf (derives_token s) (fun j f hf => ?_) (by cases s <;> decide) (leafExpr_token s)
    (by simp)
  have hletters := hf.subset
  revert hletters
  cases s <;> cases f <;> decide

theorem Derives.reads {k : Level} {w : List Char} {n : Expr} (h : Derives k w n) : Reads w n := by
  induction h with
  | lift _ ih => exact ih
  | @binary op u v l r hl hr hsign ihl ihr =>
    refine .operator (rootOperator?_eq_some_iff.2 (hl.rootOperator hr hsign)) ?_ ?_
    · simpa using ihl
    · simpa using ihr
  | @negNumeral v h =>
    refine reads_leaf (.negNumeral h) (fun j f => not_nameAt_of_numChar ?_) (by simp)
      (leafExpr_of_isNumeral h.isNumeral_minus) (by simp)
    simpa using fun c hc => .inl (h.numChar c hc)
  | @numeral v h =>
    refine reads_leaf (.lift (.numeral h))
      (fun j f => not_nameAt_of_numChar fun c hc => .inl (h.numChar c hc)) ?_
      (leafExpr_of_isNumeral h.isNumeral) (by simp)
    intro hhead
    exact (h.numChar _ (List.mem_of_head? hhead)).not_bracket.1 rfl
  | negImagUnit => exact reads_token .negImagUnit
  | iterate => exact reads_token .iterate
  | parameter => exact reads_token .parameter
  | imagUnit => exact reads_token .imagUnit
  | @group u n h ih =>
    refine .group (rootOperator?_signed (.lift (.group h)))
      (rootFunc?_eq_none_iff.2 fun j f => h.nested.not_nameAt_bracket) rfl ?_
    simpa using ih
  | @call f v n h horder ih =>
    refine .call (rootOperator?_signed (.lift (.call h horder)))
      (rootFunc?_eq_some_iff.2 (h.rootName horder)) ?_
    simpa using ih

/-! ### What is read is derived -/

lemma leafExpr_cases {w : List Char} (hraw : ∀ t, leafExpr w ≠ .raw t) :
    (isNumeral w ∧ leafExpr w = .literal (String.ofList w)) ∨ ∃ s : Symbol, w = s.token.toList := by
  by_cases hnum : isNumeral w
  · exact .inl ⟨hnum, leafExpr_of_isNumeral hnum⟩
  · rw [leafExpr, if_neg hnum] at hraw
    right
    cases hs : Symbol.ofToken? (String.ofList w) with
    | none => simp [hs] at hraw
    | some s =>
      refine ⟨s, ?_⟩
      have htoken : s.token = String.ofList w := by simpa using List.find?_some hs
      rw [htoken, String.toList_ofList]

lemma plain_of_leaf {w : List Char} (hraw : ∀ t, leafExpr w ≠ .raw t) :
    ∀ c ∈ w, c ≠ '(' ∧ c ≠ ')' := by
  rcases leafExpr_cases hraw with ⟨hnum, -⟩ | ⟨s, rfl⟩
  · intro c hc
    rcases isNumeral_char hnum c hc with h | rfl | rfl
    · exact h.not_bracket
    · decide
    · decide
  · cases s <;> simp [Symbol.token]

lemma derives_of_isNumeral {w : List Char} (h : isNumeral w) (hop : ∀ j op, ¬ OperatorAt w j op) :
    Derives .signed w (.literal (String.ofList w)) := by
  have hplain : ∀ c ∈ w, c ≠ '(' ∧ c ≠ ')' :=
    plain_of_leaf (by simp [leafExpr_of_isNumeral h])
  have hplus : '+' ∉ w := by
    intro hmem
    obtain ⟨u, v, rfl⟩ := List.append_of_mem hmem
    exact hop _ .add ⟨u, v, rfl, rfl, depth_eq_zero fun c hc => hplain c (by simp [hc]), by simp⟩
  have hchar : ∀ c ∈ w, NumChar c ∨ c = '-' := by
    intro c hc
    rcases isNumeral_char h c hc with h | rfl | h
    · exact .inl h
    · exact absurd hc hplus
    · exact .inr h
  have hsome := isSome_readFloat?_of_isNumeral h
  cases w with
  | nil => simp [isNumeral] at h
  | cons c rest =>
    -- a minus in `rest` has a digit, a point, a mark or a minus before it
    have hminus : '-' ∉ rest := by
      intro hmem
      obtain ⟨u, v, rfl⟩ := List.append_of_mem hmem
      have hsub : ∀ d ∈ c :: u, d ∈ c :: (u ++ '-' :: v) := fun d hd =>
        List.mem_append_left ('-' :: v) hd
      refine hop _ .sub ⟨c :: u, v, rfl, rfl, depth_eq_zero fun d hd => hplain d (hsub d hd),
        fun _ => ?_⟩
      rw [List.getLast?_eq_some_getLast (by simp)]
      rcases hchar _ (hsub _ (List.getLast_mem (List.cons_ne_nil c u))) with hlast | hlast
      · exact hlast.startsOperand
      · rw [hlast]
        rfl
    have hrest : ∀ d ∈ rest, NumChar d := by
      intro d hd
      rcases hchar d (by simp [hd]) with h | rfl
      · exact h
      · exact absurd hd hminus
    rcases hchar c (by simp) with hc | rfl
    · exact .lift (.numeral ((isSome_readFloat?_iff (by simpa using ⟨hc, hrest⟩)).1 hsome))
    · exact .negNumeral ((isSome_readFloat?_minus_iff hrest).1 hsome)

lemma derives_leaf {w : List Char} (hop : ∀ j op, ¬ OperatorAt w j op)
    (hraw : ∀ t, leafExpr w ≠ .raw t) : Derives .signed w (leafExpr w) := by
  rcases leafExpr_cases hraw with ⟨hnum, hleaf⟩ | ⟨s, rfl⟩
  · rw [hleaf]
    exact derives_of_isNumeral hnum hop
  · rw [leafExpr_token]
    exact derives_token s

/-- What is read closes no bracket before it is opened: none is lost on the way to the leaves, and
no leaf has one. -/
theorem opened_of_reads {w : List Char} {n : Expr} (h : Reads w n) : Opened w := by
  induction h with
  | @operator cs k op l r hroot _ _ ihl ihr =>
    obtain ⟨u, v, rfl, rfl, hu, -⟩ := (rootOperator?_eq_some_iff.1 hroot).stands
    rw [List.take_left] at ihl
    have hop : Nested [op.symbol] := nested_of_plain (by simpa using symbol_not_bracket op)
    exact Nested.append_opened ⟨hu, ihl⟩ (hop.append_opened (by simpa using ihr))
  | @call cs f x _ hroot _ ih =>
    obtain ⟨u, v, rfl, hu, -⟩ := (rootFunc?_eq_some_iff.1 hroot).stands
    obtain rfl := List.length_eq_zero_iff.1 hu
    exact (nested_of_plain (letters_not_bracket f)).append_opened (by simpa using ih)
  | @group cs x _ _ hhead _ ih =>
    obtain ⟨t, rfl⟩ := List.head?_eq_some_iff.1 hhead
    rcases List.eq_nil_or_concat t with rfl | ⟨t, c, rfl⟩
    · intro a b hab
      rcases List.append_eq_singleton_iff.1 hab.symm with ⟨rfl, -⟩ | ⟨rfl, -⟩ <;> simp
    · rw [List.concat_eq_append] at ih ⊢
      exact Opened.bracket (by simpa using ih) c
  | leaf _ _ _ hx hraw => exact (nested_of_plain (plain_of_leaf (hx ▸ hraw))).2

lemma depth_nonneg_of_reads {w : List Char} {n : Expr} (h : Reads w n) : 0 ≤ depth w :=
  opened_of_reads h w [] (by simp)

/-- A text of some kind without an operator of that kind is of the next tighter kind. -/
lemma Derives.tighten {k : Level} {w : List Char} {n : Expr} (h : Derives k w n)
    (hk : k.precedence ≤ 3) (hop : ∀ j op, OperatorAt w j op → k.precedence < op.precedence) :
    Derives k.tighter w n := by
  cases h with
  | lift h => exact h
  | @binary op u v l r hl hr hsign =>
    have := hop _ op (hl.rootOperator hr hsign).stands
    rw [precedence_level] at this
    omega
  | negNumeral | negImagUnit | numeral | iterate | parameter | imagUnit | group | call =>
    simp [Level.precedence] at hk

/-- A formula is of the kind that its operators outside all brackets allow. -/
lemma Derives.sharpen {w : List Char} {n : Expr} (h : Derives .sum w n) {k : Level}
    (hk : k ≠ .base) (hop : ∀ j op, OperatorAt w j op → k.precedence ≤ op.precedence) :
    Derives k w n := by
  have hlt : ∀ l : Level, l.precedence < k.precedence →
      ∀ j op, OperatorAt w j op → l.precedence < op.precedence := fun l hl j op h =>
    lt_of_lt_of_le hl (hop j op h)
  cases k with
  | sum => exact h
  | product => exact h.tighten (by decide) (hlt _ (by decide))
  | power =>
    exact (h.tighten (by decide) (hlt _ (by decide))).tighten (by decide) (hlt .product (by decide))
  | signed =>
    exact ((h.tighten (by decide) (hlt _ (by decide))).tighten (by decide)
      (hlt .product (by decide))).tighten (by decide) (hlt .power (by decide))
  | base => exact absurd rfl hk

lemma Derives.unsigned {w : List Char} {n : Expr} (h : Derives .signed w n)
    (hhead : w.head? ≠ some '-') : Derives .base w n := by
  generalize hk : Level.signed = k at h
  cases h with
  | lift h =>
    subst hk
    exact h
  | @binary op => cases op <;> cases hk
  | negNumeral | negImagUnit => exact absurd rfl hhead
  | numeral | iterate | parameter | imagUnit | group | call => cases hk

lemma derives_operator {u v : List Char} {op : Operator} {l r : Expr}
    (hroot : RootOperator (u ++ op.symbol :: v) u.length op) (hu : depth u = 0)
    (hl : Derives .sum u l) (hr : Derives .sum v r) :
    Derives .sum (u ++ op.symbol :: v) (.binary op l r) := by
  have hsplit : u ++ op.symbol :: v = (u ++ [op.symbol]) ++ v := by simp
  have hdepth : depth (u ++ [op.symbol]) = 0 := by simp [hu]
  have hleft : Derives (level op) u l := by
    refine hl.sharpen (by cases op <;> decide) fun j op' hop => ?_
    rw [precedence_level]
    exact hroot.loosest j op' (hop.append_right _)
  -- an operator of the same kind in `v` would come later
  have hright : Derives (level op).tighter v r := by
    refine hr.sharpen (by cases op <;> decide) fun j op' hop => ?_
    rw [precedence_tighter_level]
    have hat := hop.append_left hdepth
    rw [← hsplit] at hat
    have hle := hroot.loosest _ _ hat
    rcases hle.lt_or_eq with hlt | heq
    · exact hlt
    · have := hroot.last _ _ hat heq.symm
      simp only [List.length_append, List.length_singleton] at this
      omega
  have hsign : op = .sub → v.head? ≠ some '-' := by
    rintro rfl hhead
    obtain ⟨t, rfl⟩ := List.head?_eq_some_iff.1 hhead
    have hat : OperatorAt (u ++ Operator.sub.symbol :: '-' :: t) (u.length + 1) .sub :=
      ⟨u ++ ['-'], t, by simp [Operator.symbol], by simp, hdepth, fun _ => by simp; rfl⟩
    have := hroot.last _ _ hat rfl
    omega
  have h := Derives.binary hleft hright hsign
  cases op with
  | sub | add => exact h
  | div | mul => exact .lift h
  | pow => exact .lift (.lift h)

lemma startsOperand_letters (f : Func) : startsOperand f.letters.getLast? = false := by
  cases f <;> rfl

lemma derives_call {v : List Char} {f : Func} {x : Expr}
    (hop : ∀ j op, ¬ OperatorAt (f.letters ++ v) j op) (hroot : RootName (f.letters ++ v) 0 f)
    (hx : Derives .sum v x) : Derives .base (f.letters ++ v) (.call f x) := by
  have hsigned : Derives .signed v x := hx.sharpen (by decide) fun j op h =>
    absurd (h.append_left (depth_letters f)) (hop _ _)
  refine .call (hsigned.unsigned fun hhead => ?_) fun g hg => ?_
  · -- a minus behind a name would be an operator
    obtain ⟨t, rfl⟩ := List.head?_eq_some_iff.1 hhead
    exact hop _ .sub ⟨f.letters, t, rfl, rfl, depth_letters f, fun _ => startsOperand_letters f⟩
  · obtain ⟨t, rfl⟩ := hg
    have hat : NameAt (f.letters ++ (g.letters ++ t)) f.letters.length g :=
      ⟨f.letters, t, rfl, rfl, depth_letters f⟩
    rcases (hroot.first _ _ hat).lt_or_eq with hlt | heq
    · exact hlt
    · obtain rfl := rank_injective heq
      have := hroot.last _ hat
      have := letters_length_pos f
      omega

theorem derives_of_reads {w : List Char} {n : Expr} (h : Reads w n) (hw : depth w = 0) :
    Derives .sum w n := by
  induction h with
  | @operator cs k op l r hroot _ _ ihl ihr =>
    have hroot := rootOperator?_eq_some_iff.1 hroot
    obtain ⟨u, v, rfl, rfl, hu, -⟩ := hroot.stands
    simp only [depth_append, depth_cons, bracketStep_symbol, hu, zero_add] at hw
    rw [List.take_left] at ihl
    simp at ihr
    exact derives_operator hroot hu (ihl hu) (ihr hw)
  | @call cs f x hop hroot _ ih =>
    have hroot := rootFunc?_eq_some_iff.1 hroot
    obtain ⟨u, v, rfl, hu, -⟩ := hroot.stands
    obtain rfl := List.length_eq_zero_iff.1 hu
    simp only [List.nil_append, depth_append, depth_letters, zero_add, List.drop_left] at hw ih
    exact .lift (.lift (.lift (.lift
      (derives_call (rootOperator?_eq_none_iff.1 hop) hroot (ih hw)))))
  | @group cs x _ _ hhead hx ih =>
    obtain ⟨t, rfl⟩ := List.head?_eq_some_iff.1 hhead
    have hinner := depth_nonneg_of_reads hx
    rcases List.eq_nil_or_concat t with rfl | ⟨t, c, rfl⟩
    · simp at hw
    · -- the text inside cannot be read unless the character taken off closes the bracket
      simp only [List.tail_cons, List.concat_eq_append, List.dropLast_concat] at ih hinner
      simp only [List.concat_eq_append, depth_cons, depth_append, bracketStep_open, depth_nil] at hw
      have hc : c = ')' := by
        by_contra hne
        have : 0 ≤ bracketStep c := by
          unfold bracketStep
          split_ifs <;> simp_all
        omega
      subst hc
      rw [List.concat_eq_append]
      exact .lift (.lift (.lift (.lift (.group (ih (by simp at hw; omega))))))
  | @leaf cs x hop _ _ hx hraw =>
    subst hx
    exact .lift (.lift (.lift (derives_leaf (rootOperator?_eq_none_iff.1 hop) hraw)))

/-- **Strict reading accepts exactly the grammar.** A text that, as it is read, closes as many
brackets as it opens is read strictly, as an expression, exactly when it is a formula that stands
for this expression. -/
theorem parseStrict_iff_derives (source : String) (n : Expr)
    (h : (chars source).count '(' = (chars source).count ')') :
    parseStrict source = .ok n ↔ Derives .sum (chars source) n := by
  rw [← reads_chars_iff]
  exact ⟨fun hr => derives_of_reads hr (depth_eq_zero_iff.2 h), fun hd => hd.reads⟩

/-- A sign is taken with its number before the power, powers associate to the left, and a function
takes what follows it tightly. -/
theorem parseStrict_iff_derives_signed_power :
    (chars "-2^z^c-sin cos(.5e1)").count '(' = (chars "-2^z^c-sin cos(.5e1)").count ')' ∧
      parseStrict "-2^z^c-sin cos(.5e1)" = .ok (.binary .sub
        (.binary .pow (.binary .pow (.literal "-2") (.symbol .iterate)) (.symbol .parameter))
        (.call .sin (.call .cos (.literal ".5e1")))) ∧
      Derives .sum (chars "-2^z^c-sin cos(.5e1)") (.binary .sub
        (.binary .pow (.binary .pow (.literal "-2") (.symbol .iterate)) (.symbol .parameter))
        (.call .sin (.call .cos (.literal ".5e1")))) := by
  have hcount : (chars "-2^z^c-sin cos(.5e1)").count '(' =
      (chars "-2^z^c-sin cos(.5e1)").count ')' := by decide
  have hread : parseStrict "-2^z^c-sin cos(.5e1)" = .ok (.binary .sub
      (.binary .pow (.binary .pow (.literal "-2") (.symbol .iterate)) (.symbol .parameter))
      (.call .sin (.call .cos (.literal ".5e1")))) := by decide +kernel
  exact ⟨hcount, hread, (parseStrict_iff_derives _ _ hcount).1 hread⟩

end Grammar

end EscapeTime
