import EscapeTime.Kernel.Text
import EscapeTime.Proofs.Formula.Numeral

namespace EscapeTime

/-!
# Reading a kernel's text back

A script is a text of statements, one a line, each closed by a semicolon. A statement is told by its
shape alone: a call has an opening bracket, and an assignment or a declaration falls into words. What
is written for a kernel is read back as the statements it was written from, so the text says
everything that the statements say.
-/

/-! ### The reader -/

/-- The only variables that can have the given name. -/
def Variable.candidates (name : List Char) : List Variable :=
  [.iterateRe, .iterateIm, .parameterRe, .parameterIm, .outRe, .outIm,
    .slotRe (Decimal.spell 0 (name.drop 3)), .slotIm (Decimal.spell 0 (name.drop 3))]

/-- The variable with the given name. -/
def Variable.read? (name : List Char) : Option Variable :=
  (candidates name).find? (·.name.toList == name)

/-- A name or a numeral. -/
def Source.readAs? (plus : Bool) (cs : List Char) : Option Source :=
  match Variable.read? cs with
  | some v => some (.named v plus)
  | none =>
    if (Decimal.readFloat? cs).isSome then some (.written (String.ofList cs) plus) else none

/-- A name or a numeral, which may follow a plus sign. -/
def Source.read? (cs : List Char) : Option Source :=
  if cs.head? = some '+' then readAs? true cs.tail else readAs? false cs

/-- The names between the brackets of a call. -/
def Variable.readArguments? (cs : List Char) : Option (List Variable) :=
  (cs.splitOn ',').mapM fun name => read? (name.dropWhile (· == ' '))

/-- A statement without its semicolon. -/
def Statement.read? (cs : List Char) : Option Statement :=
  match cs.splitOn '(' with
  | [f, arguments] =>
    if arguments.getLast? = some ')' then
      (Variable.readArguments? arguments.dropLast).map (.call (String.ofList f))
    else none
  | [words] =>
    match words.splitOn ' ' with
    | [target, ['='], source] =>
      do return .assign (← Variable.read? target) (← Source.read? source)
    | [['v', 'a', 'r'], target, ['='], ['0', '.', '0']] =>
      (Variable.read? target).map .declare
    | _ => none
  | _ => none

namespace Script

def readLine? (cs : List Char) : Option Statement :=
  if cs.getLast? = some ';' then Statement.read? cs.dropLast else none

/-- The statements of a script. Empty lines have no meaning. -/
def read? (text : String) : Option (List Statement) :=
  ((text.toList.splitOn '\n').filter (· ≠ [])).mapM readLine?

end Script

/-! ### Names -/

/-- The characters that a name is made of. -/
def wordChar (c : Char) : Bool := c.isAlphanum || c == '_'

lemma not_mem_of_wordChar {cs : List Char} (h : ∀ c ∈ cs, wordChar c) {d : Char}
    (hd : wordChar d = false) : d ∉ cs := fun hmem => by
  simp [h d hmem] at hd

namespace Variable

lemma wordChar_digits (n : Nat) : ∀ c ∈ Nat.toDigits 10 n, wordChar c := fun c hc => by
  have := Nat.isDigit_of_mem_toDigits (by decide) (by decide) hc
  simp [wordChar, Char.isAlphanum, this]

lemma wordChar_name (v : Variable) : ∀ c ∈ v.name.toList, wordChar c := by
  have hslot : ∀ (mark : List Char) (n : Nat), (∀ c ∈ mark, wordChar c) →
      ∀ c ∈ mark ++ Nat.toDigits 10 n, wordChar c := by
    intro mark n hmark c hc
    exact (List.mem_append.1 hc).elim (hmark c) (wordChar_digits n c)
  cases v with
  | slotRe id => simpa [name] using hslot ['_', '_', 'r'] id (List.all_eq_true.1 rfl)
  | slotIm id => simpa [name] using hslot ['_', '_', 'i'] id (List.all_eq_true.1 rfl)
  | _ => exact List.all_eq_true.1 (by decide)

/-- Different variables have different names. -/
lemma name_injective {v w : Variable} (h : v.name.toList = w.name.toList) : v = w := by
  have hid : ∀ m n, Nat.toDigits 10 m = Nat.toDigits 10 n → m = n := fun m n h => by
    rw [← Decimal.spell_toDigits m, h, Decimal.spell_toDigits]
  cases v <;> cases w <;> simp [name] at h ⊢ <;> exact hid _ _ h

lemma mem_candidates (v : Variable) : v ∈ candidates v.name.toList := by
  cases v <;> simp [candidates, name, Decimal.spell_toDigits]

lemma read?_eq_some_iff {cs : List Char} {v : Variable} :
    read? cs = some v ↔ v.name.toList = cs := by
  constructor
  · intro h
    simpa using List.find?_some h
  · rintro rfl
    have hfound : (read? v.name.toList).isSome :=
      List.find?_isSome.2 ⟨v, mem_candidates v, by simp⟩
    obtain ⟨w, hw⟩ := Option.isSome_iff_exists.1 hfound
    rwa [name_injective (by simpa using List.find?_some hw : w.name.toList = _)] at hw

lemma read?_name (v : Variable) : read? v.name.toList = some v := read?_eq_some_iff.2 rfl

/-- Every name starts with a letter or an underscore that no numeral has. -/
lemma read?_eq_none {cs : List Char} (h : ∀ c ∈ cs, c ∉ ['z', 'c', 'o', '_']) : read? cs = none := by
  rw [Option.eq_none_iff_forall_ne_some]
  intro v hv
  obtain rfl := read?_eq_some_iff.1 hv
  cases v <;> simp [name] at h

/-- A blank before a name is passed over. -/
lemma readArguments?_blank (cs : List Char) : readArguments? (' ' :: cs) = readArguments? cs := by
  obtain ⟨name, names, h⟩ := List.exists_cons_of_ne_nil (List.splitOn_ne_nil ',' cs)
  simp [readArguments?, List.splitOn_cons_eq_if_modifyHead, h]

lemma dropWhile_blank_name (v : Variable) : v.name.toList.dropWhile (· == ' ') = v.name.toList := by
  have hblank : ' ' ∉ v.name.toList := not_mem_of_wordChar v.wordChar_name (by decide)
  cases h : v.name.toList with
  | nil => rfl
  | cons c cs =>
    have : c ≠ ' ' := by
      rintro rfl
      simp [h] at hblank
    simp [this]

lemma readArguments?_intercalate {vs : List Variable} (h : vs ≠ []) :
    readArguments? ([',', ' '].intercalate (vs.map (·.name.toList))) = some vs := by
  induction vs with
  | nil => exact absurd rfl h
  | cons v vs ih =>
    have hcomma : ',' ∉ v.name.toList := not_mem_of_wordChar v.wordChar_name (by decide)
    cases vs with
    | nil =>
      simp [readArguments?, List.splitOn_eq_singleton hcomma, dropWhile_blank_name, read?_name]
    | cons w vs =>
      have hrest := ih (by simp)
      rw [← readArguments?_blank, readArguments?] at hrest
      rw [List.map_cons, List.intercalate_cons_of_ne_nil (by simp), readArguments?,
        List.append_assoc, List.cons_append, List.singleton_append,
        List.splitOn_append_cons_self_of_not_mem hcomma, List.mapM_cons, hrest]
      simp [dropWhile_blank_name, read?_name]

lemma not_mem_arguments (vs : List Variable) {d : Char} (hw : wordChar d = false)
    (hd : d ∉ [',', ' ']) : d ∉ [',', ' '].intercalate (vs.map (·.name.toList)) := by
  induction vs with
  | nil => simp
  | cons v vs ih =>
    have hv : d ∉ v.name.toList := not_mem_of_wordChar v.wordChar_name hw
    cases vs with
    | nil => simpa using hv
    | cons w vs =>
      rw [List.map_cons, List.intercalate_cons_of_ne_nil (by simp), List.mem_append,
        List.mem_append]
      exact not_or.2 ⟨not_or.2 ⟨hv, hd⟩, ih⟩

end Variable

/-! ### Statements -/

open SyntaxTree (isNumeral)

/-- A number that is written can be read; it has no plus sign of its own where none is put. -/
def Source.Plain : Source → Prop
  | named _ _ => True
  | written number plus => isNumeral number.toList ∧ (plus ∨ number.toList.head? ≠ some '+')

def Statement.Plain : Statement → Prop
  | assign _ source => source.Plain
  | declare _ => True
  | call f arguments => (∀ c ∈ f.toList, wordChar c) ∧ arguments ≠ []

namespace Source

lemma toList_text_named (v : Variable) (plus : Bool) :
    (named v plus).text.toList = (if plus then ['+'] else []) ++ v.name.toList := by
  cases plus <;> simp [text]

lemma toList_text_written (number : String) (plus : Bool) :
    (written number plus).text.toList = (if plus then ['+'] else []) ++ number.toList := by
  cases plus <;> simp [text]

lemma not_mem_text {s : Source} (h : s.Plain) {d : Char} (hw : wordChar d = false)
    (hd : d ∉ ['.', 'e', '+', '-']) : d ∉ s.text.toList := by
  have hplus : ∀ plus : Bool, d ∉ (if plus then ['+'] else []) := by
    rintro (_ | _) <;> simp_all
  cases s with
  | named v plus =>
    rw [toList_text_named, List.mem_append, not_or]
    exact ⟨hplus plus, not_mem_of_wordChar v.wordChar_name hw⟩
  | written number plus =>
    rw [toList_text_written, List.mem_append, not_or]
    have hdigit : d.isDigit = false := by
      simp only [wordChar, Char.isAlphanum, Bool.or_eq_false_iff] at hw
      exact hw.1.2
    exact ⟨hplus plus, Grammar.not_mem_of_isNumeral h.1 hdigit hd⟩

/-- A leading plus sign is told from the rest wherever the rest has none. -/
lemma read?_plus {cs : List Char} (plus : Bool) (h : plus ∨ cs.head? ≠ some '+') :
    read? ((if plus then ['+'] else []) ++ cs) = readAs? plus cs := by
  cases plus with
  | true => rfl
  | false => simp_all [read?]

lemma read?_text {s : Source} (h : s.Plain) : read? s.text.toList = some s := by
  cases s with
  | named v plus =>
    have hhead : v.name.toList.head? ≠ some '+' := fun hplus =>
      not_mem_of_wordChar v.wordChar_name (by decide) (List.mem_of_head? hplus)
    rw [toList_text_named, read?_plus plus (.inr hhead), readAs?, Variable.read?_name]
  | written number plus =>
    have hbad : ∀ d ∈ ['z', 'c', 'o', '_'], d.isDigit = false ∧ d ∉ ['.', 'e', '+', '-'] := by
      simp
    have hname : Variable.read? number.toList = none := Variable.read?_eq_none fun c hc hmem =>
      Grammar.not_mem_of_isNumeral h.1 (hbad c hmem).1 (hbad c hmem).2 hc
    have hread := Grammar.isSome_readFloat?_of_isNumeral h.1
    rw [toList_text_written, read?_plus plus h.2, readAs?, hname]
    simp [hread]

end Source

namespace Statement

/-- The characters of a statement before its semicolon. -/
def body : Statement → List Char
  | assign target source => target.name.toList ++ ' ' :: '=' :: ' ' :: source.text.toList
  | declare target => 'v' :: 'a' :: 'r' :: ' ' :: (target.name.toList ++ " = 0.0".toList)
  | call f arguments =>
    f.toList ++ '(' :: ([',', ' '].intercalate (arguments.map (·.name.toList)) ++ [')'])

lemma toList_line (s : Statement) : s.line.toList = s.body ++ [';', '\n'] := by
  cases s <;> simp [line, body, Function.comp_def]

/-- The words of an assignment or a declaration. -/
lemma splitOn_words {words : List (List Char)} (h : ∀ w ∈ words, ' ' ∉ w) (hne : words ≠ [])
    {cs : List Char} (hcs : cs = [' '].intercalate words) : cs.splitOn ' ' = words :=
  hcs ▸ List.splitOn_intercalate ' ' h hne

lemma read?_body {s : Statement} (h : s.Plain) : read? s.body = some s := by
  cases s with
  | assign target source =>
    have hname : ' ' ∉ target.name.toList := not_mem_of_wordChar target.wordChar_name (by decide)
    have hsource : ' ' ∉ source.text.toList := Source.not_mem_text h (by decide) (by decide)
    have hopen : '(' ∉ (assign target source).body := by
      have := not_mem_of_wordChar target.wordChar_name (d := '(') (by decide)
      have := Source.not_mem_text h (d := '(') (by decide) (by decide)
      simp_all [body]
    have hwords : (assign target source).body.splitOn ' ' =
        [target.name.toList, ['='], source.text.toList] :=
      splitOn_words (by simp_all) (by simp) (by simp [body])
    simp only [read?, List.splitOn_eq_singleton hopen, hwords, Variable.read?_name,
      Source.read?_text h]
    rfl
  | declare target =>
    have hname : ' ' ∉ target.name.toList := not_mem_of_wordChar target.wordChar_name (by decide)
    have hopen : '(' ∉ (declare target).body := by
      have := not_mem_of_wordChar target.wordChar_name (d := '(') (by decide)
      simp_all [body]
    have hwords : (declare target).body.splitOn ' ' =
        [['v', 'a', 'r'], target.name.toList, ['='], ['0', '.', '0']] :=
      splitOn_words (by simp_all) (by simp) (by simp [body])
    simp only [read?, List.splitOn_eq_singleton hopen, hwords, Variable.read?_name]
    rfl
  | call f arguments =>
    obtain ⟨hf, hne⟩ := h
    have hopen : '(' ∉ [',', ' '].intercalate (arguments.map (·.name.toList)) ++ [')'] := by
      simpa using Variable.not_mem_arguments arguments (by decide) (by decide)
    rw [read?, body, List.splitOn_append_cons_self_of_not_mem (not_mem_of_wordChar hf (by decide)),
      List.splitOn_eq_singleton hopen]
    simp [Variable.readArguments?_intercalate hne]

lemma newline_not_mem_body {s : Statement} (h : s.Plain) : '\n' ∉ s.body := by
  cases s with
  | assign target source =>
    have := not_mem_of_wordChar target.wordChar_name (d := '\n') (by decide)
    have := Source.not_mem_text h (d := '\n') (by decide) (by decide)
    simp_all [body]
  | declare target =>
    have := not_mem_of_wordChar target.wordChar_name (d := '\n') (by decide)
    simp_all [body]
  | call f arguments =>
    have := not_mem_of_wordChar h.1 (d := '\n') (by decide)
    have := Variable.not_mem_arguments arguments (d := '\n') (by decide) (by decide)
    simp_all [body]

end Statement

/-! ### Whole texts -/

namespace Script

lemma readLine?_body {s : Statement} (h : s.Plain) : readLine? (s.body ++ [';']) = some s := by
  simp [readLine?, Statement.read?_body h]

/-- Statements that are written line by line are read back. -/
theorem read?_join {ss : List Statement} (h : ∀ s ∈ ss, s.Plain) :
    read? (String.join (ss.map Statement.line)) = some ss := by
  rw [read?, String.toList_join, List.flatMap_map]
  induction ss with
  | nil => rfl
  | cons s ss ih =>
    obtain ⟨hs, hss⟩ := List.forall_mem_cons.1 h
    have hline : '\n' ∉ s.body ++ [';'] := by
      simpa using Statement.newline_not_mem_body hs
    have hcut : s.line.toList ++ ss.flatMap (·.line.toList) =
        (s.body ++ [';']) ++ '\n' :: ss.flatMap (·.line.toList) := by
      simp [Statement.toList_line]
    rw [List.flatMap_cons, hcut, List.splitOn_append_cons_self_of_not_mem hline,
      List.filter_cons_of_pos (by simp), List.mapM_cons, readLine?_body hs, ih hss]
    rfl

/-- A kernel's statements can be read if its literals are numerals. -/
lemma plain_statements {k : Kernel}
    (h : ∀ text, .literal text ∈ k.instructions → isNumeral text.toList) :
    ∀ s ∈ k.statements, s.Plain := by
  simp only [Kernel.statements, List.forall_mem_append, List.forall_mem_flatMap]
  refine ⟨⟨?_, ?_⟩, ?_⟩
  · simp [Kernel.inputStatements, Statement.Plain, Source.Plain]
  · intro slot _
    simp [Kernel.slotStatements, Statement.Plain]
  · intro i hi
    cases i with
    | literal text =>
      have hzero : isNumeral ['0'] := by decide
      simpa [Instr.statements, Statement.Plain, Source.Plain, hzero] using h text hi
    | symbol x =>
      have hx : x.sources.1.Plain ∧ x.sources.2.Plain := by
        cases x <;> simp only [Symbol.sources, Source.Plain] <;> decide
      simpa [Instr.statements, Statement.Plain] using hx
    | store slot coerce => simp [Instr.statements, Statement.Plain, Source.Plain]
    | binary op lhs rhs =>
      have hop : ∀ c ∈ op.primitive.toList, wordChar c :=
        List.all_eq_true.1 (by cases op <;> decide)
      simpa [Instr.statements, Statement.Plain] using hop
    | unary f arg =>
      have hf : ∀ c ∈ f.primitive.toList, wordChar c :=
        List.all_eq_true.1 (by cases f <;> decide)
      simpa [Instr.statements, Statement.Plain] using hf

/-- **The text of a kernel is read back as its statements.** -/
theorem read?_text {k : Kernel}
    (h : ∀ text, .literal text ∈ k.instructions → isNumeral text.toList) :
    read? k.text = some k.statements :=
  read?_join (plain_statements h)

end Script

end EscapeTime
