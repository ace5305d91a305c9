import EscapeTime.Json.Reader
import EscapeTime.Proofs.Json.Number

namespace EscapeTime

/-!
# Documents are read as they are written

A text spells a list of tokens if it holds them one after the other, with blanks in between. Both
ways of writing a document spell the same tokens, and the machine that reads tokens builds the
document from them again. So a document is read back, however it is laid out, if its strings have a
text and its numbers follow the grammar.
-/

namespace Json

/-! ### Strings -/

/-- The unit of a control character, from the two digits that can differ. -/
lemma hexUnit?_control {n : Nat} (h : n < 32) :
    hexUnit? '0' '0' (Nat.digitChar (n / 16)) (Nat.digitChar (n % 16)) = some n := by
  have hzero : Text.hexValue? '0' = some 0 := rfl
  simp only [hexUnit?, hzero, Text.hexValue?_digitChar (show n / 16 < 16 by omega),
    Text.hexValue?_digitChar (show n % 16 < 16 by omega), Option.bind_eq_bind, Option.bind_some]
  congr 1
  omega

lemma readUnits_plainEscape {e : Char} {unit : Nat} (h : plainEscape? e = some unit)
    (rest : List Char) :
    readUnits ('\\' :: e :: rest) =
      (readUnits rest).map fun (units, after) => (unit :: units, after) := by
  have hu : e ≠ 'u' := by
    rintro rfl
    cases h
  cases hrest : readUnits rest <;> simp [readUnits, hu, h, hrest]

lemma readUnits_control {n : Nat} (h : n < 32) (rest : List Char) :
    readUnits ('\\' :: 'u' :: '0' :: '0' :: Nat.digitChar (n / 16) :: Nat.digitChar (n % 16) :: rest) =
      (readUnits rest).map fun (units, after) => (n :: units, after) := by
  cases hrest : readUnits rest <;> simp [readUnits, hexUnit?_control h, hrest]

lemma readUnits_bare {c : Char} (hquote : c ≠ '"') (hslash : c ≠ '\\') (hcontrol : ¬ c.toNat < 32)
    (rest : List Char) :
    readUnits (c :: rest) = (readUnits rest).map fun (units, after) => (c.toNat :: units, after) := by
  cases hrest : readUnits rest <;> simp [readUnits, hslash, hcontrol, hrest]

/-- A character is one unit, escaped or not. -/
lemma readUnits_escapeChar (c : Char) (rest : List Char) :
    readUnits (escapeChar c ++ rest) =
      (readUnits rest).map fun (units, after) => (c.toNat :: units, after) := by
  unfold escapeChar
  split_ifs with hquote hslash hb hf hn hr ht hcontrol
  · obtain rfl := beq_iff_eq.1 hquote
    exact readUnits_plainEscape rfl rest
  · obtain rfl := beq_iff_eq.1 hslash
    exact readUnits_plainEscape rfl rest
  · rw [beq_iff_eq.1 hb]
    exact readUnits_plainEscape rfl rest
  · rw [beq_iff_eq.1 hf]
    exact readUnits_plainEscape rfl rest
  · obtain rfl := beq_iff_eq.1 hn
    exact readUnits_plainEscape rfl rest
  · obtain rfl := beq_iff_eq.1 hr
    exact readUnits_plainEscape rfl rest
  · obtain rfl := beq_iff_eq.1 ht
    exact readUnits_plainEscape rfl rest
  · exact readUnits_control hcontrol rest
  · exact readUnits_bare (by simpa using hquote) (by simpa using hslash) hcontrol rest

lemma readUnits_quoted (cs rest : List Char) :
    readUnits (cs.flatMap escapeChar ++ '"' :: rest) = some (cs.map Char.toNat, rest) := by
  induction cs with
  | nil => rfl
  | cons c cs ih =>
    rw [List.flatMap_cons, List.append_assoc, readUnits_escapeChar, ih]
    rfl

/-- No character is half of a surrogate pair. -/
lemma decodeUnits_toNat (cs : List Char) : decodeUnits (cs.map Char.toNat) = some cs := by
  induction cs with
  | nil => rfl
  | cons c cs ih =>
    have hvalid : c.toNat < 0xD800 ∨ 0xDFFF < c.toNat := by
      rcases c.valid with h | h
      · exact .inl h
      · exact .inr h.1
    have hhigh : isHighSurrogate c.toNat = false := by
      simp only [isHighSurrogate, Bool.and_eq_false_iff, decide_eq_false_iff_not]
      omega
    have hlow : isLowSurrogate c.toNat = false := by
      simp only [isLowSurrogate, Bool.and_eq_false_iff, decide_eq_false_iff_not]
      omega
    rw [List.map_cons, decodeUnits.eq_def]
    simp [hhigh, hlow, ih]

/-- **A string is read back.** -/
lemma readToken?_quote (s : String) (rest : List Char) :
    readToken? (quote (some s) ++ rest) = some (.string (some s), rest) := by
  have hunits := readUnits_quoted s.toList rest
  rw [quote, Option.getD_some, List.cons_append, List.cons_append, List.append_assoc,
    List.singleton_append]
  change (readUnits _).map _ = _
  simp [hunits, decodeUnits_toNat]

/-! ### Tokens -/

/-- The character of a token that is always written alike. -/
def Token.mark? : Token → Option Char
  | openObject => some '{'
  | closeObject => some '}'
  | openArray => some '['
  | closeArray => some ']'
  | comma => some ','
  | colon => some ':'
  | _ => none

/-- The text holds the tokens one after the other, and blanks around them. -/
inductive Spells : List Token → List Char → Prop
  | done : Spells [] []
  | blank {c : Char} {ts : List Token} {cs : List Char} (hc : isSpace c) (h : Spells ts cs) :
    Spells ts (c :: cs)
  | token {t : Token} {ts : List Token} {c : Char} {cs rest : List Char} (hc : isSpace c = false)
    (hread : readToken? (c :: cs ++ rest) = some (t, rest)) (h : Spells ts rest) :
    Spells (t :: ts) (c :: cs ++ rest)

lemma tokensWithin_of_spells {ts : List Token} {cs : List Char} (h : Spells ts cs) :
    ∀ fuel, cs.length ≤ fuel → tokensWithin fuel cs = some ts := by
  induction h with
  | done => exact fun fuel _ => by cases fuel <;> rfl
  | @blank c ts cs hc _ ih =>
    rintro (- | fuel) hfuel
    · simp at hfuel
    · rw [tokensWithin, if_pos hc]
      exact ih fuel (by simpa using hfuel)
  | @token t ts c cs rest hc hread _ ih =>
    rintro (- | fuel) hfuel
    · simp at hfuel
    · have hrest : rest.length ≤ fuel := by
        simp only [List.length_append, List.length_cons] at hfuel
        omega
      rw [List.cons_append] at hread
      simp [tokensWithin, hc, hread, ih fuel hrest]

/-- A text is split into the tokens that it spells. -/
lemma tokens?_of_spells {ts : List Token} {cs : List Char} (h : Spells ts cs) :
    tokens? cs = some ts :=
  tokensWithin_of_spells h cs.length le_rfl

lemma isSpace_newLine (level : Nat) : ∀ c ∈ newLine level, isSpace c := by
  intro c hc
  rcases List.mem_cons.1 hc with rfl | hc
  · rfl
  · rw [List.eq_of_mem_replicate hc]
    rfl

namespace Spells

variable {ts : List Token} {rest : List Char}

lemma blanks (h : Spells ts rest) {cs : List Char} (hcs : ∀ c ∈ cs, isSpace c) :
    Spells ts (cs ++ rest) := by
  induction cs with
  | nil => exact h
  | cons c cs ih =>
    exact .blank (hcs c (by simp)) (ih fun d hd => hcs d (by simp [hd]))

lemma newLine (h : Spells ts rest) (level : Nat) : Spells ts (Json.newLine level ++ rest) :=
  h.blanks (isSpace_newLine level)

/-- A token that is one character. -/
lemma mark (h : Spells ts rest) (t : Token) {c : Char} (hc : t.mark? = some c) :
    Spells (t :: ts) (c :: rest) := by
  cases t <;> cases hc <;> exact @token _ ts _ [] rest rfl rfl h

lemma quoted (h : Spells ts rest) (s : String) :
    Spells (.string (some s) :: ts) (quote (some s) ++ rest) :=
  .token rfl (readToken?_quote s rest) h

lemma number (h : Spells ts rest) {n : Number} (hn : n.WellFormed) (hrest : Number.EndsBefore rest) :
    Spells (.number n :: ts) (n.text ++ rest) := by
  obtain ⟨c, cs, htext, hc⟩ := Number.exists_text_cons hn
  have hread := Number.readToken?_text hn hrest
  rw [htext] at hread ⊢
  exact .token hc hread h

end Spells

mutual

/-- The tokens of a document, in front of others. -/
def tokensOnto (rest : List Token) : Json → List Token
  | null => .null :: rest
  | bool b => .bool b :: rest
  | number n => .number n :: rest
  | string s => .string s :: rest
  | array items => .openArray :: itemTokens (.closeArray :: rest) items
  | object fields => .openObject :: fieldTokens (.closeObject :: rest) fields

def itemTokens (rest : List Token) : List Json → List Token
  | [] => rest
  | [v] => tokensOnto rest v
  | v :: w :: more => tokensOnto (.comma :: itemTokens rest (w :: more)) v

def fieldTokens (rest : List Token) : List (Content × Json) → List Token
  | [] => rest
  | [(k, v)] => .string k :: .colon :: tokensOnto rest v
  | (k, v) :: f :: more => .string k :: .colon :: tokensOnto (.comma :: fieldTokens rest (f :: more)) v

end

/-- Every string has a text, and every number follows the grammar. -/
inductive Writable : Json → Prop
  | null : Writable .null
  | bool (b : Bool) : Writable (.bool b)
  | number {n : Number} (h : n.WellFormed) : Writable (.number n)
  | string (s : String) : Writable (.string (some s))
  | array {items : List Json} (h : ∀ v ∈ items, Writable v) : Writable (.array items)
  | object {fields : List (Content × Json)} (hkey : ∀ f ∈ fields, f.1.isSome)
    (hvalue : ∀ f ∈ fields, Writable f.2) : Writable (.object fields)

@[simp] lemma writable_text (s : String) : Writable (.text s) := .string s

lemma writable_record {fields : List (String × Json)} (h : ∀ f ∈ fields, Writable f.2) :
    Writable (.record fields) := by
  refine .object (fun f hf => ?_) fun f hf => ?_
  · obtain ⟨g, -, rfl⟩ := List.mem_map.1 hf
    rfl
  · obtain ⟨g, hg, rfl⟩ := List.mem_map.1 hf
    exact h g hg

/-! ### Writing spells the tokens -/

/-- What is written for the document spells its tokens. -/
def SpelledBy (write : List Char → Json → List Char) (v : Json) : Prop :=
  ∀ {ts : List Token} {rest : List Char}, Number.EndsBefore rest → Spells ts rest →
    Spells (tokensOnto ts v) (write rest v)

/-- The items of an array, with the blanks `lead` in front of each and commas in between. -/
structure ItemLayout (lead : List Char) (write : List Char → Json → List Char)
    (writeItems : List Char → List Json → List Char) : Prop where
  nil : ∀ rest, writeItems rest [] = rest
  last : ∀ rest v, writeItems rest [v] = lead ++ write rest v
  next : ∀ rest v w more, writeItems rest (v :: w :: more) =
    lead ++ write (',' :: writeItems rest (w :: more)) v

/-- The fields of an object, with the blanks `gap` behind each colon. -/
structure FieldLayout (lead gap : List Char) (write : List Char → Json → List Char)
    (writeFields : List Char → List (Content × Json) → List Char) : Prop where
  nil : ∀ rest, writeFields rest [] = rest
  last : ∀ rest k v, writeFields rest [(k, v)] = lead ++ (quote k ++ ':' :: (gap ++ write rest v))
  next : ∀ rest k v f more, writeFields rest ((k, v) :: f :: more) =
    lead ++ (quote k ++ ':' :: (gap ++ write (',' :: writeFields rest (f :: more)) v))

lemma endsBefore_cons {c : Char} (rest : List Char)
    (hc : c.isDigit = false ∧ c ≠ '.' ∧ c ≠ 'e' ∧ c ≠ 'E') : Number.EndsBefore (c :: rest) := by
  rintro d ⟨⟩
  exact hc

lemma ItemLayout.spells {lead : List Char} {write : List Char → Json → List Char}
    {writeItems : List Char → List Json → List Char} (hlayout : ItemLayout lead write writeItems)
    (hlead : ∀ c ∈ lead, isSpace c) {items : List Json} (ih : ∀ v ∈ items, SpelledBy write v)
    {ts : List Token} {rest : List Char} (hrest : Number.EndsBefore rest) (h : Spells ts rest) :
    Spells (itemTokens ts items) (writeItems rest items) := by
  induction items with
  | nil =>
    rw [hlayout.nil]
    exact h
  | cons v more hmore =>
    cases more with
    | nil =>
      rw [hlayout.last]
      exact (ih v (by simp) hrest h).blanks hlead
    | cons w more =>
      have htail := hmore fun u hu => ih u (List.mem_cons_of_mem v hu)
      rw [hlayout.next]
      exact (ih v (by simp) (endsBefore_cons _ (by decide)) (htail.mark .comma rfl)).blanks hlead

lemma FieldLayout.spells {lead gap : List Char} {write : List Char → Json → List Char}
    {writeFields : List Char → List (Content × Json) → List Char}
    (hlayout : FieldLayout lead gap write writeFields) (hlead : ∀ c ∈ lead, isSpace c)
    (hgap : ∀ c ∈ gap, isSpace c) {fields : List (Content × Json)}
    (hkey : ∀ f ∈ fields, f.1.isSome) (ih : ∀ f ∈ fields, SpelledBy write f.2)
    {ts : List Token} {rest : List Char} (hrest : Number.EndsBefore rest) (h : Spells ts rest) :
    Spells (fieldTokens ts fields) (writeFields rest fields) := by
  induction fields with
  | nil =>
    rw [hlayout.nil]
    exact h
  | cons f more hmore =>
    obtain ⟨k, v⟩ := f
    obtain ⟨s, rfl⟩ := Option.isSome_iff_exists.1 (hkey (k, v) (by simp))
    have hv : SpelledBy write v := ih (some s, v) (by simp)
    cases more with
    | nil =>
      rw [hlayout.last]
      exact ((((hv hrest h).blanks hgap).mark .colon rfl).quoted s).blanks hlead
    | cons f more =>
      have htail := hmore (fun u hu => hkey u (List.mem_cons_of_mem _ hu))
        fun u hu => ih u (List.mem_cons_of_mem _ hu)
      rw [hlayout.next]
      have hvalue := hv (endsBefore_cons _ (by decide)) (htail.mark .comma rfl)
      exact (((hvalue.blanks hgap).mark .colon rfl).quoted s).blanks hlead

lemma itemLayout_compact : ItemLayout [] compactOnto compactItems where
  nil _ := by simp [compactItems]
  last _ _ := by simp [compactItems]
  next _ _ _ _ := by simp [compactItems]

lemma fieldLayout_compact : FieldLayout [] [] compactOnto compactFields where
  nil _ := by simp [compactFields]
  last _ _ _ := by simp [compactFields]
  next _ _ _ _ _ := by simp [compactFields]

lemma itemLayout_pretty (level : Nat) :
    ItemLayout (newLine level) (prettyOnto level) (prettyItems level) where
  nil _ := by simp [prettyItems]
  last _ _ := by simp [prettyItems]
  next _ _ _ _ := by simp [prettyItems]

lemma fieldLayout_pretty (level : Nat) :
    FieldLayout (newLine level) [' '] (prettyOnto level) (prettyFields level) where
  nil _ := by simp [prettyFields]
  last _ _ _ := by simp [prettyFields]
  next _ _ _ _ _ := by simp [prettyFields]

lemma Writable.spells_compact {v : Json} (h : Writable v) : SpelledBy compactOnto v := by
  induction h with
  | null => exact fun _ h => .token (c := 'n') rfl rfl h
  | bool b => cases b <;> exact fun _ h => .token rfl rfl h
  | number hn => exact fun hrest h => h.number hn hrest
  | string s => exact fun _ h => h.quoted s
  | array _ ih =>
    intro ts rest _ h
    have hitems := itemLayout_compact.spells (by simp) ih (endsBefore_cons rest (by decide))
      (h.mark .closeArray rfl)
    exact hitems.mark .openArray rfl
  | object hkey _ ih =>
    intro ts rest _ h
    have hfields := fieldLayout_compact.spells (by simp) (by simp) hkey ih
      (endsBefore_cons rest (by decide)) (h.mark .closeObject rfl)
    exact hfields.mark .openObject rfl

lemma Writable.spells_pretty {v : Json} (h : Writable v) : ∀ level, SpelledBy (prettyOnto level) v := by
  induction h with
  | null => exact fun _ _ _ _ h => .token (c := 'n') rfl rfl h
  | bool b => cases b <;> exact fun _ _ _ _ h => .token rfl rfl h
  | number hn => exact fun _ _ _ hrest h => h.number hn hrest
  | string s => exact fun _ _ _ _ h => h.quoted s
  | @array items _ ih =>
    intro level ts rest _ h
    cases items with
    | nil => exact (h.mark .closeArray rfl).mark .openArray rfl
    | cons v more =>
      have hitems := (itemLayout_pretty (level + 1)).spells (isSpace_newLine _)
        (fun u hu => ih u hu (level + 1)) (endsBefore_cons _ (by decide))
        ((h.mark .closeArray rfl).newLine level)
      exact hitems.mark .openArray rfl
  | @object fields hkey _ ih =>
    intro level ts rest _ h
    cases fields with
    | nil => exact (h.mark .closeObject rfl).mark .openObject rfl
    | cons f more =>
      have hfields := (fieldLayout_pretty (level + 1)).spells (isSpace_newLine _)
        (by simp [isSpace]) hkey
        (fun u hu => ih u hu (level + 1)) (endsBefore_cons _ (by decide))
        ((h.mark .closeObject rfl).newLine level)
      exact hfields.mark .openObject rfl

/-! ### The machine -/

/-- To prove something of all documents, prove it of a container from its parts. -/
@[elab_as_elim]
theorem inductionOn {motive : Json → Prop} (v : Json) (null : motive .null)
    (bool : ∀ b, motive (.bool b)) (number : ∀ n, motive (.number n))
    (string : ∀ s, motive (.string s))
    (array : ∀ items : List Json, (∀ v ∈ items, motive v) → motive (.array items))
    (object : ∀ fields : List (Content × Json), (∀ f ∈ fields, motive f.2) → motive (.object fields)) :
    motive v :=
  @Json.rec motive (fun items => ∀ v ∈ items, motive v) (fun fields => ∀ f ∈ fields, motive f.2)
    (fun f => motive f.2) null bool number string array object (by simp)
    (fun v more hv hmore => List.forall_mem_cons.2 ⟨hv, hmore⟩) (by simp)
    (fun f more hf hmore => List.forall_mem_cons.2 ⟨hf, hmore⟩) (fun _ _ h => h) v

namespace State

/-- Where a value is read, the machine comes to stand behind it. -/
def Rebuilds (v : Json) : Prop :=
  ∀ (stack : List Frame) (ts : List Token),
    (tokensOnto ts v).foldlM step (value stack) = ts.foldlM step (after v stack)

/-- The first value of an array is read like any other. -/
lemma foldlM_firstItem (v : Json) (stack : List Frame) (ts : List Token) :
    (tokensOnto ts v).foldlM step (firstItem stack) =
      (tokensOnto ts v).foldlM step (value (.array [] :: stack)) := by
  cases v <;> rfl

lemma foldlM_itemTokens {v : Json} {more : List Json} (ih : ∀ u ∈ v :: more, Rebuilds u)
    (stack : List Frame) (items : List Json) (ts : List Token) :
    (itemTokens (.closeArray :: ts) (v :: more)).foldlM step (value (.array items :: stack)) =
      ts.foldlM step (after (.array (items.reverse ++ v :: more)) stack) := by
  induction more generalizing v items with
  | nil =>
    rw [itemTokens, ih v (by simp), List.foldlM_cons]
    simp [step]
  | cons w more hmore =>
    rw [itemTokens, ih v (by simp), List.foldlM_cons]
    have hrest := hmore (fun u hu => ih u (List.mem_cons_of_mem v hu)) (v :: items)
    simpa [step] using hrest

lemma foldlM_field {v : Json} (h : Rebuilds v) (k : Content) (fields : List (Content × Json))
    (stack : List Frame) (ts : List Token) :
    (.string k :: .colon :: tokensOnto ts v).foldlM step (nextKey fields stack) =
      ts.foldlM step (after v (.object fields k :: stack)) :=
  h (.object fields k :: stack) ts

lemma foldlM_fieldTokens {f : Content × Json} {more : List (Content × Json)}
    (ih : ∀ u ∈ f :: more, Rebuilds u.2) (stack : List Frame) (fields : List (Content × Json))
    (ts : List Token) :
    (fieldTokens (.closeObject :: ts) (f :: more)).foldlM step (nextKey fields stack) =
      ts.foldlM step (after (.object (fields.reverse ++ f :: more)) stack) := by
  induction more generalizing f fields with
  | nil =>
    rw [fieldTokens, foldlM_field (ih f (by simp)), List.foldlM_cons]
    simp [step]
  | cons g more hmore =>
    rw [fieldTokens, foldlM_field (ih f (by simp)), List.foldlM_cons]
    have hrest := hmore (fun u hu => ih u (List.mem_cons_of_mem f hu)) (f :: fields)
    simpa [step] using hrest

/-- **The machine builds every document from its tokens.** -/
lemma rebuilds (v : Json) : Rebuilds v := by
  induction v using Json.inductionOn with
  | null | bool | number | string => exact fun _ _ => rfl
  | array items ih =>
    intro stack ts
    rw [tokensOnto, List.foldlM_cons]
    change (itemTokens (.closeArray :: ts) items).foldlM step (firstItem stack) = _
    cases items with
    | nil => rfl
    | cons v more =>
      have hfirst : (itemTokens (.closeArray :: ts) (v :: more)).foldlM step (firstItem stack) =
          (itemTokens (.closeArray :: ts) (v :: more)).foldlM step (value (.array [] :: stack)) := by
        cases more <;> exact foldlM_firstItem v stack _
      rw [hfirst, foldlM_itemTokens ih stack [] ts]
      rfl
  | object fields ih =>
    intro stack ts
    rw [tokensOnto, List.foldlM_cons]
    change (fieldTokens (.closeObject :: ts) fields).foldlM step (firstKey stack) = _
    cases fields with
    | nil => rfl
    | cons f more =>
      -- the first key is read like any other
      have hfirst : (fieldTokens (.closeObject :: ts) (f :: more)).foldlM step (firstKey stack) =
          (fieldTokens (.closeObject :: ts) (f :: more)).foldlM step (nextKey [] stack) := by
        cases more <;> rfl
      rw [hfirst, foldlM_fieldTokens ih stack [] ts]
      rfl

end State

lemma ofTokens?_tokensOnto (v : Json) : ofTokens? (tokensOnto [] v) = some v := by
  rw [ofTokens?, State.rebuilds v [] []]
  rfl

/-! ### Reading back -/

lemma parse?_of_spells {v : Json} {cs : List Char} (h : Spells (tokensOnto [] v) cs) :
    parse? cs = some v := by
  rw [parse?, tokens?_of_spells h, Option.bind_some, ofTokens?_tokensOnto]

lemma endsBefore_nil : Number.EndsBefore [] := by simp [Number.EndsBefore]

/-- **A document is read back from its compact text.** -/
theorem parse?_compact {v : Json} (h : Writable v) : parse? v.compact = some v :=
  parse?_of_spells (h.spells_compact endsBefore_nil .done)

/-- **A document is read back from its text with a line for each item.** -/
theorem parse?_pretty {v : Json} (h : Writable v) : parse? v.pretty = some v :=
  parse?_of_spells (h.spells_pretty 0 endsBefore_nil .done)

end Json

end EscapeTime
