import EscapeTime.Picture.Rgb
import Mathlib.Tactic.Common
import Mathlib.Tactic.IntervalCases

namespace EscapeTime

/-!
# Colours in text

A text names a colour just if it is six hexadecimal digits of either case, with a number sign before
them or without. The test before the digits are read counts bytes and looks at characters; together
the two leave only characters of one byte, so that the digits can be cut in pairs by their places in
bytes, and no sign gets as far as the pairs, where it would be let through.
-/

namespace Text

/-- The hexadecimal digits of either case. -/
def hexDigits : List Char :=
  ['0', '1', '2', '3', '4', '5', '6', '7', '8', '9', 'a', 'b', 'c', 'd', 'e', 'f',
    'A', 'B', 'C', 'D', 'E', 'F']

lemma digitChar_of_hexValue? {c : Char} {v : Nat} (h : hexValue? c = some v) :
    c ∈ hexDigits ∧ v < 16 ∧ Nat.digitChar v = c.toLower := by
  have hc : c = Char.ofNat c.toNat := (Char.ofNat_toNat c).symm
  simp only [hexValue?, Bool.and_eq_true, decide_eq_true_eq] at h
  generalize c.toNat = n at h hc
  subst hc
  -- each of the three ranges is short enough to go through
  split_ifs at h with hdecimal hsmall hcapital
  · obtain ⟨hlow, hhigh⟩ := hdecimal
    obtain rfl : n - 48 = v := Option.some.inj h
    interval_cases n <;> decide
  · obtain ⟨hlow, hhigh⟩ := hsmall
    obtain rfl : n - 87 = v := Option.some.inj h
    interval_cases n <;> decide
  · obtain ⟨hlow, hhigh⟩ := hcapital
    obtain rfl : n - 55 = v := Option.some.inj h
    interval_cases n <;> decide

lemma isSome_hexValue?_iff {c : Char} : (hexValue? c).isSome ↔ c ∈ hexDigits := by
  constructor
  · intro h
    obtain ⟨v, hv⟩ := Option.isSome_iff_exists.1 h
    exact (digitChar_of_hexValue? hv).1
  · have hall : hexDigits.all (fun c => (hexValue? c).isSome) = true := by decide
    exact List.all_eq_true.1 hall c

/-- A hexadecimal digit is one byte long, and none of the two signs. -/
lemma utf8Size_of_mem_hexDigits {c : Char} (h : c ∈ hexDigits) :
    c.utf8Size = 1 ∧ c ≠ '#' ∧ c ≠ '+' := by
  have hall : hexDigits.all (fun c => c.utf8Size = 1 ∧ c ≠ '#' ∧ c ≠ '+') = true := by decide
  simpa using List.all_eq_true.1 hall c h

/-! ### Cutting at places -/

lemma byteCount_append (front back : List Char) :
    byteCount (front ++ back) = byteCount front + byteCount back := by
  induction front with
  | nil => simp [byteCount]
  | cons c rest ih => simp [byteCount, ih, Nat.add_assoc]

lemma byteCount_of_hex {cs : List Char} (h : ∀ c ∈ cs, c ∈ hexDigits) :
    byteCount cs = cs.length := by
  induction cs with
  | nil => rfl
  | cons c rest ih =>
    obtain ⟨hc, hrest⟩ := List.forall_mem_cons.1 h
    rw [byteCount, ih hrest, (utf8Size_of_mem_hexDigits hc).1, List.length_cons, Nat.add_comm]

lemma cutAt?_append (front back : List Char) :
    cutAt? (front ++ back) (byteCount front) = some (front, back) := by
  induction front with
  | nil => simp [byteCount, cutAt?]
  | cons c rest ih =>
    have hpos := c.utf8Size_pos
    obtain ⟨n, hn⟩ : ∃ n, byteCount (c :: rest) = n + 1 := ⟨byteCount (c :: rest) - 1, by
      simp only [byteCount]
      omega⟩
    have hsize : c.utf8Size ≤ n + 1 := by simp only [← hn, byteCount]; omega
    have hleft : n + 1 - c.utf8Size = byteCount rest := by simp only [← hn, byteCount]; omega
    rw [hn, List.cons_append, cutAt?, if_pos hsize, hleft, ih]
    rfl

/-- The piece between two places, where the characters before each fill the bytes before it. -/
lemma slice?_append (front piece back : List Char) :
    slice? (front ++ (piece ++ back)) (byteCount front) (byteCount front + byteCount piece) =
      some piece := by
  rw [slice?, ← byteCount_append, ← List.append_assoc, cutAt?_append]
  simp only [Option.bind_eq_bind, Option.bind_some, cutAt?_append]
  rfl

/-- Two digits in the middle of others are two bytes. -/
lemma slice?_pair (front back : List Char) {a b : Char} (hfront : ∀ c ∈ front, c ∈ hexDigits)
    (ha : a ∈ hexDigits) (hb : b ∈ hexDigits) :
    slice? (front ++ ([a, b] ++ back)) front.length (front.length + 2) = some [a, b] := by
  have hslice := slice?_append front [a, b] back
  rwa [byteCount_of_hex hfront, byteCount_of_hex (by simp [ha, hb])] at hslice

lemma hexNumber?_pair {a b : Char} {v w : Nat} (ha : hexValue? a = some v)
    (hb : hexValue? b = some w) : hexNumber? [a, b] = some (v * 16 + w) := by
  have hplus : a ≠ '+' := (utf8Size_of_mem_hexDigits (digitChar_of_hexValue? ha).1).2.2
  simp [hexNumber?, hplus, ha, hb]

lemma byteDigits_ofNat {v w : Nat} (hv : v < 16) (hw : w < 16) :
    byteDigits (.ofNat (v * 16 + w)) = [Nat.digitChar v, Nat.digitChar w] := by
  have hsize : (UInt8.ofNat (v * 16 + w)).toNat = v * 16 + w :=
    UInt8.toNat_ofNat_of_lt' (by simp only [UInt8.size]; omega)
  have hhigh : (v * 16 + w) / 16 = v := by omega
  have hlow : (v * 16 + w) % 16 = w := by omega
  rw [byteDigits, hsize, hhigh, hlow]

lemma byteDigits_injective {x y : UInt8} (h : byteDigits x = byteDigits y) : x = y := by
  have hx := x.toNat_lt
  have hy := y.toNat_lt
  simp only [byteDigits, List.cons.injEq, and_true] at h
  have hhigh : x.toNat / 16 = y.toNat / 16 := by
    have := congrArg hexValue? h.1
    rwa [hexValue?_digitChar (by omega), hexValue?_digitChar (by omega), Option.some.injEq] at this
  have hlow : x.toNat % 16 = y.toNat % 16 := by
    have := congrArg hexValue? h.2
    rwa [hexValue?_digitChar (by omega), hexValue?_digitChar (by omega), Option.some.injEq] at this
  exact UInt8.toNat_inj.1 (by omega)

end Text

namespace Rgb

open Text

/-- The text is six hexadecimal digits, or a number sign and six of them. -/
structure Spells (s : String) (digits : List Char) : Prop where
  written : s.toList = digits ∨ s.toList = '#' :: digits
  six : digits.length = 6
  hex : ∀ d ∈ digits, d ∈ hexDigits

lemma isSixDigits_iff {cs : List Char} :
    isSixDigits cs ↔ cs.length = 6 ∧ ∀ c ∈ cs, c ∈ hexDigits := by
  simp only [isSixDigits, Bool.and_eq_true, beq_iff_eq, List.all_eq_true, isSome_hexValue?_iff]
  constructor
  · rintro ⟨hcount, hhex⟩
    exact ⟨by rw [← byteCount_of_hex hhex, hcount], hhex⟩
  · rintro ⟨hlength, hhex⟩
    exact ⟨by rw [byteCount_of_hex hhex, hlength], hhex⟩

lemma digitsOf_of_spells {s : String} {digits : List Char} (h : Spells s digits) :
    digitsOf s.toList = digits := by
  rcases h.written with hplain | hsigned
  · rw [hplain]
    cases digits with
    | nil => rfl
    | cons d rest =>
      have hsign : d ≠ '#' := (utf8Size_of_mem_hexDigits (h.hex d List.mem_cons_self)).2.1
      simp [digitsOf, hsign]
  · rw [hsigned, digitsOf]

/-- What the test lets through is spelled out as it should be. -/
lemma spells_of_isSixDigits {s : String} (h : isSixDigits (digitsOf s.toList)) :
    Spells s (digitsOf s.toList) := by
  obtain ⟨hlength, hhex⟩ := isSixDigits_iff.1 h
  refine ⟨?_, hlength, hhex⟩
  cases hs : s.toList with
  | nil => exact .inl rfl
  | cons c rest =>
    by_cases hsign : c = '#'
    · exact .inr (by rw [hsign, digitsOf])
    · exact .inl (by simp [digitsOf, hsign])

/-- Two digits in the middle of others are cut out and give the byte that they spell. -/
lemma channel?_append (front back : List Char) {a b : Char} (hfront : ∀ c ∈ front, c ∈ hexDigits)
    (ha : a ∈ hexDigits) (hb : b ∈ hexDigits) :
    ∃ x, channel? (front ++ ([a, b] ++ back)) front.length = some x ∧
      byteDigits x = [a.toLower, b.toLower] := by
  obtain ⟨v, hv⟩ := Option.isSome_iff_exists.1 (isSome_hexValue?_iff.2 ha)
  obtain ⟨w, hw⟩ := Option.isSome_iff_exists.1 (isSome_hexValue?_iff.2 hb)
  obtain ⟨-, hvlt, hvlower⟩ := digitChar_of_hexValue? hv
  obtain ⟨-, hwlt, hwlower⟩ := digitChar_of_hexValue? hw
  have hsize : v * 16 + w < UInt8.size := by simp only [UInt8.size]; omega
  refine ⟨.ofNat (v * 16 + w), ?_, ?_⟩
  · simp only [channel?, slice?_pair front back hfront ha hb, hexNumber?_pair hv hw,
      Option.bind_eq_bind, Option.bind_some, if_pos hsize]
    rfl
  · rw [byteDigits_ofNat hvlt hwlt, hvlower, hwlower]

/-- The test leaves no place in the middle of a character and none behind the end. -/
lemma exists_slice_of_isSixDigits {digits : List Char} (h : isSixDigits digits) {place : Nat}
    (hplace : place ∈ [0, 2, 4]) : ∃ a b, slice? digits place (place + 2) = some [a, b] := by
  obtain ⟨hlength, hhex⟩ := isSixDigits_iff.1 h
  match digits, hlength, hhex with
  | [a, b, c, d, e, f], _, hhex =>
    simp only [List.forall_mem_cons] at hhex
    obtain ⟨ha, hb, hc, hd, he, hf, -⟩ := hhex
    simp only [List.mem_cons, List.not_mem_nil, or_false] at hplace
    rcases hplace with rfl | rfl | rfl
    · exact ⟨a, b, slice?_pair [] [c, d, e, f] (by simp) ha hb⟩
    · exact ⟨c, d, slice?_pair [a, b] [e, f] (by simp [ha, hb]) hc hd⟩
    · exact ⟨e, f, slice?_pair [a, b, c, d] [] (by simp [ha, hb, hc, hd]) he hf⟩

/-- A text that spells six digits names the colour with these digits in lower case. -/
lemma ofText_of_spells {s : String} {digits : List Char} (h : Spells s digits) :
    ∃ c, ofText s = .ok c ∧ c.digits = digits.map Char.toLower := by
  have hdigits := digitsOf_of_spells h
  have hsix : isSixDigits digits := isSixDigits_iff.2 ⟨h.six, h.hex⟩
  match digits, h.six, h.hex with
  | [a, b, c, d, e, f], _, hhex =>
    simp only [List.forall_mem_cons] at hhex
    obtain ⟨ha, hb, hc, hd, he, hf, -⟩ := hhex
    obtain ⟨red, hred, hred'⟩ := channel?_append [] [c, d, e, f] (by simp) ha hb
    obtain ⟨green, hgreen, hgreen'⟩ := channel?_append [a, b] [e, f] (by simp [ha, hb]) hc hd
    obtain ⟨blue, hblue, hblue'⟩ := channel?_append [a, b, c, d] []
      (by simp [ha, hb, hc, hd]) he hf
    refine ⟨⟨red, green, blue⟩, ?_, ?_⟩
    · simp only [List.nil_append, List.cons_append, List.append_nil, List.length_nil,
        List.length_cons] at hred hgreen hblue
      simp only [ofText, hdigits, hsix, if_true, hred, hgreen, hblue]
    · simp [Rgb.digits, hred', hgreen', hblue']

lemma mem_hexDigits_of_mem_digits {c : Rgb} {d : Char} (h : d ∈ c.digits) :
    d ∈ hexDigits ∧ d.toLower = d := by
  have hall : ∀ n < 16,
      Nat.digitChar n ∈ hexDigits ∧ (Nat.digitChar n).toLower = Nat.digitChar n := by
    decide
  have hr := c.r.toNat_lt
  have hg := c.g.toNat_lt
  have hb := c.b.toNat_lt
  simp only [digits, byteDigits, List.cons_append, List.nil_append, List.mem_cons, List.not_mem_nil,
    or_false] at h
  rcases h with rfl | rfl | rfl | rfl | rfl | rfl <;> exact hall _ (by omega)

lemma spells_text (c : Rgb) : Spells c.text c.digits where
  written := .inr (by rw [text, String.toList_ofList])
  six := by simp [digits, byteDigits]
  hex := fun _ hd => (mem_hexDigits_of_mem_digits hd).1

lemma digits_injective {c d : Rgb} (h : c.digits = d.digits) : c = d := by
  have hlength : ∀ x : UInt8, (byteDigits x).length = 2 := fun _ => rfl
  simp only [digits] at h
  obtain ⟨hrg, hb⟩ := List.append_inj' h (by simp only [hlength])
  obtain ⟨hr, hg⟩ := List.append_inj' hrg (by simp only [hlength])
  cases c
  cases d
  rw [mk.injEq]
  exact ⟨byteDigits_injective hr, byteDigits_injective hg, byteDigits_injective hb⟩

/-- **The text of a colour names it.** -/
lemma ofText_text (c : Rgb) : ofText c.text = .ok c := by
  obtain ⟨d, hd, hdigits⟩ := ofText_of_spells (spells_text c)
  have hlower : c.digits.map Char.toLower = c.digits := by
    rw [List.map_congr_left fun d hd => (mem_hexDigits_of_mem_digits hd).2, List.map_id']
  rw [hd, digits_injective (hdigits.trans hlower)]

/-- A text that does not pass the test is refused, and named in the refusal. -/
lemma ofText_of_not_isSixDigits {s : String} (h : ¬isSixDigits (digitsOf s.toList)) :
    ofText s = .error (.invalidColor s) := by
  simp only [ofText, if_neg h]

lemma not_spells_of_mem {s : String} (c : Char) (hmem : c ∈ s.toList) (hsign : c ≠ '#')
    (hhex : c ∉ hexDigits) : ¬∃ digits, Spells s digits := by
  rintro ⟨digits, h⟩
  rcases h.written with hplain | hsigned
  · exact hhex (h.hex c (hplain ▸ hmem))
  · rw [hsigned, List.mem_cons] at hmem
    exact hhex (h.hex c (hmem.resolve_left hsign))

/-- **Colours are read exactly.** A text names a colour if and only if it spells six digits; the
colour is written with these digits in lower case. All other texts are refused by their own name.
Once the test is passed, each of the three pairs can be cut out, whatever characters the text has.
And every colour is read back from its text. -/
theorem ofText_exact (s : String) :
    ((∃ c, ofText s = .ok c) ↔ ∃ digits, Spells s digits) ∧
      (∀ c digits, ofText s = .ok c → Spells s digits →
        c.text = String.ofList ('#' :: digits.map Char.toLower)) ∧
      ((¬∃ digits, Spells s digits) → ofText s = .error (.invalidColor s)) ∧
      (isSixDigits (digitsOf s.toList) → ∀ place ∈ [0, 2, 4],
        ∃ a b, slice? (digitsOf s.toList) place (place + 2) = some [a, b]) ∧
      ∀ x : Rgb, ofText x.text = .ok x := by
  have hrefused : (¬∃ digits, Spells s digits) → ofText s = .error (.invalidColor s) := fun h =>
    ofText_of_not_isSixDigits fun hsix => h ⟨_, spells_of_isSixDigits hsix⟩
  refine ⟨⟨?_, ?_⟩, ?_, hrefused, fun hsix place => exists_slice_of_isSixDigits hsix, ofText_text⟩
  · rintro ⟨c, hc⟩
    by_contra hnone
    rw [hrefused hnone] at hc
    cases hc
  · rintro ⟨digits, hspells⟩
    obtain ⟨c, hc, -⟩ := ofText_of_spells hspells
    exact ⟨c, hc⟩
  · intro c digits hc hspells
    obtain ⟨d, hd, hdigits⟩ := ofText_of_spells hspells
    obtain rfl : d = c := Except.ok.inj (hd.symm.trans hc)
    rw [text, hdigits]

/-- Mixed case is read, and written in lower case. Three pairs of a sign and a digit are refused,
and so are six bytes with a longer character among them. -/
theorem ofText_exact_mixed_case :
    (∃ c, ofText "#FfA07b" = .ok c ∧ c.text = "#ffa07b") ∧
      ofText "+f+f+f" = .error (.invalidColor "+f+f+f") ∧
      ofText "#12é45" = .error (.invalidColor "#12é45") := by
  have hmixed : Spells "#FfA07b" ['F', 'f', 'A', '0', '7', 'b'] :=
    ⟨.inr (by simp), rfl, by simp [hexDigits]⟩
  obtain ⟨c, hc⟩ := (ofText_exact "#FfA07b").1.2 ⟨_, hmixed⟩
  refine ⟨⟨c, hc, ?_⟩, (ofText_exact "+f+f+f").2.2.1 ?_, (ofText_exact "#12é45").2.2.1 ?_⟩
  · rw [(ofText_exact "#FfA07b").2.1 c _ hc hmixed]
    decide
  · exact not_spells_of_mem '+' (by simp) (by decide) (by decide)
  · exact not_spells_of_mem 'é' (by simp) (by decide) (by decide)

end Rgb

end EscapeTime
