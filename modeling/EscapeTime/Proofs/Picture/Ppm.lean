import EscapeTime.Decimal.Numeral
import EscapeTime.Picture.Ppm
import EscapeTime.Proofs.Plane.Grid
import Mathlib.Data.List.TakeWhile

namespace EscapeTime

/-!
# Reading a picture back

A reader of pixmaps takes four words, parted by white space, and one line end; all bytes after that
are colours, whatever they look like. It takes the picture out of the bytes that were written for
it, so the bytes say everything about the picture. A sink takes them all or refuses.
-/

/-! ### The reader -/

/-- The grid with the given cells, row by row, if they are as many as its size says. -/
def Grid.ofList? {α : Type} (height width : Nat) (cells : List α) : Option (Grid α) :=
  if h : cells.length = height * width then some ⟨height, width, ⟨cells.toArray, h⟩⟩ else none

lemma Grid.ofList?_toList {α : Type} (g : Grid α) :
    Grid.ofList? g.height g.width g.toList = some g := by
  rw [Grid.ofList?, dif_pos g.length_toList]
  rfl

namespace Ppm

/-- The character with the byte as its code. -/
def character (b : UInt8) : Char := .ofNat b.toNat

def isSpace (b : UInt8) : Bool := (character b).isWhitespace

/-- The first word, with the white space before it passed over, and the bytes after it. -/
def word (bs : List UInt8) : List Char × List UInt8 :=
  let start := bs.dropWhile isSpace
  ((start.takeWhile (!isSpace ·)).map character, start.dropWhile (!isSpace ·))

def size? (digits : List Char) : Option Nat :=
  if digits.isEmpty || !digits.all Char.isDigit then none else some (Decimal.spell 0 digits)

/-- The colours of the bytes, three to each. -/
def colors? : List UInt8 → Option (List Rgb)
  | [] => some []
  | r :: g :: b :: rest => (colors? rest).map (⟨r, g, b⟩ :: ·)
  | _ => none

/-- The picture that the bytes hold. -/
def read? (bs : List UInt8) : Option (Grid Rgb) := do
  let (magic, bs) := word bs
  let (width, bs) := word bs
  let (height, bs) := word bs
  let (greatest, bs) := word bs
  guard (magic = ['P', '6'] ∧ greatest = ['2', '5', '5'])
  match bs with
  | 0x0a :: bs => Grid.ofList? (← size? height) (← size? width) (← colors? bs)
  | _ => none

/-! ### The header as text -/

/-- The byte of a character of one byte. -/
def code (c : Char) : UInt8 := .ofNat c.toNat

lemma character_code {c : Char} (h : c.toNat < 128) : character (code c) = c := by
  have hcode : (code c).toNat = c.toNat := by
    rw [code, UInt8.toNat_ofNat']
    omega
  rw [character, hcode, Char.ofNat_toNat]

/-- The loop that lists the bytes of an array has listed those before `i`. -/
lemma toList_loop (bs : ByteArray) (i : Nat) (acc : List UInt8) :
    ByteArray.toList.loop bs i acc = acc.reverse ++ bs.data.toList.drop i := by
  fun_induction ByteArray.toList.loop bs i acc with
  | case1 i acc hlt ih =>
    have hget : bs.get! i = bs.data[i] := getElem!_pos bs.data i hlt
    have hdrop : bs.data.toList.drop i = bs.get! i :: bs.data.toList.drop (i + 1) := by
      rw [hget, List.drop_eq_getElem_cons hlt, Array.getElem_toList]
    rw [ih, hdrop, List.reverse_cons, List.append_assoc, List.singleton_append]
  | case2 i acc hge =>
    have hdrop : bs.data.toList.drop i = [] := List.drop_eq_nil_of_le (Nat.le_of_not_lt hge)
    rw [hdrop, List.append_nil]

/-- A text of characters of one byte is encoded one by one. -/
lemma toUTF8_ofList {cs : List Char} (h : ∀ c ∈ cs, c.toNat < 128) :
    (String.ofList cs).toUTF8.toList = cs.map code := by
  have hchar : ∀ c ∈ cs, String.utf8EncodeChar c = [code c] := by
    intro c hc
    have hlt : c.val.toNat ≤ 127 := Nat.le_of_lt_succ (h c hc)
    exact if_pos hlt
  calc
    (String.ofList cs).toUTF8.toList = cs.utf8Encode.data.toList := by
      rw [String.toUTF8, String.toByteArray_ofList, ByteArray.toList, toList_loop, List.reverse_nil,
        List.nil_append, List.drop_zero]
    _ = (cs.map String.utf8EncodeChar).flatten := by
      rw [List.utf8Encode, List.toList_data_toByteArray, List.flatMap_def]
    _ = cs.map code := by
      rw [List.map_congr_left hchar, ← List.flatMap_def, ← List.map_eq_flatMap]

/-- The characters that words are made of. -/
def Inked (c : Char) : Prop := c.toNat < 128 ∧ c.isWhitespace = false

lemma inked_of_isDigit {c : Char} (h : c.isDigit) : Inked c := by
  have hle : c.val ≤ 57 := by
    simp only [Char.isDigit, Bool.and_eq_true, decide_eq_true_eq] at h
    exact h.2
  constructor
  · exact Nat.lt_of_le_of_lt hle (by decide)
  · have hne : ∀ d : Char, d.isDigit = false → c ≠ d := by
      rintro d hd rfl
      exact absurd h (by simp [hd])
    simp [Char.isWhitespace, hne]

lemma inked_toDigits (n : Nat) : ∀ c ∈ Nat.toDigits 10 n, Inked c := fun _ hc =>
  inked_of_isDigit (Nat.isDigit_of_mem_toDigits (by decide) (by decide) hc)

/-- The header's four words: the format, the sizes and the greatest byte. -/
lemma header_eq (width height : Nat) :
    header width height =
      ['P', '6'].map code ++ 0x0a :: ((Nat.toDigits 10 width).map code ++
        0x20 :: ((Nat.toDigits 10 height).map code ++
          0x0a :: (['2', '5', '5'].map code ++ [0x0a]))) := by
  have htext : "P6\n" ++ toString width ++ " " ++ toString height ++ "\n255\n" =
      String.ofList (['P', '6'] ++ '\n' :: (Nat.toDigits 10 width ++ ' ' ::
        (Nat.toDigits 10 height ++ '\n' :: (['2', '5', '5'] ++ ['\n'])))) := by
    rw [← String.toList_inj]
    simp
  have hdigits : ∀ n, ∀ c ∈ Nat.toDigits 10 n, c.toNat < 128 := fun n c hc =>
    (inked_toDigits n c hc).1
  rw [header, htext, toUTF8_ofList]
  · simp [code]
  · simp only [List.forall_mem_append, List.forall_mem_cons]
    exact ⟨⟨by decide, by decide, by simp⟩, by decide, hdigits width, by decide, hdigits height,
      by decide, by simp⟩

/-! ### Words are read back -/

lemma word_space {b : UInt8} (hb : isSpace b) (bs : List UInt8) : word (b :: bs) = word bs := by
  unfold word
  rw [List.dropWhile_cons_of_pos hb]

/-- A word ends at white space. -/
lemma word_append {cs : List Char} (hne : cs ≠ []) (h : ∀ c ∈ cs, Inked c) {b : UInt8}
    (hb : isSpace b) (rest : List UInt8) : word (cs.map code ++ b :: rest) = (cs, b :: rest) := by
  have hink : ∀ x ∈ cs.map code, (!isSpace x) = true := by
    intro x hx
    obtain ⟨c, hc, rfl⟩ := List.mem_map.1 hx
    rw [isSpace, character_code (h c hc).1, (h c hc).2, Bool.not_false]
  have hstart : (cs.map code ++ b :: rest).dropWhile isSpace = cs.map code ++ b :: rest := by
    obtain ⟨c, cs, rfl⟩ := List.exists_cons_of_ne_nil hne
    have hc := hink (code c) (by simp)
    exact List.dropWhile_cons_of_neg (by simpa using hc)
  have hback : (cs.map code).map character = cs := by
    rw [List.map_map]
    exact (List.map_congr_left fun c hc => character_code (h c hc).1).trans (List.map_id' cs)
  simp only [word, hstart, List.takeWhile_append_of_pos hink, List.dropWhile_append_of_pos hink]
  rw [List.takeWhile_cons_of_neg (by simpa using hb),
    List.dropWhile_cons_of_neg (by simpa using hb), List.append_nil, hback]

lemma size?_toDigits (n : Nat) : size? (Nat.toDigits 10 n) = some n := by
  have hdigits : (Nat.toDigits 10 n).all Char.isDigit := by
    rw [List.all_eq_true]
    exact fun c hc => Nat.isDigit_of_mem_toDigits (by decide) (by decide) hc
  simp [size?, hdigits, Decimal.spell_toDigits]

/-! ### Colours are read back -/

lemma colors?_flatMap (cs : List Rgb) : colors? (cs.flatMap pixelBytes) = some cs := by
  induction cs with
  | nil => rfl
  | cons c cs ih =>
    rw [List.flatMap_cons, pixelBytes, List.cons_append, List.cons_append, List.cons_append,
      List.nil_append, colors?, ih, Option.map_some]

theorem read?_bytes (image : Grid Rgb) : read? (bytes image) = some image := by
  have hmagic : ∀ c ∈ ['P', '6'], Inked c := by simp [Inked]
  have hgreatest : ∀ c ∈ ['2', '5', '5'], Inked c := by simp [Inked]
  have hspace : isSpace 0x20 := by decide
  have hline : isSpace 0x0a := by decide
  simp only [bytes, header_eq, List.append_assoc, List.cons_append, List.nil_append, read?]
  rw [word_append (by simp) hmagic hline, word_space hline,
    word_append Nat.toDigits_ne_nil (inked_toDigits _) hspace, word_space hspace,
    word_append Nat.toDigits_ne_nil (inked_toDigits _) hline, word_space hline,
    word_append (by simp) hgreatest hline]
  simp [size?_toDigits, colors?_flatMap, body, Grid.ofList?_toList]

lemma bytes_injective : Function.Injective bytes := fun image image' h =>
  Option.some.inj <|
    calc
      some image = read? (bytes image) := (read?_bytes image).symm
      _ = read? (bytes image') := by rw [h]
      _ = some image' := read?_bytes image'

/-! ### Where a pixel stands -/

lemma length_flatMap_pixelBytes (cs : List Rgb) :
    (cs.flatMap pixelBytes).length = 3 * cs.length := by
  induction cs with
  | nil => rfl
  | cons c cs ih =>
    rw [List.flatMap_cons, List.length_append, ih, List.length_cons]
    simp only [pixelBytes, List.length_cons, List.length_nil]
    omega

lemma length_body (image : Grid Rgb) : (body image).length = 3 * image.width * image.height := by
  rw [body, length_flatMap_pixelBytes, Grid.length_toList]
  ring

/-- A colour's bytes stand after those of the colours before it. -/
lemma drop_flatMap_pixelBytes {cs : List Rgb} {i : Nat} {c : Rgb} (h : cs[i]? = some c) :
    ((cs.flatMap pixelBytes).drop (3 * i)).take 3 = pixelBytes c := by
  obtain ⟨hi, rfl⟩ := List.getElem?_eq_some_iff.1 h
  have hcut : cs = cs.take i ++ cs[i] :: cs.drop (i + 1) := by
    rw [← List.drop_eq_getElem_cons hi, List.take_append_drop]
  have hbefore : ((cs.take i).flatMap pixelBytes).length = 3 * i := by
    rw [length_flatMap_pixelBytes, List.length_take_of_le (Nat.le_of_lt hi)]
  calc
    ((cs.flatMap pixelBytes).drop (3 * i)).take 3
      = (((cs.take i).flatMap pixelBytes ++ (cs[i] :: cs.drop (i + 1)).flatMap pixelBytes).drop
          (3 * i)).take 3 := by rw [← List.flatMap_append, ← hcut]
    _ = (pixelBytes cs[i] ++ (cs.drop (i + 1)).flatMap pixelBytes).take 3 := by
      rw [List.drop_left' hbefore, List.flatMap_cons]
    _ = pixelBytes cs[i] := List.take_left' rfl

lemma pixel_bytes {image : Grid Rgb} {row col : Nat} {c : Rgb} (h : image.get? row col = some c) :
    ((bytes image).drop ((header image.width image.height).length +
      3 * (row * image.width + col))).take 3 = pixelBytes c := by
  have hcell : image.toList[row * image.width + col]? = some c := by
    unfold Grid.get? at h
    split at h
    · simpa [Grid.toList] using h
    · cases h
  rw [bytes, ← List.drop_drop, List.drop_left' rfl, body, drop_flatMap_pixelBytes hcell]

end Ppm

/-! ### Writing -/

namespace Sink

lemma write_unbounded (before bytes : List UInt8) :
    (⟨none, before⟩ : Sink).write bytes = .ok ⟨none, before ++ bytes⟩ := rfl

lemma write_bounded (k : Nat) (before bytes : List UInt8) :
    (⟨some k, before⟩ : Sink).write bytes =
      if before.length + bytes.length ≤ k then .ok ⟨some k, before ++ bytes⟩
      else .error .sinkFull := by
  rw [← List.length_append]
  rfl

lemma run_put (s : Sink) (bytes : List UInt8) : (put bytes).run s =
    pure (match s.write bytes with
      | .ok after => (.ok (), after)
      | .error fault => (.error fault, s)) := by
  cases hwrite : s.write bytes <;> simp [put, hwrite]

/-- Two pieces that are written one after the other are written as one: where the first does not
fit, both together do not. -/
lemma write_append (s : Sink) (u v : List UInt8) :
    (s.write u).bind (·.write v) = s.write (u ++ v) := by
  obtain ⟨capacity, before⟩ := s
  cases capacity with
  | none => simp only [write_unbounded, Except.bind, List.append_assoc]
  | some k =>
    rw [write_bounded, write_bounded, List.length_append, ← Nat.add_assoc]
    by_cases hu : before.length + u.length ≤ k
    · simp only [if_pos hu, Except.bind, write_bounded, List.length_append, List.append_assoc]
    · have huv : ¬ before.length + u.length + v.length ≤ k := by omega
      rw [if_neg hu, if_neg huv]
      rfl

end Sink

namespace Ppm

lemma write_eq (image : Grid Rgb) (sink : Sink) :
    write image sink = (sink.write (bytes image)).mapError .file := by
  rw [bytes, ← Sink.write_append, write, writeWith, StateT.run_bind, Sink.run_put, pure_bind]
  cases sink.write (header image.width image.height) with
  | error fault => rfl
  | ok after =>
    dsimp only [Except.bind]
    rw [StateT.run_bind, Sink.run_put, pure_bind]
    cases after.write (body image) <;> rfl

/-- **A picture is read back from its bytes.** The bytes are the header and three for each pixel,
row by row. A reader that knows only the format takes the same picture out of them, also one without
rows or columns, so no two pictures have the same bytes. A sink takes them exactly when it has room
for all of them. -/
theorem write_read_back (image : Grid Rgb) :
    (bytes image).length =
        (header image.width image.height).length + 3 * image.width * image.height ∧
      (∀ row col c, image.get? row col = some c →
        ((bytes image).drop ((header image.width image.height).length +
          3 * (row * image.width + col))).take 3 = [c.r, c.g, c.b]) ∧
      read? (bytes image) = some image ∧
      (∀ image', bytes image' = bytes image → image' = image) ∧
      (∀ before, write image ⟨none, before⟩ = .ok ⟨none, before ++ bytes image⟩) ∧
      ∀ k before, write image ⟨some k, before⟩ =
        if before.length + (bytes image).length ≤ k then .ok ⟨some k, before ++ bytes image⟩
        else .error (.file .sinkFull) := by
  refine ⟨?_, fun _ _ _ => pixel_bytes, read?_bytes image, fun _ h => bytes_injective h, ?_, ?_⟩
  · rw [bytes, List.length_append, length_body]
  · intro before
    rw [write_eq, Sink.write_unbounded]
    rfl
  · intro k before
    rw [write_eq, Sink.write_bounded]
    split <;> rfl

-- digits, blanks and line ends after the header are colours
example : (read? (['P', '6', '\n', '2', ' ', '1', '\n', '2', '5', '5', '\n',
    '\n', '7', ' ', '1', '2', '\n'].map code)).map (fun g => (g.height, g.width, g.toList)) =
      some (1, 2, [⟨10, 55, 32⟩, ⟨49, 50, 10⟩]) := by
  decide

end Ppm

end EscapeTime
