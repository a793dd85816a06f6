import Keychord.Proofs.Reading.Segments
import Keychord.Proofs.Reading.Tokens

/-!
# Texts as bytes

A text is stored as bytes: a character of ASCII as one byte, any other as some bytes that are not of
ASCII. The marks and the uncut words are in ASCII. So they can be looked for byte by byte: one that
begins at a byte begins at a character, and it is the one that the characters spell.
-/
namespace Keychord.Reading
open Text

/-- The bytes that the characters are stored as. -/
def encode (chars : List Char) : List UInt8 := chars.flatMap String.utf8EncodeChar

/-- The bytes of a text. -/
def bytes (text : String) : List UInt8 := text.toByteArray.data.toList

@[simp] lemma encode_nil : encode [] = [] := rfl

@[simp] lemma encode_cons (c : Char) (chars : List Char) :
    encode (c :: chars) = String.utf8EncodeChar c ++ encode chars := rfl

@[simp] lemma encode_append (xs ys : List Char) : encode (xs ++ ys) = encode xs ++ encode ys :=
  List.flatMap_append

lemma bytes_eq_encode (text : String) : bytes text = encode text.toList := by
  obtain ⟨chars, rfl⟩ := text.exists_eq_ofList
  rw [bytes, String.toByteArray_ofList, String.toList_ofList, List.utf8Encode,
    List.data_toByteArray, List.toList_toArray, encode]

lemma length_bytes (text : String) : (bytes text).length = text.utf8ByteSize := rfl

lemma length_encode (chars : List Char) :
    (encode chars).length = (String.ofList chars).utf8ByteSize := by
  rw [← length_bytes, bytes_eq_encode, String.toList_ofList]

lemma encode_eq_nil_iff {chars : List Char} : encode chars = [] ↔ chars = [] := by
  cases chars with
  | nil => simp
  | cons c chars => simp [String.utf8EncodeChar_ne_nil]

lemma utf8EncodeChar_of_ascii {c : Char} (h : c.toNat < 128) :
    String.utf8EncodeChar c = [UInt8.ofNat c.toNat] := by
  refine if_pos ?_
  change c.toNat ≤ 127
  omega

/-- No byte of a character outside ASCII is in ASCII. -/
lemma le_of_mem_utf8EncodeChar {c : Char} (h : 128 ≤ c.toNat) :
    ∀ b ∈ String.utf8EncodeChar c, 128 ≤ b.toNat := by
  have h' : 128 ≤ c.val.toNat := h
  intro b hb
  simp only [String.utf8EncodeChar] at hb
  split_ifs at hb <;>
    simp only [List.mem_cons, List.not_mem_nil, or_false] at hb <;>
    rcases hb with rfl | rfl | rfl | rfl <;>
    simp only [UInt8.toNat_ofNat'] <;> omega

lemma exists_cons_of_not_ascii {c : Char} (h : ¬ c.toNat < 128) :
    ∃ b more, String.utf8EncodeChar c = b :: more ∧ 128 ≤ b.toNat := by
  obtain ⟨b, more, hbytes⟩ := List.exists_cons_of_ne_nil (String.utf8EncodeChar_ne_nil (c := c))
  exact ⟨b, more, hbytes, le_of_mem_utf8EncodeChar (Nat.le_of_not_lt h) b (by simp [hbytes])⟩

/-- Lower case of the letters `A` to `Z`, as bytes. -/
def lowerByte (b : UInt8) : UInt8 := if 65 ≤ b ∧ b ≤ 90 then b + 32 else b

/-- The bytes begin with those of the word, the case of ASCII letters aside. -/
def startsWith (rest : List UInt8) (word : List Char) : Bool :=
  decide ((encode word).length ≤ rest.length) &&
    (rest.take (encode word).length).map lowerByte == (encode word).map lowerByte

lemma startsWith_iff {rest : List UInt8} {word : List Char} :
    startsWith rest word = true ↔ (encode word).map lowerByte <+: rest.map lowerByte := by
  rw [startsWith, Bool.and_eq_true, decide_eq_true_iff, beq_iff_eq, List.prefix_iff_eq_take,
    List.length_map, ← List.map_take]
  constructor
  · rintro ⟨-, h⟩
    exact h.symm
  · intro h
    have hlen := congrArg List.length h
    simp only [List.length_map, List.length_take] at hlen
    exact ⟨by omega, h.symm⟩

lemma toNat_lowerByte (b : UInt8) :
    (lowerByte b).toNat = if 65 ≤ b.toNat ∧ b.toNat ≤ 90 then b.toNat + 32 else b.toNat := by
  have hrange : (65 ≤ b ∧ b ≤ 90) ↔ (65 ≤ b.toNat ∧ b.toNat ≤ 90) := Iff.rfl
  unfold lowerByte
  by_cases h : 65 ≤ b.toNat ∧ b.toNat ≤ 90
  · rw [if_pos (hrange.mpr h), if_pos h, UInt8.toNat_add]
    change (b.toNat + 32) % 256 = _
    omega
  · rw [if_neg (fun hb => h (hrange.mp hb)), if_neg h]

/-- On ASCII, characters and bytes have the same lower case. -/
lemma lowerByte_ofNat {c : Char} (h : c.toNat < 128) :
    lowerByte (UInt8.ofNat c.toNat) = UInt8.ofNat (asciiLower c).toNat := by
  rw [← UInt8.toNat_inj, toNat_lowerByte, UInt8.toNat_ofNat', UInt8.toNat_ofNat', toNat_asciiLower]
  split_ifs <;> omega

/-- The word is made of ASCII characters, none of which is a capital letter. -/
def Plain (word : List Char) : Prop := ∀ w ∈ word, w.toNat < 128 ∧ asciiLower w = w

instance (word : List Char) : Decidable (Plain word) := List.decidableBAll _ word

lemma plain_compounds : ∀ word ∈ compounds, Plain word := by decide

lemma plain_or : Plain "or".toList := by decide

lemma ofNat_toNat_inj {c d : Char} (hc : c.toNat < 128) (hd : d.toNat < 128) :
    UInt8.ofNat c.toNat = UInt8.ofNat d.toNat ↔ c = d := by
  rw [← UInt8.toNat_inj, UInt8.toNat_ofNat', UInt8.toNat_ofNat', ← Char.toNat_inj]
  omega

lemma encode_of_ascii {chars : List Char} (h : ∀ c ∈ chars, c.toNat < 128) :
    encode chars = chars.map fun c => UInt8.ofNat c.toNat := by
  induction chars with
  | nil => rfl
  | cons c chars ih =>
      rw [List.forall_mem_cons] at h
      rw [encode_cons, utf8EncodeChar_of_ascii h.1, ih h.2]
      rfl

lemma length_encode_of_ascii {chars : List Char} (h : ∀ c ∈ chars, c.toNat < 128) :
    (encode chars).length = chars.length := by
  rw [encode_of_ascii h, List.length_map]

lemma Plain.length_encode {word : List Char} (h : Plain word) :
    (encode word).length = word.length :=
  length_encode_of_ascii fun w hw => (h w hw).1

lemma Plain.map_lowerByte {word : List Char} (h : Plain word) :
    (encode word).map lowerByte = word.map fun w => UInt8.ofNat w.toNat := by
  rw [encode_of_ascii fun w hw => (h w hw).1, List.map_map]
  refine List.map_congr_left fun w hw => ?_
  obtain ⟨hascii, hlower⟩ := h w hw
  rw [Function.comp_apply, lowerByte_ofNat hascii, hlower]

/-- No plain word begins at a byte outside ASCII. -/
lemma startsWith_of_le {b : UInt8} (hb : 128 ≤ b.toNat) (more : List UInt8) {word : List Char}
    (hword : Plain word) (hne : word ≠ []) : startsWith (b :: more) word = false := by
  rw [← Bool.not_eq_true, startsWith_iff, hword.map_lowerByte]
  intro h
  cases word with
  | nil => exact hne rfl
  | cons w word =>
      have hw := (hword w List.mem_cons_self).1
      have heq := congrArg UInt8.toNat (List.cons_prefix_cons.mp h).1
      rw [UInt8.toNat_ofNat', toNat_lowerByte] at heq
      split_ifs at heq <;> omega

/-- A plain word stands in front of the bytes of a text if it stands in front of the text. -/
lemma startsWith_encode {word : List Char} (hword : Plain word) (text : List Char) :
    startsWith (encode text) word = beginsWith word text := by
  induction word generalizing text with
  | nil => rw [Bool.eq_iff_iff, startsWith_iff]; simp [beginsWith]
  | cons w word ih =>
      cases text with
      | nil =>
          rw [Bool.eq_iff_iff, startsWith_iff, hword.map_lowerByte]
          simp [beginsWith]
      | cons c text =>
          obtain ⟨⟨hw, -⟩, htail⟩ := List.forall_mem_cons.mp hword
          by_cases hc : c.toNat < 128
          · have hlow : (asciiLower c).toNat < 128 := by
              rw [toNat_asciiLower]
              split_ifs <;> omega
            have ih := ih htail text
            rw [Bool.eq_iff_iff, startsWith_iff, Plain.map_lowerByte htail] at ih
            rw [Bool.eq_iff_iff, startsWith_iff, hword.map_lowerByte, encode_cons,
              utf8EncodeChar_of_ascii hc, beginsWith, Bool.and_eq_true, beq_iff_eq, ← ih]
            simp only [List.singleton_append, List.map_cons, List.cons_prefix_cons,
              lowerByte_ofNat hc, ofNat_toNat_inj hw hlow, eq_comm (a := w)]
          · -- neither the character nor its first byte is the first letter of the word
            have hbegins : (asciiLower c == w) = false := by
              rw [beq_eq_false_iff_ne, ne_eq, ← Char.toNat_inj, toNat_asciiLower]
              split_ifs <;> omega
            obtain ⟨b, more, hbytes, hb⟩ := exists_cons_of_not_ascii hc
            rw [encode_cons, hbytes, List.cons_append,
              startsWith_of_le hb _ hword (List.cons_ne_nil w word), beginsWith, hbegins,
              Bool.false_and]

/-- What is done at a byte: some bytes are passed, or the token of a mark is read. -/
inductive Move where
  | pass (length : ℕ)
  | mark (token : Token)
  deriving DecidableEq

/-- How many bytes are left behind. -/
def Move.length : Move → ℕ
  | pass length => length
  | mark token => token.chars.length

/-- Uncut words are passed as a whole, then the two marks are looked for, and any other byte is
passed on its own. -/
def look (rest : List UInt8) : Move :=
  match compounds.find? (startsWith rest) with
  | some word => .pass (encode word).length
  | none =>
    if rest.head? = some '+'.toUInt8 then .mark .plus
    else if startsWith rest "or".toList then
      .mark (.or (Char.ofUInt8 (rest.getD 0 0)) (Char.ofUInt8 (rest.getD 1 0)))
    else .pass 1

/-- The scan never stays where it is. -/
lemma length_look_pos (rest : List UInt8) : 0 < (look rest).length := by
  unfold look
  split
  next word hfind =>
    have hword := List.mem_of_find?_eq_some hfind
    have hlen := compounds_length word hword
    rw [Move.length, (plain_compounds word hword).length_encode]
    omega
  next => split_ifs <;> exact Nat.succ_pos _

/-- Every byte outside ASCII is passed on its own. -/
lemma look_of_le {b : UInt8} (hb : 128 ≤ b.toNat) (more : List UInt8) :
    look (b :: more) = .pass 1 := by
  have hwords : compounds.find? (startsWith (b :: more)) = none := by
    refine List.find?_eq_none.mpr fun word hword => ?_
    have hlen := compounds_length word hword
    rw [startsWith_of_le hb more (plain_compounds word hword) (by rintro rfl; simp at hlen)]
    exact Bool.false_ne_true
  have hplus : (b :: more).head? ≠ some '+'.toUInt8 := by
    rintro heq
    obtain rfl := Option.some.inj heq
    exact absurd hb (by decide)
  rw [look, hwords]
  simp only [if_neg hplus, startsWith_of_le hb more plain_or (by decide), Bool.false_eq_true,
    if_false]

/-- The letter of an ASCII byte. -/
lemma ofUInt8_ofNat {c : Char} (hc : c.toNat < 128) : Char.ofUInt8 (UInt8.ofNat c.toNat) = c := by
  rw [← Char.toNat_inj]
  change (UInt8.ofNat c.toNat).toNat = c.toNat
  rw [UInt8.toNat_ofNat']
  omega

lemma ascii_of_asciiLower {c : Char} (h : (asciiLower c).toNat < 128) : c.toNat < 128 := by
  rw [toNat_asciiLower] at h
  split_ifs at h <;> omega

lemma head?_encode_eq_plus_iff {c : Char} {rest : List Char} :
    (encode (c :: rest)).head? = some '+'.toUInt8 ↔ c = '+' := by
  by_cases hc : c.toNat < 128
  · rw [encode_cons, utf8EncodeChar_of_ascii hc, List.singleton_append, List.head?_cons,
      Option.some_inj]
    exact ofNat_toNat_inj hc (d := '+') (by decide)
  · obtain ⟨b, more, hbytes, hb⟩ := exists_cons_of_not_ascii hc
    rw [encode_cons, hbytes, List.cons_append, List.head?_cons, Option.some_inj]
    constructor
    · rintro rfl
      exact absurd hb (by decide)
    · rintro rfl
      exact absurd (by decide) hc

/-- The uncut word in front of a text is found in front of its bytes. -/
lemma find?_startsWith_encode (text : List Char) :
    (compounds.find? (startsWith (encode text))).map List.length = compoundLength? text := by
  have hsame : ∀ word ∈ compounds, startsWith (encode text) word = beginsWith word text :=
    fun word hword => startsWith_encode (plain_compounds word hword) text
  rw [compoundLength?]
  congr 1
  simp only [compounds, List.forall_mem_cons] at hsame
  simp only [compounds, List.find?_cons, hsame.1, hsame.2.1, List.find?_nil]

lemma look_of_compound {text : List Char} {m : ℕ} (h : compoundLength? text = some m) :
    look (encode text) = .pass m := by
  rw [← find?_startsWith_encode, Option.map_eq_some_iff] at h
  obtain ⟨word, hfind, rfl⟩ := h
  have hword := plain_compounds word (List.mem_of_find?_eq_some hfind)
  rw [look, hfind]
  exact congrArg Move.pass hword.length_encode

lemma look_of_none {text : List Char} (h : compoundLength? text = none) :
    look (encode text) =
      if (encode text).head? = some '+'.toUInt8 then .mark .plus
      else if beginsWith "or".toList text = true then
        .mark (.or (Char.ofUInt8 ((encode text).getD 0 0)) (Char.ofUInt8 ((encode text).getD 1 0)))
      else .pass 1 := by
  rw [← find?_startsWith_encode, Option.map_eq_none_iff] at h
  rw [look, h, startsWith_encode plain_or]

/-- What stands in front of a text, with what its bytes call for and what becomes of it. -/
inductive Meets (text : List Char) : Prop
  | word {word rest : List Char} (spelled : text = word ++ rest)
      (ascii : ∀ c ∈ word, c.toNat < 128) (look_eq : look (encode text) = .pass word.length)
      (scan_eq : scanFrom 0 text = word.foldr glue (scanFrom 0 rest))
  | mark {token : Token} {rest : List Char} (spelled : text = token.chars ++ rest)
      (ascii : ∀ c ∈ token.chars, c.toNat < 128) (no_text : token.isText = false)
      (look_eq : look (encode text) = .mark token)
      (scan_eq : scanFrom 0 text = token :: scanFrom 0 rest)
  | plain {c : Char} {rest : List Char} (spelled : text = c :: rest)
      (look_eq : look (encode text) = .pass 1)
      (scan_eq : scanFrom 0 text = glue c (scanFrom 0 rest))

lemma ascii_take_of_compound {text : List Char} {m : ℕ} (h : compoundLength? text = some m) :
    ∀ c ∈ text.take m, c.toNat < 128 := by
  obtain ⟨word, hword, rfl, hbegins⟩ := compoundLength?_eq_some_iff.mp h
  have htake := List.prefix_iff_eq_take.mp ((beginsWith_iff word text).mp hbegins)
  rw [← List.map_take] at htake
  intro c hc
  have hmem : asciiLower c ∈ word := htake ▸ List.mem_map_of_mem hc
  exact ascii_of_asciiLower (plain_compounds word hword _ hmem).1

lemma Meets.of_compound {c : Char} {rest : List Char} {m : ℕ}
    (h : compoundLength? (c :: rest) = some m) : Meets (c :: rest) := by
  obtain ⟨hpos, hle⟩ := compoundLength?_le h
  obtain ⟨k, rfl⟩ : ∃ k, m = k + 1 := ⟨m - 1, by omega⟩
  refine .word (List.take_append_drop (k + 1) _).symm (ascii_take_of_compound h) ?_ ?_
  · rw [look_of_compound h, List.length_take_of_le hle]
  · rw [scanFrom_compound h, Nat.add_sub_cancel, scanFrom_eq_foldr_glue k]
    rfl

lemma Meets.of_or {o t : Char} (h : isOr o t = true) (rest : List Char) :
    Meets (o :: t :: rest) := by
  have hlower : asciiLower o = 'o' ∧ asciiLower t = 'r' := by simpa [isOr] using h
  have ho : o.toNat < 128 := ascii_of_asciiLower (by rw [hlower.1]; decide)
  have ht : t.toNat < 128 := ascii_of_asciiLower (by rw [hlower.2]; decide)
  have hnone : compoundLength? (o :: t :: rest) = none :=
    compoundLength?_of_head (by rw [hlower.1]; decide)
  have hplus : o ≠ '+' := by
    rintro rfl
    exact absurd hlower.1 (by decide)
  refine .mark rfl (by simp [Token.chars, ho, ht]) rfl ?_ (scanFrom_or h rest)
  rw [look_of_none hnone, if_neg (head?_encode_eq_plus_iff.not.mpr hplus), beginsWith_or_cons,
    if_pos h, encode_cons, encode_cons, utf8EncodeChar_of_ascii ho, utf8EncodeChar_of_ascii ht]
  simp [ofUInt8_ofNat ho, ofUInt8_ofNat ht]

/-- The bytes of a text call for what the scanner does with its characters. -/
theorem meets_cons (c : Char) (rest : List Char) : Meets (c :: rest) := by
  cases hm : compoundLength? (c :: rest) with
  | some m => exact .of_compound hm
  | none =>
      by_cases hplus : c = '+'
      · subst hplus
        refine .mark rfl (by simp [Token.chars]) rfl ?_ (scanFrom_plus rest)
        rw [look_of_none hm, if_pos (head?_encode_eq_plus_iff.mpr rfl)]
      by_cases hor : ∃ d more, rest = d :: more ∧ isOr c d = true
      · obtain ⟨d, more, rfl, hor⟩ := hor
        exact .of_or hor more
      · have hno : ∀ d more, rest = d :: more → isOr c d = false := by simpa using hor
        refine .plain rfl ?_ (scanFrom_plain hm hplus hno)
        have hbegins : beginsWith "or".toList (c :: rest) = false := by
          cases rest with
          | nil => simp [beginsWith]
          | cons d more => rw [beginsWith_or_cons, hno d more rfl]
        rw [look_of_none hm, if_neg (head?_encode_eq_plus_iff.not.mpr hplus), hbegins,
          if_neg Bool.false_ne_true]

end Keychord.Reading
