import Keychord.Proofs.Reading.Bytes

/-!
# Scanning bytes

The tokens of a text can be read from its bytes, with two offsets: one of the byte that is looked at
and one of the byte where the current piece of text begins. A piece is taken out of the text as it
is, which can only be done at the boundaries of characters. Although the scan goes byte by byte and
does not know where characters begin, it always succeeds, and its tokens are those that the
characters spell.
-/
namespace Keychord.Reading

/-- The byte offset stands between two characters of the text, or at one of its ends. -/
abbrev IsBoundary (text : String) (offset : ℕ) : Prop := String.Pos.Raw.IsValid text ⟨offset⟩

/-- The part of a text between two offsets. There is none if they are in the wrong order or one of
them is no boundary. -/
def between? (text : String) (start stop : ℕ) : Option String :=
  if h : start ≤ stop ∧ IsBoundary text start ∧ IsBoundary text stop then
    some (text.extract (text.pos ⟨start⟩ h.2.1) (text.pos ⟨stop⟩ h.2.2))
  else none

/-- How far a scan has come: the offset at which the current piece of text begins, the offset of the
byte to look at, and the tokens that have been read. -/
structure ByteScan where
  runStart : ℕ := 0
  position : ℕ := 0
  tokens : List Token := []
  deriving DecidableEq

namespace ByteScan

/-- The tokens with the current piece of text behind them, if it is not empty at this offset. -/
def flush (text : String) (s : ByteScan) (stop : ℕ) : Option (List Token) :=
  if s.runStart < stop then
    (between? text s.runStart stop).map fun run => s.tokens ++ [.text run.toList]
  else some s.tokens

/-- Looks at one byte. At a mark the current piece of text ends. -/
def step (text : String) (s : ByteScan) : Option ByteScan :=
  match look ((bytes text).drop s.position) with
  | .pass length => some { s with position := s.position + length }
  | .mark token =>
    (s.flush text s.position).map fun tokens =>
      let next := s.position + token.chars.length
      ⟨next, next, tokens ++ [token]⟩

section Step

variable {text : String} {s : ByteScan}

lemma step_of_pass {length : ℕ} (h : look ((bytes text).drop s.position) = .pass length) :
    s.step text = some { s with position := s.position + length } := by
  rw [step, h]

lemma step_of_mark {token : Token} (h : look ((bytes text).drop s.position) = .mark token) :
    s.step text = (s.flush text s.position).map fun tokens =>
      ⟨s.position + token.chars.length, s.position + token.chars.length, tokens ++ [token]⟩ := by
  rw [step, h]

lemma position_of_step {t : ByteScan} (h : s.step text = some t) :
    t.position = s.position + (look ((bytes text).drop s.position)).length := by
  cases hlook : look ((bytes text).drop s.position) with
  | pass length =>
      rw [step_of_pass hlook] at h
      obtain rfl := Option.some.inj h
      rfl
  | mark token =>
      rw [step_of_mark hlook] at h
      obtain ⟨tokens, -, rfl⟩ := Option.map_eq_some_iff.mp h
      rfl

end Step

/-- The tokens of the text, from some point of the scan on. -/
def run (text : String) (s : ByteScan) : Option (List Token) :=
  if s.position < text.utf8ByteSize then
    match _hstep : s.step text with
    | some t => t.run text
    | none => none
  else s.flush text text.utf8ByteSize
termination_by text.utf8ByteSize - s.position
decreasing_by
  have := position_of_step _hstep
  have := length_look_pos ((bytes text).drop s.position)
  omega

/-- The points that the scan of a text comes to. -/
inductive Reaches (text : String) : ByteScan → Prop
  | start : Reaches text {}
  | step {s t : ByteScan} (h : Reaches text s) (more : s.position < text.utf8ByteSize)
      (next : s.step text = some t) : Reaches text t

end ByteScan

/-- What stands before some of the characters ends at a boundary. -/
lemma isBoundary_length_encode {text : String} {before after : List Char}
    (h : text.toList = before ++ after) : IsBoundary text (encode before).length := by
  refine String.Pos.Raw.isValid_iff_exists_append.mpr
    ⟨String.ofList before, String.ofList after, ?_, ?_⟩
  · rw [← String.ofList_append, ← h, String.ofList_toList]
  · rw [String.Pos.Raw.ext_iff, String.byteIdx_rawEndPos, length_encode]

lemma extract_middle (a b c : ByteArray) :
    (a ++ (b ++ c)).extract a.size (a.size + b.size) = b := by
  have h := ByteArray.extract_append_size_add (a := a) (b := b ++ c) (i := 0) (j := b.size)
  rw [Nat.add_zero] at h
  rw [h, ByteArray.extract_append_eq_left rfl]

/-- Between boundaries the characters are taken out that stand there. -/
lemma between?_eq {text : String} {before part after : List Char}
    (h : text.toList = before ++ part ++ after) :
    between? text (encode before).length (encode (before ++ part)).length =
      some (String.ofList part) := by
  have hstart : IsBoundary text (encode before).length :=
    isBoundary_length_encode (h.trans (List.append_assoc ..))
  have hstop : IsBoundary text (encode (before ++ part)).length := isBoundary_length_encode h
  have hle : (encode before).length ≤ (encode (before ++ part)).length := by
    rw [encode_append, List.length_append]
    exact Nat.le_add_right _ _
  have htext : text.toByteArray = (String.ofList before).toByteArray ++
      ((String.ofList part).toByteArray ++ (String.ofList after).toByteArray) := by
    rw [← String.toByteArray_append, ← String.toByteArray_append, ← String.ofList_append,
      ← String.ofList_append, ← List.append_assoc, ← h, String.ofList_toList]
  rw [between?, dif_pos ⟨hle, hstart, hstop⟩, Option.some_inj, ← String.toByteArray_inj,
    String.toByteArray_extract, String.offset_pos, String.offset_pos, htext, encode_append,
    List.length_append, length_encode, length_encode]
  exact extract_middle _ _ _

/-- A piece of text as a token, unless it is empty. -/
def piece (run : List Char) : List Token := if run = [] then [] else [.text run]

/-- In front of a mark the glued characters are a token of their own. -/
lemma foldr_glue (run : List Char) {tokens : List Token}
    (h : ∀ u ∈ tokens.head?, u.isText = false) : run.foldr glue tokens = piece run ++ tokens := by
  induction run with
  | nil => rfl
  | cons c run ih =>
      rw [List.foldr_cons, ih]
      cases run with
      | nil =>
          cases tokens with
          | nil => rfl
          | cons t tokens =>
              cases t with
              | text chars => cases h _ rfl
              | plus => rfl
              | or o r => rfl
      | cons d run => rfl

lemma drop_add_length {α : Type*} {l xs ys : List α} {n : ℕ} (h : l.drop n = xs ++ ys) :
    l.drop (n + xs.length) = ys := by
  rw [← List.drop_drop, h, List.drop_left]

namespace ByteScan

/-- The characters of the text are in the tokens, or in the current piece of text, or they are still
to come, where the last character of the piece may have some bytes, all outside ASCII, that have not
been looked at. -/
structure Standing (text : String) (s : ByteScan) (passed run rest : List Char)
    (inside : List UInt8) : Prop where
  spelled : text.toList = passed ++ run ++ rest
  runStart_eq : s.runStart = (encode passed).length
  position_eq : s.position + inside.length = (encode (passed ++ run)).length
  ahead : (bytes text).drop s.position = inside ++ encode rest
  outside_ascii : ∀ b ∈ inside, 128 ≤ b.toNat
  length_inside : inside.length ≤ (encode run).length
  tokens_eq : scan text.toList = s.tokens ++ run.foldr glue (scanFrom 0 rest)

section Standing

variable {text : String} {s : ByteScan} {passed run rest : List Char} {inside : List UInt8}

lemma standing_start (text : String) : Standing text {} [] [] text.toList [] where
  spelled := rfl
  runStart_eq := rfl
  position_eq := rfl
  ahead := bytes_eq_encode text
  outside_ascii := by simp
  length_inside := Nat.le_refl 0
  tokens_eq := rfl

lemma Standing.utf8ByteSize_eq (h : Standing text s passed run rest inside) :
    text.utf8ByteSize = s.position + inside.length + (encode rest).length := by
  rw [← length_bytes, bytes_eq_encode, h.spelled, encode_append, List.length_append, h.position_eq]

lemma Standing.runStart_le (h : Standing text s passed run rest inside) :
    s.runStart ≤ s.position := by
  have hposition := h.position_eq
  have hinside := h.length_inside
  rw [encode_append, List.length_append] at hposition
  rw [h.runStart_eq]
  omega

lemma Standing.isBoundary_runStart (h : Standing text s passed run rest inside) :
    IsBoundary text s.runStart := by
  rw [h.runStart_eq]
  exact isBoundary_length_encode (h.spelled.trans (List.append_assoc ..))

lemma Standing.position_eq_length (h : Standing text s passed run rest []) :
    s.position = (encode (passed ++ run)).length :=
  h.position_eq

lemma Standing.look_eq (h : Standing text s passed run rest []) :
    look ((bytes text).drop s.position) = look (encode rest) :=
  congrArg look h.ahead

lemma Standing.isBoundary_position (h : Standing text s passed run rest []) :
    IsBoundary text s.position := by
  rw [h.position_eq_length]
  exact isBoundary_length_encode h.spelled

/-- No mark is seen inside a character. -/
lemma Standing.inside_eq_nil (h : Standing text s passed run rest inside) {token : Token}
    (hlook : look ((bytes text).drop s.position) = .mark token) : inside = [] := by
  cases inside with
  | nil => rfl
  | cons b inside =>
      rw [h.ahead, List.cons_append, look_of_le (h.outside_ascii b List.mem_cons_self)] at hlook
      cases hlook

/-- The current piece of text can be taken out where a character ends. -/
lemma Standing.flush_eq (h : Standing text s passed run rest inside) :
    s.flush text (encode (passed ++ run)).length = some (s.tokens ++ piece run) := by
  rw [flush, h.runStart_eq, between?_eq h.spelled, piece]
  cases run with
  | nil => simp
  | cons c run =>
      have hlt : (encode passed).length < (encode (passed ++ c :: run)).length := by
        have hpos := c.utf8Size_pos
        simp only [encode_append, encode_cons, List.length_append, String.length_utf8EncodeChar]
        omega
      rw [if_pos hlt, if_neg (List.cons_ne_nil c run), Option.map_some, String.toList_ofList]

/-- One byte inside a character. -/
lemma Standing.step_inside {b : UInt8} (h : Standing text s passed run rest (b :: inside)) :
    ∃ t, s.step text = some t ∧ Standing text t passed run rest inside := by
  have hahead : (bytes text).drop s.position = [b] ++ (inside ++ encode rest) := h.ahead
  have hlook : look ((bytes text).drop s.position) = .pass 1 := by
    rw [hahead, List.singleton_append, look_of_le (h.outside_ascii b List.mem_cons_self)]
  have hposition := h.position_eq
  have hinside := h.length_inside
  rw [List.length_cons] at hposition hinside
  refine ⟨_, step_of_pass hlook, h.spelled, h.runStart_eq, ?_, drop_add_length hahead, ?_, ?_,
    h.tokens_eq⟩
  · change s.position + 1 + inside.length = _
    omega
  · exact fun d hd => h.outside_ascii d (List.mem_cons_of_mem b hd)
  · omega

/-- A word that is passed over as a whole. -/
lemma Standing.step_word {word : List Char} (h : Standing text s passed run (word ++ rest) [])
    (ascii : ∀ c ∈ word, c.toNat < 128)
    (look_eq : look (encode (word ++ rest)) = .pass word.length)
    (scan_eq : scanFrom 0 (word ++ rest) = word.foldr glue (scanFrom 0 rest)) :
    ∃ t, s.step text = some t ∧ Standing text t passed (run ++ word) rest [] := by
  have hahead : (bytes text).drop s.position = encode word ++ encode rest :=
    h.ahead.trans (encode_append word rest)
  have hlen := length_encode_of_ascii ascii
  refine ⟨_, step_of_pass (h.look_eq.trans look_eq), ?_, h.runStart_eq, ?_, ?_, by simp,
    Nat.zero_le _, ?_⟩
  · simpa using h.spelled
  · change s.position + word.length = _
    rw [← List.append_assoc, encode_append, List.length_append, hlen, h.position_eq_length]
  · rw [← hlen]
    exact drop_add_length hahead
  · rw [h.tokens_eq, scan_eq, List.foldr_append]

/-- A mark, in front of which the current piece of text ends. -/
lemma Standing.step_mark {token : Token}
    (h : Standing text s passed run (token.chars ++ rest) [])
    (ascii : ∀ c ∈ token.chars, c.toNat < 128) (no_text : token.isText = false)
    (look_eq : look (encode (token.chars ++ rest)) = .mark token)
    (scan_eq : scanFrom 0 (token.chars ++ rest) = token :: scanFrom 0 rest) :
    ∃ t, s.step text = some t ∧ Standing text t (passed ++ run ++ token.chars) [] rest [] := by
  have hahead : (bytes text).drop s.position = encode token.chars ++ encode rest :=
    h.ahead.trans (encode_append token.chars rest)
  have hlen := length_encode_of_ascii ascii
  have hnext : s.position + token.chars.length =
      (encode (passed ++ run ++ token.chars)).length := by
    rw [encode_append, List.length_append, hlen, h.position_eq_length]
  have hflush : s.flush text s.position = some (s.tokens ++ piece run) := by
    rw [h.position_eq_length, h.flush_eq]
  have hstep := step_of_mark (h.look_eq.trans look_eq)
  rw [hflush, Option.map_some] at hstep
  refine ⟨_, hstep, ?_, hnext, ?_, ?_, by simp, Nat.zero_le _, ?_⟩
  · simpa using h.spelled
  · simpa using hnext
  · rw [← hlen]
    exact drop_add_length hahead
  · rw [h.tokens_eq, scan_eq, foldr_glue run (by simpa using no_text)]
    simp

/-- The first byte of a character of plain text. -/
lemma Standing.step_plain {c : Char} (h : Standing text s passed run (c :: rest) [])
    (look_eq : look (encode (c :: rest)) = .pass 1)
    (scan_eq : scanFrom 0 (c :: rest) = glue c (scanFrom 0 rest)) :
    ∃ t, s.step text = some t ∧
      Standing text t passed (run ++ [c]) rest (String.utf8EncodeChar c).tail := by
  obtain ⟨b, more, hbytes⟩ := List.exists_cons_of_ne_nil (String.utf8EncodeChar_ne_nil (c := c))
  have hahead : (bytes text).drop s.position = [b] ++ (more ++ encode rest) := by
    rw [h.ahead, List.nil_append, encode_cons, hbytes]
    rfl
  have hlen : (encode [c]).length = more.length + 1 := by simp [hbytes]
  rw [hbytes, List.tail_cons]
  refine ⟨_, step_of_pass (h.look_eq.trans look_eq), ?_, h.runStart_eq, ?_,
    drop_add_length hahead, ?_, ?_, ?_⟩
  · simpa using h.spelled
  · change s.position + 1 + more.length = _
    rw [← List.append_assoc, encode_append, List.length_append, hlen, h.position_eq_length]
    omega
  · intro d hd
    by_cases hc : c.toNat < 128
    · rw [utf8EncodeChar_of_ascii hc] at hbytes
      simp [← (List.cons.inj hbytes).2] at hd
    · exact le_of_mem_utf8EncodeChar (Nat.le_of_not_lt hc) d (by simp [hbytes, hd])
  · rw [encode_append, List.length_append, hlen]
    omega
  · rw [h.tokens_eq, scan_eq, List.foldr_append]
    rfl

/-- At the end, the current piece of text is the last token. -/
lemma Standing.flush_at_end (h : Standing text s passed run rest inside)
    (hend : text.utf8ByteSize ≤ s.position) :
    s.flush text text.utf8ByteSize = some (scan text.toList) := by
  have hsize := h.utf8ByteSize_eq
  obtain rfl : inside = [] := List.length_eq_zero_iff.mp (by omega)
  obtain rfl : rest = [] := encode_eq_nil_iff.mp (List.length_eq_zero_iff.mp (by omega))
  have hscan : scan text.toList = s.tokens ++ piece run := by
    rw [h.tokens_eq, scanFrom, foldr_glue run (by simp), List.append_nil]
  rw [hscan, ← h.flush_eq, ← h.position_eq_length, hsize]
  rfl

/-- The scan stands at some characters of the text. -/
def OnCourse (text : String) (s : ByteScan) : Prop :=
  ∃ passed run rest inside, Standing text s passed run rest inside

/-- Where a character begins, the scan goes on to what stands behind the word, the mark or the byte
in front of it. -/
lemma Standing.step_of_meets (h : Standing text s passed run rest []) (hmeets : Meets rest) :
    ∃ t, s.step text = some t ∧ OnCourse text t := by
  cases hmeets with
  | word spelled ascii look_eq scan_eq =>
      subst spelled
      obtain ⟨t, hstep, ht⟩ := h.step_word ascii look_eq scan_eq
      exact ⟨t, hstep, _, _, _, _, ht⟩
  | mark spelled ascii no_text look_eq scan_eq =>
      subst spelled
      obtain ⟨t, hstep, ht⟩ := h.step_mark ascii no_text look_eq scan_eq
      exact ⟨t, hstep, _, _, _, _, ht⟩
  | plain spelled look_eq scan_eq =>
      subst spelled
      obtain ⟨t, hstep, ht⟩ := h.step_plain look_eq scan_eq
      exact ⟨t, hstep, _, _, _, _, ht⟩

end Standing

/-- As long as there are bytes to look at, the scan succeeds and stays on its course. -/
theorem OnCourse.step {text : String} {s : ByteScan} (h : OnCourse text s)
    (more : s.position < text.utf8ByteSize) : ∃ t, s.step text = some t ∧ OnCourse text t := by
  obtain ⟨passed, run, rest, inside, h⟩ := h
  cases inside with
  | cons b inside =>
      obtain ⟨t, hstep, ht⟩ := h.step_inside
      exact ⟨t, hstep, passed, run, rest, inside, ht⟩
  | nil =>
      cases rest with
      | nil =>
          -- with no character to come the scan is at the end
          have hsize := h.utf8ByteSize_eq
          simp only [List.length_nil, encode_nil] at hsize
          omega
      | cons c rest => exact h.step_of_meets (meets_cons c rest)

lemma Reaches.onCourse {text : String} {s : ByteScan} (h : Reaches text s) : OnCourse text s := by
  induction h with
  | start => exact ⟨_, _, _, _, standing_start text⟩
  | step h more next ih =>
      obtain ⟨t, hstep, ht⟩ := ih.step more
      obtain rfl := Option.some.inj (next.symm.trans hstep)
      exact ht

/-- From any point of its course, the scan ends with the tokens of the text. -/
theorem OnCourse.run_eq {text : String} {s : ByteScan} (h : OnCourse text s) :
    s.run text = some (scan text.toList) := by
  fun_induction ByteScan.run text s with
  | case1 s more t hstep ih =>
      obtain ⟨t', hstep', ht⟩ := h.step more
      obtain rfl := Option.some.inj (hstep.symm.trans hstep')
      exact ih ht
  | case2 s more hstep =>
      obtain ⟨t, hstep', -⟩ := h.step more
      rw [hstep] at hstep'
      cases hstep'
  | case3 s more =>
      obtain ⟨passed, run, rest, inside, h⟩ := h
      exact h.flush_at_end (Nat.le_of_not_lt more)

end ByteScan

/-- The tokens of a text, read from its bytes. -/
def scanBytes (text : String) : Option (List Token) := ByteScan.run text {}

/-- At every point of a scan, the current piece of text begins no later than the byte that is looked
at, which is in the text or at its end. The piece begins at a boundary, and so does every mark that
is seen; these are the offsets between which text is taken out, apart from the end of the text. So
this never fails, and the tokens are those of the characters. No piece of text among them is empty
or stands next to another, so that none takes the place of one that waits when the segments are
collected from left to right, and these are the segments of the reading. -/
theorem byte_scan_succeeds (text : String) :
    (∀ s, ByteScan.Reaches text s →
      s.runStart ≤ s.position ∧ s.position ≤ text.utf8ByteSize ∧ IsBoundary text s.runStart ∧
      ∀ token, look ((bytes text).drop s.position) = .mark token → IsBoundary text s.position) ∧
    scanBytes text = some (scan text.toList) ∧
    Spaced (scan text.toList) ∧
    (∀ before chars after, scan text.toList = before ++ .text chars :: after →
      (Collection.ofTokens before).pending = []) ∧
    (Collection.ofTokens (scan text.toList)).finish = (ofText text.toList).alternatives := by
  have hspaced : Spaced (scan text.toList) := spaced_scanFrom 0 text.toList
  refine ⟨fun s h => ?_, ByteScan.Reaches.start.onCourse.run_eq, hspaced,
    fun before chars after h => Collection.pending_eq_nil (h ▸ hspaced),
    Collection.finish_ofTokens_scan text.toList⟩
  obtain ⟨passed, run, rest, inside, h⟩ := h.onCourse
  refine ⟨h.runStart_le, ?_, h.isBoundary_runStart, fun token hlook => ?_⟩
  · have hsize := h.utf8ByteSize_eq
    omega
  · obtain rfl := h.inside_eq_nil hlook
    exact h.isBoundary_position

/-- Behind a character of two bytes, the second of which is no boundary, a mark is seen. -/
theorem byte_scan_of_accented_letter :
    let s : ByteScan := ⟨1, 3, [.plus]⟩
    ByteScan.Reaches "+éor" s ∧ look ((bytes "+éor").drop s.position) = .mark (.or 'o' 'r') ∧
      IsBoundary "+éor" 1 ∧ ¬ IsBoundary "+éor" 2 ∧ IsBoundary "+éor" 3 ∧
      scan "+éor".toList = [.plus] ++ .text ['é'] :: [.or 'o' 'r'] ∧
      (Collection.ofTokens [.plus]).pending = [] := by
  have hplus : ByteScan.Reaches "+éor" ⟨1, 1, [.plus]⟩ :=
    .step .start (by decide) (by decide +kernel)
  have hinside : ByteScan.Reaches "+éor" ⟨1, 2, [.plus]⟩ :=
    .step hplus (by decide) (by decide +kernel)
  have hreaches : ByteScan.Reaches "+éor" ⟨1, 3, [.plus]⟩ :=
    .step hinside (by decide) (by decide +kernel)
  have hlook : look ((bytes "+éor").drop 3) = .mark (.or 'o' 'r') := by decide +kernel
  have hscan : scan "+éor".toList = [.plus] ++ .text ['é'] :: [.or 'o' 'r'] := by decide
  obtain ⟨hpoints, -, -, hpending, -⟩ := byte_scan_succeeds "+éor"
  obtain ⟨-, -, hstart, hmark⟩ := hpoints _ hreaches
  exact ⟨hreaches, hlook, hstart, by decide +kernel, hmark _ hlook, hscan,
    hpending _ _ _ hscan⟩

end Keychord.Reading
