import Keychord.Proofs.Accelerator.Labels
import Keychord.Proofs.Accelerator.LetterCase

/-!
# Accelerators as they are displayed

An accelerator is displayed with `Or` between its keys and each key with a capital letter. That is
again the text of a shortcut, and for keys of ASCII characters it is one of the same accelerator,
with one exception: the `Or` that was put between two keys may complete the word for "command or
control", which is read as one key. Capital letters are never the reason, because the text differs
from the one without them in the case of letters only. Beyond ASCII that can fail as well: the
capital of `ß` is `SS`.
-/
namespace Keychord
open Text

namespace Text

/-- The text consists of ASCII characters. -/
def Ascii (text : List Char) : Prop := ∀ c ∈ text, c.toNat < 128

instance (text : List Char) : Decidable (Ascii text) := List.decidableBAll _ text

lemma fold_upperChar_of_ascii {c : Char} (hc : c.toNat < 128) :
    fold (upperChar c) = [asciiLower c] := by
  have hothers : ∀ run ∈ upperRuns.tail, 128 ≤ run.first := by decide +kernel
  have hmap : mapRuns? upperRuns c.toNat = CaseRun.map? ⟨97, 122, 1, 65⟩ c.toNat :=
    mapRuns?_cons_of_lt fun run hrun => hc.trans_le (hothers run hrun)
  have hexpansions : ∀ expansion ∈ upperExpansions, 128 ≤ expansion.1 := by decide +kernel
  have hnone : upperExpansions.find? (·.1 == c.toNat) = none := by
    refine List.find?_eq_none.mpr fun expansion hmem => ?_
    have hlarge := hexpansions expansion hmem
    simp only [beq_iff_eq]
    omega
  have hfirst : ∀ n < 128,
      asciiLower ((CaseRun.map? ⟨97, 122, 1, 65⟩ n).elim (Char.ofNat n) Char.ofNat) =
        asciiLower (Char.ofNat n) := by
    decide +kernel
  have himage := hfirst c.toNat hc
  rw [Char.ofNat_toNat] at himage
  rw [upperChar, hnone, hmap, ← himage]
  cases CaseRun.map? ⟨97, 122, 1, 65⟩ c.toNat <;> rfl

lemma fold_capitalize {text : List Char} (h : Ascii text) : fold (capitalize text) = fold text := by
  cases text with
  | nil => rfl
  | cons c rest =>
      rw [capitalize, fold_append, fold_upperChar_of_ascii (h c List.mem_cons_self)]
      rfl

end Text

namespace Accelerator
open Reading

/-- With an `or` between them, the end of the first key and the beginning of the second make an
uncut word. -/
def MeetInWord (k l : String) : Prop :=
  "cmd".toList <:+ k.toList ∧ "ctrl".toList <+: l.toList ∨
    "command".toList <:+ k.toList ∧ "control".toList <+: l.toList

instance : DecidableRel MeetInWord := fun _ _ => inferInstanceAs (Decidable (_ ∨ _))

/-- Every key is a key in lower case, of ASCII characters. -/
structure AsciiKeys (keys : List String) : Prop where
  isKey : ∀ key ∈ keys, IsKey key ∧ lowercase key = key
  ascii : ∀ key ∈ keys, Ascii key.toList

lemma AsciiKeys.tail {key : String} {keys : List String} (h : AsciiKeys (key :: keys)) :
    AsciiKeys keys :=
  ⟨fun k hk => h.isKey k (List.mem_cons_of_mem key hk),
    fun k hk => h.ascii k (List.mem_cons_of_mem key hk)⟩

lemma AsciiKeys.fold_eq {keys : List String} (h : AsciiKeys keys) {key : String}
    (hkey : key ∈ keys) : fold key.toList = key.toList := by
  refine fold_eq_self ?_
  rw [← toList_lowercase, (h.isKey key hkey).2]

lemma apart_iff {keys : List String} (h : AsciiKeys keys) {names : List (List Char)}
    {k l : String} (hk : k ∈ keys) (hl : l ∈ keys) :
    Apart ⟨names, k.toList⟩ ⟨[], l.toList⟩ ↔ ¬ MeetInWord k l := by
  have hfold : k.toList.map asciiLower = k.toList ∧ l.toList.map asciiLower = l.toList :=
    ⟨h.fold_eq hk, h.fold_eq hl⟩
  simp only [Apart, Alternative.opening, hfold, halves, MeetInWord, List.forall_mem_cons,
    List.not_mem_nil, false_implies, implies_true, and_true, not_or]
  exact and_comm

/-- No halves meet at the gaps exactly if no two neighbouring keys make an uncut word. -/
lemma isChain_apart_iff {n : List (List Char)} {key : String} {others : List String}
    (h : AsciiKeys (key :: others)) :
    (⟨n, key.toList⟩ :: others.map fun other => ⟨[], other.toList⟩).IsChain Apart ↔
      (key :: others).IsChain fun k l => ¬ MeetInWord k l := by
  induction others generalizing n key with
  | nil => simp
  | cons other others ih =>
      simp only [List.map_cons, List.isChain_cons_cons]
      rw [apart_iff h (by simp) (by simp), ih h.tail]

lemma fold_intercalate {key : String} {others : List String}
    (h : ∀ k ∈ key :: others, Ascii k.toList) :
    fold ("Or".intercalate ((key :: others).map fun k =>
        String.ofList (capitalize k.toList))).toList =
      fold (key.toList ++ others.flatMap fun other => 'O' :: 'r' :: other.toList) := by
  induction others generalizing key with
  | nil => simp [fold_capitalize (h key List.mem_cons_self)]
  | cons other others ih =>
      rw [List.forall_mem_cons] at h
      have hor : fold "Or".toList = fold ['O', 'r'] := rfl
      rw [List.map_cons, String.intercalate_cons_of_ne_nil (by simp), String.toList_append,
        String.toList_append, String.toList_ofList, fold_append, fold_append,
        fold_capitalize h.1, ih h.2, hor, ← fold_append, ← fold_append]
      simp

/-- But for the case of letters, an accelerator is displayed as it is written down. -/
lemma sameLetters_display {m : Modifiers} {key : String} {others : List String}
    (h : ∀ k ∈ key :: others, Ascii k.toList) :
    SameLetters (display ⟨m, key :: others⟩)
      (String.ofList (written m key others).render) := by
  have hrender : (written m key others).render = m.leading.toList ++
      (key.toList ++ others.flatMap fun other => 'O' :: 'r' :: other.toList) := by
    simp [Reading.render, Alternative.render, written, toList_leading, List.flatMap_map]
  simp only [SameLetters, display, String.toList_append, String.toList_ofList, hrender, fold_append,
    fold_intercalate h]

/-- A change of case leaves what is read as it is. -/
lemma read_on_of_sameLetters {s t : String} (h : SameLetters s t) {q : Platform}
    {a : Accelerator} (hs : (read s).on q = .ok a) : (read t).on q = .ok a := by
  have hon := congrArg (Inquiry.on q) (foldResult_map_read h)
  rw [Inquiry.on_map, Inquiry.on_map, hs] at hon
  exact (Alike.of_foldResult hon).eq_ok

/-- An accelerator that is written down is read again exactly if no gap closes up. -/
lemma read_written_iff {m : Modifiers} {key : String} {others : List String}
    (h : AsciiKeys (key :: others)) (q : Platform) :
    (read (String.ofList (written m key others).render)).on q = .ok ⟨m, key :: others⟩ ↔
      (key :: others).IsChain fun k l => ¬ MeetInWord k l := by
  have hsegmented := segmented_written (m := m) fun k hk => (h.isKey k hk).1
  have halternatives : (written m key others).alternatives =
      ⟨m.names.map String.toList, key.toList⟩ ::
        others.map fun other => ⟨[], other.toList⟩ := by
    simp [Reading.alternatives, written]
  have hchain := isChain_apart_iff (n := m.names.map String.toList) h
  rw [← halternatives] at hchain
  rw [← hchain]
  constructor
  · intro hread
    by_contra hmeet
    -- an alternative is lost, so there is a key less
    have hlt := length_alternatives_ofText_lt hsegmented hmeet
    obtain ⟨-, hdescribed⟩ := read_on_eq_ok_iff.mp hread
    rw [described_eq, String.toList_ofList] at hdescribed
    have hkeys := congrArg Accelerator.keys hdescribed
    split_ifs at hkeys with hinert
    · have hkey : key = "" := by simpa [inert, eq_comm] using congrArg List.head? hkeys
      exact (h.isKey key List.mem_cons_self).1.nonempty hkey
    · have hlength := congrArg List.length hkeys
      rw [halternatives] at hlt
      simp only [List.length_map, List.length_cons] at hlength hlt
      omega
  · intro hapart
    refine read_of_written ?_ h.isKey q
    rw [String.toList_ofList, (hsegmented.proper hapart).ofText_render]

/-- The accelerator of a text is inert, or has keys of which each is a key in lower case. -/
lemma keys_of_read {text : String} {p : Platform} {a : Accelerator}
    (h : (read text).on p = .ok a) :
    a = inert ∨ ∃ key others, a.keys = key :: others ∧
      ∀ k ∈ a.keys, IsKey k ∧ lowercase k = k := by
  obtain ⟨hfault, rfl⟩ := read_on_eq_ok_iff.mp h
  rcases described_cases (p := p) hfault with ⟨-, hinert⟩ | ⟨hinert, -, hkeys⟩
  · exact .inl hinert
  · have hcons : ∃ key others, (described p text).keys = key :: others := by
      have hdescribed := (described_eq p text).trans (if_neg hinert)
      rw [hdescribed]
      exact ⟨_, _, rfl⟩
    obtain ⟨key, others, hcons⟩ := hcons
    exact .inr ⟨key, others, hcons, fun k hk => isKey_of_mem_described hfault hk (hkeys k hk)⟩

/-- Let an accelerator that was read from a text have keys of ASCII characters only. What it is
displayed as is read as the same accelerator, on every platform, exactly if there are no two
neighbouring keys of which the first ends in `cmd` and the second begins with `ctrl`, or the first
ends in `command` and the second begins with `control`. -/
theorem read_display_iff {text : String} {p : Platform} {a : Accelerator}
    (h : (read text).on p = .ok a) (hascii : ∀ key ∈ a.keys, Ascii key.toList) (q : Platform) :
    (read a.display).on q = .ok a ↔
      ∀ i, ∀ hi : i + 1 < a.keys.length, ¬ MeetInWord a.keys[i] a.keys[i + 1] := by
  rcases keys_of_read h with rfl | ⟨key, others, hcons, hkeys⟩
  · have hread : (read inert.display).on q = .ok inert := by cases q <;> decide +kernel
    refine iff_of_true hread fun i hi => ?_
    simp [inert] at hi
  · obtain ⟨m, keys⟩ := a
    obtain rfl : keys = key :: others := hcons
    have hsame := sameLetters_display (m := m) hascii
    rw [← List.isChain_iff_getElem (R := fun k l => ¬ MeetInWord k l),
      ← read_written_iff (m := m) ⟨hkeys, hascii⟩ q]
    exact ⟨read_on_of_sameLetters hsame, read_on_of_sameLetters hsame.symm⟩

/-- Two keys that are displayed as one, and modifiers with two keys that are read again. -/
theorem display_of_halves_and_of_space :
    ((read "Alt+cmd or ctrl").on .other = .ok ⟨.justAlt, ["cmd", "ctrl"]⟩ ∧
      display ⟨.justAlt, ["cmd", "ctrl"]⟩ = "Alt+CmdOrCtrl" ∧
      (read "Alt+CmdOrCtrl").on .apple ≠ .ok ⟨.justAlt, ["cmd", "ctrl"]⟩) ∧
    ((read "Shift+Command+ Enter OR space").on .apple =
        .ok ⟨{ shift := true, metaKey := true }, ["enter", "space"]⟩ ∧
      display ⟨{ shift := true, metaKey := true }, ["enter", "space"]⟩ = "Shift+Meta+EnterOrSpace" ∧
      (read "Shift+Meta+EnterOrSpace").on .other =
        .ok ⟨{ shift := true, metaKey := true }, ["enter", "space"]⟩) := by
  have hhalves : (read "Alt+cmd or ctrl").on .other = .ok ⟨.justAlt, ["cmd", "ctrl"]⟩ := by
    decide +kernel
  have hspace : (read "Shift+Command+ Enter OR space").on .apple =
      .ok ⟨{ shift := true, metaKey := true }, ["enter", "space"]⟩ := by
    decide +kernel
  have hmeets : display ⟨.justAlt, ["cmd", "ctrl"]⟩ = "Alt+CmdOrCtrl" := by decide +kernel
  have happart : display ⟨{ shift := true, metaKey := true }, ["enter", "space"]⟩ =
      "Shift+Meta+EnterOrSpace" := by
    decide +kernel
  refine ⟨⟨hhalves, hmeets, fun hread => ?_⟩, hspace, happart, ?_⟩
  · rw [← hmeets] at hread
    exact (read_display_iff hhalves (by decide) .apple).mp hread 0 (by decide) (by decide)
  · rw [← happart]
    refine (read_display_iff hspace (by decide) .other).mpr fun i hi => ?_
    obtain rfl : i = 0 := by simp at hi; omega
    show ¬ MeetInWord "enter" "space"
    decide

end Accelerator
end Keychord
