import Keychord.Proofs.Accelerator.OnPlatform
import Keychord.Proofs.Reading.Padding

/-!
# Blanks around a shortcut

What is read from a text depends on its alternatives in two ways only: by the words before the first
key, and by what each alternative ends in, a key or a fault. Neither has blanks at its ends. So
trimming a text changes nothing, neither what is read nor what the platform is asked for.
-/
namespace Keychord.Accelerator
open Text Reading

lemma mapM_map_terminal (alternatives : List Alternative) :
    (alternatives.map Alternative.terminal).mapM id = alternatives.mapM Alternative.terminal := by
  rw [List.mapM_map]
  rfl

/-- The words of the first alternative and the ends of all are what a reading comes down to. -/
lemma ofReading_congr {r q : Reading} (hwords : r.first.words = q.first.words)
    (hends : r.alternatives.map Alternative.terminal = q.alternatives.map Alternative.terminal) :
    ofReading r = ofReading q := by
  obtain ⟨hfirst, hothers⟩ := List.cons.inj hends
  rw [ofReading, ofReading, hfirst, hwords, mapM_snd, mapM_snd, ← mapM_map_terminal, hothers,
    mapM_map_terminal]

/-- The alternatives differ by blanks at the ends of their text only, or not at all. -/
structure SameButBlanks (a b : Alternative) : Prop where
  words : a.words = b.words
  key : trim a.key = trim b.key
  render : trim a.render = trim b.render

lemma SameButBlanks.terminal_eq {a b : Alternative} (h : SameButBlanks a b) :
    a.terminal = b.terminal := by
  have hblank : allBlank a.key = allBlank b.key := by
    rw [← allBlank_trim a.key, h.key, allBlank_trim]
  rw [Alternative.terminal, Alternative.terminal, hblank, h.key, h.render]

lemma sameButBlanks_precedeText {c : Char} (hc : isBlank c = true) (a : Alternative) :
    SameButBlanks (a.precedeText [c]) a where
  words := by
    obtain ⟨_ | ⟨name, names⟩, key⟩ := a
    · rfl
    · simp [Alternative.precedeText, Alternative.words, trim_cons_of_isBlank hc]
  key := by
    obtain ⟨_ | ⟨name, names⟩, key⟩ := a
    · exact trim_cons_of_isBlank hc key
    · rfl
  render := by
    rw [Alternative.render_precedeText, List.singleton_append, trim_cons_of_isBlank hc]

lemma sameButBlanks_follow {c : Char} (hc : isBlank c = true) (a : Alternative) :
    SameButBlanks ⟨a.names, a.key ++ [c]⟩ a where
  words := rfl
  key := trim_append_of_isBlank hc a.key
  render := by
    have hrender : Alternative.render ⟨a.names, a.key ++ [c]⟩ = a.render ++ [c] := by
      simp [Alternative.render]
    rw [hrender, trim_append_of_isBlank hc]

lemma ofReading_cons_of_isBlank {c : Char} (hc : isBlank c = true) (text : List Char) :
    ofReading (ofText (c :: text)) = ofReading (ofText text) := by
  rw [ofText_cons_of_isBlank hc]
  refine ofReading_congr (sameButBlanks_precedeText hc _).words ?_
  exact map_alternatives_precede_text (fun a => (sameButBlanks_precedeText hc a).terminal_eq) _

lemma ofReading_append_of_isBlank {c : Char} (hc : isBlank c = true) (text : List Char) :
    ofReading (ofText (text ++ [c])) = ofReading (ofText text) := by
  rw [ofText_append_of_isBlank hc]
  have hwords := map_alternatives_follow (fun a => (sameButBlanks_follow hc a).words) (ofText text)
  refine ofReading_congr (List.cons.inj hwords).1 ?_
  exact map_alternatives_follow (fun a => (sameButBlanks_follow hc a).terminal_eq) _

lemma ofReading_blanks {front back : List Char} (hfront : ∀ c ∈ front, isBlank c = true)
    (text : List Char) (hback : ∀ c ∈ back, isBlank c = true) :
    ofReading (ofText (front ++ text ++ back)) = ofReading (ofText text) := by
  induction front with
  | cons c front ih =>
      rw [List.forall_mem_cons] at hfront
      rw [List.cons_append, List.cons_append, ofReading_cons_of_isBlank hfront.1, ih hfront.2]
  | nil =>
      induction back generalizing text with
      | nil => simp
      | cons c back ih =>
          rw [List.forall_mem_cons] at hback
          have hnext := ih (text ++ [c]) hback.2
          rw [ofReading_append_of_isBlank hback.1] at hnext
          simpa using hnext

/-- Blanks at the ends of a text make no difference. -/
theorem read_blanks {front back : List Char} (hfront : ∀ c ∈ front, isBlank c = true)
    (text : List Char) (hback : ∀ c ∈ back, isBlank c = true) :
    read (String.ofList (front ++ text ++ back)) = read (String.ofList text) := by
  have hblank : allBlank (front ++ text ++ back) = allBlank text := by
    have hends : front.all isBlank = true ∧ back.all isBlank = true :=
      ⟨List.all_eq_true.mpr hfront, List.all_eq_true.mpr hback⟩
    simp [allBlank, hends]
  rw [read, read, String.toList_ofList, String.toList_ofList, hblank,
    ofReading_blanks hfront text hback]

/-- A trimmed text is read like the text itself. -/
theorem read_trim (text : List Char) :
    read (String.ofList (trim text)) = read (String.ofList text) := by
  obtain ⟨front, back, htext, hfront, hback⟩ := exists_eq_append_trim text
  conv_rhs => rw [htext]
  exact (read_blanks hfront (trim text) hback).symm

end Keychord.Accelerator
