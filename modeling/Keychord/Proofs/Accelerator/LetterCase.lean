import Keychord.Proofs.Accelerator.OnPlatform
import Keychord.Proofs.Reading.Scan
import Keychord.Proofs.Text.LetterCase

/-!
# The case of letters in shortcuts and labels

Three rules of case meet when an event is compared with a text: the marks are found without
regard to the case of letters, names and keys are put into lower case, and so are labels before
some of them are renamed. None of them can tell two texts apart that differ in the case of the
letters `A` to `Z` only. Such texts have readings that differ in the same way, ask for the platform
alike, and give the same accelerator, or are malformed in the same place.
-/
namespace Keychord
open Text

namespace Reading

/-- The alternative with its letters in lower case. -/
def foldAlternative (a : Alternative) : Alternative := ⟨a.names.map fold, fold a.key⟩

/-- The reading with its letters in lower case, also those that spell its `or`s. -/
def foldReading (r : Reading) : Reading :=
  ⟨foldAlternative r.first, r.others.map fun gap =>
    ((asciiLower gap.1.1, asciiLower gap.1.2), foldAlternative gap.2)⟩

lemma foldReading_precede_text (r : Reading) (c : Char) :
    foldReading (r.precede (.text [c])) = (foldReading r).precede (.text [asciiLower c]) := by
  obtain ⟨⟨names, key⟩, others⟩ := r
  cases names <;>
    simp [foldReading, foldAlternative, precede, Alternative.precedeText]

lemma beginsWith_fold (word text : List Char) :
    beginsWith word (fold text) = beginsWith word text := by
  have hfold : (fold text).map asciiLower = text.map asciiLower := fold_fold text
  rw [Bool.eq_iff_iff, beginsWith_iff, beginsWith_iff, hfold]

lemma compoundLength?_fold (text : List Char) :
    compoundLength? (fold text) = compoundLength? text := by
  simp only [compoundLength?, beginsWith_fold]

lemma EndsCompound.fold {inside : ℕ} {text : List Char} (h : EndsCompound inside text) :
    EndsCompound inside (fold text) := by
  obtain ⟨word, hword, passed, hpos, hlen, hends⟩ := h
  exact ⟨word, hword, passed, hpos, hlen, (beginsWith_fold _ _).trans hends⟩

lemma isOr_asciiLower (o t : Char) : isOr (asciiLower o) (asciiLower t) = isOr o t := by
  simp [isOr]

/-- Each rule of reading applies whatever the case of the letters. -/
theorem Reads.fold {inside : ℕ} {text : List Char} {r : Reading} (h : Reads inside text r) :
    Reads inside (fold text) (foldReading r) := by
  induction h with
  | nil => exact .nil
  | inside ends h ih =>
      rw [foldReading_precede_text]
      exact .inside ends.fold ih
  | compound begins h ih =>
      rw [foldReading_precede_text]
      exact .compound ((compoundLength?_fold _).trans begins) ih
  | plus h ih => exact .plus ih
  | or spelled h ih => exact .or ((isOr_asciiLower _ _).trans spelled) ih
  | @plain c rest r none no_plus no_or h ih =>
      rw [foldReading_precede_text]
      refine .plain ((compoundLength?_fold _).trans none) (by simpa using no_plus) ?_ ih
      intro d more hrest
      cases rest with
      | nil => simp at hrest
      | cons e rest =>
          obtain rfl : asciiLower e = d := by simpa using congrArg List.head? hrest
          rw [isOr_asciiLower]
          exact no_or e rest rfl

theorem ofText_fold (text : List Char) : ofText (fold text) = foldReading (ofText text) :=
  ofText_eq (reads_ofText text).fold

lemma render_foldAlternative (a : Alternative) :
    (foldAlternative a).render = fold a.render := by
  obtain ⟨names, key⟩ := a
  induction names with
  | nil => simp [foldAlternative, Alternative.render]
  | cons name names ih =>
      simp only [foldAlternative, Alternative.render, List.map_cons, List.flatMap_cons,
        List.append_assoc, fold_append] at ih ⊢
      rw [ih]
      rfl

lemma words_foldAlternative (a : Alternative) : (foldAlternative a).words = a.words := by
  simp [foldAlternative, Alternative.words, Function.comp_def]

end Reading

namespace Accelerator
open Reading

/-- The same alternative, its letters in lower case. -/
def foldFault (fault : InvalidAccelerator) : InvalidAccelerator :=
  ⟨String.ofList (fold fault.text.toList)⟩

/-- What is the same of two results if they differ in the case of letters only. -/
def foldResult {α : Type} (result : Except InvalidAccelerator α) : Except InvalidAccelerator α :=
  result.mapError foldFault

lemma allBlank_key_fold (a : Alternative) :
    allBlank (foldAlternative a).key = allBlank a.key :=
  allBlank_fold a.key

lemma terminal_fold (a : Alternative) :
    (foldAlternative a).terminal = foldResult (a.terminal.map fold) := by
  rw [Alternative.terminal, Alternative.terminal, allBlank_key_fold, render_foldAlternative,
    trim_fold, foldAlternative, trim_fold]
  cases allBlank a.key <;> simp [foldResult, foldFault, Except.map, Except.mapError]

lemma mapM_terminal_fold (alternatives : List Alternative) :
    (alternatives.map foldAlternative).mapM Alternative.terminal =
      foldResult ((alternatives.mapM Alternative.terminal).map (·.map fold)) := by
  have hsame : (fun a : Alternative => allBlank a.key) ∘ foldAlternative = (allBlank ·.key) :=
    funext allBlank_key_fold
  rw [mapM_terminal, mapM_terminal, List.find?_map, hsame]
  cases alternatives.find? (allBlank ·.key) with
  | none => simp [foldResult, foldAlternative, Except.map, Except.mapError]
  | some a =>
      simp [foldResult, foldFault, Except.map, Except.mapError, render_foldAlternative]

/-- Reading asks for the same, and what it finds differs in the case of letters only. -/
lemma ofReading_fold (r : Reading) :
    ofReading (foldReading r) = foldResult <$> ofReading r := by
  have hothers : ((foldReading r).others.mapM fun other => other.2.terminal) =
      foldResult (((r.others.map Prod.snd).mapM Alternative.terminal).map (·.map fold)) := by
    rw [mapM_snd, ← mapM_terminal_fold]
    simp [foldReading, Function.comp_def]
  have hfirst : (foldReading r).first = foldAlternative r.first := rfl
  rw [ofReading, ofReading, hfirst, terminal_fold, words_foldAlternative]
  cases r.first.terminal with
  | error fault => rfl
  | ok key =>
      simp only [foldResult, Except.map, Except.mapError, map_bind]
      refine bind_congr fun held => ?_
      rw [hothers, mapM_snd]
      cases (r.others.map Prod.snd).mapM Alternative.terminal with
      | error fault => rfl
      | ok keys =>
          cases held with
          | none => rfl
          | some modifiers => simp [foldResult, Except.map, Except.mapError]

lemma read_fold (text : String) :
    read (String.ofList (fold text.toList)) = foldResult <$> read text := by
  rw [read, read, String.toList_ofList, allBlank_fold]
  split_ifs
  · rfl
  · rw [ofText_fold, ofReading_fold]

/-- The same result, or errors that differ in the case of letters only. -/
inductive Alike {α : Type} : Except InvalidAccelerator α → Except InvalidAccelerator α → Prop
  | ok (a : α) : Alike (.ok a) (.ok a)
  | error {fault fault' : InvalidAccelerator} (h : SameLetters fault.text fault'.text) :
      Alike (.error fault) (.error fault')

lemma Alike.of_foldResult {α : Type} {result result' : Except InvalidAccelerator α}
    (h : foldResult result = foldResult result') : Alike result result' := by
  cases result with
  | ok a =>
      cases result' with
      | ok a' =>
          cases h
          exact .ok a
      | error fault' => cases h
  | error fault =>
      cases result' with
      | ok a' => cases h
      | error fault' =>
          refine .error ?_
          have htext : String.ofList (fold fault.text.toList) =
              String.ofList (fold fault'.text.toList) := by
            simpa [foldResult, Except.mapError, foldFault] using h
          exact String.ofList_injective htext

lemma Alike.eq_ok {α : Type} {a : α} {result : Except InvalidAccelerator α}
    (h : Alike (.ok a) result) : result = .ok a := by
  cases h
  rfl

lemma Alike.map {α β : Type} {result result' : Except InvalidAccelerator α}
    (h : Alike result result') (f : α → β) : Alike (result.map f) (result'.map f) := by
  cases h with
  | ok a => exact .ok (f a)
  | error h => exact .error h

lemma foldResult_map_read {s t : String} (h : SameLetters s t) :
    foldResult <$> read s = foldResult <$> read t := by
  rw [← read_fold, ← read_fold, h]

/-- Whatever the detector answers, and if it changes its mind. -/
lemma alike_run_read {s t : String} (h : SameLetters s t) (answers : ℕ → Platform) :
    Alike ((read s).run answers).1 ((read t).run answers).1 ∧
      ((read s).run answers).2 = ((read t).run answers).2 := by
  have hrun := congrArg (Inquiry.run answers) (foldResult_map_read h)
  rw [Inquiry.run_map, Inquiry.run_map, Prod.ext_iff] at hrun
  exact ⟨.of_foldResult hrun.1, hrun.2⟩

lemma isTriggeredBy_eq {e e' : KeyEvent} (hlabel : SameLetters e.label e'.label)
    (hheld : e.modifiers = e'.modifiers) (a : Accelerator) :
    a.isTriggeredBy e = a.isTriggeredBy e' := by
  rw [isTriggeredBy, isTriggeredBy, hheld, KeyEvent.normalizeLabel, KeyEvent.normalizeLabel,
    hlabel.lowercase_eq]

end Accelerator

open Accelerator

/-- Two texts that differ in the case of the letters `A` to `Z` only, and two events with the same
modifiers whose labels differ like this, go together alike: on every platform, and with every
detector, they give the same answer, or errors that differ in the case of letters only. Each text
describes the same accelerator and asks for the platform as often. -/
theorem letter_case_makes_no_difference {s t : String} {e e' : KeyEvent} (htext : SameLetters s t)
    (hlabel : SameLetters e.label e'.label) (hheld : e.modifiers = e'.modifiers) :
    (∀ p, Alike ((e.triggers s).on p) ((e'.triggers t).on p)) ∧
    (∀ p, Alike ((read s).on p) ((read t).on p) ∧ (read s).asks p = (read t).asks p) ∧
    (∀ answers : ℕ → Platform,
      Alike ((e.triggers s).run answers).1 ((e'.triggers t).run answers).1 ∧
      Alike ((read s).run answers).1 ((read t).run answers).1 ∧
      ((read s).run answers).2 = ((read t).run answers).2) := by
  have hevents : (fun a : Accelerator => a.isTriggeredBy e) = (·.isTriggeredBy e') :=
    funext (isTriggeredBy_eq hlabel hheld)
  have hon : ∀ p, Alike ((read s).on p) ((read t).on p) := by
    intro p
    have h := congrArg (Inquiry.on p) (foldResult_map_read htext)
    rw [Inquiry.on_map, Inquiry.on_map] at h
    exact .of_foldResult h
  refine ⟨fun p => ?_, fun p => ⟨hon p, ?_⟩, fun answers => ⟨?_, alike_run_read htext answers⟩⟩
  · rw [KeyEvent.triggers, KeyEvent.triggers, Inquiry.on_map, Inquiry.on_map, hevents]
    exact (hon p).map _
  · have h := congrArg (Inquiry.asks p) (foldResult_map_read htext)
    rwa [Inquiry.asks_map, Inquiry.asks_map] at h
  · rw [KeyEvent.triggers, KeyEvent.triggers, Inquiry.run_map, Inquiry.run_map, hevents]
    exact (alike_run_read htext answers).1.map _

/-- A final sigma stays one whatever the case of the letter before it, and no sigma is final that
has a letter behind it. -/
theorem sigmas_beside_letters :
    SameLetters "CMDORCTRL+XΣ OR ΣX" "CmdOrCtrl+xΣ or Σx" ∧
    SameLetters "xΣ" "XΣ" ∧
    ((⟨"xΣ", .justCtrl⟩ : KeyEvent).triggers "CMDORCTRL+XΣ OR ΣX").on .other = .ok true ∧
    ((⟨"XΣ", .justCtrl⟩ : KeyEvent).triggers "CmdOrCtrl+xΣ or Σx").on .other = .ok true := by
  have htext : SameLetters "CMDORCTRL+XΣ OR ΣX" "CmdOrCtrl+xΣ or Σx" := by decide
  have hlabel : SameLetters "xΣ" "XΣ" := by decide
  have htriggers : ((⟨"xΣ", .justCtrl⟩ : KeyEvent).triggers "CMDORCTRL+XΣ OR ΣX").on .other =
      .ok true := by
    decide +kernel
  have hheld : (⟨"xΣ", .justCtrl⟩ : KeyEvent).modifiers =
      (⟨"XΣ", .justCtrl⟩ : KeyEvent).modifiers :=
    rfl
  have halike := (letter_case_makes_no_difference htext hlabel hheld).1 .other
  rw [htriggers] at halike
  exact ⟨htext, hlabel, htriggers, halike.eq_ok⟩

end Keychord
