import Keychord.Proofs.Accelerator.Faults

/-!
# How often the platform is asked for

Reading a text asks for the platform at most once, so it does not matter whether a detector
changes its mind: the result is that of the platform which the first answer names. The question
comes up exactly if the first alternative has a key and, before it, one of the three words whose
meaning depends on the platform. Where it does not come up all platforms agree.

Platforms also agree on what is malformed. On the rest they differ only by an option key that
does not exist outside Apple's, and by which key is meant by "command or control".
-/
namespace Keychord

namespace Inquiry

variable {α β : Type}

/-- No question is asked. -/
def Settled (q : Inquiry α) : Prop := ∃ a, q = done a

/-- One question is asked, whatever its answer is. -/
def AsksOnce (q : Inquiry α) : Prop := ∃ f : Platform → α, q = ask fun p => done (f p)

lemma Settled.map {q : Inquiry α} (h : q.Settled) (f : α → β) : (f <$> q).Settled := by
  obtain ⟨a, rfl⟩ := h
  exact ⟨f a, rfl⟩

lemma AsksOnce.map {q : Inquiry α} (h : q.AsksOnce) (f : α → β) : (f <$> q).AsksOnce := by
  obtain ⟨g, rfl⟩ := h
  exact ⟨fun p => f (g p), rfl⟩

lemma Settled.run_eq {q : Inquiry α} (h : q.Settled) (answers : ℕ → Platform) :
    q.run answers = (q.on (answers 0), 0) := by
  obtain ⟨a, rfl⟩ := h
  rfl

/-- The first answer stands for a platform that does not change. -/
lemma AsksOnce.run_eq {q : Inquiry α} (h : q.AsksOnce) (answers : ℕ → Platform) :
    q.run answers = (q.on (answers 0), 1) := by
  obtain ⟨f, rfl⟩ := h
  rfl

/-- If no question follows the first answer, there is one question. -/
lemma AsksOnce.of_settled {next : Platform → Inquiry α} (h : ∀ p, (next p).Settled) :
    (ask next).AsksOnce := by
  choose result hresult using h
  exact ⟨result, congrArg ask (funext hresult)⟩

/-- If all questions come first, the rest only changes the result. -/
lemma bind_eq_map_of_settled (q : Inquiry α) {f : α → Inquiry β} (h : ∀ a, (f a).Settled) :
    ∃ g : α → β, q >>= f = g <$> q := by
  choose g hg using h
  refine ⟨g, ?_⟩
  rw [← bind_pure_comp]
  exact bind_congr hg

lemma Settled.on_eq {q : Inquiry α} (h : q.Settled) (p p' : Platform) : q.on p = q.on p' := by
  obtain ⟨a, rfl⟩ := h
  rfl

end Inquiry

namespace ModifierName
open Inquiry

/-- The words for the names whose meaning depends on the platform. -/
def platformWords : List String := ["cmdorctrl", "commandorcontrol", "option"]

lemma dependsOnPlatform_of_read {word : String} {name : ModifierName}
    (h : read word = some name) :
    name.dependsOnPlatform = true ↔ word ∈ platformWords := by
  unfold read at h
  split at h <;> cases h <;> simp_all [dependsOnPlatform, platformWords]

lemma not_mem_platformWords_of_read {word : String} (h : read word = none) :
    word ∉ platformWords := by
  intro hmem
  rw [platformWords] at hmem
  simp only [List.mem_cons, List.not_mem_nil, or_false] at hmem
  rcases hmem with rfl | rfl | rfl <;> simp [read] at h

/-- Once the platform is known it is not asked for again. -/
lemma resolveFrom_known (p : Platform) (held : Modifiers) (words : List String) :
    (resolveFrom held (some p) words).Settled := by
  induction words generalizing held with
  | nil => exact ⟨_, rfl⟩
  | cons word words ih =>
      rw [resolveFrom]
      cases read word with
      | none => exact ih held
      | some name =>
          cases hd : name.dependsOnPlatform with
          | true =>
              simp only [hd, if_true]
              split
              next more _ => exact ih _
              next => exact ⟨_, rfl⟩
          | false =>
              simp only [hd, Bool.false_eq_true, if_false]
              split
              next more _ => exact ih _
              next => exact ⟨_, rfl⟩

lemma resolveFrom_cons_of_not_mem (held : Modifiers) {word : String} (words : List String)
    (h : word ∉ platformWords) :
    ∃ held', resolveFrom held none (word :: words) = resolveFrom held' none words := by
  rw [resolveFrom]
  cases hread : read word with
  | none => exact ⟨held, rfl⟩
  | some name =>
      rw [← dependsOnPlatform_of_read hread, Bool.not_eq_true] at h
      -- only an option key may be missing, and it depends on the platform
      obtain ⟨more, hmore⟩ : ∃ more, name.modifiers? .other = some more := by
        cases name <;> first | exact ⟨_, rfl⟩ | cases h
      exact ⟨held ∪ more, by simp [h, hmore]⟩

lemma resolveFrom_cons_of_mem (held : Modifiers) {word : String} (words : List String)
    (h : word ∈ platformWords) : (resolveFrom held none (word :: words)).AsksOnce := by
  cases hread : read word with
  | none => exact (not_mem_platformWords_of_read hread h).elim
  | some name =>
      rw [← dependsOnPlatform_of_read hread] at h
      simp only [resolveFrom, hread, h, if_true]
      refine .of_settled fun p => ?_
      split
      next more _ => exact resolveFrom_known p _ words
      next => exact ⟨_, rfl⟩

lemma resolve_settled {words : List String} (h : ∀ word ∈ words, word ∉ platformWords) :
    (resolve words).Settled := by
  rw [resolve]
  generalize Modifiers.empty = held
  induction words generalizing held with
  | nil => exact ⟨_, rfl⟩
  | cons word words ih =>
      rw [List.forall_mem_cons] at h
      obtain ⟨held', heq⟩ := resolveFrom_cons_of_not_mem held words h.1
      rw [heq]
      exact ih h.2 held'

lemma resolve_asksOnce {words : List String} (h : ∃ word ∈ words, word ∈ platformWords) :
    (resolve words).AsksOnce := by
  rw [resolve]
  generalize Modifiers.empty = held
  induction words generalizing held with
  | nil => simp at h
  | cons word words ih =>
      by_cases hword : word ∈ platformWords
      · exact resolveFrom_cons_of_mem held words hword
      · obtain ⟨held', heq⟩ := resolveFrom_cons_of_not_mem held words hword
        rw [heq]
        exact ih (by simpa [hword] using h) held'

end ModifierName

namespace Accelerator
open Text

/-- The text is not blank, its first alternative has a key, and one of the words before this key
means something else on each platform. -/
structure NeedsPlatform (text : String) : Prop where
  not_blank : allBlank text.toList = false
  has_key : allBlank (Reading.ofText text.toList).first.key = false
  word : ∃ word ∈ (Reading.ofText text.toList).first.words,
    word = "cmdorctrl" ∨ word = "commandorcontrol" ∨ word = "option"

/-- If its first alternative has a key, all that can make a reading ask is this alternative's
modifiers. -/
lemma ofReading_eq_map {r : Reading} (h : allBlank r.first.key = false) :
    ∃ conclude, ofReading r = conclude <$> ModifierName.resolve r.first.words := by
  rw [ofReading, Alternative.terminal, h]
  refine Inquiry.bind_eq_map_of_settled _ fun held => ?_
  cases r.others.mapM fun other => other.2.terminal with
  | error e => exact ⟨_, rfl⟩
  | ok keys =>
      cases held with
      | none => exact ⟨_, rfl⟩
      | some modifiers => exact ⟨_, rfl⟩

lemma read_settled {text : String} (h : ¬ NeedsPlatform text) : (read text).Settled := by
  rw [read]
  cases hblank : allBlank text.toList with
  | true => exact ⟨_, rfl⟩
  | false =>
      cases hkey : allBlank (Reading.ofText text.toList).first.key with
      | true =>
          simp only [Bool.false_eq_true, if_false, ofReading, Alternative.terminal, hkey, if_true]
          exact ⟨_, rfl⟩
      | false =>
          obtain ⟨conclude, heq⟩ := ofReading_eq_map hkey
          simp only [Bool.false_eq_true, if_false, heq]
          refine (ModifierName.resolve_settled fun word hword hmem => h ?_).map conclude
          exact ⟨hblank, hkey, word, hword, by simpa [ModifierName.platformWords] using hmem⟩

lemma read_asksOnce {text : String} (h : NeedsPlatform text) : (read text).AsksOnce := by
  obtain ⟨conclude, heq⟩ := ofReading_eq_map h.has_key
  rw [read, h.not_blank, if_neg Bool.false_ne_true, heq]
  exact (ModifierName.resolve_asksOnce (by simpa [ModifierName.platformWords] using h.word)).map _

lemma read_eq_option_iff {word : String} :
    ModifierName.read word = some .option ↔ word = "option" := by
  unfold ModifierName.read
  split <;> simp_all

/-- The first alternative names an option key. -/
def NamesOption (text : String) : Prop :=
  "option" ∈ (Reading.ofText text.toList).first.words

instance (text : String) : Decidable (NamesOption text) :=
  inferInstanceAs (Decidable (_ ∈ _))

lemma missingOn_other_iff (text : String) :
    ModifierName.missingOn .other
        ((Reading.ofText text.toList).first.words.filterMap ModifierName.read) = true ↔
      NamesOption text := by
  simp [ModifierName.missingOn, Platform.isApple, NamesOption, read_eq_option_iff]

lemma described_other_of_namesOption {text : String} (h : NamesOption text) :
    described .other text = inert := by
  rw [described, (missingOn_other_iff text).mpr h, Bool.or_true, if_pos rfl]

/-- Without an option key the platforms differ by the meaning of one name only. -/
lemma described_of_not_namesOption {text : String} (hblank : allBlank text.toList = false)
    (h : ¬ NamesOption text) (p : Platform) :
    described p text =
      ⟨ModifierName.heldOn p
        ((Reading.ofText text.toList).first.words.filterMap ModifierName.read),
        (Reading.ofText text.toList).alternatives.map keyOf⟩ := by
  have hmissing : ModifierName.missingOn p
      ((Reading.ofText text.toList).first.words.filterMap ModifierName.read) = false := by
    cases p with
    | apple => rfl
    | other => rwa [← missingOn_other_iff, Bool.not_eq_true] at h
  rw [described, hblank, hmissing, Bool.or_self, if_neg Bool.false_ne_true]

/-- What is kept of a text with a key in every alternative is not inert, if an option key is not
in the way. -/
lemma described_ne_inert {text : String} (hblank : allBlank text.toList = false)
    (hfault : fault? text = none) (h : ¬ NamesOption text) (p : Platform) :
    described p text ≠ inert := by
  rw [fault?, hblank, if_neg Bool.false_ne_true, Option.map_eq_none_iff, List.find?_eq_none]
    at hfault
  rw [described_of_not_namesOption hblank h]
  intro heq
  have hkeys := congrArg (fun a => a.keys.head?) heq
  have hfirst : keyOf (Reading.ofText text.toList).first = "" := by
    simpa [inert, Reading.alternatives] using hkeys
  exact keyOf_ne_empty (by simpa using hfault _ List.mem_cons_self) hfirst

/-- Reading a text asks for the platform at most once, and its result is the one on the platform
that the first answer names. It asks exactly if it needs to; where it does not, the platform makes
no difference. What is malformed is so on either platform and for the same reason. What is well
formed gives the same keys, alt and shift on either platform, unless it names an option key, in
which case, and only then, it is inert outside Apple's. -/
theorem platform_asked_at_most_once (text : String) :
    (∀ answers : ℕ → Platform,
      ((read text).run answers).2 ≤ 1 ∧
      ((read text).run answers).1 = (read text).on (answers 0) ∧
      (((read text).run answers).2 = 1 ↔ NeedsPlatform text)) ∧
    (¬ NeedsPlatform text →
      (∀ answers : ℕ → Platform, ((read text).run answers).2 = 0) ∧
      (read text).on .apple = (read text).on .other) ∧
    (∀ fault, (read text).on .apple = .error fault ↔ (read text).on .other = .error fault) ∧
    (allBlank text.toList = false → ∀ a, (read text).on .apple = .ok a →
      ∃ b, (read text).on .other = .ok b ∧ (b = inert ↔ NamesOption text) ∧
        (¬ NamesOption text → b.keys = a.keys ∧ b.modifiers.alt = a.modifiers.alt ∧
          b.modifiers.shift = a.modifiers.shift)) := by
  refine ⟨fun answers => ?_, fun h => ?_, fun fault => ?_, fun hblank a ha => ?_⟩
  · by_cases h : NeedsPlatform text
    · simp [(read_asksOnce h).run_eq, h]
    · simp [(read_settled h).run_eq, h]
  · exact ⟨fun answers => congrArg Prod.snd ((read_settled h).run_eq answers),
      (read_settled h).on_eq _ _⟩
  · rw [read_on_eq_error_iff, read_on_eq_error_iff]
  · obtain ⟨hfault, rfl⟩ := read_on_eq_ok_iff.mp ha
    refine ⟨described .other text, read_on_eq_ok_iff.mpr ⟨hfault, rfl⟩, ?_, fun h => ?_⟩
    · constructor
      · intro hinert
        by_contra h
        exact described_ne_inert hblank hfault h .other hinert
      · exact described_other_of_namesOption
    · have hoption : ModifierName.option ∉
          (Reading.ofText text.toList).first.words.filterMap ModifierName.read := by
        simpa [NamesOption, read_eq_option_iff] using h
      rw [described_of_not_namesOption hblank h, described_of_not_namesOption hblank h]
      simp [ModifierName.heldOn, hoption]

/-- A text that does not need the platform, and one that does and is read on both. -/
theorem questions_of_plain_and_compound :
    (¬ NeedsPlatform "Alt+S" ∧ (read "Alt+S").on .apple = (read "Alt+S").on .other) ∧
    (allBlank "Shift+CmdOrCtrl+SOrT".toList = false ∧
      (read "Shift+CmdOrCtrl+SOrT").on .apple =
        .ok ⟨{ shift := true, metaKey := true }, ["s", "t"]⟩ ∧
      ¬ NamesOption "Shift+CmdOrCtrl+SOrT" ∧
      ∃ b, (read "Shift+CmdOrCtrl+SOrT").on .other = .ok b ∧ b ≠ inert ∧
        b.keys = ["s", "t"] ∧ b.modifiers.shift = true) := by
  have hplain : ¬ NeedsPlatform "Alt+S" := by
    rintro ⟨-, -, hword⟩
    revert hword
    decide +kernel
  have hblank : allBlank "Shift+CmdOrCtrl+SOrT".toList = false := by decide +kernel
  have happle : (read "Shift+CmdOrCtrl+SOrT").on .apple =
      .ok ⟨{ shift := true, metaKey := true }, ["s", "t"]⟩ := by
    decide +kernel
  have hoption : ¬ NamesOption "Shift+CmdOrCtrl+SOrT" := by decide +kernel
  obtain ⟨-, hzero, -, -⟩ := platform_asked_at_most_once "Alt+S"
  obtain ⟨-, -, -, hboth⟩ := platform_asked_at_most_once "Shift+CmdOrCtrl+SOrT"
  obtain ⟨b, hb, hinert, hkeys⟩ := hboth hblank _ happle
  exact ⟨⟨hplain, (hzero hplain).2⟩, hblank, happle, hoption, b, hb,
    fun h => hoption (hinert.mp h), (hkeys hoption).1, (hkeys hoption).2.2⟩

end Accelerator
end Keychord
