import Keychord.Proofs.Accelerator.Meaning

/-!
# Resolving lists of words

Words are resolved in turn, the platform is asked for on the way, and once a key is missing the rest
is not looked at. On a platform that does not change none of this can be seen. The result is the
union of what the words hold one by one, or nothing if an option key is named where there is none.
So lists of words may be resolved apart and joined afterwards; and the order of the words, their
repetitions and words that name no modifier make no difference.
-/
namespace Keychord.ModifierName

/-- What a word holds on a platform. It is nothing if the word names no modifier, or one whose key
does not exist there. -/
def wordOn (p : Platform) (word : String) : Modifiers :=
  ((read word).bind (modifiers? p)).getD .empty

/-- What the words hold, one after another. -/
def unionOn (p : Platform) (words : List String) : Modifiers :=
  words.foldr (fun word held => wordOn p word ∪ held) .empty

/-- An option key is named where there is none. -/
def MissesOption (p : Platform) (words : List String) : Prop :=
  p.isApple = false ∧ "option" ∈ words

instance (p : Platform) (words : List String) : Decidable (MissesOption p words) :=
  inferInstanceAs (Decidable (_ ∧ _))

lemma missesOption_append {p : Platform} {a b : List String} :
    MissesOption p (a ++ b) ↔ MissesOption p a ∨ MissesOption p b := by
  simp only [MissesOption, List.mem_append, and_or_left]

lemma missingOn_iff {p : Platform} {words : List String} :
    missingOn p (words.filterMap read) = true ↔ MissesOption p words := by
  simp [missingOn, MissesOption, Accelerator.read_eq_option_iff]

lemma unionOn_append (p : Platform) (a b : List String) :
    unionOn p (a ++ b) = unionOn p a ∪ unionOn p b := by
  induction a with
  | nil => exact (Modifiers.empty_union _).symm
  | cons word a ih =>
      calc unionOn p (word :: a ++ b) = wordOn p word ∪ unionOn p (a ++ b) := rfl
        _ = wordOn p word ∪ (unionOn p a ∪ unionOn p b) := by rw [ih]
        _ = unionOn p (word :: a) ∪ unionOn p b := (Modifiers.union_assoc _ _ _).symm

/-- A key that does not exist adds nothing to the others. -/
lemma heldOn_cons_eq (p : Platform) (name : ModifierName) (names : List ModifierName) :
    heldOn p (name :: names) = (name.modifiers? p).getD .empty ∪ heldOn p names := by
  cases hm : name.modifiers? p with
  | some more => exact heldOn_cons names hm
  | none =>
      rw [Option.getD_none, Modifiers.empty_union]
      cases name <;> cases p <;> simp_all [modifiers?, heldOn, Platform.isApple]

lemma heldOn_eq_unionOn (p : Platform) (words : List String) :
    heldOn p (words.filterMap read) = unionOn p words := by
  induction words with
  | nil => exact heldOn_nil p
  | cons word words ih =>
      have hunion : unionOn p (word :: words) = wordOn p word ∪ unionOn p words := rfl
      cases hread : read word with
      | none =>
          rw [List.filterMap_cons_none hread, ih, hunion, wordOn, hread]
          exact (Modifiers.empty_union _).symm
      | some name =>
          rw [List.filterMap_cons_some hread, heldOn_cons_eq, ih, hunion, wordOn, hread]
          rfl

/-- Words are resolved to the union of what they hold, unless an option key is missing. -/
lemma resolve_on_eq_unionOn (p : Platform) (words : List String) :
    (resolve words).on p = if MissesOption p words then none else some (unionOn p words) := by
  rw [resolve_on, heldOn_eq_unionOn]
  exact if_congr missingOn_iff rfl rfl

/-- It only matters which names the words stand for. -/
lemma resolve_on_congr {words words' : List String}
    (h : ∀ name, name ∈ words.filterMap read ↔ name ∈ words'.filterMap read) (p : Platform) :
    (resolve words).on p = (resolve words').on p := by
  rw [resolve_on, resolve_on, missingOn_congr h, heldOn_congr h]

/-- A word that is among the others, or that names no modifier, can be left out. -/
lemma mem_names_insert {before after : List String} {word : String}
    (h : word ∈ before ++ after ∨ read word = none) (name : ModifierName) :
    name ∈ (before ++ word :: after).filterMap read ↔
      name ∈ (before ++ after).filterMap read := by
  have hword : read word = some name → ∃ other ∈ before ++ after, read other = some name := by
    intro hname
    rcases h with hmem | hnone
    · exact ⟨word, hmem, hname⟩
    · simp [hnone] at hname
  simp only [List.mem_filterMap, List.mem_append, List.mem_cons] at hword ⊢
  constructor
  · rintro ⟨other, hbefore | rfl | hafter, hname⟩
    · exact ⟨other, .inl hbefore, hname⟩
    · exact hword hname
    · exact ⟨other, .inr hafter, hname⟩
  · rintro ⟨other, hbefore | hafter, hname⟩
    · exact ⟨other, .inl hbefore, hname⟩
    · exact ⟨other, .inr (.inr hafter), hname⟩

/-- On a fixed platform, words are resolved to nothing exactly if it has no option key and one of
them names it, and else to the union of what each of them holds. Two lists together are resolved to
the union of what each of them is resolved to, and to nothing if one of them is. Words may change
places, and a word that is there already or that names no modifier may be added anywhere. -/
theorem resolved_to_union (p : Platform) :
    (∀ words, (resolve words).on p =
      if p.isApple = false ∧ "option" ∈ words then none else some (unionOn p words)) ∧
    (∀ a b, (resolve (a ++ b)).on p =
      match (resolve a).on p, (resolve b).on p with
      | some held, some held' => some (held ∪ held')
      | _, _ => none) ∧
    (∀ words words', words.Perm words' → (resolve words).on p = (resolve words').on p) ∧
    ∀ before word after, word ∈ before ++ after ∨ read word = none →
      (resolve (before ++ word :: after)).on p = (resolve (before ++ after)).on p := by
  refine ⟨resolve_on_eq_unionOn p, fun a b => ?_, fun words words' h => ?_,
    fun before word after h => resolve_on_congr (mem_names_insert h) p⟩
  · rw [resolve_on_eq_unionOn, resolve_on_eq_unionOn, resolve_on_eq_unionOn, unionOn_append]
    by_cases ha : MissesOption p a
    · rw [if_pos (missesOption_append.mpr (.inl ha)), if_pos ha]
    by_cases hb : MissesOption p b
    · rw [if_pos (missesOption_append.mpr (.inr hb)), if_neg ha, if_pos hb]
    · rw [if_neg (by simp [missesOption_append, ha, hb]), if_neg ha, if_neg hb]
  · exact resolve_on_congr (fun name => (h.filterMap read).mem_iff) p

/-- Words that have changed places, one of which is added again among words that name no modifier,
and a list that is missing an option key beside one that is not. -/
theorem resolved_reordered_and_missing :
    (resolve ["shift", "cmdorctrl"]).on .other = some { ctrl := true, shift := true } ∧
    (resolve ["cmdorctrl", "shift"]).on .other = some { ctrl := true, shift := true } ∧
    (resolve ["shift", "hyper", "cmdorctrl"]).on .other =
      some { ctrl := true, shift := true } ∧
    (resolve ["shift", "cmdorctrl", "shift"]).on .other =
      some { ctrl := true, shift := true } ∧
    (resolve ["shift", "option", "alt"]).on .other = none := by
  have hplain : (resolve ["shift", "cmdorctrl"]).on .other =
      some { ctrl := true, shift := true } := by
    decide +kernel
  obtain ⟨-, hjoined, hmoved, hadded⟩ := resolved_to_union .other
  have hshift : (resolve ["shift"]).on .other = some .justShift := by decide +kernel
  have hoption : (resolve ["option", "alt"]).on .other = none := by decide +kernel
  refine ⟨hplain, (hmoved _ _ (.swap ..)).trans hplain,
    (hadded ["shift"] "hyper" ["cmdorctrl"] (.inr rfl)).trans hplain,
    (hadded ["shift", "cmdorctrl"] "shift" [] (.inl (by decide))).trans hplain, ?_⟩
  have htogether := hjoined ["shift"] ["option", "alt"]
  rw [hshift, hoption] at htogether
  exact htogether

end Keychord.ModifierName
