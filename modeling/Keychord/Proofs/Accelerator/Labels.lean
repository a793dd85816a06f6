import Keychord.Proofs.Accelerator.Questions
import Keychord.Proofs.Reading.Joins

/-!
# Labels that shortcuts can name

A shortcut's keys are trimmed and in lower case; the label of an event is put into lower case as
well, and some labels get another name besides. So the two sides do not have the same words: a label
with a blank at an end, with a `+` or with an `or` of its own is no shortcut's key, and a key that
is one of the replaced labels is no event's. These are the only limits. Every event with a label
that can be a key has a shortcut, the same on all platforms; and every accelerator that is not
inert and has a key of another kind is triggered by some event.
-/
namespace Keychord
open Text

namespace KeyEvent

/-- A label is replaced by another name, or else is put into lower case. -/
lemma normalizeLabel_cases (label : String) :
    (∃ name, (lowercase label, name) ∈ renamedLabels ∧ normalizeLabel label = name) ∨
    lowercase label ∉ renamedLabels.map Prod.fst ∧ normalizeLabel label = lowercase label := by
  rw [normalizeLabel]
  cases hlookup : renamedLabels.lookup (lowercase label) with
  | none =>
      refine .inr ⟨fun hmem => ?_, rfl⟩
      obtain ⟨renamed, hrenamed, heq⟩ := List.mem_map.mp hmem
      have hne := List.lookup_eq_none_iff.mp hlookup renamed hrenamed
      simp [heq] at hne
  | some name =>
      obtain ⟨before, after, heq, -⟩ := List.lookup_eq_some_iff.mp hlookup
      exact .inl ⟨name, heq ▸ by simp, rfl⟩

@[simp] theorem lowercase_normalizeLabel (label : String) :
    lowercase (normalizeLabel label) = normalizeLabel label := by
  have hnames : ∀ renamed ∈ renamedLabels, lowercase renamed.2 = renamed.2 := by decide +kernel
  rcases normalizeLabel_cases label with ⟨name, hmem, heq⟩ | ⟨-, heq⟩
  · rw [heq, hnames _ hmem]
  · rw [heq, lowercase_lowercase]

/-- What has been replaced does not come back. -/
theorem normalizeLabel_not_mem_renamedLabels (label : String) :
    normalizeLabel label ∉ renamedLabels.map Prod.fst := by
  have hnames : ∀ renamed ∈ renamedLabels, renamed.2 ∉ renamedLabels.map Prod.fst := by decide
  rcases normalizeLabel_cases label with ⟨name, hmem, heq⟩ | ⟨hnot, heq⟩
  · exact heq ▸ hnames _ hmem
  · exact heq ▸ hnot

lemma normalizeLabel_eq_self {label : String} (hlower : lowercase label = label)
    (h : label ∉ renamedLabels.map Prod.fst) : normalizeLabel label = label := by
  rcases normalizeLabel_cases label with ⟨name, hmem, -⟩ | ⟨-, heq⟩
  · rw [hlower] at hmem
    exact absurd (List.mem_map_of_mem hmem) h
  · rw [heq, hlower]

end KeyEvent

namespace Accelerator
open KeyEvent

/-- A shortcut can name the text as a key: there is some text, no blank around it and no mark
in it, which is to say no `+`, and no `or` but inside an uncut word. -/
structure IsKey (text : String) : Prop where
  nonempty : text ≠ ""
  trimmed : Trimmed text.toList
  whole : Reading.Whole text.toList

@[simp] lemma lowercase_keyOf (a : Alternative) : lowercase (keyOf a) = keyOf a := by
  rw [lowercase, keyOf, String.toList_ofList, lower_lower]

/-- The keys that are kept of a text are such texts. -/
lemma isKey_keyOf {text : List Char} {a : Alternative}
    (ha : a ∈ (Reading.ofText text).alternatives) (h : allBlank a.key = false) :
    IsKey (keyOf a) where
  nonempty := keyOf_ne_empty h
  trimmed := by
    rw [keyOf, String.toList_ofList]
    exact (images_lower _).trimmed (trimmed_trim a.key)
  whole := by
    have hwhole := (Reading.proper_ofText text).whole a ha a.key (by simp [Alternative.segments])
    rw [keyOf, String.toList_ofList]
    exact hwhole.trim.lower

/-- Two reasons make a text inert: it is blank, or it names an option key that does not exist. -/
lemma described_eq (p : Platform) (text : String) :
    described p text =
      if allBlank text.toList = true ∨ p.isApple = false ∧ NamesOption text then inert
      else ⟨ModifierName.heldOn p
          ((Reading.ofText text.toList).first.words.filterMap ModifierName.read),
        (Reading.ofText text.toList).alternatives.map keyOf⟩ := by
  refine if_congr ?_ rfl rfl
  simp [ModifierName.missingOn, NamesOption, read_eq_option_iff]

lemma allBlank_key_of_fault? {text : String} (hblank : ¬ allBlank text.toList = true)
    (h : fault? text = none) :
    ∀ a ∈ (Reading.ofText text.toList).alternatives, allBlank a.key = false := by
  rw [fault?, if_neg hblank, Option.map_eq_none_iff] at h
  simpa using List.find?_eq_none.mp h

lemma isKey_of_mem_described {p : Platform} {text key : String} (hfault : fault? text = none)
    (hkey : key ∈ (described p text).keys) (hne : key ≠ "") :
    IsKey key ∧ lowercase key = key := by
  rw [described_eq] at hkey
  split_ifs at hkey with hinert
  · exact absurd (by simpa [inert] using hkey) hne
  · obtain ⟨a, ha, rfl⟩ := List.mem_map.mp hkey
    have hblank := allBlank_key_of_fault? (fun h => hinert (.inl h)) hfault a ha
    exact ⟨isKey_keyOf ha hblank, lowercase_keyOf a⟩

lemma isTriggeredBy_iff {a : Accelerator} {e : KeyEvent} :
    a.isTriggeredBy e = true ↔
      e.modifiers = a.modifiers ∧ ∃ key ∈ a.keys, key ≠ "" ∧ key = normalizeLabel e.label := by
  simp [isTriggeredBy, acceptsKey]

lemma toList_leading (m : Modifiers) :
    m.leading.toList = (m.names.map String.toList).flatMap (· ++ ['+']) := by
  obtain ⟨_ | _, _ | _, _ | _, _ | _⟩ := m <;> decide +kernel

lemma whole_of_mem_names {m : Modifiers} : ∀ name ∈ m.names, Reading.Whole name.toList := by
  have hnames : ∀ name ∈ ["Ctrl", "Shift", "Alt", "Meta"], Reading.Whole name.toList := by
    decide +kernel
  intro name hname
  refine hnames name ?_
  unfold Modifiers.names at hname
  simp only [List.mem_append, List.mem_ite_nil_right, List.mem_singleton] at hname
  simp only [List.mem_cons, List.not_mem_nil, or_false]
  tauto

/-- The modifier that a name of one stands for, as it is written. -/
lemma filterMap_read_names (m : Modifiers) :
    (m.names.map fun name => String.ofList (lower (trim name.toList))).filterMap
        ModifierName.read =
      (if m.ctrl then [.control] else []) ++ (if m.shift then [.shift] else []) ++
        (if m.alt then [.alt] else []) ++ (if m.metaKey then [.metaKey] else []) := by
  rw [List.filterMap_map]
  set look : String → Option ModifierName :=
    ModifierName.read ∘ fun name => String.ofList (lower (trim name.toList))
  have hctrl : look "Ctrl" = some .control := by decide +kernel
  have hshift : look "Shift" = some .shift := by decide +kernel
  have halt : look "Alt" = some .alt := by decide +kernel
  have hmeta : look "Meta" = some .metaKey := by decide +kernel
  obtain ⟨_ | _, _ | _, _ | _, _ | _⟩ := m <;>
    simp [Modifiers.names, hctrl, hshift, halt, hmeta]

/-- The written names of modifiers stand for these modifiers on every platform. -/
lemma held_of_names (m : Modifiers) (p : Platform) :
    let names := (m.names.map fun name => String.ofList (lower (trim name.toList))).filterMap
      ModifierName.read
    ModifierName.missingOn p names = false ∧ ModifierName.heldOn p names = m := by
  rw [filterMap_read_names]
  obtain ⟨_ | _, _ | _, _ | _, _ | _⟩ := m <;> cases p <;> decide

lemma IsKey.allBlank_eq {key : String} (h : IsKey key) : allBlank key.toList = false := by
  rw [← Bool.not_eq_true, ← trim_eq_nil_iff, trim_eq_self h.trimmed]
  simpa using h.nonempty

/-- The reading of an accelerator that is written down: the names of the modifiers stand before
the first key, and every other key is an alternative of its own. -/
def written (m : Modifiers) (key : String) (others : List String) : Reading where
  first := ⟨m.names.map String.toList, key.toList⟩
  others := others.map fun other => (('O', 'r'), ⟨[], other.toList⟩)

lemma segmented_written {m : Modifiers} {key : String} {others : List String}
    (h : ∀ k ∈ key :: others, IsKey k) : (written m key others).Segmented where
  spelled gap hgap := by
    obtain ⟨other, -, rfl⟩ := List.mem_map.mp hgap
    show Reading.isOr 'O' 'r' = true
    decide
  whole a ha s hs := by
    rcases List.mem_cons.mp ha with rfl | ha
    · rcases List.mem_append.mp hs with hs | hs
      · obtain ⟨name, hname, rfl⟩ := List.mem_map.mp hs
        exact whole_of_mem_names name hname
      · obtain rfl : s = key.toList := by simpa [written] using hs
        exact (h key List.mem_cons_self).whole
    · simp only [written, List.map_map, List.mem_map, Function.comp_apply] at ha
      obtain ⟨other, hother, rfl⟩ := ha
      obtain rfl : s = other.toList := by simpa [Alternative.segments] using hs
      exact (h other (List.mem_cons_of_mem key hother)).whole

/-- Where the text of an accelerator has the reading that was written down, the accelerator is read
again, on every platform. -/
lemma read_of_written {text : String} {m : Modifiers} {key : String} {others : List String}
    (htext : Reading.ofText text.toList = written m key others)
    (hkeys : ∀ k ∈ key :: others, IsKey k ∧ lowercase k = k) (p : Platform) :
    (read text).on p = .ok ⟨m, key :: others⟩ := by
  have hfilled : ∀ k ∈ key :: others, allBlank k.toList = false :=
    fun k hk => (hkeys k hk).1.allBlank_eq
  have hblank : allBlank text.toList = false := by
    have hkey := hfilled key List.mem_cons_self
    rw [← Reading.render_ofText text.toList, htext]
    simp only [allBlank] at hkey ⊢
    simp [Reading.render, Alternative.render, written, hkey]
  have hkeyOf : ∀ k ∈ key :: others, ∀ names, keyOf ⟨names, k.toList⟩ = k := by
    intro k hk names
    rw [keyOf, trim_eq_self (hkeys k hk).1.trimmed]
    exact (hkeys k hk).2
  have hwords : (written m key others).first.words =
      m.names.map fun name => String.ofList (lower (trim name.toList)) := by
    simp [Alternative.words, written]
  have halternatives : (written m key others).alternatives.map keyOf = key :: others := by
    have hothers : others.map (fun other => keyOf ⟨[], other.toList⟩) = others.map id :=
      List.map_congr_left fun other hother => hkeyOf other (List.mem_cons_of_mem key hother) []
    simp only [Reading.alternatives, written, List.map_cons, List.map_map, Function.comp_def,
      hothers, List.map_id, hkeyOf key List.mem_cons_self]
  obtain ⟨hmissing, hheld⟩ := held_of_names m p
  rw [read_on_eq_ok_iff, fault?, described, hblank, htext, hwords, hmissing, hheld, halternatives]
  refine ⟨?_, by simp⟩
  simpa [Reading.alternatives, written] using hfilled

/-- The event's modifiers as they are written, and its label in the form in which shortcuts name
it. -/
def patternOf (e : KeyEvent) : String := e.modifiers.leading ++ normalizeLabel e.label

/-- Written down, the names of modifiers and a key are read again. -/
lemma ofText_patternOf {e : KeyEvent} (h : IsKey (normalizeLabel e.label)) :
    Reading.ofText (patternOf e).toList = written e.modifiers (normalizeLabel e.label) [] := by
  have hproper : (written e.modifiers (normalizeLabel e.label) []).Proper :=
    (segmented_written (by simpa using h)).proper (List.isChain_singleton _)
  have hrender : (written e.modifiers (normalizeLabel e.label) []).render =
      (patternOf e).toList := by
    simp [Reading.render, Alternative.render, written, patternOf, toList_leading]
  rw [← hrender, hproper.ofText_render]

theorem read_patternOf {e : KeyEvent} (h : IsKey (normalizeLabel e.label)) (p : Platform) :
    (read (patternOf e)).on p = .ok ⟨e.modifiers, [normalizeLabel e.label]⟩ :=
  read_of_written (ofText_patternOf h) (by simpa using h) p

/-- An event can be made to trigger some shortcut on some platform exactly if its label, in the form
in which shortcuts name it, can be a key. Then its modifiers and this label make such a shortcut,
which works on every platform. -/
theorem label_has_shortcut_iff (e : KeyEvent) :
    ((∃ text p, (e.triggers text).on p = .ok true) ↔ IsKey (normalizeLabel e.label)) ∧
    (IsKey (normalizeLabel e.label) ↔ ∀ p, (e.triggers (patternOf e)).on p = .ok true) := by
  have hkey : ∀ {text p}, (e.triggers text).on p = .ok true → IsKey (normalizeLabel e.label) := by
    intro text p h
    rw [KeyEvent.triggers_on_eq] at h
    cases hfault : fault? text with
    | some fault => simp [hfault] at h
    | none =>
        rw [hfault] at h
        obtain ⟨-, key, hmem, hne, rfl⟩ := isTriggeredBy_iff.mp (Except.ok.inj h)
        exact (isKey_of_mem_described hfault hmem hne).1
  have htriggers : IsKey (normalizeLabel e.label) →
      ∀ p, (e.triggers (patternOf e)).on p = .ok true := by
    intro h p
    have htrue : isTriggeredBy ⟨e.modifiers, [normalizeLabel e.label]⟩ e = true :=
      isTriggeredBy_iff.mpr ⟨rfl, _, List.mem_singleton_self _, h.nonempty, rfl⟩
    rw [KeyEvent.triggers, Inquiry.on_map, read_patternOf h, Except.map, htrue]
  refine ⟨⟨?_, fun h => ⟨_, .other, htriggers h .other⟩⟩, htriggers, fun h => hkey (h .other)⟩
  rintro ⟨text, p, h⟩
  exact hkey h

/-- The keys that no event has: labels of the arrow keys, which are given other names. -/
def arrowLabels : List String := ["arrowup", "arrowdown", "arrowleft", "arrowright"]

/-- Of the labels that are replaced, only those of the arrow keys can be keys. -/
lemma mem_renamedLabels_iff {key : String} (h : IsKey key) :
    key ∈ renamedLabels.map Prod.fst ↔ key ∈ arrowLabels := by
  have hspace : key ≠ " " := by
    rintro rfl
    exact absurd (h.trimmed.leading ' ' rfl) (by decide)
  simp [renamedLabels, arrowLabels, hspace]

/-- On this platform the text is inert: it is blank, or names an option key where there is none. -/
def InertOn (p : Platform) (text : String) : Prop :=
  allBlank text.toList = true ∨ p.isApple = false ∧ NamesOption text

/-- A text without a fault is inert, or it has keys and none of them is empty. -/
lemma described_cases {p : Platform} {text : String} (hfault : fault? text = none) :
    InertOn p text ∧ described p text = inert ∨
    ¬ InertOn p text ∧ (described p text).isInert = false ∧
      ∀ key ∈ (described p text).keys, key ≠ "" := by
  rw [described_eq]
  split_ifs with h
  · exact .inl ⟨h, rfl⟩
  · have hkeys : ∀ key ∈ (Reading.ofText text.toList).alternatives.map keyOf, key ≠ "" := by
      intro key hkey
      obtain ⟨a, ha, rfl⟩ := List.mem_map.mp hkey
      exact keyOf_ne_empty (allBlank_key_of_fault? (fun hblank => h (.inl hblank)) hfault a ha)
    have hfirst := hkeys _ (List.mem_map_of_mem List.mem_cons_self)
    exact .inr ⟨h, by simp [isInert, Reading.alternatives, hfirst], hkeys⟩

/-- An accelerator that was read is triggered by some event exactly if it is not inert and one of
its keys is not among the labels of arrow keys that are replaced. It is inert exactly if its text
is blank or names an option key on a platform without one; then it is the inert accelerator, which
no event triggers, whatever its label and modifiers. -/
theorem has_event_iff {text : String} {p : Platform} {a : Accelerator}
    (h : (read text).on p = .ok a) :
    ((∃ e, a.isTriggeredBy e = true) ↔ a.isInert = false ∧ ∃ key ∈ a.keys, key ∉ arrowLabels) ∧
    (a.isInert = true ↔
      allBlank text.toList = true ∨ p.isApple = false ∧ NamesOption text) ∧
    (a.isInert = true → a = inert ∧ ∀ e, a.isTriggeredBy e = false) := by
  obtain ⟨hfault, rfl⟩ := read_on_eq_ok_iff.mp h
  have hnone : ∀ e, inert.isTriggeredBy e = false := by
    simp [isTriggeredBy, acceptsKey, inert]
  rcases described_cases (p := p) hfault with ⟨hinert, heq⟩ | ⟨hinert, heq, hkeys⟩
  · have htrue : inert.isInert = true := by decide
    rw [heq]
    exact ⟨by simp [hnone, htrue], ⟨fun _ => hinert, fun _ => htrue⟩, fun _ => ⟨rfl, hnone⟩⟩
  · refine ⟨⟨?_, ?_⟩, ⟨by simp [heq], fun h => absurd h hinert⟩, by simp [heq]⟩
    · rintro ⟨e, he⟩
      obtain ⟨-, key, hmem, hne, rfl⟩ := isTriggeredBy_iff.mp he
      have hkey := (isKey_of_mem_described hfault hmem hne).1
      refine ⟨heq, _, hmem, ?_⟩
      rw [← mem_renamedLabels_iff hkey]
      exact normalizeLabel_not_mem_renamedLabels e.label
    · rintro ⟨-, key, hmem, harrow⟩
      obtain ⟨hkey, hlower⟩ := isKey_of_mem_described hfault hmem (hkeys key hmem)
      rw [← mem_renamedLabels_iff hkey] at harrow
      refine ⟨⟨key, (described p text).modifiers⟩, isTriggeredBy_iff.mpr ⟨rfl, key, hmem,
        hkeys key hmem, (normalizeLabel_eq_self hlower harrow).symm⟩⟩

/-- Arrows alone, arrows beside another key, and an option key on either platform. -/
theorem events_of_arrows_and_option :
    ((read "Ctrl+ArrowUp").on .other = .ok ⟨.justCtrl, ["arrowup"]⟩ ∧
      ¬ ∃ e, isTriggeredBy ⟨.justCtrl, ["arrowup"]⟩ e = true) ∧
    ((read "ArrowUp or Up").on .other = .ok ⟨.empty, ["arrowup", "up"]⟩ ∧
      ∃ e, isTriggeredBy ⟨.empty, ["arrowup", "up"]⟩ e = true) ∧
    ((read "Option+F").on .other = .ok inert ∧ ∀ e, inert.isTriggeredBy e = false) ∧
    ((read "Option+F").on .apple = .ok ⟨.justAlt, ["f"]⟩ ∧
      ∃ e, isTriggeredBy ⟨.justAlt, ["f"]⟩ e = true) := by
  have hup : (read "Ctrl+ArrowUp").on .other = .ok ⟨.justCtrl, ["arrowup"]⟩ := by decide +kernel
  have hboth : (read "ArrowUp or Up").on .other = .ok ⟨.empty, ["arrowup", "up"]⟩ := by
    decide +kernel
  have hother : (read "Option+F").on .other = .ok inert := by decide +kernel
  have happle : (read "Option+F").on .apple = .ok ⟨.justAlt, ["f"]⟩ := by decide +kernel
  refine ⟨⟨hup, ?_⟩, ⟨hboth, (has_event_iff hboth).1.mpr (by decide)⟩,
    ⟨hother, ((has_event_iff hother).2.2 (by decide)).2⟩,
    ⟨happle, (has_event_iff happle).1.mpr (by decide)⟩⟩
  rw [(has_event_iff hup).1]
  decide

end Accelerator
end Keychord
