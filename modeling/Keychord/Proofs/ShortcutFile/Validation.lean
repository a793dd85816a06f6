import Keychord.Proofs.ShortcutFile.Loading

/-!
# What loading validates

Loading reads the accelerators of the entries that apply to the file's platform and no others, so
that a file can load with a malformed accelerator in it. Which platform reads an accelerator makes
no difference to whether it is malformed. Every entry applies to some platform; hence a file that
loads whatever its setting is has no malformed accelerator at all, and a malformed one shows as soon
as the file is loaded for the right platform.
-/
namespace Keychord.ShortcutFile
open Accelerator Shortcuts

/-- The key of the entry is a well-formed accelerator, on every platform. -/
def Entry.WellFormed (entry : Entry) : Prop := ∀ p, ∃ a, (read entry.key).on p = .ok a

lemma Entry.wellFormed_iff_fault? {entry : Entry} :
    entry.WellFormed ↔ fault? entry.key = none := by
  constructor
  · intro h
    obtain ⟨a, ha⟩ := h .other
    exact (read_on_eq_ok_iff.mp ha).1
  · intro h p
    exact ⟨described p entry.key, read_on_eq_ok_iff.mpr ⟨h, rfl⟩⟩

/-- On this host the draft is not refused. -/
def Draft.Loads (draft : Draft) (host : HostDescription) : Prop :=
  ∃ file, draft.load host = .ok file

lemma Draft.loads_iff {draft : Draft} {host : HostDescription} :
    draft.Loads host ↔ ∀ entry ∈ draft.entries,
      entry.appliesTo (draft.setting.resolveOn host) = true → entry.WellFormed := by
  simp only [Loads, load_eq_ok_iff, exists_and_left, exists_eq, and_true, firstFault?,
    List.findSome?_eq_none_iff, List.forall_mem_map, kept, List.mem_filter, and_imp,
    Entry.wellFormed_iff_fault?]

/-- Every entry applies to the platform of some setting. -/
lemma Entry.exists_setting (entry : Entry) (host : HostDescription) :
    ∃ setting : PlatformSetting, entry.appliesTo (setting.resolveOn host) = true := by
  obtain ⟨key, command, platform⟩ := entry
  cases platform with
  | none => exact ⟨.other, rfl⟩
  | some p => cases p with
    | apple => exact ⟨.apple, rfl⟩
    | other => exact ⟨.other, rfl⟩

/-- A file loads exactly if the entries that apply to its platform are well formed. All its entries
are well formed exactly if it loads under every setting of the platform. -/
theorem loads_under_every_setting_iff (host : HostDescription) (draft : Draft) :
    (draft.Loads host ↔ ∀ entry ∈ draft.entries,
      entry.appliesTo (draft.setting.resolveOn host) = true → entry.WellFormed) ∧
    ((∀ setting, Draft.Loads { draft with setting } host) ↔
      ∀ entry ∈ draft.entries, entry.WellFormed) := by
  refine ⟨Draft.loads_iff, ?_, ?_⟩
  · intro hloads entry hentry
    obtain ⟨setting, happlies⟩ := entry.exists_setting host
    exact Draft.loads_iff.mp (hloads setting) entry hentry happlies
  · intro hentries setting
    exact Draft.loads_iff.mpr fun entry hentry _ => hentries entry hentry

/-- A file for other platforms, in which the only accelerator of an entry for Apple's ends in `+`. -/
def draftWithTypo : Draft where
  setting := .other
  entries := [⟨"Escape", "cancel", none⟩, ⟨"ctrl+", "broken", some .apple⟩]

/-- The file loads, although one of its accelerators is malformed on every platform, and although it
does not load under another setting. -/
theorem typo_for_another_platform_loads :
    draftWithTypo.Loads .host ∧
    (∃ entry ∈ draftWithTypo.entries, ∀ p, (read entry.key).on p = .error ⟨"ctrl+"⟩) ∧
    ({ draftWithTypo with setting := .apple } : Draft).load .host = .error ⟨"ctrl+"⟩ := by
  refine ⟨⟨⟨.other, [⟨"Escape", "cancel", ⟨.empty, ["escape"]⟩⟩]⟩, by decide +kernel⟩, ?_, ?_⟩
  · refine ⟨⟨"ctrl+", "broken", some .apple⟩, by decide, fun p => ?_⟩
    cases p with
    | apple => decide +kernel
    | other => decide +kernel
  · decide +kernel

end Keychord.ShortcutFile
