import Keychord.Proofs.ShortcutFile.Loading
import Mathlib.Data.List.Forall2

/-!
# Who decides what is loaded

An entry is kept if it is meant for the platform of the file or for none in particular. The kept
entries alone decide what becomes of the file: the first of them that is malformed is reported, and
if there is none, each of them has a binding, in the order of the file. It makes no difference
whether a binding is inert or its key was there before, nor what the other entries are.
-/
namespace Keychord.ShortcutFile
open Accelerator Shortcuts

/-- The binding is that of the entry: what was written, and the accelerator that its key is read as
on the platform. -/
structure Entry.Binds (p : Platform) (entry : Entry) (b : Binding) : Prop where
  key : b.key = entry.key
  command : b.command = entry.command
  accelerator : (read entry.key).on p = .ok b.accelerator

lemma Entry.binds_iff {p : Platform} {entry : Entry} {b : Binding} :
    entry.Binds p b ↔ fault? entry.key = none ∧ b = entry.bound p := by
  constructor
  · rintro ⟨hkey, hcommand, haccelerator⟩
    obtain ⟨hfault, hdescribed⟩ := read_on_eq_ok_iff.mp haccelerator
    exact ⟨hfault, (Binding.mk.injEq ..).mpr ⟨hkey, hcommand, hdescribed.symm⟩⟩
  · rintro ⟨hfault, rfl⟩
    exact ⟨rfl, rfl, read_on_eq_ok_iff.mpr ⟨hfault, rfl⟩⟩

lemma forall₂_binds_iff {p : Platform} {entries : List Entry} {bindings : List Binding} :
    List.Forall₂ (Entry.Binds p) entries bindings ↔
      firstFault? (entries.map Entry.key) = none ∧ bindings = entries.map (Entry.bound p) := by
  simp only [firstFault?, List.findSome?_eq_none_iff, List.forall_mem_map]
  induction entries generalizing bindings with
  | nil => simp
  | cons entry entries ih =>
      rw [List.forall₂_cons_left_iff, List.forall_mem_cons]
      simp only [ih, Entry.binds_iff]
      constructor
      · rintro ⟨b, bindings, ⟨hentry, rfl⟩, ⟨hentries, rfl⟩, rfl⟩
        exact ⟨⟨hentry, hentries⟩, rfl⟩
      · rintro ⟨⟨hentry, hentries⟩, rfl⟩
        exact ⟨_, _, ⟨hentry, rfl⟩, ⟨hentries, rfl⟩, rfl⟩

/-- The entries that are meant for no platform in particular or for this one. -/
def keptOn (p : Platform) (entries : List Entry) : List Entry :=
  entries.filter fun entry => entry.platform = none ∨ entry.platform = some p

lemma Draft.kept_eq (draft : Draft) (host : HostDescription) :
    draft.kept host = keptOn (draft.setting.resolveOn host) draft.entries := by
  refine List.filter_congr fun entry _ => ?_
  obtain ⟨key, command, platform⟩ := entry
  cases platform <;> simp [Entry.appliesTo]

lemma firstFault?_map_key_eq_some_iff {entries : List Entry} {fault : InvalidAccelerator} :
    firstFault? (entries.map Entry.key) = some fault ↔
      ∃ before entry after, entries = before ++ entry :: after ∧
        (∀ earlier ∈ before, WellFormed earlier.key) ∧ Malformed entry.key fault := by
  simp only [firstFault?, List.findSome?_map, List.findSome?_eq_some_iff, Function.comp_apply,
    malformed_iff, wellFormed_iff, and_comm]

/-- The result of loading is decided by these entries. -/
structure DecidedBy (p : Platform) (kept : List Entry)
    (result : Except InvalidAccelerator ShortcutFile) : Prop where
  /-- The first malformed one is reported. -/
  fault : ∀ fault, result = .error fault ↔
    ∃ before entry after, kept = before ++ entry :: after ∧
      (∀ earlier ∈ before, WellFormed earlier.key) ∧ Malformed entry.key fault
  /-- If the file is loaded, it has the bindings of these entries, one for each, in their order. -/
  bindings : ∀ file, result = .ok file ↔
    file.platform = p ∧ List.Forall₂ (Entry.Binds p) kept file.bindings
  /-- It is loaded if none of them is malformed. -/
  loads : (∃ file, result = .ok file) ↔ ∀ entry ∈ kept, WellFormed entry.key

lemma Draft.decidedBy_kept (draft : Draft) (host : HostDescription) :
    DecidedBy (draft.setting.resolveOn host) (draft.kept host) (draft.load host) where
  fault := by
    intro fault
    rw [load_eq, ← firstFault?_map_key_eq_some_iff]
    cases firstFault? ((draft.kept host).map Entry.key) <;> simp
  bindings := by
    rintro ⟨platform, bindings⟩
    rw [load_eq_ok_iff, forall₂_binds_iff, ShortcutFile.mk.injEq, and_left_comm]
  loads := by
    simp only [load_eq_ok_iff, exists_and_left, exists_eq, and_true, wellFormed_iff, firstFault?,
      List.findSome?_eq_none_iff, List.forall_mem_map]

/-- Whatever has been written and wherever it is loaded, the file's platform is the one that it names,
or else the host's. The entries that are kept for this platform decide what is loaded: other entries
may be added, changed or left out. -/
theorem kept_entries_decide (host : HostDescription) (draft : Draft) :
    let p : Platform :=
      match draft.setting with
      | .apple => .apple
      | .other => .other
      | .auto => host.platform
    DecidedBy p (keptOn p draft.entries) (draft.load host) ∧
    ∀ entries, keptOn p entries = keptOn p draft.entries →
      Draft.load { draft with entries } host = draft.load host := by
  intro p
  have hp : draft.setting.resolveOn host = p := by
    obtain ⟨setting, entries⟩ := draft
    cases setting <;> rfl
  rw [← hp]
  refine ⟨draft.kept_eq host ▸ draft.decidedBy_kept host, fun entries hentries => ?_⟩
  rw [Draft.load, Draft.load, Draft.kept_eq, Draft.kept_eq, hentries]

/-- Of three malformed accelerators the one for another platform is not looked at, and the first of
the others is reported. -/
example : Draft.load
    { setting := .other
      entries := [⟨"Cmd+", "hide", some .apple⟩, ⟨"Tab", "next", none⟩, ⟨"Alt+", "go", some .other⟩,
        ⟨"Ctrl+", "stop", none⟩] } .host = .error ⟨"Alt+"⟩ := by
  decide +kernel

end Keychord.ShortcutFile
