import Keychord.ShortcutFile.Draft
import Keychord.Proofs.Shortcuts.Dispatch

/-!
# What is loaded

Whether a file loads depends on the accelerators of those entries that apply to its platform: the
first malformed one is reported. If there is none, each of these entries becomes a binding, with
its accelerator as it is described on the file's platform.
-/
namespace Keychord.ShortcutFile
open Accelerator Shortcuts

/-- The binding of an entry whose accelerator is well formed. -/
def Entry.bound (p : Platform) (entry : Entry) : Binding :=
  ⟨entry.key, entry.command, described p entry.key⟩

lemma Entry.bind_eq (p : Platform) (entry : Entry) :
    entry.bind p =
      match fault? entry.key with
      | some fault => .error fault
      | none => .ok (entry.bound p) := by
  rw [bind, read_on_eq]
  cases fault? entry.key <;> rfl

lemma mapM_bind_eq (p : Platform) (entries : List Entry) :
    entries.mapM (Entry.bind p) =
      match firstFault? (entries.map Entry.key) with
      | some fault => .error fault
      | none => .ok (entries.map (Entry.bound p)) := by
  induction entries with
  | nil => rfl
  | cons entry entries ih =>
      rw [List.mapM_cons, ih, Entry.bind_eq]
      simp only [firstFault?, List.map_cons, List.findSome?_cons]
      cases fault? entry.key with
      | some fault => rfl
      | none => cases (entries.map Entry.key).findSome? fault? <;> rfl

theorem Draft.load_eq (draft : Draft) (host : HostDescription) :
    draft.load host =
      match firstFault? ((draft.kept host).map Entry.key) with
      | some fault => .error fault
      | none =>
        .ok ⟨draft.setting.resolveOn host,
          (draft.kept host).map (Entry.bound (draft.setting.resolveOn host))⟩ := by
  rw [load, mapM_bind_eq]
  cases firstFault? ((draft.kept host).map Entry.key) <;> rfl

lemma Draft.load_eq_ok_iff {draft : Draft} {host : HostDescription} {file : ShortcutFile} :
    draft.load host = .ok file ↔
      firstFault? ((draft.kept host).map Entry.key) = none ∧
        file = ⟨draft.setting.resolveOn host,
          (draft.kept host).map (Entry.bound (draft.setting.resolveOn host))⟩ := by
  rw [load_eq]
  cases firstFault? ((draft.kept host).map Entry.key) <;> simp [eq_comm]

/-- The accelerator of a loaded binding is well formed and has been read on the file's platform. -/
theorem described_of_mem_bindings {draft : Draft} {host : HostDescription} {file : ShortcutFile}
    (h : draft.load host = .ok file) {b : Binding} (hb : b ∈ file.bindings) :
    fault? b.key = none ∧ b.accelerator = described file.platform b.key := by
  obtain ⟨hfault, rfl⟩ := Draft.load_eq_ok_iff.mp h
  obtain ⟨entry, hentry, rfl⟩ := List.mem_map.mp hb
  exact ⟨List.findSome?_eq_none_iff.mp hfault _ (List.mem_map_of_mem hentry), rfl⟩

end Keychord.ShortcutFile
