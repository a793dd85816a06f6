import Keychord.Proofs.Shortcuts.Registry
import Keychord.Proofs.ShortcutFile.Loading

/-!
# A file and a registry of its keys

A loaded file keeps accelerators that have been read; a registry keeps patterns and reads them anew
for every event. An event nevertheless triggers the same bindings either way. That a file loads is
also enough for a registry of its keys never to fail. The one difference is that the registry holds
a repeated key once, where it came first.
-/
namespace Keychord.ShortcutFile
open Accelerator Shortcuts

/-- Patterns that are well formed are all that it takes for an event to be matched. -/
lemma matching_on_of_wellFormed {κ : Type} {s : Shortcuts κ}
    (h : ∀ pattern ∈ s.patterns, fault? pattern = none) (p : Platform) (e : KeyEvent) :
    (s.matching e).on p =
      .ok (s.patterns.filter fun pattern => (described p pattern).isTriggeredBy e) := by
  have hfault : firstFault? s.patterns = none := List.findSome?_eq_none_iff.mpr h
  rw [matching_on, hfault, patterns, List.filter_map]
  rfl

/-- The accelerator of a loaded binding does what its key does when it is read again. -/
lemma triggers_on_eq_ok_true_iff {draft : Draft} {host : HostDescription} {file : ShortcutFile}
    (h : draft.load host = .ok file) {b : Binding} (hb : b ∈ file.bindings) (e : KeyEvent) :
    (e.triggers b.key).on file.platform = .ok true ↔ b.accelerator.isTriggeredBy e = true := by
  obtain ⟨hfault, haccelerator⟩ := described_of_mem_bindings h hb
  rw [KeyEvent.triggers_on_eq, hfault, haccelerator]
  exact ⟨Except.ok.inj, congrArg Except.ok⟩

/-- Whatever has been written, if it loads, the commands for an event are those of the bindings whose
keys, read again on the file's platform, the event triggers. A registry of the keys, registered in
the order of the file with whatever actions, matches the event to the keys of the same bindings,
each where it first occurs. -/
theorem matching_paths_agree {draft : Draft} {host : HostDescription} {file : ShortcutFile}
    (h : draft.load host = .ok file) (e : KeyEvent) :
    let triggered := file.bindings.filter fun b => (e.triggers b.key).on file.platform = .ok true
    file.commandsFor e = triggered.map Binding.command ∧
    ∀ {κ : Type} (shortcuts : List (Shortcut κ)),
      shortcuts.map Shortcut.pattern = file.bindings.map Binding.key →
        ((registerAll shortcuts).matching e).on file.platform =
          .ok (triggered.map Binding.key).eraseDups := by
  intro triggered
  have htriggered : triggered = file.bindings.filter (·.accelerator.isTriggeredBy e) := by
    refine List.filter_congr fun b hb => ?_
    rw [Bool.eq_iff_iff, decide_eq_true_iff, triggers_on_eq_ok_true_iff h hb]
  have hdescribed : triggered =
      file.bindings.filter fun b => (described file.platform b.key).isTriggeredBy e := by
    rw [htriggered]
    exact List.filter_congr fun b hb => by rw [(described_of_mem_bindings h hb).2]
  refine ⟨by rw [htriggered]; rfl, fun shortcuts hshortcuts => ?_⟩
  have hpatterns : (registerAll shortcuts).patterns =
      (file.bindings.map Binding.key).eraseDups := by
    rw [patterns_registerAll, hshortcuts]
  -- the keys have all been read once, when the file was loaded
  have hfault : ∀ pattern ∈ (registerAll shortcuts).patterns, fault? pattern = none := by
    intro pattern hpattern
    rw [hpatterns, List.mem_eraseDups] at hpattern
    obtain ⟨b, hb, rfl⟩ := List.mem_map.mp hpattern
    exact (described_of_mem_bindings h hb).1
  rw [matching_on_of_wellFormed hfault, hpatterns, filter_eraseDups, List.filter_map, hdescribed]
  rfl

/-- A file with a repeated key, a key that is inert, and a malformed one for another platform. -/
def draftForOthers : Draft where
  setting := .other
  entries := [
    ⟨"Tab", "next", none⟩, ⟨"Option+F", "find", none⟩, ⟨"Tab", "log", none⟩,
    ⟨"Cmd+", "hide", some .apple⟩, ⟨"Tab or F2", "go", none⟩]

/-- What is loaded of it. -/
def loadedForOthers : ShortcutFile where
  platform := .other
  bindings := [
    ⟨"Tab", "next", ⟨.empty, ["tab"]⟩⟩, ⟨"Option+F", "find", .inert⟩,
    ⟨"Tab", "log", ⟨.empty, ["tab"]⟩⟩, ⟨"Tab or F2", "go", ⟨.empty, ["tab", "f2"]⟩⟩]

/-- Three of the bindings are triggered by a tab. Two of them have the same key, which the registry
lists once. -/
theorem matching_of_repeated_key :
    let e : KeyEvent := { label := "Tab" }
    let shortcuts := loadedForOthers.bindings.map fun b => (⟨b.key, b.command⟩ : Shortcut String)
    draftForOthers.load .host = .ok loadedForOthers ∧
      loadedForOthers.commandsFor e = ["next", "log", "go"] ∧
      ((registerAll shortcuts).matching e).on .other = .ok ["Tab", "Tab or F2"] := by
  intro e shortcuts
  have hloads : draftForOthers.load .host = .ok loadedForOthers := by decide +kernel
  obtain ⟨hcommands, hmatching⟩ := matching_paths_agree hloads e
  refine ⟨hloads, hcommands.trans ?_, (hmatching shortcuts rfl).trans ?_⟩
  · decide +kernel
  · decide +kernel

end Keychord.ShortcutFile
