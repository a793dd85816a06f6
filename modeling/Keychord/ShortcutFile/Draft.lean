import Keychord.Accelerator

/-!
# Shortcut files

A shortcut file binds accelerators to commands. It may be meant for a platform of its own,
and single entries may be meant for one platform only.

The draft of a file is what its author wrote. Loading it keeps the entries that apply to the
file's platform and reads their accelerators there. The file is refused if one of these is
malformed; an entry that does not apply is never looked at.
-/
namespace Keychord

namespace ShortcutFile

/-- An entry as it is written. -/
structure Entry where
  key : String
  command : String
  platform : Option Platform := none
  deriving DecidableEq

/-- A file as it is written. -/
structure Draft where
  setting : PlatformSetting := .auto
  entries : List Entry := []
  deriving DecidableEq

/-- A loaded entry. -/
structure Binding where
  key : String
  command : String
  accelerator : Accelerator
  deriving DecidableEq

end ShortcutFile

/-- A loaded file. -/
structure ShortcutFile where
  platform : Platform
  bindings : List ShortcutFile.Binding
  deriving DecidableEq

namespace ShortcutFile

/-- The entry is for every platform, or for this one. -/
def Entry.appliesTo (p : Platform) (entry : Entry) : Bool := entry.platform.all (· = p)

/-- Reads the accelerator of an entry on a platform. -/
def Entry.bind (p : Platform) (entry : Entry) : Except InvalidAccelerator Binding :=
  ((Accelerator.read entry.key).on p).map fun accelerator =>
    ⟨entry.key, entry.command, accelerator⟩

/-- The entries that apply to the file's platform. -/
def Draft.kept (draft : Draft) (host : HostDescription) : List Entry :=
  draft.entries.filter (Entry.appliesTo (draft.setting.resolveOn host))

/-- Loads a file on a host; the first malformed accelerator is reported. -/
def Draft.load (draft : Draft) (host : HostDescription) : Except InvalidAccelerator ShortcutFile :=
  ((draft.kept host).mapM (Entry.bind (draft.setting.resolveOn host))).map fun bindings =>
    ⟨draft.setting.resolveOn host, bindings⟩

/-- The commands that an event triggers, in the order of the file. -/
def commandsFor (e : KeyEvent) (file : ShortcutFile) : List String :=
  (file.bindings.filter (·.accelerator.isTriggeredBy e)).map (·.command)

end ShortcutFile
end Keychord
