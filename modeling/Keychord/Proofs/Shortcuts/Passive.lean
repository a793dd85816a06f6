import Keychord.Proofs.Bus.Passive
import Keychord.Proofs.Shortcuts.Dispatch

/-!
# Registries that are passive

A registry on a bus is passive if one of its patterns is malformed. It does nothing with any event,
wherever this pattern stands and whatever the callbacks would do. The bus and the other listeners
carry on as if the registry were not there.
-/
namespace Keychord.Shortcuts
open Bus Happening

variable {κ ν ε β : Type}

end Keychord.Shortcuts
