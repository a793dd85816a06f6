import Keychord.Main
import Keychord.LogicalKey
import Keychord.Shortcuts.Session
import Keychord.Bus.Script
import Keychord.Proofs.Reading.RoundTrip
import Keychord.Proofs.Reading.Joins
import Keychord.Proofs.Accelerator.Labels
import Keychord.Proofs.Accelerator.Display
import Keychord.Proofs.Accelerator.TwoPhase
import Keychord.Proofs.Bus.Delivery
import Keychord.Proofs.Bus.Flattening
import Keychord.Proofs.Accelerator.Questions
import Keychord.Proofs.Accelerator.LetterCase
import Keychord.Proofs.Shortcuts.Dispatch
import Keychord.Proofs.Shortcuts.Calls
import Keychord.Proofs.Shortcuts.Released
import Keychord.Proofs.Shortcuts.Passive
import Keychord.Proofs.ShortcutFile.Matching
import Keychord.Proofs.ShortcutFile.Validation
import Keychord.Proofs.Bus.Subscriptions
import Keychord.Proofs.Reading.Places
import Keychord.Proofs.Accelerator.Padding
import Keychord.Proofs.Accelerator.Reports
import Keychord.Proofs.Accelerator.Joining
import Keychord.Proofs.Accelerator.Keys
import Keychord.Proofs.Accelerator.Meaning
import Keychord.Proofs.Shortcuts.OrderedMap
import Keychord.Proofs.ShortcutFile.Kept
import Keychord.Proofs.Bus.Numbers
import Keychord.Proofs.Bus.Counting
import Keychord.Proofs.Accelerator.CanonicalLabels
import Keychord.Proofs.Accelerator.Resolution
import Keychord.Proofs.Reading.ByteScan
