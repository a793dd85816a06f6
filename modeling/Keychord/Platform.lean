import Keychord.Text.Case

/-!
# Platforms

What matters about a platform is whether it is one of Apple's: there the command key is the
usual shortcut modifier and an option key exists. A platform is fixed, told from what a host
says about itself, or chosen by a setting.
-/
namespace Keychord

inductive Platform where
  | apple
  | other
  deriving DecidableEq

namespace Platform

def isApple : Platform → Bool
  | apple => true
  | other => false

def name : Platform → String
  | apple => "apple"
  | other => "other"

def ofApple (isApple : Bool) : Platform := if isApple then apple else other

@[simp] theorem isApple_ofApple (b : Bool) : (ofApple b).isApple = b := by cases b <;> rfl

end Platform

/-- How a host describes itself: the name of its operating system, and the free text that
older hosts give instead. -/
structure HostDescription where
  system : Option String := none
  legacy : Option String := none
  deriving DecidableEq

namespace HostDescription

def appleSystems : List String := ["macos", "ios", "tvos", "watchos", "visionos"]

def appleMarkers : List String := ["mac", "iphone", "ipad", "ipod"]

/-- The second text occurs in the first. -/
def occursIn (part : List Char) : List Char → Bool
  | [] => part.isEmpty
  | c :: rest => part.isPrefixOf (c :: rest) || occursIn part rest

/-- The system name decides if there is one, and must be an Apple system's in full. Else an
Apple device named anywhere in the legacy text decides. Case does not matter in either. -/
def platform (host : HostDescription) : Platform :=
  match host.system, host.legacy with
  | some system, _ => .ofApple (appleSystems.contains (Text.lowercase system))
  | none, some legacy =>
    .ofApple (appleMarkers.any fun marker => occursIn marker.toList (Text.lower legacy.toList))
  | none, none => .other

/-- The host this library is built for. -/
def host : HostDescription := { system := some "linux" }

end HostDescription

/-- The platform of the host this library is built for. -/
def Platform.ofHost : Platform := HostDescription.host.platform

/-- Which platform a user asked for. -/
inductive PlatformSetting where
  | auto
  | apple
  | other
  deriving DecidableEq

namespace PlatformSetting

/-- The setting's platform on a host; `auto` leaves it to the host. -/
def resolveOn (host : HostDescription) : PlatformSetting → Platform
  | auto => host.platform
  | apple => .apple
  | other => .other

/-- The setting's platform on the host this library is built for. -/
def resolve (setting : PlatformSetting) : Platform := setting.resolveOn .host

def name : PlatformSetting → String
  | auto => "auto"
  | apple => "apple"
  | other => "other"

/-- A text that names no setting. -/
structure Unknown where
  text : String
  deriving DecidableEq

def Unknown.message (e : Unknown) : String :=
  "unknown platform '" ++ e.text ++ "', expected auto, apple or other"

/-- The setting that a text names, in any case. -/
def read (text : String) : Except Unknown PlatformSetting :=
  match Text.lowercase text with
  | "auto" => .ok auto
  | "apple" | "mac" | "macos" => .ok apple
  | "other" | "linux" | "windows" => .ok other
  | _ => .error ⟨text⟩

end PlatformSetting
end Keychord
