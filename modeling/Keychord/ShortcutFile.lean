import Keychord.ShortcutFile.Content

/-!
# Loading shortcut files

A file is refused if its text is not a sound YAML document, if its content is not that of a
shortcut file, or if an accelerator that applies is malformed. Content is read as far as the
text goes, so a problem with it that stands before a fault in the text is the one reported.

Reading the text is the part of a YAML library. What is proved of shortcut files is proved of
drafts, from wherever they come.
-/
namespace Keychord.ShortcutFile

/-- Why a file is refused. -/
inductive LoadError where
  | unreadable (reason : String)
  | malformed (fault : Option Yaml.Fault)
  | repetitive
  | content (problem : Problem)
  | accelerator (invalid : InvalidAccelerator)

def LoadError.message : LoadError → String
  | unreadable reason => "IO error: " ++ reason
  | malformed fault =>
    "Parse error: " ++ (fault.map Yaml.Fault.message).getD "the text is not a single document"
  | repetitive => "Parse error: the document repeats itself too often"
  | content problem => "Parse error: " ++ problem.message
  | accelerator invalid => invalid.message

/-- The error underneath, which only an invalid accelerator has. -/
def LoadError.cause? : LoadError → Option InvalidAccelerator
  | accelerator invalid => some invalid
  | _ => none

/-- The draft that a document describes. -/
def draftOf (document : Yaml.Document) : Except LoadError Draft :=
  match document.root.elim (.ok {}) draft with
  | .error .broken => .error (.malformed document.fault)
  | .error .repetitive => .error .repetitive
  | .error (.problem problem) => .error (.content problem)
  | .ok draft => if document.sound then .ok draft else .error (.malformed document.fault)

/-- Loads a file from its text, on the host this library is built for. -/
def ofText (text : String) : Except LoadError ShortcutFile := do
  let draft ← draftOf (.ofText text)
  (draft.load .host).mapError .accelerator

end Keychord.ShortcutFile
