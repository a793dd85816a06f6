import Keychord.ShortcutFile.Draft
import Keychord.ShortcutFile.Problem
import Keychord.Yaml.Document
import Keychord.Yaml.Value

/-!
# The content of a shortcut file

From the nodes of a document to the draft of a file. Texts may be written as any scalar;
unknown fields are passed over; a value that is left out, at the root too, has its default.
Problems are noticed in the order of the text, and a place where the text breaks off counts
as one.

Aliases let a short text describe a long file, so there is a limit on how many are followed.
-/
namespace Keychord.ShortcutFile

open Yaml

/-- Why content cannot be read: the text breaks off, it repeats itself too often, or it says
something that is not asked for. -/
inductive Refusal where
  | broken
  | repetitive
  | problem (problem : Problem)

/-- Reading content. The state is the number of aliases that may still be followed. -/
abbrev Decoding (α : Type) := StateT Nat (Except Refusal) α

/-- Reading a node at a place of the file, where aliases stand for the anchored nodes. -/
abbrev Decoder (α : Type) := List (Nat × Node) → Place → Node → Decoding α

namespace Decoder

/-- Refuses what is noticed at a node. -/
def refuse {α : Type} (place : Place) (node : Node) (cause : Cause) : Decoding α :=
  throw (.problem ⟨place, node.start, cause⟩)

/-- What an alias stands for. Other nodes stand for themselves. -/
def follow (anchored : List (Nat × Node)) : Node → Decoding Node
  | .alias _ slot => fun
    | 0 => .error .repetitive
    | left + 1 => .ok ((anchored.lookup slot).getD .broken, left)
  | node => pure node

/-- Refuses a node of another kind than the expected one. -/
def refuseKind {α : Type} (expected : String) (place : Place) (node : Node) : Decoding α :=
  match node with
  | .scalar p plain text =>
    match Value.ofScalar p.tag plain text with
    | .ok found => refuse place node (.wrongKind found.describe expected)
    | .error kind => refuse place node (.badValue text kind.describe)
  | .sequence _ _ => refuse place node (.wrongKind "sequence" expected)
  | .mapping _ _ => refuse place node (.wrongKind "map" expected)
  | .alias _ _ | .broken => throw .broken

/-- A text, written as a scalar of any form. -/
def text (expected : String) : Decoder String := fun anchored place node => do
  match ← follow anchored node with
  | .scalar _ _ text => return text
  | other => refuseKind expected place other

/-- The entries of a structure, which has none if nothing is written. -/
def entries (structureName : String) (place : Place) (node : Node) :
    Decoding (List (Node × Node)) :=
  match node with
  | .mapping _ entries => return entries
  | .scalar _ true "" => return []
  | other => refuseKind ("struct " ++ structureName) place other

/-- The items of a list, which has none if nothing is written. -/
def items : Decoder (List Node) := fun anchored place node => do
  match ← follow anchored node with
  | .sequence _ items => return items
  | .scalar _ true "" => return []
  | other => refuseKind "a sequence" place other

/-- Passes over the content of an unknown field. -/
def skip (node : Node) : Decoding Unit :=
  if node.isWhole then return () else throw .broken

/-- The place of a field's content. It has no name if the key is an alias. -/
def fieldPlace (place : Place) : Node → Place
  | .scalar _ _ name => .field place name
  | _ => .field place "?"

/-- The variant of this name. -/
def named {α : Type} (variants : List (String × α)) (place : Place) (node : Node)
    (name : String) : Decoding α :=
  match variants.lookup name with
  | some a => return a
  | none => refuse place node (.unknownVariant name (variants.map (·.1)))

/-- The name that a tag gives to a node. -/
def tagName? : Node → Option String
  | .scalar p _ _ | .sequence p _ | .mapping p _ =>
    match p.tag with
    | some (.own name) => name
    | _ => none
  | .alias _ _ | .broken => none

/-- What a variant named by its tag has to stand in front of: nothing. -/
def nothing (place : Place) (node : Node) : Decoding Unit :=
  match node with
  | .scalar _ plain text =>
    if plain && (text.isEmpty || Value.isNull text) then return ()
    else refuse place node (.badValue text Kind.null.describe)
  | other => refuseKind "unit" place other

/-- A variant, named by a tag or else by the text of a scalar. A tag that names none is noticed
at the structure around the value, or at the alias that leads to it. -/
def variant {α : Type} (variants : List (String × α)) (outer : Place) (owner : Node) : Decoder α :=
  fun anchored place node => do
    let value ← follow anchored node
    match tagName? value, value with
    | some name, _ => do
      let a ← match node with
        | .alias _ _ => named variants place node name
        | _ => named variants outer owner name
      nothing place value
      return a
    | none, .scalar _ _ text => named variants place value text
    | none, _ => refuseKind "a YAML tag starting with '!'" place value

/-- An optional value: none is written as nothing or as a null. A null by its tag only is
noticed at the structure around the value. -/
def optional {α : Type} (outer : Place) (owner : Node) (decode : Decoder α) :
    Decoder (Option α) := fun anchored place node => do
  let value ← follow anchored node
  match value with
  | .scalar ⟨_, none, _⟩ true text =>
    if text.isEmpty || Value.isNull text then return none
    else some <$> decode anchored place value
  | .scalar ⟨_, some (.standard .null), _⟩ true text =>
    if Value.isNull text then return none
    else refuse outer owner (.badValue text Kind.null.describe)
  | value => some <$> decode anchored place value

/-- A field that must not be given twice. -/
def once {α : Type} (name : String) (place : Place) (owner : Node) (before : Option α)
    (decode : Decoding α) : Decoding (Option α) :=
  if before.isSome then refuse place owner (.duplicateField name) else some <$> decode

/-- A field that has to be given. -/
def required {α : Type} (name : String) (place : Place) (owner : Node) (given : Option α) :
    Decoding α :=
  match given with
  | some a => return a
  | none => refuse place owner (.missingField name)

end Decoder

open Decoder

/-- The fields of an entry found so far. -/
structure EntryFields where
  key : Option String := none
  command : Option String := none
  platform : Option (Option Platform) := none

/-- Reads one field of the entry that the mapping `owner` describes. -/
def EntryFields.add (anchored : List (Nat × Node)) (place : Place) (owner : Node)
    (fields : EntryFields) (field : Node × Node) : Decoding EntryFields := do
  let inner := fieldPlace place field.1
  match ← text "field identifier" anchored place field.1 with
  | "key" =>
    let key ← once "key" place owner fields.key (text "a string" anchored inner field.2)
    return { fields with key }
  | "command" =>
    let command ← once "command" place owner fields.command
      (text "a string" anchored inner field.2)
    return { fields with command }
  | "platform" =>
    let variants := [("apple", Platform.apple), ("other", .other)]
    let platform ← once "platform" place owner fields.platform
      (optional place owner (variant variants place owner) anchored inner field.2)
    return { fields with platform }
  | _ =>
    skip field.2
    return fields

/-- An entry of the list of bindings. -/
def entry : Decoder Entry := fun anchored place node => do
  let owner ← follow anchored node
  let written ← entries "BindingConfig" place owner
  let fields ← written.foldlM (EntryFields.add anchored place owner) {}
  let key ← required "key" place owner fields.key
  let command ← required "command" place owner fields.command
  return ⟨key, command, fields.platform.join⟩

/-- The fields of a file found so far. -/
structure DraftFields where
  setting : Option PlatformSetting := none
  bindings : Option (List Entry) := none

/-- Reads one field of the file that the mapping `owner` describes. -/
def DraftFields.add (anchored : List (Nat × Node)) (owner : Node) (fields : DraftFields)
    (field : Node × Node) : Decoding DraftFields := do
  let inner := fieldPlace .root field.1
  match ← text "field identifier" anchored .root field.1 with
  | "platform" =>
    let variants := [("auto", PlatformSetting.auto), ("apple", .apple), ("other", .other)]
    let setting ← once "platform" .root owner fields.setting
      (variant variants .root owner anchored inner field.2)
    return { fields with setting }
  | "bindings" =>
    let bindings ← once "bindings" .root owner fields.bindings do
      let written ← items anchored inner field.2
      written.zipIdx.mapM fun (node, n) => entry anchored (.item inner n) node
    return { fields with bindings }
  | _ =>
    skip field.2
    return fields

/-- The draft that the root of a document describes. -/
def decodeDraft (root : Node) : Decoding Draft := do
  let written ← entries "ShortcutFileConfig" .root root
  let fields ← written.foldlM (DraftFields.add root.anchored root) {}
  return ⟨fields.setting.getD .auto, fields.bindings.getD []⟩

/-- How many aliases are followed for each mark that the document takes to write down. -/
def aliasesPerMark : Nat := 100

/-- The draft of a file from the root of its document. -/
def draft (root : Node) : Except Refusal Draft :=
  (decodeDraft root).run' (aliasesPerMark * root.size)

end Keychord.ShortcutFile
