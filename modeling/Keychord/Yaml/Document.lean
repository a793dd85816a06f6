import Keychord.Yaml.Layout
import Keychord.Yaml.Node

/-!
# YAML documents

The grammar from tokens to the tree of nodes. A text that describes a single document and
nothing else is sound.

Tokens that run out before the end of the stream mean that the text breaks off there, and so
do tokens that the grammar has no place for. Reading then goes on with no tokens, so every
node and every collection that is not complete by then ends in a broken node.
-/
namespace Keychord.Yaml

/-- The tokens to come, what the tag handles of the document stand for, and the slots of the
names of anchors so far. -/
structure Reader where
  tokens : List PlacedToken
  handles : List (String × List UInt8) := []
  slots : List (String × Nat) := []

namespace Reader

/-- Breaks off. -/
def stop (r : Reader) : Reader := { r with tokens := [] }

/-- One of these tokens comes next. -/
def sees (expected : List Token) (r : Reader) : Bool :=
  r.tokens.head?.any fun next => expected.contains next.token

/-- Where the next token begins. -/
def start (r : Reader) : Position := r.tokens.head?.elim {} (·.start)

/-- A node, or the empty one if one of these tokens comes next. -/
def readUnless (ends : List Token) (read : Reader → Node × Reader) (r : Reader) : Node × Reader :=
  if r.sees ends then (.empty r.start, r) else read r

/-- The content that belongs to a key: a node after the mark of a value, or the empty one if
there is no mark. -/
def readValue (ends : List Token) (read : Reader → Node × Reader) (r : Reader) : Node × Reader :=
  match r.tokens with
  | ⟨.value, _⟩ :: tokens => readUnless ends read { r with tokens }
  | [] => (.broken, r)
  | _ => (.empty r.start, r)

/-- Passes the comma in front of an entry, which the first one does not have. -/
def passComma (first : Bool) (r : Reader) : Reader :=
  if first then r
  else match r.tokens with
    | ⟨.flowEntry, _⟩ :: tokens => { r with tokens }
    | _ => r.stop

/-- What follows the entry of a mapping that has a single one and no marks around it: the mapping
ends there unless the tokens run out. -/
def pairEnd (r : Reader) : List (Node × Node) :=
  if r.tokens.isEmpty then [(.broken, .broken)] else []

/-- Gives a name to the node that begins here. Its slot is the number of names there are: a
name that is given again gets a new slot, which a later name may get as well. -/
def name (anchor : String) (r : Reader) : Nat × Reader :=
  let slot := r.slots.length
  let slots :=
    if (r.slots.lookup anchor).isSome then
      r.slots.map fun (other, old) => (other, if other = anchor then slot else old)
    else r.slots ++ [(anchor, slot)]
  (slot, { r with slots })

/-- What the handles stand for that every document has. -/
def standardHandles : List (String × List UInt8) :=
  [("!", ['!'.toUInt8]), ("!!", "tag:yaml.org,2002:".toUTF8.toList)]

/-- The tag that a handle and what follows it make. -/
def tag? (handle : String) (suffix : List UInt8) (r : Reader) : Option Tag :=
  if handle = "" then some (.ofBytes suffix)
  else ((r.handles ++ standardHandles).lookup handle).map fun uri => .ofBytes (uri ++ suffix)

/-- Reads the anchor and the tag in front of a node, in either order; the tag is refused if its
handle stands for nothing. -/
def properties? (r : Reader) : Option (Properties × Reader) :=
  let start := r.start
  match r.tokens with
  | ⟨.anchor anchor, _⟩ :: ⟨.tag handle suffix, _⟩ :: tokens
  | ⟨.tag handle suffix, _⟩ :: ⟨.anchor anchor, _⟩ :: tokens => do
    let tag ← r.tag? handle suffix
    let (slot, r) := { r with tokens }.name anchor
    return (⟨start, some tag, some slot⟩, r)
  | ⟨.anchor anchor, _⟩ :: tokens =>
    let (slot, r) := { r with tokens }.name anchor
    some (⟨start, none, some slot⟩, r)
  | ⟨.tag handle suffix, _⟩ :: tokens => do
    let tag ← r.tag? handle suffix
    return (⟨start, some tag, none⟩, { r with tokens })
  | _ => some ({ start }, r)

end Reader

/-- Nothing stands in front of the node. -/
def Properties.isEmpty (p : Properties) : Bool := p.tag.isNone && p.slot.isNone

mutual

/-- Reads a node. Block collections have to be allowed where it stands; a sequence without
indentation of its own is, as the content of a key or value in a block. The number bounds the
steps. -/
def Reader.node (block bare : Bool) : Nat → Reader → Node × Reader
  | 0, r => (.broken, r.stop)
  | bound + 1, r =>
    match r.tokens with
    | ⟨.alias name, start⟩ :: tokens =>
      match r.slots.lookup name with
      | some slot => (.alias start slot, { r with tokens })
      | none => (.broken, r.stop)
    | _ =>
      match r.properties? with
      | none => (.broken, r.stop)
      | some (p, r) => Reader.content block bare p bound r

/-- Reads what follows the properties of a node. -/
def Reader.content (block bare : Bool) (p : Properties) : Nat → Reader → Node × Reader
  | 0, r => (.broken, r.stop)
  | bound + 1, r =>
    match r.tokens with
    | [] => (.broken, r)
    | ⟨.scalar plain text, _⟩ :: tokens => (.scalar p plain text, { r with tokens })
    | ⟨.flowSequenceStart, _⟩ :: tokens =>
      let (items, r) := Reader.flowItems true bound { r with tokens }
      (.sequence p items, r)
    | ⟨.flowMappingStart, _⟩ :: tokens =>
      let (entries, r) := Reader.flowEntries true bound { r with tokens }
      (.mapping p entries, r)
    | ⟨token, _⟩ :: tokens =>
      if bare && token = .blockEntry then
        let (items, r) := Reader.bareItems bound r
        (.sequence p items, r)
      else if block && token = .blockSequenceStart then
        let (items, r) := Reader.blockItems bound { r with tokens }
        (.sequence p items, r)
      else if block && token = .blockMappingStart then
        let (entries, r) := Reader.blockEntries bound { r with tokens }
        (.mapping p entries, r)
      else if p.isEmpty then (.broken, r.stop)
      else (.scalar p true "", r)

def Reader.blockItems : Nat → Reader → List Node × Reader
  | 0, r => ([.broken], r.stop)
  | bound + 1, r =>
    match r.tokens with
    | ⟨.blockEntry, _⟩ :: tokens =>
      let (item, r) :=
        Reader.readUnless [.blockEntry, .blockEnd] (Reader.node true false bound) { r with tokens }
      let (items, r) := Reader.blockItems bound r
      (item :: items, r)
    | ⟨.blockEnd, _⟩ :: tokens => ([], { r with tokens })
    | _ => ([.broken], r.stop)

/-- Reads the items of a sequence without indentation of its own, which ends with them. -/
def Reader.bareItems : Nat → Reader → List Node × Reader
  | 0, r => ([.broken], r.stop)
  | bound + 1, r =>
    match r.tokens with
    | ⟨.blockEntry, _⟩ :: tokens =>
      let (item, r) :=
        Reader.readUnless [.blockEntry, .key, .value, .blockEnd] (Reader.node true false bound)
          { r with tokens }
      let (items, r) := Reader.bareItems bound r
      (item :: items, r)
    | [] => ([.broken], r)
    | _ => ([], r)

def Reader.blockEntries : Nat → Reader → List (Node × Node) × Reader
  | 0, r => ([(.broken, .broken)], r.stop)
  | bound + 1, r =>
    match r.tokens with
    | ⟨.key, _⟩ :: tokens =>
      let ends : List Token := [.key, .value, .blockEnd]
      let (key, r) := Reader.readUnless ends (Reader.node true true bound) { r with tokens }
      let (content, r) := Reader.readValue ends (Reader.node true true bound) r
      let (entries, r) := Reader.blockEntries bound r
      ((key, content) :: entries, r)
    | ⟨.blockEnd, _⟩ :: tokens => ([], { r with tokens })
    | _ => ([(.broken, .broken)], r.stop)

/-- Reads the items of a sequence in brackets. An item may be a mapping with a single entry; a
mark that stands where the key of one should be is passed over. -/
def Reader.flowItems (first : Bool) : Nat → Reader → List Node × Reader
  | 0, r => ([.broken], r.stop)
  | bound + 1, r =>
    match r.tokens with
    | [] => ([.broken], r)
    | ⟨.flowSequenceEnd, _⟩ :: tokens => ([], { r with tokens })
    | _ =>
      let r := r.passComma first
      match r.tokens with
      | ⟨.flowSequenceEnd, _⟩ :: tokens => ([], { r with tokens })
      | ⟨.key, start⟩ :: tokens =>
        let r := { r with tokens }
        let (key, r) :=
          if r.sees [.value, .flowEntry, .flowSequenceEnd] then
            (Node.empty r.start, { r with tokens := r.tokens.drop 1 })
          else Reader.node false false bound r
        let (content, r) :=
          Reader.readValue [.flowEntry, .flowSequenceEnd] (Reader.node false false bound) r
        let pair : Node := .mapping { start } ((key, content) :: r.pairEnd)
        let (items, r) := Reader.flowItems false bound r
        (pair :: items, r)
      | _ =>
        let (item, r) := Reader.node false false bound r
        let (items, r) := Reader.flowItems false bound r
        (item :: items, r)

def Reader.flowEntries (first : Bool) : Nat → Reader → List (Node × Node) × Reader
  | 0, r => ([(.broken, .broken)], r.stop)
  | bound + 1, r =>
    match r.tokens with
    | [] => ([(.broken, .broken)], r)
    | ⟨.flowMappingEnd, _⟩ :: tokens => ([], { r with tokens })
    | _ =>
      let r := r.passComma first
      match r.tokens with
      | ⟨.flowMappingEnd, _⟩ :: tokens => ([], { r with tokens })
      | ⟨.key, _⟩ :: tokens =>
        let (key, r) :=
          Reader.readUnless [.value, .flowEntry, .flowMappingEnd] (Reader.node false false bound)
            { r with tokens }
        let (content, r) :=
          Reader.readValue [.flowEntry, .flowMappingEnd] (Reader.node false false bound) r
        let (entries, r) := Reader.flowEntries false bound r
        ((key, content) :: entries, r)
      | _ =>
        let (key, r) := Reader.node false false bound r
        let content : Node := if r.tokens.isEmpty then .broken else .empty r.start
        let (entries, r) := Reader.flowEntries false bound r
        ((key, content) :: entries, r)

end

/-- A document: its root, unless the text is blank, whether the text is sound, and the fault
that its tokens end with, if they do. -/
structure Document where
  root : Option Node
  sound : Bool
  fault : Option Fault := none

namespace Document

/-- Reads directives. Other versions than 1.1 and 1.2 are refused, and so are a second version
and a handle that is given twice. -/
def directives? (versionSeen : Bool) (handles : List (String × List UInt8)) :
    List PlacedToken → Option (List (String × List UInt8) × List PlacedToken)
  | ⟨.version major minor, _⟩ :: tokens =>
    if versionSeen || major ≠ 1 || (minor ≠ 1 && minor ≠ 2) then none
    else directives? true handles tokens
  | ⟨.tagHandle handle uri, _⟩ :: tokens =>
    if (handles.lookup handle).isSome then none
    else directives? versionSeen (handles ++ [(handle, uri)]) tokens
  | tokens => some (handles, tokens)

/-- A document whose beginning is marked begins with one of these. -/
def opensDocument : Token → Bool
  | .version _ _ | .tagHandle _ _ | .documentStart => true
  | _ => false

/-- After the mark of a document, the root is empty if one of these comes next. -/
def endsContent : Token → Bool
  | .version _ _ | .tagHandle _ _ | .documentStart | .documentEnd | .streamEnd => true
  | _ => false

/-- Reads the root, with what stands in front of it. -/
def readRoot (tokens : List PlacedToken) : Node × Reader :=
  let bound := 3 * tokens.length + 3
  if tokens.head?.any (opensDocument ·.token) then
    match directives? false [] tokens with
    | some (handles, ⟨.documentStart, _⟩ :: tokens) =>
      if tokens.head?.any (endsContent ·.token) then
        let r : Reader := { tokens }
        (.empty r.start, r)
      else Reader.node true false bound { tokens, handles }
    | _ => (.broken, { tokens := [] })
  else Reader.node true false bound { tokens }

/-- The text ends after the root, apart from marks of the document's end. -/
def atEnd : List PlacedToken → Bool
  | ⟨.documentEnd, _⟩ :: tokens => atEnd tokens
  | ⟨.streamEnd, _⟩ :: _ => true
  | _ => false

def ofTokens (tokens : List PlacedToken) : Document :=
  if tokens.head?.any (·.token = .streamEnd) then { root := none, sound := true }
  else
    let (root, r) := readRoot tokens
    { root := some root, sound := atEnd r.tokens }

def ofText (text : String) : Document :=
  let (tokens, fault) := tokensOf text.toList
  { ofTokens tokens with fault }

end Document
end Keychord.Yaml
