import SpatialAccess.Markup.Attribute
import SpatialAccess.Network.Basic
import Std.Data.HashSet

/-!
# Network documents

A network document has a `node` element for every node and a `link` element for every link; a link
comes behind the nodes that it joins. Elements of other names are passed over, and so is the nesting
of elements.

* `NetworkReader`: the network so far. `NetworkReader.startTag`: reading a start tag.
* `Network.ofDocument`, `Network.ofFile`: the network of the bytes of a document, of a file that may
  be missing.
-/

namespace SpatialAccess

/-- The elements that matter. -/
inductive NetworkElement where
  | node
  | link
  deriving DecidableEq, Repr

namespace NetworkElement

/-- Name of an element. -/
def name : NetworkElement → String
  | node => "node"
  | link => "link"

/-- The element of a tag name. -/
def ofName? (bytes : Markup.Bytes) : Option NetworkElement :=
  [node, link].find? fun e => Markup.ascii e.name == bytes

end NetworkElement

/-- What has been read of a network document. -/
structure NetworkReader (α : Type) where
  builder : NetworkBuilder α := {}
  linkLabels : Std.HashSet String := {}

namespace NetworkReader

variable {α : Type}

/-- What is under each key of a tag. -/
abbrev Findings := String → Markup.Finding

/-- The text under a key that has to be there. -/
def require (element : NetworkElement) (findings : Findings) (key : String) :
    Except (NetworkError α) String :=
  match findings key with
  | .value text => .ok text
  | .missing => .error (.missingAttribute element.name key)
  | .malformed => .error .badAttribute

/-- The node that a link refers to under a key. -/
def requireNode (r : NetworkReader α) (findings : Findings) (link key : String) :
    Except (NetworkError α) NodeId := do
  let label ← require .link findings key
  match r.builder.lookupNode? label with
  | some id => return id
  | none => .error (.unknownNode link label)

variable [Number α]

/-- The number under a key that has to be there. -/
def requireNumber (element : NetworkElement) (findings : Findings) (key : String) :
    Except (NetworkError α) α := do
  let raw ← require element findings key
  match Number.read? (Text.trim raw) with
  | some x => return x
  | none => .error (.notANumber key raw)

/-- Adds the node of a start tag. -/
def addNode (r : NetworkReader α) (findings : Findings) :
    Except (NetworkError α) (NetworkReader α) := do
  let label ← require .node findings "id"
  if (r.builder.lookupNode? label).isSome then
    .error (.duplicate "node" label)
  let x ← requireNumber .node findings "x"
  let y ← requireNumber .node findings "y"
  return { r with builder := (r.builder.addNode label ⟨x, y⟩).2 }

/-- Adds the link of a start tag. -/
def addLink (r : NetworkReader α) (findings : Findings) :
    Except (NetworkError α) (NetworkReader α) := do
  let label ← require .link findings "id"
  if r.linkLabels.contains label then
    .error (.duplicate "link" label)
  let source ← r.requireNode findings label "from"
  let target ← r.requireNode findings label "to"
  let length ← requireNumber .link findings "length"
  let speed ← requireNumber .link findings "freespeed"
  if speed ≤ ((0 : Nat) : α) then
    .error (.nonPositiveSpeed label speed)
  return {
    builder := (r.builder.addLink { label, source, target, length, speed }).2
    linkLabels := r.linkLabels.insert label }

/-- Reads a start tag. -/
def startTag (r : NetworkReader α) (element : NetworkElement) (findings : Findings) :
    Except (NetworkError α) (NetworkReader α) :=
  match element with
  | .node => r.addNode findings
  | .link => r.addLink findings

/-- Reads one tag of a document. -/
def readToken (r : NetworkReader α) : Markup.Token → Except (NetworkError α) (NetworkReader α)
  | .start name attributes | .empty name attributes =>
    match NetworkElement.ofName? name with
    | some element => r.startTag element (Markup.find attributes)
    | none => .ok r
  | .finish _ => .ok r

end NetworkReader

namespace Network

variable {α : Type} [Number α]

/-- The network of a document. -/
def ofDocument (bytes : Markup.Bytes) : Except (NetworkError α) (Network α) := do
  let (tokens, ending) := Markup.tokens bytes
  let reader ← tokens.foldlM NetworkReader.readToken {}
  match ending with
  | .complete => return reader.builder.build
  | .malformed => .error .badMarkup

/-- The network in a file; `none` stands for a file that is not there. -/
def ofFile (file : Option Markup.Bytes) : Except (NetworkError α) (Network α) :=
  match file with
  | some bytes => ofDocument bytes
  | none => .error .unreadable

end Network

end SpatialAccess
