import SpatialAccess.Decimal.Shortest
import SpatialAccess.Id
import SpatialAccess.Mode
import SpatialAccess.Settings.Error

/-!
# Unusable networks

* `NetworkError`: why a network cannot be read, or cannot answer a question.
* `NetworkError.message`: the words for it.
-/

namespace SpatialAccess

/-- Why a network cannot be read or used. -/
inductive NetworkError (α : Type) where
  | nodeNotFound (node : NodeId)
  | emptyNetwork
  | notRouted (mode : Mode)
  | timesLength (links times : Nat)
  | unknownNode (link node : String)
  | nonPositiveSpeed (link : String) (speed : α)
  | missingAttribute (tag key : String)
  | notANumber (key raw : String)
  /-- An attribute is malformed. -/
  | badAttribute
  | duplicate (kind label : String)
  /-- The tags of the document are malformed. -/
  | badMarkup
  /-- The file cannot be read at all. -/
  | unreadable
  | config (cause : ConfigError α)
  deriving DecidableEq

open Text (quote) in
/-- Words for a network that cannot be read or used. -/
def NetworkError.message : NetworkError Float → String
  | nodeNotFound node => s!"node {node.text} not found in network"
  | emptyNetwork => "network has no nodes"
  | notRouted mode => s!"mode {mode.name} is not routed on the network"
  | timesLength links times =>
    s!"network parse error: expected {links} congested travel times, got {times}"
  | unknownNode link node =>
    s!"network parse error: link {quote link} references unknown node {quote node}"
  | nonPositiveSpeed link speed =>
    s!"network parse error: link {quote link} has non-positive freespeed {Decimal.display speed}"
  | missingAttribute tag key => s!"network parse error: <{tag}> is missing attribute {quote key}"
  | notANumber key raw =>
    s!"network parse error: attribute {quote key} is not a number: {quote raw}"
  | badAttribute => "network parse error: malformed attribute"
  | duplicate kind label => s!"duplicate {kind} id {quote label}"
  | badMarkup => "XML error"
  | unreadable => "I/O error"
  | config cause => cause.message

end SpatialAccess
