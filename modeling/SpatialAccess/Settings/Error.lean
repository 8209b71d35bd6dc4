import SpatialAccess.Clock
import SpatialAccess.Decimal.Shortest
import SpatialAccess.Facility.Day

/-!
# Unusable settings

* `ConfigError`: why settings cannot be used; found before anything is computed.
* `ConfigError.message`: the words for it.
-/

namespace SpatialAccess

/-- Why settings cannot be used. -/
inductive ConfigError (α : Type) where
  /-- The document is no table of tables. -/
  | malformed
  /-- The document cannot be read at all. -/
  | unreadable
  /-- A value is neither a scalar nor a list of scalars. -/
  | notScalar (key group : String)
  | undefinedGroup (group : String)
  | undefinedKey (key group : String)
  | invalidValue (key group raw : String)
  | unknownMode (name : String)
  | unknownPartition (text : String)
  | noZones
  | tooManyZones (limit count : Nat)
  | zonesNotWhole (group : String) (value : α)
  | zonesTooMany (group : String) (limit : Nat) (value : α)
  | notPositive (key : String) (value : α)
  | badRate (value : α)
  | missingShopNumber
  | boxNumber (raw : String) (isEmpty : Bool)
  | boxShape (raw : String)
  | noModes
  | badTime (key : String) (cause : Clock.Error)
  | badDay (raw : String)
  | typicalNotPositive (key raw : String)
  deriving DecidableEq

namespace ConfigError

open Text (quote)
open Decimal (display)

/-- What is wrong, without the heading that all messages share. -/
def detail : ConfigError Float → String
  | malformed => "invalid TOML"
  | unreadable => "I/O error"
  | notScalar key group =>
    s!"param {quote key} in group {quote group} must be a scalar or a list of scalars"
  | undefinedGroup group => s!"config group {quote group} is not defined"
  | undefinedKey key group => s!"param {quote key} in group {quote group} is not defined"
  | invalidValue key group raw =>
    s!"param {quote key} in group {quote group} has invalid value {quote raw}"
  | unknownMode name => s!"unknown mode {quote name}"
  | unknownPartition text =>
    s!"partition mode {quote text} is not supported; use \"symmetric\""
  | noZones => "number of zones per axis must be at least 1"
  | tooManyZones limit count =>
    s!"number of zones per axis must be at most {limit}, got {count}"
  | zonesNotWhole group value =>
    s!"param \"zones\" in group {quote group} must be a positive integer, got {display value}"
  | zonesTooMany group limit value =>
    s!"param \"zones\" in group {quote group} must be at most {limit}, got {display value}"
  | notPositive key value => s!"{key} must be positive, got {display value}"
  | badRate value => s!"samplingRatePersons must be in (0, 1], got {display value}"
  | missingShopNumber => "samplingTypeShops = random requires samplingNumberShops"
  | boxNumber raw isEmpty =>
    let cause := if isEmpty then "cannot parse float from empty string" else "invalid float literal"
    s!"boundingBox {quote raw}: {cause}"
  | boxShape raw => s!"boundingBox must be min_x,min_y,max_x,max_y, got {quote raw}"
  | noModes => "no accessibility modes enabled"
  | badTime key cause => s!"{key}: {cause.message}"
  | badDay raw => DayType.unknownMessage raw
  | typicalNotPositive key raw => s!"{key} must be positive, got {quote raw}"

/-- Words for unusable settings. -/
def message : ConfigError Float → String
  | unreadable => "I/O error"
  | e => "configuration error: " ++ e.detail

end ConfigError

end SpatialAccess
