import SpatialAccess.Clock
import SpatialAccess.Facility.Basic
import SpatialAccess.Text.Utf8

/-!
# Facilities documents as tags

A facilities document nests `facilities`, `facility` and `activity` elements; an activity holds
`capacity` and `opentime` elements. Elements of other names are passed over wherever they stand.

* `DocumentState.next?`: which tag may come in which state.
* `FacilitiesReader`: the state and the facilities so far.
* `FacilitiesReader.startTag`, `FacilitiesReader.endTag`, `FacilitiesReader.finish`: reading on.
-/

namespace SpatialAccess

/-- Where in the nesting of elements a reader is. -/
inductive DocumentState where
  | outside
  | inFacilities
  | inFacility
  | inActivity
  deriving DecidableEq, Repr

/-- The elements that matter. -/
inductive Element where
  | facilities
  | facility
  | activity
  | capacity
  | opentime
  | other
  deriving DecidableEq, Repr

/-- A start or an end tag without its attributes. -/
inductive TagEvent where
  | start (element : Element)
  | finish (element : Element)
  deriving DecidableEq, Repr

/-- All states. -/
def DocumentState.all : List DocumentState := [outside, inFacilities, inFacility, inActivity]

/-- Name of a state in messages. -/
def DocumentState.name : DocumentState → String
  | outside => "None"
  | inFacilities => "InFacilities"
  | inFacility => "InFacility"
  | inActivity => "InActivity"

/-- The element of a tag name. -/
def Element.ofName : String → Element
  | "facilities" => facilities
  | "facility" => facility
  | "activity" => activity
  | "capacity" => capacity
  | "opentime" => opentime
  | _ => other

/-- Name of an element in messages. -/
def Element.label : Element → String
  | facilities => "Facilities"
  | facility => "Facility"
  | activity => "Activity"
  | capacity => "Capacity"
  | opentime => "Opentime"
  | other => "Other"

/-- Name of a tag in messages. -/
def TagEvent.label : TagEvent → String
  | start element => s!"Start({element.label})"
  | finish element => s!"End({element.label})"

/-- The state behind a tag; none if the tag may not stand here. -/
def DocumentState.next? : DocumentState → TagEvent → Option DocumentState
  | s, .start .other => some s
  | s, .finish .other => some s
  | outside, .start .facilities => some inFacilities
  | inFacilities, .start .facility => some inFacility
  | inFacility, .start .activity => some inActivity
  | inActivity, .start .capacity => some inActivity
  | inActivity, .start .opentime => some inActivity
  | inActivity, .finish .capacity => some inActivity
  | inActivity, .finish .opentime => some inActivity
  | inActivity, .finish .activity => some inFacility
  | inFacility, .finish .facility => some inFacilities
  | inFacilities, .finish .facilities => some outside
  | _, _ => none

/-- Why a scenario document cannot be read. -/
inductive ScenarioError (α : Type) where
  | unexpectedTag (event : TagEvent) (name : String) (state : DocumentState)
  | missingAttribute (tag key : String)
  | notANumber (tag key raw : String)
  | unknownDay (text : String)
  | noOpenFacility
  | noOpenActivity
  | lostActivity (activityType : String)
  | unexpectedEnd (state : DocumentState)
  | noLocation (activityType person : String)
  /-- A tag name or an attribute key is no text. -/
  | badTagText (cause : Text.Utf8.Malformed)
  /-- An attribute is malformed. -/
  | badAttribute
  | create (cause : CreateError)
  | time (cause : Clock.Error)
  | data (cause : DataError α)
  /-- The tags of the document are malformed. -/
  | badMarkup
  /-- The records of the table are malformed. -/
  | badRecord
  /-- The file cannot be read at all. -/
  | unreadable
  deriving DecidableEq

open Text (quote) in
/-- Words for a scenario document that cannot be read. -/
def ScenarioError.message : ScenarioError Float → String
  | unexpectedTag event name state =>
    s!"scenario parse error: unexpected {event.label} (<{name}>) in state {state.name}"
  | missingAttribute tag key => s!"scenario parse error: <{tag}> is missing attribute {quote key}"
  | notANumber tag key raw =>
    s!"scenario parse error: <{tag}> attribute {quote key} is not a number: {quote raw}"
  | unknownDay text => DayType.unknownMessage text
  | noOpenFacility => "scenario parse error: no open <facility>"
  | noOpenActivity => "scenario parse error: no open <activity>"
  | lostActivity activityType => s!"scenario parse error: activity {quote activityType} vanished"
  | unexpectedEnd state =>
    s!"scenario parse error: unexpected end of document in state {state.name}"
  | noLocation activityType person =>
    s!"scenario parse error: activity {quote activityType} of person {quote person} has neither " ++
      "coordinates nor a facility"
  | badTagText cause => s!"scenario parse error: invalid UTF-8 in tag: {cause.message}"
  | badAttribute => "scenario parse error: malformed attribute"
  | create cause => cause.message
  | time cause => cause.message
  | data cause => cause.message
  | badMarkup => "XML error"
  | badRecord => "CSV error"
  | unreadable => "I/O error"

/-- Keys and values of a start tag, in order. -/
abbrev TagAttributes := List (String × String)

namespace TagAttributes

variable {α : Type}

/-- The value of a key that has to be there. -/
def require (attributes : TagAttributes) (tag key : String) : Except (ScenarioError α) String :=
  match attributes.lookup key with
  | some raw => .ok raw
  | none => .error (.missingAttribute tag key)

/-- The number under a key that has to be there. -/
def requireNumber [Number α] (attributes : TagAttributes) (tag key : String) :
    Except (ScenarioError α) α := do
  let raw ← attributes.require tag key
  match Number.read? (Text.trim raw) with
  | some x => return x
  | none => .error (.notANumber tag key raw)

/-- The time under a key that has to be there. -/
def requireTime [Number α] (attributes : TagAttributes) (tag key : String) :
    Except (ScenarioError α) α := do
  (Clock.read (← attributes.require tag key)).mapError .time

/-- The day under a key that has to be there. -/
def requireDay (attributes : TagAttributes) (tag key : String) :
    Except (ScenarioError α) DayType := do
  let raw ← attributes.require tag key
  match DayType.read? raw with
  | some day => return day
  | none => .error (.unknownDay raw)

end TagAttributes

/-- What has been read of a facilities document. -/
structure FacilitiesReader (α : Type) where
  state : DocumentState := .outside
  facilities : Facilities α := {}
  facility? : Option FacilityId := none
  activity? : Option String := none

/-- A step of reading: it may fail, and keeps what it has done up to then. -/
abbrev ReadStep (α : Type) := ExceptT (ScenarioError α) (StateM (FacilitiesReader α))

namespace FacilitiesReader

variable {α : Type}

/-- The state behind a tag. -/
def advance (event : TagEvent) (name : String) : ReadStep α DocumentState := do
  let r ← get
  match r.state.next? event with
  | some next => return next
  | none => throw (.unexpectedTag event name r.state)

/-- Changes the facility that is open. -/
def changeFacility (change : Facility α → Facility α) : ReadStep α Unit := do
  let r ← get
  match r.facility?.filter fun id => (r.facilities.get? id).isSome with
  | some id => set { r with facilities := r.facilities.modify id change }
  | none => throw .noOpenFacility

/-- Changes the activity option that is open. -/
def changeOption (change : ActivityOption α → ActivityOption α) : ReadStep α Unit := do
  let r ← get
  match r.activity? with
  | none => throw .noOpenActivity
  | some activityType =>
    match r.facility?.bind r.facilities.get? with
    | none => throw .noOpenFacility
    | some facility =>
      if facility.offers activityType then
        changeFacility fun f => f.modifyOption activityType change
      else throw (.lostActivity activityType)

section Tags

variable [Number α]

/-- What the start tag of an element adds. -/
def startElement (name : String) (attributes : TagAttributes) : Element → ReadStep α Unit
  | .facilities =>
    modify fun r => { r with facilities := { r.facilities with name := attributes.lookup "name" } }
  | .facility => do
    let label ← ofExcept (attributes.require name "id")
    let x ← ofExcept (attributes.requireNumber name "x")
    let y ← ofExcept (attributes.requireNumber name "y")
    let r ← get
    let (id, facilities) ← ofExcept ((r.facilities.create label ⟨x, y⟩).mapError .create)
    let facilities := facilities.modify id fun f => { f with desc := attributes.lookup "desc" }
    set { r with facilities, facility? := some id }
  | .activity => do
    let activityType ← ofExcept (attributes.require name "type")
    changeFacility fun f => f.createOption activityType
    modify fun r => { r with activity? := some activityType }
  | .capacity => do
    let value ← ofExcept (attributes.requireNumber name "value")
    changeOption fun o => { o with capacity := some value }
  | .opentime => do
    let day ← ofExcept (attributes.requireDay name "day")
    let opens ← ofExcept (attributes.requireTime name "start_time")
    let closes ← ofExcept (attributes.requireTime name "end_time")
    changeOption fun o => o.addOpeningTime ⟨day, opens, closes⟩
  | .other => return

/-- Reads a start tag. -/
def startTag (name : String) (attributes : TagAttributes) : ReadStep α Unit := do
  let element := Element.ofName name
  let next ← advance (.start element) name
  startElement name attributes element
  modify fun r => { r with state := next }

end Tags

/-- What the end tag of an element closes. -/
def endElement : Element → ReadStep α Unit
  | .facility => modify fun r => { r with facility? := none }
  | .activity => modify fun r => { r with activity? := none }
  | _ => return

/-- Reads an end tag. -/
def endTag (name : String) : ReadStep α Unit := do
  let element := Element.ofName name
  let next ← advance (.finish element) name
  endElement element
  modify fun r => { r with state := next }

/-- The facilities of a document that is over; no element may be open. -/
def finish (r : FacilitiesReader α) : Except (ScenarioError α) (Facilities α) :=
  if r.state = .outside then .ok r.facilities else .error (.unexpectedEnd r.state)

end FacilitiesReader

end SpatialAccess
