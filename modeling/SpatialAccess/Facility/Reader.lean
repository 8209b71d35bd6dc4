import SpatialAccess.Facility.Document
import SpatialAccess.Markup.Attribute

/-!
# Reading facilities documents

* `Facilities.ofDocument`: the facilities of the bytes of a document.
* `Facilities.ofFile`: the same for a file that may be missing.

The name and all attributes of a start tag are decoded before the tag is read. An empty element is
its start tag and its end tag.
-/

namespace SpatialAccess

namespace FacilitiesReader

variable {α : Type}

/-- The text of a tag name or an attribute key. -/
def tagText (bytes : Markup.Bytes) : Except (ScenarioError α) String :=
  (Text.Utf8.decode bytes).mapError .badTagText

/-- Key and text of one attribute. -/
def attributeText (a : Markup.Attribute) : Except (ScenarioError α) (String × String) := do
  let key ← tagText a.key
  match Markup.unescape a.value with
  | some value => return (key, value)
  | none => .error .badAttribute

/-- All attributes of a tag as texts. -/
def attributeTexts (bytes : Markup.Bytes) : Except (ScenarioError α) TagAttributes := do
  let (attributes, ending) := Markup.attributes bytes
  let texts ← attributes.mapM attributeText
  match ending with
  | .complete => return texts
  | .malformed => .error .badAttribute

variable [Number α]

/-- Reads one tag of a document. -/
def readToken : Markup.Token → ReadStep α Unit
  | .start name attributes => do
    let name ← ofExcept (tagText name)
    let attributes ← ofExcept (attributeTexts attributes)
    startTag name attributes
  | .empty name attributes => do
    let name ← ofExcept (tagText name)
    let attributes ← ofExcept (attributeTexts attributes)
    startTag name attributes
    endTag name
  | .finish name => do
    let name ← ofExcept (tagText name)
    endTag name

end FacilitiesReader

namespace Facilities

variable {α : Type} [Number α]

/-- The facilities of a document. -/
def ofDocument (bytes : Markup.Bytes) : Except (ScenarioError α) (Facilities α) :=
  let (tokens, ending) := Markup.tokens bytes
  let reading : ReadStep α Unit := tokens.forM FacilitiesReader.readToken
  match reading.run.run {}, ending with
  | (.error e, _), _ => .error e
  | (.ok (), _), .malformed => .error .badMarkup
  | (.ok (), reader), .complete => reader.finish

/-- The facilities in a file; `none` stands for a file that is not there. -/
def ofFile (file : Option Markup.Bytes) : Except (ScenarioError α) (Facilities α) :=
  match file with
  | some bytes => ofDocument bytes
  | none => .error .unreadable

end Facilities

end SpatialAccess
