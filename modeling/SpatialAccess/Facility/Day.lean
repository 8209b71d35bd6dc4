import SpatialAccess.Text.Blank
import SpatialAccess.Text.Quoted

/-!
# Days and groups of days

* `DayType`: a day of the week, or a group of them that opening times are given for.
* `DayType.read?`: the day of a name.
* `DayType.covers`: whether times given for one are in effect on the other.
-/

namespace SpatialAccess

/-- A day of the week, or a group of days. -/
inductive DayType where
  | mon
  | tue
  | wed
  | thu
  | fri
  | sat
  | sun
  /-- Monday to Friday. -/
  | wkday
  /-- Saturday and Sunday. -/
  | wkend
  /-- Every day. -/
  | wk
  deriving DecidableEq, Repr

namespace DayType

/-- All of them, single days first. -/
def all : List DayType := [mon, tue, wed, thu, fri, sat, sun, wkday, wkend, wk]

/-- Name in documents. -/
def name : DayType → String
  | mon => "mon"
  | tue => "tue"
  | wed => "wed"
  | thu => "thu"
  | fri => "fri"
  | sat => "sat"
  | sun => "sun"
  | wkday => "wkday"
  | wkend => "wkend"
  | wk => "wk"

/-- The day of a name; blanks around it and the case of ASCII letters do not matter. -/
def read? (s : String) : Option DayType :=
  let key := Text.lower (Text.trim s)
  all.find? fun d => d.name == key

/-- Words for a text that is no day. -/
def unknownMessage (s : String) : String :=
  s!"scenario parse error: cannot detect day type for {Text.quote (Text.trim s)}"

/-- Whether times given for `given` are in effect on `day`. -/
def covers (given day : DayType) : Bool :=
  given == day ||
    match given with
    | wk => true
    | wkday => [mon, tue, wed, thu, fri].contains day
    | wkend => [sat, sun].contains day
    | _ => false

/-- Every day is in the list. -/
theorem mem_all (d : DayType) : d ∈ all := by
  cases d <;> simp [all]

end DayType

end SpatialAccess
