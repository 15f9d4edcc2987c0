import PageRules.Record.Tagged
import PageRules.Rule.Basic

/-! Records: what is extracted from one element of a section. -/

namespace PageRules

/-- The value of one element, or the values of several. -/
inductive Extracted where
  | one (t : Text)
  | many (ts : List Text)
  deriving DecidableEq

namespace Extracted

def text? : Extracted → Option Text
  | .one t => some t
  | .many _ => none

def toJson : Extracted → Json
  | .one t => .str t
  | .many ts => .arr (ts.map .str)

end Extracted

abbrev FieldValues := List (Field × Tagged Extracted)

namespace FieldValues

def get? (fields : FieldValues) (f : Field) : Option (Tagged Extracted) := fields.lookup f

/-- The single value of a field, without its metadata. -/
def text? (fields : FieldValues) (f : Field) : Option Text := do
  (← (← get? fields f).value).text?

def toMembers (fields : FieldValues) : List (Text × Json) :=
  fields.map fun (f, t) => (f.name, t.toJson Extracted.toJson)

end FieldValues

/-- What is extracted from one element that an item template selects. -/
structure Item where
  fields : FieldValues
  deriving DecidableEq

def Item.toJson (i : Item) : Json := .obj (FieldValues.toMembers i.fields)

structure Record where
  /-- The name of the rule. -/
  ruleName : Text
  metadata : List (Text × OptionValue)
  fields : FieldValues
  items : Option (Tagged (List Item))
  deriving DecidableEq

namespace Record

/-- A key of a record that no section option can take. -/
def isReservedKey (key : Text) : Bool :=
  key == "type".toList || key == "items".toList || (Field.ofName? key).isSome

def itemList (r : Record) : List Item := (r.items.bind Tagged.value).getD []

/-- The name first, then the section's metadata, the fields and the items. -/
def toJson (r : Record) : Json :=
  .obj (("type".toList, .str r.ruleName) :: r.metadata.map (fun (k, o) => (k, o.toJson)) ++
    FieldValues.toMembers r.fields ++
    (match r.items with
      | some t => [("items".toList, t.toJson fun items => .arr (items.map Item.toJson))]
      | none => []))

end Record
end PageRules
