import PageRules.Json.Basic
import PageRules.Rule.OptionSet

/-! Values with metadata. The slot of the value is written once, and metadata never reaches it. -/

namespace PageRules

/-- A write to a value that is already there. -/
structure ValueOverwrite where
  deriving DecidableEq

def ValueOverwrite.message (_ : ValueOverwrite) : Text :=
  "'value' key is read-only and cannot be overwritten".toList

def OptionValue.toJson : OptionValue → Json
  | .text t => .str t
  | .integer n => .int n
  | .flag b => .bool b
  | .list items => .arr (items.map .str)

structure Tagged (α : Type) where
  value : Option α
  metadata : OptionSet := .empty
  deriving DecidableEq

namespace Tagged

variable {α : Type}

/-- A value without metadata. -/
def bare (value : α) : Tagged α := { value := some value }

def isBare (t : Tagged α) : Bool := t.metadata.isEmpty

/-- Fills an empty slot. -/
def setValue (t : Tagged α) (value : α) : Except ValueOverwrite (Tagged α) :=
  match t.value with
  | some _ => .error {}
  | none => .ok { t with value := some value }

/-- Adds metadata; an entry that is there already stays as it is. -/
def insert (t : Tagged α) (key : Text) (option : OptionValue) : Except ValueOverwrite (Tagged α) :=
  if key = OptionKey.value then .error {}
  else .ok { t with metadata := t.metadata.insert key option }

/-- Adds entries one after another. -/
def insertAll (t : Tagged α) (entries : List (Text × OptionValue)) :
    Except ValueOverwrite (Tagged α) :=
  entries.foldlM (fun t (key, option) => t.insert key option) t

/-- A value with every option that is copied into the output. -/
def withPassthrough (value : α) (options : OptionSet) : Except ValueOverwrite (Tagged α) :=
  (bare value).insertAll options.passthrough.entries

/-- The value alone where there is no metadata, else an object with the value first. -/
def toJson (json : α → Json) (t : Tagged α) : Json :=
  let value := match t.value with
    | some v => json v
    | none => .null
  if t.isBare then value
  else .obj ((OptionKey.value, value) :: t.metadata.entries.map fun (k, o) => (k, o.toJson))

end Tagged
end PageRules
