import PageRules.Text.Case
import PageRules.Url.Read

/-! Transforms of extracted values. -/

namespace PageRules

inductive Transform where
  | trim
  | upper
  | lower
  /-- Resolves a relative reference against the base. -/
  | urlJoin
  deriving DecidableEq

/-- A name that no transform has, in lower case. -/
structure UnknownTransform where
  name : Text
  deriving DecidableEq

def UnknownTransform.message (e : UnknownTransform) : Text :=
  "unknown transform '".toList ++ e.name ++ ['\'']

namespace Transform

def names : List (Text × Transform) :=
  [("trim".toList, .trim), ("upper".toList, .upper), ("uppercase".toList, .upper),
    ("lower".toList, .lower), ("lowercase".toList, .lower), ("url-join".toList, .urlJoin),
    ("urljoin".toList, .urlJoin)]

/-- The transform of a name, in any letter case. -/
def ofName (name : Text) : Except UnknownTransform Transform :=
  let name := Text.lower (Text.trim name)
  match names.lookup name with
  | some t => .ok t
  | none => .error ⟨name⟩

/-- Resolves a value against a base. Values that are empty or absolute, or that cannot be resolved,
stay as they are. -/
def urlJoined (base : Option Url) (value : Text) : Text :=
  match base with
  | none => value
  | some base =>
    if value = [] then value
    else match Url.read value with
      | .ok _ => value
      | .error _ =>
        match base.join value with
        | .ok joined => joined.render
        | .error _ => value

def apply (base : Option Url) : Transform → Text → Text
  | .trim, value => Text.trim value
  | .upper, value => Text.toUpper value
  | .lower, value => Text.toLower value
  | .urlJoin, value => urlJoined base value

/-- Applies transforms from left to right; unknown names are passed over. -/
def applyAll (base : Option Url) (names : List Text) (value : Text) : Text :=
  names.foldl (fun value name =>
    match ofName name with
    | .ok t => t.apply base value
    | .error _ => value) value

@[simp] theorem applyAll_nil (base : Option Url) (value : Text) : applyAll base [] value = value :=
  rfl

theorem applyAll_append (base : Option Url) (names more : List Text) (value : Text) :
    applyAll base (names ++ more) value = applyAll base more (applyAll base names value) :=
  List.foldl_append

end Transform
end PageRules
