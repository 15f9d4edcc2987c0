import PageRules.Json.Basic

/-! Decoding of JSON values into structures with named fields. -/

namespace PageRules.Json

/-- The values under some names. An object has other members passed over and no name twice; an
array lists the values in the order of the names and may end early. -/
def fields? (names : List Text) : Json → Option (List (Option Json))
  | .obj members =>
    names.mapM fun name =>
      match members.filter (·.1 == name) with
      | [] => some none
      | [(_, v)] => some (some v)
      | _ => none
  | .arr vs =>
    if vs.length ≤ names.length then
      some (vs.map some ++ List.replicate (names.length - vs.length) none)
    else none
  | _ => none

/-- A field that may be left out. -/
def orDefault {α : Type} (default : α) (decode : Json → Option α) : Option Json → Option α
  | some v => decode v
  | none => some default

def text? : Json → Option Text
  | .str t => some t
  | _ => none

/-- A text, or none for null. -/
def optionalText? : Json → Option (Option Text)
  | .str t => some (some t)
  | .null => some none
  | _ => none

/-- A natural number of 64 bits. -/
def word? : Json → Option Nat
  | .int (.ofNat n) => if n < 0x10000000000000000 then some n else none
  | _ => none

def ofOption {α : Type} (json : α → Json) : Option α → Json
  | some a => json a
  | none => .null

end PageRules.Json
