import PageRules.Text.Basic

/-! JSON values and their compact text. Members of an object keep their order, and a number that
is not a machine integer keeps its spelling. -/

namespace PageRules

inductive Json where
  | null
  | bool (b : Bool)
  | int (n : Int)
  | real (spelling : Text)
  | str (t : Text)
  | arr (elements : List Json)
  | obj (members : List (Text × Json))
  /-- A string with half a surrogate pair, or an object with such a key: well formed, but it
  denotes no text. -/
  | unreadable

namespace Json

def hexDigit (n : Nat) : Char := (Nat.digitChar n)

/-- A character inside a string: quotes, backslashes and controls are escaped, all else is raw. -/
def escape (c : Char) : Text :=
  match c with
  | '"' => ['\\', '"']
  | '\\' => ['\\', '\\']
  | '\x08' => ['\\', 'b']
  | '\x0c' => ['\\', 'f']
  | '\n' => ['\\', 'n']
  | '\r' => ['\\', 'r']
  | '\t' => ['\\', 't']
  | c =>
    if c.toNat < 0x20 then
      ['\\', 'u', '0', '0', hexDigit (c.toNat / 16), hexDigit (c.toNat % 16)]
    else [c]

def quoted (t : Text) : Text := '"' :: t.flatMap escape ++ ['"']

mutual

def render : Json → Text
  | .null => "null".toList
  | .bool true => "true".toList
  | .bool false => "false".toList
  | .int n => Text.ofInt n
  | .real spelling => spelling
  | .str t => quoted t
  | .arr [] => "[]".toList
  | .arr (v :: vs) => '[' :: render v ++ renderElements vs
  | .obj [] => ['{', '}']
  | .obj ((k, v) :: ms) => '{' :: quoted k ++ ':' :: render v ++ renderMembers ms
  | .unreadable => "null".toList

/-- The elements after the first and the closing bracket. -/
def renderElements : List Json → Text
  | [] => [']']
  | v :: vs => ',' :: render v ++ renderElements vs

/-- The members after the first and the closing brace. -/
def renderMembers : List (Text × Json) → Text
  | [] => ['}']
  | (k, v) :: ms => ',' :: quoted k ++ ':' :: render v ++ renderMembers ms

end

/-- The first member of a name. -/
def member? (name : Text) : Json → Option Json
  | .obj members => members.lookup name
  | _ => none

end Json
end PageRules
