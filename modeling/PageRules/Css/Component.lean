import PageRules.Css.Token

/-! Component values: tokens, and blocks with what stands inside them. -/

namespace PageRules.Css

/-- What opens a block. -/
inductive Opening where
  | bracket (c : Char)
  | function (name : Text)
  deriving DecidableEq

inductive Component where
  | token (t : Token)
  | block (opening : Opening) (inside : List Component)

def Opening.close : Opening → Char
  | .function _ => ')'
  | .bracket c => if c == '[' then ']' else if c == '(' then ')' else '\x7d'

/-- The tokens as component values. `outer` are the blocks still open with the values in front of
them, and `here` the values of the innermost block, last first. The end of the text closes every
block. -/
def nest (outer : List (Opening × List Component)) (here : List Component) :
    List Token → List Component
  | [] => (outer.foldl (fun inside (o, before) => .block o inside.reverse :: before) here).reverse
  | .function name :: rest => nest ((.function name, here) :: outer) [] rest
  | .opening c :: rest => nest ((.bracket c, here) :: outer) [] rest
  | .closing c :: rest =>
    match outer with
    | (o, before) :: more =>
      if o.close == c then nest more (.block o here.reverse :: before) rest
      else nest outer (.token (.closing c) :: here) rest
    | [] => nest [] (.token (.closing c) :: here) rest
  | t :: rest => nest outer (.token t :: here) rest

def components (t : Text) : List Component := nest [] [] (tokens t)

namespace Component

mutual

/-- A token that is an error wherever it stands, or a block with one inside. A closing bracket that
closes nothing is such a token. -/
def isBad : Component → Bool
  | .token .bad => true
  | .token (.closing _) => true
  | .token _ => false
  | .block _ inside => anyBad inside

def anyBad : List Component → Bool
  | [] => false
  | c :: cs => isBad c || anyBad cs

end

/-- Drops the white space at the front. -/
def skip : List Component → List Component
  | .token .white :: rest => skip rest
  | cs => cs

end Component
end PageRules.Css
