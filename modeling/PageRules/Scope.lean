import PageRules.Glob.Match
import PageRules.Rule.Basic

/-! Path scopes: rules that apply to the paths a pattern matches. The first scope that matches a
path supplies the rules. -/

namespace PageRules

/-- The pattern that matches every path. -/
def catchAllPattern : Text := "/**".toList

structure PathScope where
  glob : Glob
  rules : List Rule
  deriving DecidableEq

namespace PathScope

def pattern (s : PathScope) : Text := s.glob.pattern

def of (pattern : Text) (rules : List Rule) : Except Glob.Error PathScope :=
  (Glob.ofPattern pattern).map (⟨·, rules⟩)

def catchAll (rules : List Rule) : PathScope where
  glob := ⟨catchAllPattern, [.deepLast], by cbv⟩
  rules := rules

/-- The pattern without a `/**` at its end. -/
def barePattern? (pattern : Text) : Option Text := catchAllPattern.isSuffixOf? pattern

/-- A pattern that ends in `/**` also matches what stands before that end. -/
def matchesPath (s : PathScope) (path : Text) : Bool :=
  s.pattern == catchAllPattern || s.glob.matchesPath path ||
    match barePattern? s.pattern with
    | some bare => bare == path || (bare.isEmpty && path == ['/'])
    | none => false

/-- The rules of the first scope that matches. -/
def select (scopes : List PathScope) (path : Text) : List Rule :=
  match scopes.find? (·.matchesPath path) with
  | some s => s.rules
  | none => []

end PathScope
end PageRules
