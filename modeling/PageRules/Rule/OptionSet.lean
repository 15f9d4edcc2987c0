import PageRules.Text.Basic
import PageRules.WriteOnce

/-! Options of a field or of a section. Four keys steer the extraction; all others are copied into
the output. -/

namespace PageRules

inductive OptionValue where
  | text (t : Text)
  | integer (n : Int)
  | flag (b : Bool)
  | list (items : List Text)
  deriving DecidableEq

/-- An integer option whose value is not a machine integer. -/
structure NotInteger where
  key : Text
  written : Text
  deriving DecidableEq

def NotInteger.message (e : NotInteger) : Text :=
  "option `".toList ++ e.key ++ "` expects an integer, got `".toList ++ e.written ++ ['`']

namespace OptionKey

def attr : Text := "attr".toList
def limit : Text := "limit".toList
def index : Text := "index".toList
def transform : Text := "transform".toList

/-- The key under which a wrapped value is written; no option may use it. -/
def value : Text := "value".toList

/-- The option steers the extraction and is not copied into the output. -/
def steers (key : Text) : Bool := [attr, limit, index, transform].contains key

end OptionKey

namespace OptionValue

/-- Takes one pair of equal quotes off. -/
def unquote (t : Text) : Text :=
  match t with
  | q :: rest =>
    if (q == '"' || q == '\'') && !rest.isEmpty && rest.getLast? == some q then rest.dropLast else t
  | [] => []

/-- The non-blank parts between bars, trimmed. -/
def alternatives (t : Text) : List Text :=
  ((Text.splitOn (· == '|') t).map Text.trim).filter (· ≠ [])

/-- A decimal integer of 64 bits with an optional sign. -/
def integer? (t : Text) : Option Int :=
  let value : Option Int := match t with
    | '-' :: ds => (Text.toNat? ds).map fun n => -(n : Int)
    | '+' :: ds => (Text.toNat? ds).map (fun (n : Nat) => (n : Int))
    | ds => (Text.toNat? ds).map (fun (n : Nat) => (n : Int))
  value.filter fun n => -0x8000000000000000 ≤ n && n < 0x8000000000000000

/-- The value written for a key. -/
def read (key written : Text) : Except NotInteger OptionValue :=
  let written := unquote (Text.trim written)
  if key = OptionKey.limit ∨ key = OptionKey.index then
    match integer? written with
    | some n => .ok (.integer n)
    | none => .error ⟨key, written⟩
  else if key = OptionKey.transform then .ok (.list (alternatives written))
  else .ok (.text written)

end OptionValue

abbrev OptionSet := WriteOnce Text OptionValue

namespace OptionSet

def text? (o : OptionSet) (key : Text) : Option Text :=
  match o.get? key with
  | some (.text t) => some t
  | _ => none

def integer? (o : OptionSet) (key : Text) : Option Int :=
  match o.get? key with
  | some (.integer n) => some n
  | _ => none

def flag? (o : OptionSet) (key : Text) : Option Bool :=
  match o.get? key with
  | some (.flag b) => some b
  | _ => none

def list? (o : OptionSet) (key : Text) : Option (List Text) :=
  match o.get? key with
  | some (.list items) => some items
  | _ => none

/-- The attributes to try one after another. -/
def attrChain? (o : OptionSet) : Option (List Text) :=
  ((text? o OptionKey.attr).map OptionValue.alternatives).filter (!·.isEmpty)

/-- The options that are copied into the output. -/
def passthrough (o : OptionSet) : OptionSet := o.filterKeys (!OptionKey.steers ·)

end OptionSet
end PageRules
