import PandocHtml.Fault

/-!
# The nesting limit

Containers may be nested up to a limit; what lies deeper is replaced by a diagnostic.  The limit
is a number of at least one, and need not be whole.
-/

namespace PandocHtml

/-- A nesting limit: the number as it was given, and the deepest level it admits.  A limit that
no level exceeds has no deepest level. -/
structure Limit where
  given : Json
  deepest : Option Nat

namespace Limit

/-- A limit from its value; `null` is no limit. -/
def ofJson [Host] (v : Json) : Except Fault (Option Limit) :=
  match v with
  | .null => .ok none
  | .bool b => if b then .ok (some ⟨v, some 1⟩) else .error (Fault.showing v (.badDepth v))
  | .int n => if n < 1 then .error (Fault.showing v (.badDepth v)) else .ok (some ⟨v, some n.toNat⟩)
  | .float x =>
    if x.ltInt 1 then .error (Fault.showing v (.badDepth v))
    else if x.isNaN || x.isInfinite then .ok (some ⟨v, none⟩)
    else .ok (some ⟨v, some x.truncate.toNat⟩)
  | _ => .error (.misuse .compared)

def ofNat (n : Nat) : Limit := ⟨.int n, some n⟩

def excludes (l : Limit) (level : Nat) : Bool :=
  match l.deepest with
  | some d => d < level
  | none => false

/-- The limit as a whole number, for notices. -/
def whole (l : Limit) : String :=
  match l.given with
  | .bool b => if b then "1" else "0"
  | .float x => toString x.truncate
  | v => v.plain

/-- The limit as it was given, for diagnostics. -/
def shown (l : Limit) : String := l.given.plain

end Limit

def beyond (limit : Option Limit) (level : Nat) : Option Limit :=
  limit.filter fun l => l.excludes level

end PandocHtml
