import PandocHtml.Document.Tree
import PandocHtml.Host

/-!
# The shape of encoded contents

Contents of elements are arrays of a fixed length, arrays of any length, or objects that name a
choice by a tag.  A text stands for the array of its characters and an object for the array of
its field names.  A value that is wanted as text must have one on the host.
-/

namespace PandocHtml.Pandoc

/-- Why contents could not be read: they lack a shape, they name no member of a family, one of their
values has no text, an element inside them could not be read, or one of their values was used as one
of another kind. -/
inductive Problem where
  | shape
  | notAMember (m : NotAMember)
  | unwritable
  | inside (f : Fault)
  | misuse (how : Misuse)

abbrev Reading (α : Type) := Except Problem α

/-- The fault of an element whose contents have a problem; a fault of an inner element stays, and
so does a misuse.  That an inner element has a tag without a text counts as a problem here. -/
def Problem.fault (tag stage : String) : Problem → Fault
  | .shape => .malformed tag stage none
  | .notAMember m => .malformed tag stage (some m)
  | .unwritable | .inside (.overlong ..) => .malformed tag stage none
  | .inside f => f
  | .misuse how => .misuse how

/-! ### Sequences -/

def items? : Json → Option (List Json)
  | .arr items => some items
  | .str s => some (s.toList.map fun c => .str (String.singleton c))
  | .obj fields => some (fields.map fun f => .str f.1)
  | _ => none

def items (v : Json) : Reading (List Json) :=
  match items? v with
  | some vs => .ok vs
  | none => .error .shape

@[simp] theorem items_arr (vs : List Json) : items (.arr vs) = .ok vs := rfl

def two (v : Json) : Reading (Json × Json) :=
  match items? v with
  | some [a, b] => .ok (a, b)
  | _ => .error .shape

def three (v : Json) : Reading (Json × Json × Json) :=
  match items? v with
  | some [a, b, c] => .ok (a, b, c)
  | _ => .error .shape

def four (v : Json) : Reading (Json × Json × Json × Json) :=
  match items? v with
  | some [a, b, c, d] => .ok (a, b, c, d)
  | _ => .error .shape

def five (v : Json) : Reading (Json × Json × Json × Json × Json) :=
  match items? v with
  | some [a, b, c, d, e] => .ok (a, b, c, d, e)
  | _ => .error .shape

def six (v : Json) : Reading (Json × Json × Json × Json × Json × Json) :=
  match items? v with
  | some [a, b, c, d, e, f] => .ok (a, b, c, d, e, f)
  | _ => .error .shape

def part (v : Json) (place : Nat) : Reading Json :=
  match v with
  | .obj _ => .error .shape
  | _ =>
    match (items? v).bind fun vs => vs[place]? with
    | some w => .ok w
    | none => .error .shape

/-! ### Objects -/

def need (v : Json) (name : String) : Reading Json :=
  match v.field? name with
  | some w => .ok w
  | none => .error .shape

/-- A field with a default; only an object can be asked for one. -/
def optional (v : Json) (name : String) (default : Json) : Reading Json :=
  match v with
  | .obj fields => .ok ((Json.lookup fields name).getD default)
  | _ => .error (.misuse .fields)

def tagOf (v : Json) : Reading Json := need v "t"

section Texts

variable [Host]

def choice {α : Type} (family : String) (names : List (String × α)) (tag : Json) : Reading α :=
  match tag with
  | .str s =>
    match choiceOf names s with
    | some a => .ok a
    | none => .error (.notAMember ⟨tag, family⟩)
  | _ =>
    if tag.isWritable Host.digits then .error (.notAMember ⟨tag, family⟩)
    else .error .unwritable

def taggedChoice {α : Type} (family : String) (names : List (String × α)) (v : Json) :
    Reading α := do
  choice family names (← tagOf v)

/-! ### Attributes -/

/-- The plain form of a value. -/
def plainForm (v : Json) : Reading String :=
  if v.isWritable Host.digits then .ok v.plain else .error .unwritable

/-- A pair of texts; other values take their plain form. -/
def textPair (v : Json) : Reading (String × String) := do
  let (key, value) ← two v
  return (← plainForm key, ← plainForm value)

def attr (v : Json) : Reading Attr := do
  let (identifier, classes, pairs) ← three v
  let pairs ← (← items pairs).mapM textPair
  let classes ← items classes
  return ⟨identifier, classes, pairs⟩

/-- Attributes from loose parts, where the pairs may also be the fields of an object. -/
def attrOfParts (identifier classes pairs : Json) : Reading Attr := do
  let classes ← items classes
  match pairs with
  | .obj fields =>
    return ⟨identifier, classes, ← fields.mapM fun f => return (f.1, ← plainForm f.2)⟩
  | v => return ⟨identifier, classes, ← (← items v).mapM textPair⟩

end Texts

end PandocHtml.Pandoc
