import PandocHtml.Fault

/-!
# Attributes

Identifier, classes and key-value pairs of an element, and the mapping of attribute names to
values that an output element gets from them.
-/

namespace PandocHtml

/-! ### Mappings -/

/-- Attribute names with their values, in order, each name once. -/
abbrev AttrMap := List (String × Json)

namespace AttrMap

def get? (m : AttrMap) (name : String) : Option Json := Json.lookup m name

/-- The mapping with a name set; a name already present keeps its place. -/
def set (m : AttrMap) (name : String) (value : Json) : AttrMap := Json.insertField m name value

/-- The mapping with a name added at the end, unless it is present. -/
def setDefault (m : AttrMap) (name : String) (value : Json) : AttrMap :=
  if (m.get? name).isSome then m else m ++ [(name, value)]

def dropEmpty (m : AttrMap) : AttrMap := m.filter fun p => p.2.isTruthy

def ofTexts (pairs : List (String × String)) : AttrMap := pairs.map fun p => (p.1, .str p.2)

end AttrMap

/-! ### Attributes of a node -/

/-- The attributes of a node.  Pairs keep their order; identifier and classes are texts in every
well-formed document but may be any value. -/
structure Attr where
  identifier : Json
  classes : List Json
  pairs : List (String × String)

namespace Attr

def none : Attr := ⟨.str "", [], []⟩

/-- The texts of a list of values, or nothing when one is no text. -/
def texts? : List Json → Option (List String)
  | [] => some []
  | .str s :: rest => (texts? rest).map (s :: ·)
  | _ :: _ => Option.none

/-- The value under `class`: the classes separated by spaces. -/
def classText (a : Attr) : Except Fault (Option String) :=
  if a.classes.isEmpty then .ok Option.none
  else
    match texts? a.classes with
    | some cs => .ok (some (" ".intercalate cs))
    | Option.none => .error (.misuse .joined)

/-- The mapping of a node's attributes: the identifier as `id`, the classes as `class`, then the
pairs in order, a later pair taking the place of an earlier entry; empty values are left out. -/
def toMap (a : Attr) : Except Fault AttrMap := do
  let start : AttrMap := if a.identifier.isTruthy then [("id", a.identifier)] else []
  let start := match ← a.classText with
    | some text => start.set "class" (.str text)
    | Option.none => start
  return (a.pairs.foldl (fun m p => m.set p.1 (.str p.2)) start).dropEmpty

/-- The mapping with defaults under the node's own entries, again without empty values. -/
def toMapWith (a : Attr) (defaults : AttrMap) : Except Fault AttrMap := do
  return (defaults.foldl (fun m p => m.setDefault p.1 p.2) (← a.toMap)).dropEmpty

/-- Equal attributes: the same identifier, the same classes in order, the same set of pairs. -/
def same (a b : Attr) : Bool :=
  a.identifier.same b.identifier && Json.sameItems a.classes b.classes
    && a.pairs.all b.pairs.contains && b.pairs.all a.pairs.contains

/-- Attributes can serve as keys when identifier and classes can. -/
def isKey (a : Attr) : Bool := a.identifier.isScalar && a.classes.all Json.isScalar

end Attr

end PandocHtml
