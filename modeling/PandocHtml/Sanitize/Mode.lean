import PandocHtml.Sanitize.Clean

/-!
# Modes for raw content

Raw content is kept as it is, shown as text, left out, or cleaned.
-/

namespace PandocHtml

inductive RawMode where
  | passThrough | escape | drop | sanitize
deriving DecidableEq, Repr

namespace RawMode

/-- The names of the modes, in the order in which messages list them. -/
def names : List (String × RawMode) :=
  [("pass-through", .passThrough), ("escape", .escape), ("drop", .drop), ("sanitize", .sanitize)]

def name (m : RawMode) : String := nameIn names m

def ofJson? (v : Json) : Option RawMode :=
  match v with
  | .str s => choiceOf names s
  | _ => none

/-- The mode a value names; a value that names none is refused under the given label. -/
def ofJson [Host] (label : String) (v : Json) : Except Fault RawMode :=
  match ofJson? v with
  | some mode => .ok mode
  | none => .error (Fault.showing v (.badRawMode label v))

def applyTo (mode : RawMode) (html : String) : Traced String :=
  match mode with
  | .passThrough => return html
  | .escape => return Html.escape html
  | .drop => return ""
  | .sanitize => Sanitize.clean html

theorem names_eq : names.map (·.1) = Fault.rawModeNames := rfl

end RawMode

def cleanHtml [Host] (mode : Json) (html : String) : Traced String :=
  match RawMode.ofJson? mode with
  | some m => m.applyTo html
  | none => Traced.fail (Fault.showing mode (.badCleaning mode))

end PandocHtml
