import PandocHtml.Traced

/-!
# Outputs

What a rendering is made of.  An output says how its pieces are put together; which pieces there
are, and in which order, is decided elsewhere.  An output may report what it leaves out and refuse
values it cannot show.
-/

namespace PandocHtml

/-- The ways to build an output of type `β`. -/
structure Output (β : Type) where
  empty : β
  combine : β → β → β
  concat : List β → β
  text : Json → Traced β
  /-- Markup that is kept as it is. -/
  raw : Json → Traced β
  /-- An element with its attributes around its children, either of which may be absent. -/
  element : String → Option AttrMap → Option β → Traced β

namespace Output

variable {β : Type}

def fold (combine : β → β → β) (empty : β) (parts : List β) : β := parts.foldl combine empty

/-- The pieces of an output follow the laws of lists: putting together is associative with
nothing as its unit, and pieces in order are put together one after another. -/
structure Lawful (o : Output β) : Prop where
  assoc : ∀ a b c, o.combine (o.combine a b) c = o.combine a (o.combine b c)
  empty_combine : ∀ a, o.combine o.empty a = a
  combine_empty : ∀ a, o.combine a o.empty = a
  concat_eq : ∀ parts, o.concat parts = fold o.combine o.empty parts

end Output

/-- The output that only counts elements. -/
def elementCount : Output Nat where
  empty := 0
  combine := (· + ·)
  concat := Output.fold (· + ·) 0
  text _ := return 0
  raw _ := return 0
  element _ _ children := return 1 + children.getD 0

theorem elementCount_lawful : elementCount.Lawful where
  assoc := Nat.add_assoc
  empty_combine := Nat.zero_add
  combine_empty := Nat.add_zero
  concat_eq _ := rfl

end PandocHtml
