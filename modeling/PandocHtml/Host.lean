/-!
# The host

A run is not free of what it runs on.  A host may bound the digits of a whole number that becomes
text or is read from text; where a number has more of them there is no text, and no number.  A host
bounds the depth of calls as well, and there a run is taken to have room: no nesting is too deep to
be read or rendered.
-/

namespace PandocHtml

/-- What a run stands on: the most digits of a whole number where it meets text, if there is a
bound.  A bound is never small, so that no number a run counts by itself comes near to it. -/
class Host where
  digits : Option Nat

namespace Host

/-- The bound that holds unless a host is told otherwise. -/
instance (priority := low) usual : Host := ⟨some 4300⟩

/-- A whole number with so many digits meets the bound. -/
def refuses [Host] (count : Nat) : Bool := digits.any fun most => most < count

end Host

end PandocHtml
