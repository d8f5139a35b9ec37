import PandocHtml.Markup.Token
import PandocHtml.Sanitize.Policy

/-!
# Addresses

An address may name a scheme before a colon.  Characters that readers of addresses pass over are
removed before the scheme is looked at.
-/

namespace PandocHtml.Sanitize

/-- A character that readers of addresses pass over. -/
def isIgnored (c : Char) : Bool :=
  c == '\x60' || c.toNat ≤ 0x20 || (0x7F ≤ c.toNat && c.toNat ≤ 0xA0) || c == '\uFFFD'
    || Text.isBlank c

def isSchemeChar (c : Char) : Bool := c.isAlphanum || c == '+' || c == '-' || c == '.'

/-- The scheme of an address, in lower case; nothing when it names none. -/
def scheme? (address : String) : Option String :=
  let s := (address.toList.filter fun c => !isIgnored c).map Char.toLower
  let name := s.takeWhile (· != ':')
  match name with
  | c :: _ =>
    if name.length < s.length && c.isAlpha && name.all isSchemeChar then some (String.ofList name)
    else none
  | [] => none

def allowsAddress (address : String) : Bool :=
  match scheme? address with
  | some scheme => allowedSchemes.contains scheme
  | none => true

end PandocHtml.Sanitize
