import PandocHtml.Host
import PandocHtml.Text.Blank
import PandocHtml.Text.DecimalDigit

/-!
# Integers written as text

Blanks may surround the numeral, the separators U+001C to U+001F excepted; a sign may stand
directly before the digits, single underscores may separate digits, and the digits may be those of
any script.  There may be no more of them than the host allows.
-/

namespace PandocHtml.Text

def surroundsNumeral (c : Char) : Bool := isBlank c && !(0x1C ≤ c.toNat && c.toNat ≤ 0x1F)

/-- The value of digits with single underscores between them, continuing a value; `digitBefore`
says that the last character was a digit. -/
def digitsFrom (value : Nat) (digitBefore : Bool) : List Char → Option Nat
  | [] => if digitBefore then some value else none
  | c :: rest =>
    if c == '_' then if digitBefore then digitsFrom value false rest else none
    else match digitValue? c with
      | some d => digitsFrom (10 * value + d) true rest
      | none => none

def natural? [Host] (numeral : List Char) : Option Nat :=
  if Host.refuses (numeral.countP (· != '_')) then none else digitsFrom 0 false numeral

def integer? [Host] (s : String) : Option Int :=
  match trimOf surroundsNumeral s.toList with
  | '-' :: rest => (natural? rest).map fun n => -(n : Int)
  | '+' :: rest => (natural? rest).map fun n => (n : Int)
  | numeral => (natural? numeral).map fun n => (n : Int)

end PandocHtml.Text
