import PandocHtml.Number.Binary64

/-!
# Shortest decimal text

A binary64 value is written with the fewest significant digits that read back to it.  Candidates
are searched grid by grid: on the grid of `n` digits only the two neighbours of the value can
read back, the first grid with a hit wins, of two hits the nearer, and a tie goes to the even
digit.
-/

namespace PandocHtml.Binary64

/-! ### Selecting the digits -/

/-- A positive decimal `digits * 10 ^ exp`. -/
structure Decimal where
  digits : Nat
  exp : Int

/-- Compare `a * 10 ^ i` with `n * 2 ^ j`. -/
def compareScaled (a : Nat) (i : Int) (n : Nat) (j : Int) : Ordering :=
  compare (a * Nat.pow 10 i.toNat * Nat.pow 2 (-j).toNat)
    (n * Nat.pow 2 j.toNat * Nat.pow 10 (-i).toNat)

/-- The decimal lies among the reals that round to the value, ends included when the significand is
even. -/
def readsBack (x : Binary64) (d : Decimal) : Bool :=
  let low := if x.narrowBelow then 4 * x.significand - 1 else 4 * x.significand - 2
  let high := 4 * x.significand + 2
  let closed := x.significand % 2 == 0
  let below := compareScaled d.digits d.exp low (x.exponent - 2)
  let above := compareScaled d.digits d.exp high (x.exponent - 2)
  (below == .gt || (closed && below == .eq)) && (above == .lt || (closed && above == .eq))

/-- The least `k` at or above `start` with value below `10 ^ k`, looking at most `steps` further. -/
def scaleFrom (x : Binary64) (start : Int) : Nat → Int
  | 0 => start
  | steps + 1 =>
    if compareScaled 1 start x.significand x.exponent == .gt then start
    else scaleFrom x (start + 1) steps

/-- The least `k` with value below `10 ^ k`; the binary length fixes it up to a step or two. -/
def scale (x : Binary64) : Int :=
  let bitLength : Int := x.exponent + Nat.log2 x.significand
  x.scaleFrom (Int.fdiv (bitLength * 30103) 100000 - 1) 5

/-- The digits of the value on the grid of spacing `10 ^ exp`, rounded down. -/
def floorOnGrid (x : Binary64) (exp : Int) : Nat :=
  (x.significand * Nat.pow 2 x.exponent.toNat * Nat.pow 10 (-exp).toNat)
    / (Nat.pow 2 (-x.exponent).toNat * Nat.pow 10 exp.toNat)

/-- The better of a grid's two neighbours that read back, if one does. -/
def onGrid (x : Binary64) (exp : Int) : Option Decimal :=
  let low : Decimal := ⟨x.floorOnGrid exp, exp⟩
  let high : Decimal := ⟨low.digits + 1, exp⟩
  match x.readsBack low, x.readsBack high with
  | true, false => some low
  | false, true => some high
  | false, false => none
  | true, true =>
    match compareScaled (low.digits + high.digits) exp (2 * x.significand) x.exponent with
    | .gt => some low
    | .lt => some high
    | .eq => if low.digits % 2 == 0 then some low else some high

/-- The shortest decimal of a positive finite value; the exact value should no grid of seventeen
digits hit. -/
def shortest (x : Binary64) : Decimal :=
  let k := x.scale
  match (List.range 17).findSome? fun n : Nat => x.onGrid (k - 1 - (n : Int)) with
  | some d => d
  | none => ⟨x.floorOnGrid (min 0 x.exponent), min 0 x.exponent⟩

/-! ### Laying the digits out -/

def trimZeros (ds : List Char) : List Char := (ds.reverse.dropWhile (· == '0')).reverse

/-- A significand's digits with the point `point` places after the first: positional for leading
exponents from -4 to 15, otherwise with a signed exponent of at least two digits. -/
def layout (ds : List Char) (lead : Int) : List Char :=
  let n := ds.length
  if -4 ≤ lead && lead < 0 then
    '0' :: '.' :: (List.replicate (-lead - 1).toNat '0' ++ ds)
  else if 0 ≤ lead && lead < 16 then
    let whole := lead.toNat + 1
    if n ≤ whole then ds ++ List.replicate (whole - n) '0' ++ ['.', '0']
    else ds.take whole ++ '.' :: ds.drop whole
  else
    let e := Nat.toDigits 10 lead.natAbs
    let e := if e.length < 2 then '0' :: e else e
    let mantissa := match ds with
      | [] => ['0']
      | [d] => [d]
      | d :: rest => d :: '.' :: rest
    mantissa ++ 'e' :: (if lead < 0 then '-' else '+') :: e

/-- The text of a value: sign, then special name or shortest digits. -/
def text (x : Binary64) : String :=
  if x.isNaN then "nan"
  else
    let body :=
      if x.isInfinite then ['i', 'n', 'f']
      else if x.isZero then ['0', '.', '0']
      else
        let d := x.shortest
        let ds := Nat.toDigits 10 d.digits
        layout (trimZeros ds) (d.exp + ds.length - 1)
    String.ofList (if x.negative then '-' :: body else body)

end PandocHtml.Binary64
