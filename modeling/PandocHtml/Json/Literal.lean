import PandocHtml.Json.Basic
import PandocHtml.Number.Shortest
import PandocHtml.Text.Quoted

/-!
# Values as text

Two texts of a value.  `literal` is the form shown in messages, with texts in quotes; `plain` is
the form a value takes where text is wanted, and differs from it only at a bare text.  A bound on
the digits of whole numbers leaves some values without either.
-/

namespace PandocHtml.Json

mutual

/-- The form of a value in messages. -/
def literal : Json → String
  | .null => "None"
  | .bool b => if b then "True" else "False"
  | .int n => toString n
  | .float x => x.text
  | .str s => Text.quoted s
  | .arr items => "[" ++ literalItems items ++ "]"
  | .obj fields => "\x7b" ++ literalFields fields ++ "\x7d"

def literalItems : List Json → String
  | [] => ""
  | [v] => v.literal
  | v :: rest => v.literal ++ ", " ++ literalItems rest

def literalFields : List (String × Json) → String
  | [] => ""
  | [(k, v)] => Text.quoted k ++ ": " ++ v.literal
  | (k, v) :: rest => Text.quoted k ++ ": " ++ v.literal ++ ", " ++ literalFields rest

end

/-- The form of a value where text is wanted. -/
def plain : Json → String
  | .str s => s
  | v => v.literal

@[simp] theorem plain_str (s : String) : (str s).plain = s := rfl

/-! ### Values without a text -/

mutual

/-- A value has a text under a bound: no whole number in it has more digits. -/
def isWritable (digits : Option Nat) : Json → Bool
  | .int n => digits.all fun most => n.natAbs < Nat.pow 10 most
  | .arr items => areWritable digits items
  | .obj fields => fieldsAreWritable digits fields
  | _ => true

def areWritable (digits : Option Nat) : List Json → Bool
  | [] => true
  | v :: rest => v.isWritable digits && areWritable digits rest

def fieldsAreWritable (digits : Option Nat) : List (String × Json) → Bool
  | [] => true
  | (_, v) :: rest => v.isWritable digits && fieldsAreWritable digits rest

end

mutual

@[simp] theorem isWritable_none : ∀ v : Json, v.isWritable none = true
  | .null | .bool _ | .int _ | .float _ | .str _ => rfl
  | .arr items => areWritable_none items
  | .obj fields => fieldsAreWritable_none fields

theorem areWritable_none : ∀ items : List Json, areWritable none items = true
  | [] => rfl
  | v :: rest => by rw [areWritable, isWritable_none v, areWritable_none rest, Bool.and_self]

theorem fieldsAreWritable_none : ∀ fields : List (String × Json),
    fieldsAreWritable none fields = true
  | [] => rfl
  | (_, v) :: rest => by
    rw [fieldsAreWritable, isWritable_none v, fieldsAreWritable_none rest, Bool.and_self]

end

theorem areWritable_iff (digits : Option Nat) (items : List Json) :
    areWritable digits items = true ↔ ∀ v ∈ items, v.isWritable digits = true := by
  induction items with
  | nil => exact iff_of_true rfl (List.forall_mem_nil _)
  | cons v rest ih => rw [areWritable, Bool.and_eq_true, ih, List.forall_mem_cons]

theorem areWritable_append (digits : Option Nat) (items more : List Json) :
    areWritable digits (items ++ more) = (areWritable digits items && areWritable digits more) := by
  induction items with
  | nil => exact (Bool.true_and _).symm
  | cons v rest ih => rw [List.cons_append, areWritable, areWritable, ih, Bool.and_assoc]

@[simp] theorem isWritable_str (digits : Option Nat) (s : String) :
    (str s).isWritable digits = true := rfl

theorem isWritable_int_iff {most : Nat} {n : Int} :
    (int n).isWritable (some most) = true ↔ n.natAbs < Nat.pow 10 most := by
  rw [isWritable, Option.all_some, decide_eq_true_iff]

/-- A single digit has a text under every bound. -/
theorem isWritable_digit {most : Nat} {n : Int} (hmost : 0 < most) (h : n.natAbs < 10) :
    (int n).isWritable (some most) = true := by
  have hpow : Nat.pow 10 1 ≤ Nat.pow 10 most := Nat.pow_le_pow_right (by decide) hmost
  exact isWritable_int_iff.mpr (Nat.lt_of_lt_of_le h hpow)

/-- The least whole number with more digits than a bound. -/
def leastLong (most : Nat) : Int := .ofNat (.pow 10 most)

theorem isWritable_leastLong (most : Nat) :
    (int (leastLong most)).isWritable (some most) = false := by
  rw [← Bool.not_eq_true, isWritable_int_iff]
  exact Nat.lt_irrefl _

def kindName : Json → String
  | .null => "NoneType"
  | .bool _ => "bool"
  | .int _ => "int"
  | .float _ => "float"
  | .str _ => "str"
  | .arr _ => "list"
  | .obj _ => "dict"

end PandocHtml.Json
