import PandocHtml.Number.Binary64

/-!
# JSON values

The values a document is read from and the scalars its nodes carry.  Integers and binary64 numbers
are kept apart, since they are printed differently, and the fields of an object keep the order in
which their names first appeared.  Equality of values ignores what a document cannot show: the
order of fields and the difference between numbers of one value.
-/

namespace PandocHtml

/-- A JSON value.  `true` and `false` also count as the numbers one and zero. -/
inductive Json where
  | null
  | bool (b : Bool)
  | int (n : Int)
  | float (x : Binary64)
  | str (s : String)
  | arr (items : List Json)
  | obj (fields : List (String × Json))
deriving Inhabited

namespace Json

/-! ### Size -/

mutual

def size : Json → Nat
  | .arr items => sizeItems items + 1
  | .obj fields => sizeFields fields + 1
  | _ => 1

def sizeItems : List Json → Nat
  | [] => 0
  | v :: rest => v.size + sizeItems rest

def sizeFields : List (String × Json) → Nat
  | [] => 0
  | (_, v) :: rest => v.size + sizeFields rest

end

theorem size_pos (v : Json) : 0 < v.size := by
  cases v <;> simp [size]

theorem size_le_sizeItems {v : Json} {items : List Json} (h : v ∈ items) :
    v.size ≤ sizeItems items := by
  induction items with
  | nil => simp at h
  | cons w rest ih =>
    simp only [sizeItems]
    rcases List.mem_cons.mp h with h | h
    · subst h; omega
    · have := ih h; omega

theorem size_le_sizeFields {k : String} {v : Json} {fields : List (String × Json)}
    (h : (k, v) ∈ fields) : v.size ≤ sizeFields fields := by
  induction fields with
  | nil => simp at h
  | cons f rest ih =>
    obtain ⟨k', w⟩ := f
    simp only [sizeFields]
    rcases List.mem_cons.mp h with h | h
    · obtain ⟨rfl, rfl⟩ := Prod.mk.inj h; omega
    · have := ih h; omega

/-! ### Fields -/

def lookup (fields : List (String × Json)) (name : String) : Option Json :=
  match fields with
  | [] => none
  | (k, v) :: rest => if k = name then some v else lookup rest name

theorem mem_of_lookup {fields : List (String × Json)} {name : String} {v : Json}
    (h : lookup fields name = some v) : (name, v) ∈ fields := by
  induction fields with
  | nil => simp [lookup] at h
  | cons f rest ih =>
    obtain ⟨k, w⟩ := f
    simp only [lookup] at h
    split at h
    · next hk => subst hk; cases h; exact List.mem_cons_self ..
    · exact List.mem_cons_of_mem _ (ih h)

/-- The value of a field; nothing when the value is no object or the field is absent. -/
def field? (v : Json) (name : String) : Option Json :=
  match v with
  | .obj fields => lookup fields name
  | _ => none

theorem size_lt_of_field? {v w : Json} {name : String} (h : v.field? name = some w) :
    w.size < v.size := by
  cases v <;> simp only [field?, reduceCtorEq] at h
  next fields =>
    have := size_le_sizeFields (mem_of_lookup h)
    simp only [size]
    omega

section Names

variable {κ α : Type} [DecidableEq κ]

/-- Set a field: a name already present keeps its place and takes the new value. -/
def insertField (fields : List (κ × α)) (name : κ) (value : α) : List (κ × α) :=
  match fields with
  | [] => [(name, value)]
  | (k, v) :: rest =>
    if k = name then (k, value) :: rest else (k, v) :: insertField rest name value

/-- Fields in order of first appearance, each name with its last value. -/
def collectFields (pairs : List (κ × α)) : List (κ × α) :=
  pairs.foldl (fun acc p => insertField acc p.1 p.2) []

theorem mem_names_insertField (fields : List (κ × α)) (name k : κ) (value : α) :
    k ∈ (insertField fields name value).map (·.1) ↔ k = name ∨ k ∈ fields.map (·.1) := by
  induction fields with
  | nil => simp [insertField]
  | cons f rest ih =>
    obtain ⟨l, w⟩ := f
    by_cases hl : l = name
    · simp [insertField, hl]
    · simp only [insertField, if_neg hl, List.map_cons, List.mem_cons, ih]
      exact or_left_comm

theorem nodup_insertField (fields : List (κ × α)) (name : κ) (value : α)
    (h : (fields.map (·.1)).Nodup) : ((insertField fields name value).map (·.1)).Nodup := by
  induction fields with
  | nil => simp [insertField]
  | cons f rest ih =>
    obtain ⟨l, w⟩ := f
    rw [List.map_cons, List.nodup_cons] at h
    by_cases hl : l = name
    · subst hl
      rw [insertField, if_pos rfl, List.map_cons, List.nodup_cons]
      exact h
    · simp only [insertField, if_neg hl, List.map_cons, List.nodup_cons, mem_names_insertField]
      exact ⟨fun hm => hm.elim hl h.1, ih h.2⟩

theorem nodup_foldl_insertField (pairs acc : List (κ × α)) (h : (acc.map (·.1)).Nodup) :
    ((pairs.foldl (fun acc p => insertField acc p.1 p.2) acc).map (·.1)).Nodup := by
  induction pairs generalizing acc with
  | nil => exact h
  | cons p rest ih => exact ih _ (nodup_insertField acc p.1 p.2 h)

theorem nodup_collectFields (pairs : List (κ × α)) : ((collectFields pairs).map (·.1)).Nodup :=
  nodup_foldl_insertField pairs [] List.nodup_nil

end Names

theorem lookup_insertField (fields : List (String × Json)) (name k : String) (value : Json) :
    lookup (insertField fields name value) k
      = if name = k then some value else lookup fields k := by
  induction fields with
  | nil => rfl
  | cons f rest ih =>
    obtain ⟨l, w⟩ := f
    by_cases hl : l = name
    · subst hl
      by_cases hk : l = k
      · simp only [insertField, lookup, if_pos hk, ite_true]
      · simp only [insertField, lookup, if_neg hk, ite_true]
    · simp only [insertField, lookup, if_neg hl, ih]
      by_cases hk : l = k
      · have hn : name ≠ k := fun h => hl (hk.trans h.symm)
        simp only [if_pos hk, if_neg hn]
      · simp only [if_neg hk]

/-! ### Truth -/

/-- Empty values, zero and `false` count as absent. -/
def isTruthy : Json → Bool
  | .null => false
  | .bool b => b
  | .int n => n != 0
  | .float x => !x.isZero
  | .str s => s != ""
  | .arr items => !items.isEmpty
  | .obj fields => !fields.isEmpty

/-! ### Equality of values -/

/-- Numbers of one value are equal whatever their form; `true` is one and `false` zero. -/
def sameNumber : Json → Json → Option Bool
  | .float x, .float y => some (x.same y)
  | .float x, w => (integer w).map x.eqInt
  | v, .float y => (integer v).map y.eqInt
  | v, w =>
    match integer v, integer w with
    | some m, some n => some (m == n)
    | _, _ => none
where
  integer : Json → Option Int
    | .int n => some n
    | .bool b => some (if b then 1 else 0)
    | _ => none

mutual

/-- Equality of values: numbers by value, arrays item by item, objects as sets of fields. -/
def same : Json → Json → Bool
  | .null, .null => true
  | .str s, .str t => s == t
  | .arr xs, .arr ys => sameItems xs ys
  | .obj fs, .obj gs => fs.length == gs.length && sameFields fs gs
  | v, w => (sameNumber v w).getD false

def sameItems : List Json → List Json → Bool
  | [], [] => true
  | x :: xs, y :: ys => same x y && sameItems xs ys
  | _, _ => false

/-- Every field of the first object has an equal value in the second. -/
def sameFields : List (String × Json) → List (String × Json) → Bool
  | [], _ => true
  | (k, v) :: rest, gs =>
    (match lookup gs k with
      | some w => same v w
      | none => false) && sameFields rest gs

end

/-- Only scalars can serve as keys; arrays and objects cannot. -/
def isScalar : Json → Bool
  | .arr _ | .obj _ => false
  | _ => true

end Json

end PandocHtml
