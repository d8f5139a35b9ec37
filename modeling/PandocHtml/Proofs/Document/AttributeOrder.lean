import PandocHtml.Proofs.Document.EqualNodes
import PandocHtml.Proofs.Render.SoundPlan

/-!
# Attributes in another order

Equal attributes hold the same pairs, in any order and any number of times.  Of the pairs with one
name the last decides, so the mappings of equal attributes agree under every name but those that are
given two values: of these equality does not tell which value comes last.  Mappings that agree under
every name differ in order alone.
-/

namespace PandocHtml

/-! ### Mappings -/

namespace AttrMap

variable {m n : AttrMap}

/-- The mapping with pairs set one after another. -/
def setPairs (m : AttrMap) (pairs : List (String × String)) : AttrMap :=
  pairs.foldl (fun m p => m.set p.1 (.str p.2)) m

/-- The mapping over defaults, without empty values. -/
def withDefaults (m defaults : AttrMap) : AttrMap :=
  (defaults.foldl (fun m p => m.setDefault p.1 p.2) m).dropEmpty

/-- The entries under a name. -/
def under (m : AttrMap) (name : String) : AttrMap := m.filter fun p => p.1 == name

theorem under_eq_nil_iff (m : AttrMap) (name : String) :
    m.under name = [] ↔ m.get? name = none := by
  rw [under, List.filter_eq_nil_iff]
  induction m with
  | nil => exact iff_of_true (fun p hp => absurd hp List.not_mem_nil) rfl
  | cons p rest ih =>
    obtain ⟨k, v⟩ := p
    rw [List.forall_mem_cons, ih, get?, get?]
    by_cases hk : k = name
    · simp [Json.lookup, hk]
    · simp [Json.lookup, hk]

/-- Where no name occurs twice, the value under a name says which entries are under it. -/
theorem under_eq (hm : (m.map (·.1)).Nodup) (name : String) :
    m.under name = ((m.get? name).map fun value => (name, value)).toList := by
  induction m with
  | nil => rfl
  | cons p rest ih =>
    obtain ⟨k, v⟩ := p
    rw [List.map_cons, List.nodup_cons] at hm
    by_cases hk : k = name
    · have hrest : under rest name = [] := by
        rw [under, List.filter_eq_nil_iff]
        intro q hq hqname
        have hq1 : q.1 = name := beq_iff_eq.mp hqname
        have hmem : k ∈ rest.map (·.1) := List.mem_map.mpr ⟨q, hq, hq1.trans hk.symm⟩
        exact hm.1 hmem
      rw [under] at hrest
      simp [under, get?, Json.lookup, hk, hrest]
    · have ih := ih hm.2
      rw [under, get?] at ih
      simp [under, get?, Json.lookup, hk, ih]

theorem names_set (m : AttrMap) (name : String) (value : Json) :
    (m.set name value).map (·.1)
      = if name ∈ m.map (·.1) then m.map (·.1) else m.map (·.1) ++ [name] := by
  induction m with
  | nil => rfl
  | cons p rest ih =>
    obtain ⟨k, v⟩ := p
    rw [set, Json.insertField]
    by_cases hk : k = name
    · simp [hk]
    · rw [set] at ih
      have hne : name ≠ k := fun h => hk h.symm
      simp only [if_neg hk, List.map_cons, ih, List.mem_cons, hne, false_or]
      split <;> rfl

theorem nodup_setPairs (hm : (m.map (·.1)).Nodup) (pairs : List (String × String)) :
    ((m.setPairs pairs).map (·.1)).Nodup := by
  induction pairs generalizing m with
  | nil => exact hm
  | cons p rest ih => exact ih (Json.nodup_insertField m p.1 (.str p.2) hm)

theorem nodup_dropEmpty (hm : (m.map (·.1)).Nodup) : (m.dropEmpty.map (·.1)).Nodup :=
  (List.filter_sublist.map _).nodup hm

theorem setPairs_concat (m : AttrMap) (pairs : List (String × String)) (p : String × String) :
    m.setPairs (pairs ++ [p]) = (m.setPairs pairs).set p.1 (.str p.2) := by
  rw [setPairs, List.foldl_append]
  rfl

/-- Of the pairs with one name the last decides. -/
theorem get?_setPairs (m : AttrMap) (pairs : List (String × String)) (name : String) :
    (m.setPairs pairs).get? name
      = ((pairs.reverse.find? fun p => p.1 == name).map fun p => .str p.2).or (m.get? name) := by
  induction pairs using List.reverseRecOn with
  | nil => rfl
  | append_singleton pairs p ih =>
    rw [setPairs_concat, get?, set, Json.lookup_insertField, List.reverse_concat, List.find?_cons]
    by_cases hp : p.1 = name
    · rw [if_pos hp, beq_iff_eq.mpr hp]
      rfl
    · rw [if_neg hp, beq_eq_false_iff_ne.mpr hp, ← ih, get?]

theorem get?_setPairs_of_forall_ne {pairs : List (String × String)} {name : String}
    (h : ∀ p ∈ pairs, p.1 ≠ name) : (m.setPairs pairs).get? name = m.get? name := by
  have hnone : pairs.reverse.find? (fun p => p.1 == name) = none := by
    rw [List.find?_eq_none]
    intro p hp
    have hne := h p (List.mem_reverse.mp hp)
    simpa using hne
  rw [get?_setPairs, hnone, Option.map_none, Option.none_or]

theorem get?_setPairs_of_mem {pairs : List (String × String)} {p : String × String}
    (hp : p ∈ pairs) (h : ∀ q ∈ pairs, q.1 = p.1 → q.2 = p.2) :
    (m.setPairs pairs).get? p.1 = some (.str p.2) := by
  have hfound : (pairs.reverse.find? fun q => q.1 == p.1).isSome = true := by
    rw [List.find?_isSome]
    exact ⟨p, List.mem_reverse.mpr hp, beq_self_eq_true p.1⟩
  -- whichever pair decides, it says the same
  obtain ⟨q, hq⟩ := Option.isSome_iff_exists.mp hfound
  have hname := List.find?_some hq
  have hvalue := h q (List.mem_reverse.mp (List.mem_of_find?_eq_some hq)) (by simpa using hname)
  rw [get?_setPairs, hq, Option.map_some, Option.some_or, hvalue]

/-- Mappings with the same entries under every name but some. -/
def AgreeExcept (S : String → Prop) (m n : AttrMap) : Prop :=
  ∀ name, ¬ S name → m.under name = n.under name

/-- Mappings with the same entries under every name differ in order alone. -/
theorem perm_of_under (h : ∀ name, m.under name = n.under name) : m.Perm n := by
  classical
  rw [List.perm_iff_count]
  intro p
  have hcount : ∀ l : AttrMap, (l.under p.1).count p = l.count p :=
    fun l => List.count_filter (beq_self_eq_true p.1)
  rw [← hcount m, ← hcount n, h]

/-- The same pairs set in another order agree under every name that they give one value. -/
theorem get?_setPairs_congr {ps qs : List (String × String)} (h : ∀ p, p ∈ ps ↔ p ∈ qs)
    {name : String} (hps : ∀ p ∈ ps, ∀ q ∈ ps, p.1 = name → q.1 = name → p.2 = q.2) :
    (m.setPairs ps).get? name = (m.setPairs qs).get? name := by
  by_cases hname : ∃ p ∈ ps, p.1 = name
  · obtain ⟨p, hp, rfl⟩ := hname
    have hps' : ∀ q ∈ ps, q.1 = p.1 → q.2 = p.2 := fun q hq hqp => hps q hq p hp hqp rfl
    have hqs' : ∀ q ∈ qs, q.1 = p.1 → q.2 = p.2 := fun q hq => hps' q ((h q).mpr hq)
    rw [get?_setPairs_of_mem hp hps', get?_setPairs_of_mem ((h p).mp hp) hqs']
  · have hps' : ∀ p ∈ ps, p.1 ≠ name := fun p hp heq => hname ⟨p, hp, heq⟩
    have hqs' : ∀ q ∈ qs, q.1 ≠ name := fun q hq => hps' q ((h q).mpr hq)
    rw [get?_setPairs_of_forall_ne hps', get?_setPairs_of_forall_ne hqs']

theorem under_dropEmpty (m : AttrMap) (name : String) :
    m.dropEmpty.under name = (m.under name).dropEmpty :=
  List.filter_comm _ _ m

theorem under_setDefault_congr {name : String} (h : m.under name = n.under name) (key : String)
    (value : Json) : (m.setDefault key value).under name = (n.setDefault key value).under name := by
  have hadded : ∀ l : AttrMap, (l.setDefault key value).under name
      = l.under name ++ if key = name ∧ l.under name = [] then [(key, value)] else [] := by
    intro l
    simp only [setDefault, under_eq_nil_iff]
    by_cases hkey : key = name
    · subst hkey
      cases hl : l.get? key <;> simp [under]
    · split <;> simp [under, hkey]
  rw [hadded, hadded, h]

theorem under_withDefaults_congr {name : String} (h : m.under name = n.under name)
    (defaults : AttrMap) :
    (m.withDefaults defaults).under name = (n.withDefaults defaults).under name := by
  rw [withDefaults, withDefaults, under_dropEmpty, under_dropEmpty]
  congr 1
  induction defaults generalizing m n with
  | nil => exact h
  | cons p rest ih => exact ih (under_setDefault_congr h p.1 p.2)

/-- A way to compare mappings that adding defaults keeps. -/
structure Comparison (r : AttrMap → AttrMap → Prop) : Prop where
  refl : ∀ m, r m m
  withDefaults : ∀ {m n : AttrMap} (defaults : AttrMap), r m n →
    r (m.withDefaults defaults) (n.withDefaults defaults)

theorem comparison_eq : Comparison (· = ·) :=
  ⟨fun _ => rfl, fun defaults h => congrArg (·.withDefaults defaults) h⟩

theorem comparison_agreeExcept (S : String → Prop) : Comparison (AgreeExcept S) :=
  ⟨fun _ _ _ => rfl, fun defaults h name hname => under_withDefaults_congr (h name hname) defaults⟩

end AttrMap

/-! ### Attributes of nodes -/

namespace Attr

/-- A name is given two values. -/
def TwoValued (a : Attr) (name : String) : Prop :=
  ∃ p ∈ a.pairs, ∃ q ∈ a.pairs, p.1 = name ∧ q.1 = name ∧ p.2 ≠ q.2

theorem toMapWith_eq {a : Attr} {m : AttrMap} (h : a.toMap = .ok m) (defaults : AttrMap) :
    a.toMapWith defaults = .ok (m.withDefaults defaults) := by
  rw [toMapWith, h]
  rfl

/-- The identifier and the classes as entries. -/
def start (a : Attr) : AttrMap :=
  (if a.identifier.isTruthy then [("id", a.identifier)] else [])
    ++ if a.classes.isEmpty then []
      else [("class", .str (" ".intercalate ((texts? a.classes).getD [])))]

theorem names_start (a : Attr) :
    a.start.map (·.1)
      = (if a.identifier.isTruthy then ["id"] else [])
        ++ if a.classes.isEmpty then [] else ["class"] := by
  rw [start, List.map_append]
  congr 1 <;> split <;> rfl

theorem nodup_start (a : Attr) : (a.start.map (·.1)).Nodup := by
  rw [names_start]
  split <;> split <;> decide

/-- The pairs are set over the identifier and the classes. -/
theorem toMap_eq {a : Attr} (h : a.isTyped = true) :
    a.toMap = .ok (a.start.setPairs a.pairs).dropEmpty := by
  obtain ⟨identifier, classes, pairs⟩ := a
  rw [isTyped, Bool.and_eq_true] at h
  obtain ⟨texts, hclasses⟩ := exists_map_str h.2
  have hset : ∀ value : Json,
      AttrMap.set (if identifier.isTruthy then [("id", identifier)] else []) "class" value
        = (if identifier.isTruthy then [("id", identifier)] else []) ++ [("class", value)] := by
    intro value
    split <;> rfl
  simp only at hclasses
  subst hclasses
  cases texts with
  | nil =>
    simp only [toMap, classText, start, List.map_nil, List.isEmpty_nil, ite_true, List.append_nil]
    rfl
  | cons text rest =>
    have htexts := texts?_map_str (text :: rest)
    have hsome : ((text :: rest).map Json.str).isEmpty = false := rfl
    simp only [toMap, classText, start, hsome, htexts, Option.getD_some, Bool.false_eq_true,
      ite_false, ← hset]
    rfl

/-- The mappings of equal attributes agree but under the names that are given two values. -/
theorem toMap_agreeExcept {a b : Attr} (ha : a.isTyped = true) (hb : b.isTyped = true)
    (h : a.same b = true) {m n : AttrMap} (hm : a.toMap = .ok m) (hn : b.toMap = .ok n) :
    m.AgreeExcept a.TwoValued n := by
  obtain ⟨hidentifier, hclasses, hpairs⟩ := Attr.eq_of_same ha hb h
  have hstart : b.start = a.start := by rw [start, start, hidentifier, hclasses]
  rw [toMap_eq ha, Except.ok.injEq] at hm
  rw [toMap_eq hb, hstart, Except.ok.injEq] at hn
  intro name hname
  have hone : ∀ p ∈ a.pairs, ∀ q ∈ a.pairs, p.1 = name → q.1 = name → p.2 = q.2 := by
    intro p hp q hq hpn hqn
    by_contra hne
    exact hname ⟨p, hp, q, hq, hpn, hqn, hne⟩
  have hget := AttrMap.get?_setPairs_congr (m := a.start) hpairs hone
  have hps := AttrMap.nodup_setPairs a.nodup_start a.pairs
  have hqs := AttrMap.nodup_setPairs a.nodup_start b.pairs
  rw [← hm, ← hn, AttrMap.under_dropEmpty, AttrMap.under_dropEmpty, AttrMap.under_eq hps,
    AttrMap.under_eq hqs, hget]

end Attr

end PandocHtml
