import PandocHtml.Proofs.Document.AttributeOrder
import PandocHtml.Proofs.Render.Outlined

/-!
# Attributes of links and images

The attributes of a link come from three places: its identifier and classes, its pairs, and its
target; those of an image from its description too.  Of the pairs with one name the last decides,
an identifier or classes give way to pairs named `id` or `class` but keep their place, and what is
empty is left out.  Only then are the target and the description asked for the names that are still
missing, so a name that a link gives an empty value is filled from its target.
-/

namespace PandocHtml

/-! ### Mappings entry by entry -/

namespace AttrMap

variable {m n : AttrMap}

theorem get?_eq_some_iff (hm : (m.map (·.1)).Nodup) {name : String} {value : Json} :
    m.get? name = some value ↔ (name, value) ∈ m := by
  constructor
  · exact Json.mem_of_lookup
  · intro hmem
    have hunder : (name, value) ∈ m.under name := by
      rw [under, List.mem_filter]
      exact ⟨hmem, beq_self_eq_true name⟩
    rw [under_eq hm, Option.mem_toList, Option.map_eq_some_iff] at hunder
    obtain ⟨found, hfound, heq⟩ := hunder
    rw [hfound, (Prod.mk.inj heq).2]

theorem get?_append (m n : AttrMap) (name : String) :
    get? (m ++ n) name = (m.get? name).or (n.get? name) := by
  induction m with
  | nil => rfl
  | cons p rest ih =>
    obtain ⟨k, v⟩ := p
    rw [get?, get?] at ih
    rw [List.cons_append, get?, get?, Json.lookup, Json.lookup]
    by_cases hk : k = name
    · rw [if_pos hk, if_pos hk, Option.some_or]
    · rw [if_neg hk, if_neg hk, ih]

theorem get?_dropEmpty (hm : (m.map (·.1)).Nodup) (name : String) :
    m.dropEmpty.get? name = (m.get? name).filter Json.isTruthy := by
  apply Option.ext
  intro value
  rw [get?_eq_some_iff (nodup_dropEmpty hm), Option.filter_eq_some_iff, get?_eq_some_iff hm,
    dropEmpty, List.mem_filter]

theorem names_dropEmpty (hm : (m.map (·.1)).Nodup) :
    m.dropEmpty.map (·.1) = (m.map (·.1)).filter fun name => (m.get? name).any Json.isTruthy := by
  rw [dropEmpty, List.filter_map]
  congr 1
  apply List.filter_congr
  intro p hp
  have hget : m.get? p.1 = some p.2 := (get?_eq_some_iff hm).mpr hp
  rw [Function.comp_apply, hget, Option.any_some]

theorem eraseDups_of_nodup {names : List String} (h : names.Nodup) : names.eraseDups = names := by
  induction names with
  | nil => rfl
  | cons name rest ih =>
    rw [List.nodup_cons] at h
    have hothers : rest.filter (fun other => !other == name) = rest := by
      rw [List.filter_eq_self]
      intro other hother
      have hne : other ≠ name := fun heq => h.1 (heq ▸ hother)
      simp [hne]
    rw [List.eraseDups_cons, hothers, ih h.2]

theorem eraseDups_concat (names : List String) (name : String) :
    (names ++ [name]).eraseDups
      = if name ∈ names then names.eraseDups else names.eraseDups ++ [name] := by
  rw [List.eraseDups_append, List.removeAll]
  by_cases h : name ∈ names
  · rw [if_pos h, List.filter_cons_of_neg (by simpa using h), List.filter_nil, List.eraseDups_nil,
      List.append_nil]
  · rw [if_neg h, List.filter_cons_of_pos (by simpa using h), List.filter_nil,
      eraseDups_of_nodup (List.nodup_singleton name)]

/-- Names stand where they were first set. -/
theorem names_setPairs (hm : (m.map (·.1)).Nodup) (pairs : List (String × String)) :
    (m.setPairs pairs).map (·.1) = (m.map (·.1) ++ pairs.map (·.1)).eraseDups := by
  -- from the end, as a name is new or not by what stands before it
  induction pairs using List.reverseRecOn with
  | nil =>
    rw [List.map_nil, List.append_nil, eraseDups_of_nodup hm]
    rfl
  | append_singleton pairs p ih =>
    rw [setPairs_concat, names_set, ih, List.map_append, ← List.append_assoc, List.map_singleton,
      eraseDups_concat]
    simp only [List.mem_eraseDups]

/-- The defaults that are added stand behind the entries that are there. -/
theorem foldl_setDefault_eq (m : AttrMap) {defaults : AttrMap}
    (hd : (defaults.map (·.1)).Nodup) :
    defaults.foldl (fun m p => m.setDefault p.1 p.2) m
      = m ++ defaults.filter fun p => (m.get? p.1).isNone := by
  induction defaults generalizing m with
  | nil => exact (List.append_nil m).symm
  | cons p rest ih =>
    rw [List.map_cons, List.nodup_cons] at hd
    rw [List.foldl_cons, ih _ hd.2]
    cases hp : m.get? p.1 with
    | some value =>
      have hsame : m.setDefault p.1 p.2 = m := by
        rw [setDefault, hp, Option.isSome_some, if_pos rfl]
      rw [hsame, List.filter_cons_of_neg (by simp [hp])]
    | none =>
      have hadded : m.setDefault p.1 p.2 = m ++ [p] := by
        rw [setDefault, hp, Option.isSome_none, if_neg Bool.false_ne_true]
      have hothers : rest.filter (fun q => (get? (m ++ [p]) q.1).isNone)
          = rest.filter fun q => (m.get? q.1).isNone := by
        apply List.filter_congr
        intro q hq
        have hne : p.1 ≠ q.1 := fun heq => hd.1 (heq ▸ List.mem_map_of_mem hq)
        rw [get?_append, get?, get?, Json.lookup, if_neg hne, Json.lookup, Option.or_none]
      rw [hadded, hothers, List.filter_cons_of_pos (by simp [hp]), List.append_assoc,
        List.singleton_append]

theorem withDefaults_dropEmpty (m : AttrMap) {defaults : AttrMap}
    (hd : (defaults.map (·.1)).Nodup) :
    m.dropEmpty.withDefaults defaults
      = m.dropEmpty ++ dropEmpty (defaults.filter fun p => (m.dropEmpty.get? p.1).isNone) := by
  have hagain : m.dropEmpty.dropEmpty = m.dropEmpty := by
    rw [dropEmpty, dropEmpty, List.filter_filter]
    simp only [Bool.and_self]
  rw [withDefaults, foldl_setDefault_eq _ hd, dropEmpty, List.filter_append]
  exact congrArg (· ++ _) hagain

end AttrMap

/-! ### A node's own attributes -/

namespace Attr

/-- The value of the last pair with a name. -/
def lastPair? (a : Attr) (name : String) : Option String :=
  (a.pairs.reverse.find? fun p => p.1 == name).map (·.2)

/-- The names of the attributes: `id` if there is an identifier, `class` if there are classes, and
the names of the pairs, each where it first occurs. -/
def names (a : Attr) : List String :=
  ((if a.identifier.isTruthy then ["id"] else []) ++ (if a.classes.isEmpty then [] else ["class"])
    ++ a.pairs.map (·.1)).eraseDups

/-- The value under a name: that of the last pair, else the identifier or the classes. -/
def ownValue? (a : Attr) (name : String) : Option Json :=
  ((a.lastPair? name).map Json.str).or (a.start.get? name)

/-- The attributes have a value under a name, and it is not empty. -/
def shows (a : Attr) (name : String) : Bool := (a.ownValue? name).any Json.isTruthy

variable {a : Attr}

theorem get?_start_eq_none (a : Attr) {name : String} (hid : name ≠ "id")
    (hclass : name ≠ "class") : a.start.get? name = Option.none := by
  have hid' : "id" ≠ name := Ne.symm hid
  have hclass' : "class" ≠ name := Ne.symm hclass
  rw [start, AttrMap.get?_append, AttrMap.get?, AttrMap.get?]
  split <;> split <;> simp [Json.lookup, hid', hclass']

theorem names_setPairs_start (a : Attr) :
    (a.start.setPairs a.pairs).map (·.1) = a.names := by
  rw [AttrMap.names_setPairs a.nodup_start, names_start, names]

theorem get?_setPairs_start (a : Attr) (name : String) :
    (a.start.setPairs a.pairs).get? name = a.ownValue? name := by
  rw [AttrMap.get?_setPairs, ownValue?, lastPair?, Option.map_map]
  rfl

theorem shows_of_lastPair {name value : String} (h : a.lastPair? name = some value)
    (hvalue : value ≠ "") : a.shows name = true ∧ a.ownValue? name = some (.str value) := by
  have hown : a.ownValue? name = some (.str value) := by
    rw [ownValue?, h, Option.map_some, Option.some_or]
  rw [shows, hown]
  exact ⟨bne_iff_ne.mpr hvalue, rfl⟩

theorem shows_eq_false_of_lastPair {name : String} (hid : name ≠ "id") (hclass : name ≠ "class")
    (h : (a.lastPair? name).getD "" = "") : a.shows name = false := by
  rw [shows, ownValue?, a.get?_start_eq_none hid hclass, Option.or_none]
  cases hlast : a.lastPair? name with
  | none => rfl
  | some value =>
    rw [hlast, Option.getD_some] at h
    rw [h]
    rfl

end Attr

/-- A mapping made of a node's own attributes over defaults.  Its names are distinct and its values
not empty; first come the node's own names, and behind them the defaults.  A node's pairs win over
a default unless the last of them is empty: then the default stands as if there were none. -/
structure Attr.ShownOver (a : Attr) (defaults m : AttrMap) : Prop where
  distinct : (m.map (·.1)).Nodup
  nonempty : ∀ p ∈ m, ∃ s, p.2 = .str s ∧ s ≠ ""
  order : m.map (·.1) = a.names.filter a.shows
    ++ (defaults.filter fun p => !a.shows p.1 && p.2.isTruthy).map (·.1)
  own : ∀ name, a.shows name = true → m.get? name = a.ownValue? name
  pair_wins : ∀ p ∈ defaults, ∀ value, a.lastPair? p.1 = some value → value ≠ "" →
    m.get? p.1 = some (.str value)
  default_else : ∀ p ∈ defaults, (a.lastPair? p.1).getD "" = "" →
    m.get? p.1 = if p.2.isTruthy then some p.2 else Option.none

section Over

variable {a : Attr} {defaults : AttrMap}

/-- What is added to a node's own attributes: the defaults under the names that it does not show. -/
def Attr.added (a : Attr) (defaults : AttrMap) : AttrMap :=
  AttrMap.dropEmpty (defaults.filter fun p => !a.shows p.1)

theorem Attr.get?_own (a : Attr) (name : String) :
    (a.start.setPairs a.pairs).dropEmpty.get? name = (a.ownValue? name).filter Json.isTruthy := by
  rw [AttrMap.get?_dropEmpty (AttrMap.nodup_setPairs a.nodup_start a.pairs),
    Attr.get?_setPairs_start]

theorem Attr.names_own (a : Attr) :
    (a.start.setPairs a.pairs).dropEmpty.map (·.1) = a.names.filter a.shows := by
  rw [AttrMap.names_dropEmpty (AttrMap.nodup_setPairs a.nodup_start a.pairs),
    Attr.names_setPairs_start]
  simp only [Attr.get?_setPairs_start]
  rfl

theorem Attr.names_added (a : Attr) (defaults : AttrMap) :
    (a.added defaults).map (·.1)
      = (defaults.filter fun p => !a.shows p.1 && p.2.isTruthy).map (·.1) := by
  rw [Attr.added, AttrMap.dropEmpty, List.filter_filter]
  simp only [Bool.and_comm]

theorem Attr.get?_added (hd : (defaults.map (·.1)).Nodup) {p : String × Json} (hp : p ∈ defaults)
    (h : a.shows p.1 = false) :
    (a.added defaults).get? p.1 = if p.2.isTruthy then some p.2 else Option.none := by
  have hfiltered : ((defaults.filter fun p => !a.shows p.1).map (·.1)).Nodup :=
    (List.filter_sublist.map _).nodup hd
  have hfound : AttrMap.get? (defaults.filter fun p => !a.shows p.1) p.1 = some p.2 := by
    rw [AttrMap.get?_eq_some_iff hfiltered, List.mem_filter, h]
    exact ⟨hp, rfl⟩
  rw [Attr.added, AttrMap.get?_dropEmpty hfiltered, hfound, Option.filter_some]

theorem Attr.toMapWith_eq_append (ha : a.isTyped = true) (hd : (defaults.map (·.1)).Nodup) :
    a.toMapWith defaults
      = .ok ((a.start.setPairs a.pairs).dropEmpty ++ a.added defaults) := by
  have hshows : ∀ name, ((a.start.setPairs a.pairs).dropEmpty.get? name).isNone
      = !a.shows name := by
    intro name
    rw [Attr.get?_own, Attr.shows]
    cases a.ownValue? name with
    | none => rfl
    | some value => cases hv : value.isTruthy <;> simp [hv]
  rw [Attr.toMapWith_eq (Attr.toMap_eq ha), AttrMap.withDefaults_dropEmpty _ hd]
  simp only [hshows, Attr.added]

/-- Own attributes over defaults, whatever the pairs are. -/
theorem Attr.shownOver_of_toMapWith (ha : a.isTyped = true) (hd : (defaults.map (·.1)).Nodup)
    (hkeys : ∀ p ∈ defaults, p.1 ≠ "id" ∧ p.1 ≠ "class") {m : AttrMap}
    (hm : a.toMapWith defaults = .ok m) (htyped : m.isTyped = true) : a.ShownOver defaults m := by
  have hshape : m = (a.start.setPairs a.pairs).dropEmpty ++ a.added defaults := by
    rw [Attr.toMapWith_eq_append ha hd, Except.ok.injEq] at hm
    exact hm.symm
  have htruthy : ∀ p ∈ m, p.2.isTruthy = true := by
    intro p hp
    rw [hshape, List.mem_append] at hp
    rcases hp with hp | hp
    · exact (List.mem_filter.mp hp).2
    · exact (List.mem_filter.mp hp).2
  have hfirst : ((a.start.setPairs a.pairs).dropEmpty.map (·.1)).Nodup :=
    AttrMap.nodup_dropEmpty (AttrMap.nodup_setPairs a.nodup_start a.pairs)
  have hsecond : ((a.added defaults).map (·.1)).Nodup :=
    AttrMap.nodup_dropEmpty ((List.filter_sublist.map _).nodup hd)
  have hget : ∀ name, m.get? name
      = ((a.ownValue? name).filter Json.isTruthy).or ((a.added defaults).get? name) := by
    intro name
    rw [hshape, AttrMap.get?_append, Attr.get?_own]
  have hown : ∀ name, a.shows name = true → m.get? name = a.ownValue? name := by
    intro name hname
    rw [Attr.shows, Option.any_eq_true_iff_get] at hname
    obtain ⟨hsome, hvalue⟩ := hname
    rw [hget, ← Option.some_get hsome, Option.filter_some, if_pos hvalue, Option.some_or]
  refine ⟨?_, ?_, ?_, hown, ?_, ?_⟩
  · rw [hshape, List.map_append, List.nodup_append]
    refine ⟨hfirst, hsecond, ?_⟩
    intro name hname other hother heq
    rw [Attr.names_own, List.mem_filter] at hname
    rw [Attr.names_added, List.mem_map] at hother
    obtain ⟨p, hp, hpname⟩ := hother
    have hhidden := (List.mem_filter.mp hp).2
    rw [hpname, ← heq, hname.2] at hhidden
    cases hhidden
  · intro p hp
    obtain ⟨s, hs⟩ := Json.eq_str_of_isText ((AttrMap.isTyped_iff m).mp htyped p hp)
    have hvalue := htruthy p hp
    rw [hs] at hvalue
    exact ⟨s, hs, bne_iff_ne.mp hvalue⟩
  · rw [hshape, List.map_append, Attr.names_own, Attr.names_added]
  · intro p _ value hlast hvalue
    obtain ⟨hshows, hvalueOf⟩ := Attr.shows_of_lastPair hlast hvalue
    rw [hown p.1 hshows, hvalueOf]
  · intro p hp hlast
    obtain ⟨hid, hclass⟩ := hkeys p hp
    have hhidden := Attr.shows_eq_false_of_lastPair hid hclass hlast
    have hnone : (a.ownValue? p.1).filter Json.isTruthy = Option.none := by
      rw [Attr.shows, Option.any_eq_false_iff_get] at hhidden
      rw [Option.filter_eq_none_iff]
      intro value hvalue
      have hsome : (a.ownValue? p.1).isSome = true := by rw [hvalue, Option.isSome_some]
      have hempty := hhidden hsome
      simp only [hvalue, Option.get_some] at hempty
      rw [hempty]
      exact Bool.false_ne_true
    rw [hget, hnone, Option.none_or, Attr.get?_added hd hp hhidden]

end Over

/-! ### Links and images -/

section Rendered

variable (mode : RawMode) (limit : Option Limit) (place : Place)

/-- With every lawful output the rendering of an inline is one piece. -/
def Inline.RendersAs (i : Inline) (n : OutlineNode) : Prop :=
  ∀ {β : Type} (o : Output β), o.Lawful →
    (((Config.plain mode limit).engine o).renderInlines [i] place).outcome = o.piece n

variable {mode limit place}

theorem Inline.rendersAs_of_outlined {i : Inline} (hi : (Node.inline i).isTyped = true)
    {n : OutlineNode} (h : i.plan.outlined mode limit place.notes place.depth = [n]) :
    i.RendersAs mode limit place n := by
  intro β o ho
  have htyped : inlinesTyped [i] = true := by
    rw [inlinesTyped_iff, List.forall_mem_singleton]
    exact hi
  have hbuilt := Engine.outcome_renderInlines (c := Config.plain mode limit) ho rfl htyped place
  rw [hbuilt, List.map_singleton, plansOutlined, plansOutlined, List.append_nil]
  show o.build (i.plan.outlined mode limit place.notes place.depth) = o.piece n
  rw [h, Output.build_singleton ho]

variable {attr : Attr} {content : List Inline} {target : Target}

theorem link_rendersAs (h : (Node.inline (.link attr content target)).isTyped = true) :
    ∃ (m : AttrMap) (inside : Outline),
      attr.ShownOver [("href", target.url), ("title", target.title)] m
      ∧ (Inline.link attr content target).RendersAs mode limit place
        (.element "a" (some m) inside) := by
  have hf := Node.hasTypedFields_of_isTyped h
  simp only [Node.hasTypedFields, Bool.and_eq_true] at hf
  obtain ⟨own, m, htyped, _, hm, hplan⟩ := exists_linkPlan hf.1 hf.2 content (inlinePlans content)
  have hshown := Attr.shownOver_of_toMapWith hf.1 (by simp) (by simp) hm htyped
  refine ⟨m, (Plan.nested (inlinePlans content)).outlined mode limit place.notes place.depth,
    hshown, ?_⟩
  apply Inline.rendersAs_of_outlined h
  rw [Inline.plan, hplan]
  rfl

theorem image_rendersAs (h : (Node.inline (.image attr content target)).isTyped = true) :
    ∃ (description : String) (m : AttrMap), plainText content = .ok description
      ∧ attr.ShownOver
        [("src", target.url), ("title", target.title), ("alt", .str description)] m
      ∧ (Inline.image attr content target).RendersAs mode limit place (.leaf "img" (some m)) := by
  have hf := Node.hasTypedFields_of_isTyped h
  simp only [Node.hasTypedFields, Bool.and_eq_true] at hf
  obtain ⟨description, m, htyped, hdescription, hm, hplan⟩ := exists_imagePlan hf.1 hf.2
    fun i hi => Node.isTyped_of_mem_children h (List.mem_map_of_mem hi)
  have hshown := Attr.shownOver_of_toMapWith hf.1 (by simp) (by simp) hm htyped
  refine ⟨description, m, hdescription, hshown, ?_⟩
  apply Inline.rendersAs_of_outlined h
  rw [Inline.plan, hplan, Plan.outlined]

/-- A link and an image show their own attributes over those of their target and description. -/
theorem own_attributes_over_target (mode : RawMode) (limit : Option Limit) (place : Place)
    (attr : Attr) (target : Target) (content : List Inline) (ha : attr.isTyped = true)
    (ht : target.isTyped = true) (hc : inlinesTyped content = true) :
    (∃ (m : AttrMap) (inside : Outline),
      attr.ShownOver [("href", target.url), ("title", target.title)] m
      ∧ (Inline.link attr content target).RendersAs mode limit place
        (.element "a" (some m) inside))
    ∧ ∃ (description : String) (m : AttrMap), plainText content = .ok description
      ∧ attr.ShownOver
        [("src", target.url), ("title", target.title), ("alt", .str description)] m
      ∧ (Inline.image attr content target).RendersAs mode limit place
        (.leaf "img" (some m)) := by
  have htyped : ∀ i : Inline, i.children = content.map Node.inline →
      (Node.inline i).hasTypedFields = true → (Node.inline i).isTyped = true := by
    intro i hchildren hfields
    rw [Node.isTyped, Node.preorder_eq, List.all_cons, hfields, Bool.true_and, Node.children,
      hchildren, ← inlinesPreorder_eq]
    exact hc
  have hfields : (attr.isTyped && target.isTyped) = true := by rw [ha, ht, Bool.and_self]
  exact ⟨link_rendersAs (htyped _ rfl hfields), image_rendersAs (htyped _ rfl hfields)⟩

/-- An identifier, a class, an own address that is empty, and two titles. -/
def twiceTitled : Attr :=
  ⟨.str "l", [.str "ext"], [("href", ""), ("title", "a"), ("id", "m"), ("title", "b")]⟩

theorem twiceTitled_over_target :
    twiceTitled.isTyped = true
    ∧ ∃ (m : AttrMap) (inside : Outline),
      (Inline.link twiceTitled [.str (.str "c")] ⟨.str "u", .str "T"⟩).RendersAs .drop none
        Place.start (.element "a" (some m) inside)
      ∧ m.map (·.1) = ["id", "class", "title", "href"]
      ∧ m.get? "id" = some (.str "m") ∧ m.get? "title" = some (.str "b")
      ∧ m.get? "href" = some (.str "u") := by
  have ha : twiceTitled.isTyped = true := by decide
  obtain ⟨⟨m, inside, hshown, hrenders⟩, _⟩ := own_attributes_over_target .drop none Place.start
    twiceTitled ⟨.str "u", .str "T"⟩ [.str (.str "c")] ha rfl (by decide)
  refine ⟨ha, m, inside, hrenders, hshown.order, hshown.own "id" (by decide), ?_, ?_⟩
  · exact hshown.pair_wins ("title", .str "T") (by simp) "b" (by decide) (by decide)
  · exact hshown.default_else ("href", .str "u") (by simp) (by decide)

/-- An own title that is empty does not keep the title of the target away. -/
theorem emptyTitle_gives_way_to_target :
    (⟨.str "", [], [("title", "")]⟩ : Attr).lastPair? "title" = some ""
    ∧ (((Config.plain .drop none).engine outline).renderInlines
        [.link ⟨.str "", [], [("title", "")]⟩ [.str (.str "c")] ⟨.str "u", .str "T"⟩]
        Place.start).outcome
      = .ok [.element "a" (some [("href", .str "u"), ("title", .str "T")])
          [.text (.str "c")]] := by
  exact ⟨by decide, rfl⟩

end Rendered

end PandocHtml
