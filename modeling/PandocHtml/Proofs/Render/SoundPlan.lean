import PandocHtml.Proofs.Document.Typed
import PandocHtml.Render.Plan

/-!
# Plans of well-typed documents

A sound plan asks only for texts, for elements of a fixed vocabulary with texts as attribute
values, and for decisions about well-typed nodes; nothing in it is a fault.  Superscripts stand
without attributes and preformatted text with them, and asides stand for footnotes alone.  The plan
of a well-typed node is sound.
-/

namespace PandocHtml

/-! ### Vocabulary -/

/-- The elements that plans ask for without children. -/
def leafTags : List String := ["br", "hr", "img", "input"]

/-- The elements that plans ask for around children, asides apart. -/
def contentTags : List String :=
  ["a", "blockquote", "code", "dd", "div", "dl", "dt", "em", "figure", "h1", "h2", "h3", "h4", "h5",
   "h6", "li", "ol", "p", "pre", "small", "span", "strike", "strong", "sub", "sup", "table",
   "tbody", "td", "th", "thead", "tr", "u", "ul"]

/-- An element that plans ask for around children, with or without attributes. -/
def isContent (tag : String) (given : Bool) : Bool :=
  contentTags.contains tag && (if tag = "sup" then !given else if tag = "pre" then given else true)

def AttrMap.isTyped (m : AttrMap) : Bool := m.all fun p => p.2.isText

def attrsTyped (attrs : Option AttrMap) : Bool := AttrMap.isTyped (attrs.getD [])

def asideAttrs : Option AttrMap := some [("class", .str "footnote-inline")]

inductive Plan.Sound : Plan → Prop where
  | text (s : String) : Sound (.text (.str s))
  | parts {ps : List Plan} (hps : ∀ p ∈ ps, Sound p) : Sound (.parts ps)
  | both {p q : Plan} (hp : Sound p) (hq : Sound q) : Sound (.both p q)
  | leaf {tag : String} {attrs : Option AttrMap} (htag : tag ∈ leafTags)
      (hattrs : attrsTyped attrs = true) : Sound (.leaf tag attrs)
  | element {tag : String} {attrs : Option AttrMap} {p : Plan}
      (htag : isContent tag attrs.isSome = true) (hattrs : attrsTyped attrs = true)
      (hp : Sound p) : Sound (.element tag attrs p)
  | nested {ps : List Plan} (hps : ∀ p ∈ ps, Sound p) : Sound (.nested ps)
  | written (values : List Json) {p : Plan} (hp : Sound p) : Sound (.written values p)
  | link {url : Json} {attrs : AttrMap} {inner : Option (List Inline)} {standard : Plan}
      (hs : Sound standard) : Sound (.link url attrs inner standard)
  | code {attr : Attr} {content : Json} {standard : Plan} (hs : Sound standard) :
      Sound (.code attr content standard)
  | raw (kind : RawKind) (format content : String) : Sound (.raw kind (.str format) (.str content))
  | note {body : List Block} {ps : List Plan} (hbody : isBodyKey body = true)
      (hps : ∀ p ∈ ps, Sound p) : Sound (.note body (.element "aside" asideAttrs (.nested ps)))
  | cite (keys : List String) : Sound (.cite (keys.map Json.str))

theorem Plan.Sound.plainElement {tag : String} {p : Plan} (htag : isContent tag false = true)
    (hp : p.Sound) : (Plan.plainElement tag p).Sound :=
  .element htag rfl hp

theorem Plan.Sound.givenElement {tag : String} {m : AttrMap} {p : Plan}
    (htag : isContent tag true = true) (hm : m.isTyped = true) (hp : p.Sound) :
    (Plan.element tag (some m) p).Sound :=
  .element htag hm hp

/-! ### Attributes -/

namespace AttrMap

theorem isTyped_iff (m : AttrMap) : m.isTyped = true ↔ ∀ p ∈ m, p.2.isText = true := by
  rw [isTyped, List.all_eq_true]

theorem isTyped_set {m : AttrMap} (hm : m.isTyped = true) (name : String) {value : Json}
    (hv : value.isText = true) : (m.set name value).isTyped = true := by
  induction m with
  | nil => simpa [set, Json.insertField, isTyped] using hv
  | cons p rest ih =>
    obtain ⟨k, w⟩ := p
    simp only [isTyped, List.all_cons, Bool.and_eq_true] at hm
    simp only [set, Json.insertField]
    split
    · simp only [isTyped, List.all_cons, Bool.and_eq_true]
      exact ⟨hv, hm.2⟩
    · simp only [isTyped, List.all_cons, Bool.and_eq_true]
      exact ⟨hm.1, ih hm.2⟩

theorem isTyped_setDefault {m : AttrMap} (hm : m.isTyped = true) (name : String) {value : Json}
    (hv : value.isText = true) : (m.setDefault name value).isTyped = true := by
  simp only [setDefault]
  split
  · exact hm
  · rw [isTyped_iff, List.forall_mem_append, List.forall_mem_singleton]
    exact ⟨(isTyped_iff m).mp hm, hv⟩

theorem isTyped_dropEmpty {m : AttrMap} (hm : m.isTyped = true) : m.dropEmpty.isTyped = true := by
  rw [isTyped_iff] at hm ⊢
  intro p hp
  exact hm p (List.mem_filter.mp hp).1

theorem isTyped_ofTexts (pairs : List (String × String)) : (ofTexts pairs).isTyped = true := by
  rw [isTyped_iff, ofTexts, List.forall_mem_map]
  intro p _
  rfl

theorem isTyped_foldl_set {α : Type} (f : α → String × String) (xs : List α) {m : AttrMap}
    (hm : m.isTyped = true) :
    (xs.foldl (fun m x => m.set (f x).1 (.str (f x).2)) m).isTyped = true := by
  induction xs generalizing m with
  | nil => exact hm
  | cons x rest ih => exact ih (isTyped_set hm _ rfl)

theorem isTyped_foldl_setDefault {defaults m : AttrMap} (hd : defaults.isTyped = true)
    (hm : m.isTyped = true) :
    (defaults.foldl (fun m p => m.setDefault p.1 p.2) m).isTyped = true := by
  induction defaults generalizing m with
  | nil => exact hm
  | cons p rest ih =>
    simp only [isTyped, List.all_cons, Bool.and_eq_true] at hd
    exact ih hd.2 (isTyped_setDefault hm _ hd.1)

end AttrMap

namespace Attr

theorem exists_classText {a : Attr} (h : a.isTyped = true) :
    ∃ text : Option String, a.classText = .ok text := by
  simp only [isTyped, Bool.and_eq_true] at h
  obtain ⟨texts, ht⟩ := exists_map_str h.2
  simp only [classText, ht, texts?_map_str]
  split
  · exact ⟨_, rfl⟩
  · exact ⟨_, rfl⟩

theorem exists_toMap {a : Attr} (h : a.isTyped = true) :
    ∃ m : AttrMap, a.toMap = .ok m ∧ m.isTyped = true := by
  obtain ⟨text, ht⟩ := exists_classText h
  simp only [isTyped, Bool.and_eq_true] at h
  have hstart : AttrMap.isTyped (if a.identifier.isTruthy then [("id", a.identifier)] else [])
      = true := by
    split
    · simpa [AttrMap.isTyped] using h.1
    · rfl
  cases text with
  | none =>
    refine ⟨_, by simp only [toMap, ht]; rfl, ?_⟩
    exact AttrMap.isTyped_dropEmpty (AttrMap.isTyped_foldl_set id a.pairs hstart)
  | some s =>
    refine ⟨_, by simp only [toMap, ht]; rfl, ?_⟩
    exact AttrMap.isTyped_dropEmpty
      (AttrMap.isTyped_foldl_set id a.pairs (AttrMap.isTyped_set hstart _ rfl))

theorem exists_toMapWith {a : Attr} (h : a.isTyped = true) {defaults : AttrMap}
    (hd : defaults.isTyped = true) :
    ∃ m : AttrMap, a.toMapWith defaults = .ok m ∧ m.isTyped = true := by
  obtain ⟨m, hm, htm⟩ := exists_toMap h
  refine ⟨_, by simp only [toMapWith, hm]; rfl, ?_⟩
  exact AttrMap.isTyped_dropEmpty (AttrMap.isTyped_foldl_setDefault hd htm)

end Attr

/-! ### Single nodes -/

theorem Style.isContent_element (style : Style) : isContent style.element false = true := by
  cases style <;> decide

theorem ListAttributes.isTyped_toMap (a : ListAttributes) : a.toMap.isTyped = true := by
  rw [AttrMap.isTyped_iff, ListAttributes.toMap, List.forall_mem_append]
  constructor
  · cases a.style.marker? with
    | none =>
      intro p hp
      cases hp
    | some marker =>
      rw [List.forall_mem_singleton]
      rfl
  · rw [List.forall_mem_map]
    intro start _
    rfl

theorem headerTag_int (n : Int) : headerTag (.int n)
    = .ok ("h" ++ (Json.int (if n < 1 then 1 else if 6 < n then 6 else n)).plain) := by
  by_cases hlow : n < 1
  · simp [headerTag, Json.compare, hlow]
    rfl
  by_cases hhigh : 6 < n
  · simp [headerTag, Json.compare, hlow, hhigh]
    rfl
  · simp [headerTag, Json.compare, hlow, hhigh]
    rfl

theorem exists_headerTag {level : Json} (h : level.isInteger = true) :
    ∃ tag, headerTag level = .ok tag ∧ tag ∈ ["h1", "h2", "h3", "h4", "h5", "h6"] := by
  obtain ⟨n, rfl⟩ := Json.eq_int_of_isInteger h
  refine ⟨_, headerTag_int n, ?_⟩
  generalize hk : (if n < 1 then 1 else if 6 < n then 6 else n) = k
  have hrange : k = 1 ∨ k = 2 ∨ k = 3 ∨ k = 4 ∨ k = 5 ∨ k = 6 := by
    split at hk
    · omega
    · split at hk <;> omega
  rcases hrange with rfl | rfl | rfl | rfl | rfl | rfl <;> decide

theorem taskState_ne_error {content : List Inline}
    (h : ∀ i ∈ content, (Node.inline i).isTyped = true) (f : Fault) :
    taskState content ≠ some (.error f) := by
  intro hstate
  unfold taskState at hstate
  split at hstate
  · next glyph rest =>
    have hglyph := Node.hasTypedFields_of_isTyped (h (.str glyph) (List.mem_cons_self ..))
    obtain ⟨s, rfl⟩ := Json.eq_str_of_isText hglyph
    split at hstate <;> simp_all
  · cases hstate

theorem Plan.Sound.taskOr {content : List Inline} {plans : List Plan} {usual : Plan}
    (h : ∀ i ∈ content, (Node.inline i).isTyped = true) (hps : ∀ p ∈ plans, p.Sound)
    (husual : usual.Sound) : (taskOr content plans usual).Sound := by
  rw [PandocHtml.taskOr]
  split
  · exact .both (.leaf (by decide) (AttrMap.isTyped_ofTexts _))
      (.nested fun p hp => hps p (List.mem_of_mem_drop hp))
  · next f hstate => exact absurd hstate (taskState_ne_error h f)
  · exact husual

theorem exists_linkPlan {attr : Attr} {target : Target} (ha : attr.isTyped = true)
    (ht : target.isTyped = true) (content : List Inline) (plans : List Plan) :
    ∃ own m : AttrMap, m.isTyped = true ∧ attr.toMap = .ok own
      ∧ attr.toMapWith [("href", target.url), ("title", target.title)] = .ok m
      ∧ linkPlan attr content target plans
        = .link target.url (own.foldl (fun m p => AttrMap.set m p.1 p.2) [("title", target.title)])
          (if showsAddress content target.url then none else some content)
          (.element "a" (some m) (.nested plans)) := by
  simp only [Target.isTyped, Bool.and_eq_true] at ht
  have hdefaults : AttrMap.isTyped [("href", target.url), ("title", target.title)] = true := by
    simp only [AttrMap.isTyped, List.all_cons, List.all_nil, ht.1, ht.2, Bool.and_self]
  obtain ⟨own, hown, _⟩ := Attr.exists_toMap ha
  obtain ⟨m, hm, htm⟩ := Attr.exists_toMapWith ha hdefaults
  refine ⟨own, m, htm, hown, hm, ?_⟩
  simp only [linkPlan, hown, hm, Plan.withValue]

theorem exists_imagePlan {attr : Attr} {content : List Inline} {target : Target}
    (ha : attr.isTyped = true) (ht : target.isTyped = true)
    (h : ∀ i ∈ content, (Node.inline i).isTyped = true) :
    ∃ (description : String) (m : AttrMap), m.isTyped = true
      ∧ plainText content = .ok description
      ∧ attr.toMapWith
          [("src", target.url), ("title", target.title), ("alt", .str description)] = .ok m
      ∧ imagePlan attr content target = .leaf "img" (some m) := by
  simp only [Target.isTyped, Bool.and_eq_true] at ht
  obtain ⟨description, hdescription⟩ := exists_plainText h
  have hdefaults : AttrMap.isTyped
      [("src", target.url), ("title", target.title), ("alt", .str description)] = true := by
    simp only [AttrMap.isTyped, List.all_cons, List.all_nil, ht.1, ht.2, Bool.true_and]
    rfl
  obtain ⟨m, hm, htm⟩ := Attr.exists_toMapWith ha hdefaults
  refine ⟨description, m, htm, hdescription, hm, ?_⟩
  simp only [imagePlan, hdescription, hm, Plan.withValue]

theorem exists_attrElement {attr : Attr} (ha : attr.isTyped = true) (tag : String) (p : Plan) :
    ∃ m : AttrMap, m.isTyped = true ∧ Plan.attrElement tag attr p = .element tag (some m) p := by
  obtain ⟨m, hm, htm⟩ := Attr.exists_toMap ha
  refine ⟨m, htm, ?_⟩
  simp only [Plan.attrElement, hm, Plan.withValue]

theorem Plan.Sound.attrElement {tag : String} {attr : Attr} {p : Plan}
    (htag : isContent tag true = true) (ha : attr.isTyped = true) (hp : p.Sound) :
    (Plan.attrElement tag attr p).Sound := by
  obtain ⟨m, hm, heq⟩ := exists_attrElement ha tag p
  rw [heq]
  exact .givenElement htag hm hp

theorem Plan.Sound.linkPlan {attr : Attr} {content : List Inline} {target : Target}
    {plans : List Plan} (ha : attr.isTyped = true) (ht : target.isTyped = true)
    (hps : ∀ p ∈ plans, p.Sound) : (linkPlan attr content target plans).Sound := by
  obtain ⟨own, m, hm, _, _, heq⟩ := exists_linkPlan ha ht content plans
  rw [heq]
  exact .link (.givenElement (by decide) hm (.nested hps))

theorem Plan.Sound.imagePlan {attr : Attr} {content : List Inline} {target : Target}
    (ha : attr.isTyped = true) (ht : target.isTyped = true)
    (h : ∀ i ∈ content, (Node.inline i).isTyped = true) :
    (imagePlan attr content target).Sound := by
  obtain ⟨description, m, hm, _, _, heq⟩ := exists_imagePlan ha ht h
  rw [heq]
  exact .leaf (by decide) hm

/-! ### Plans of sequences -/

def Node.plan : Node → Plan
  | .block b => b.plan
  | .inline i => i.plan

theorem inlinePlans_eq_map (content : List Inline) :
    inlinePlans content = (content.map Node.inline).map Node.plan := by
  induction content with
  | nil => rfl
  | cons i rest ih =>
    rw [inlinePlans, ih]
    rfl

theorem blockPlans_eq_map (blocks : List Block) :
    blockPlans blocks = (blocks.map Node.block).map Node.plan := by
  induction blocks with
  | nil => rfl
  | cons b rest ih =>
    rw [blockPlans, ih]
    rfl

theorem linePlans_eq_map (lines : List (List Inline)) :
    linePlans lines
      = lines.map fun line => .both (.nested (inlinePlans line)) (.text (.str "\n")) := by
  induction lines with
  | nil => rfl
  | cons line rest ih => rw [linePlans, ih, List.map_cons]

theorem itemPlans_eq_map (tag : String) (items : List (List Block)) :
    itemPlans tag items
      = items.map fun item => .plainElement tag (.nested (blockPlans item)) := by
  induction items with
  | nil => rfl
  | cons item rest ih => rw [itemPlans, ih, List.map_cons]

theorem definitionPlans_eq_flatMap (items : List Definition) :
    definitionPlans items = items.flatMap fun d =>
      .plainElement "dt" (.nested (inlinePlans d.term)) :: itemPlans "dd" d.meanings := by
  induction items with
  | nil => rfl
  | cons d rest ih =>
    obtain ⟨term, meanings⟩ := d
    rw [definitionPlans, ih, List.flatMap_cons, List.cons_append]

theorem cellPlans_eq_map (tag : String) (cells : List Cell) :
    cellPlans tag cells
      = cells.map fun c => .plainElement tag (.nested (blockPlans c.blocks)) := by
  induction cells with
  | nil => rfl
  | cons c rest ih =>
    obtain ⟨attr, alignment, rowSpan, colSpan, blocks⟩ := c
    rw [cellPlans, ih, List.map_cons]

theorem rowPlans_eq_map (tag : String) (rows : List Row) :
    rowPlans tag rows = rows.map fun r => .plainElement "tr" (.parts (cellPlans tag r.cells)) := by
  induction rows with
  | nil => rfl
  | cons r rest ih =>
    obtain ⟨attr, cells⟩ := r
    rw [rowPlans, ih, List.map_cons]

theorem bodyPlans_eq_map (bodies : List TableBody) :
    bodyPlans bodies
      = bodies.map fun b => .plainElement "tbody" (.parts (rowPlans "td" b.rows)) := by
  induction bodies with
  | nil => rfl
  | cons b rest ih =>
    obtain ⟨attr, headColumns, headRows, rows⟩ := b
    rw [bodyPlans, ih, List.map_cons]

section Forall

/-! What holds of the plans of the nodes under a sequence, and is kept by the elements around them,
holds of the plans of the sequence. -/

variable {P Q R S : Plan → Prop}

theorem forall_inlinePlans {content : List Inline}
    (h : ∀ c ∈ content.map Node.inline, P c.plan) : ∀ p ∈ inlinePlans content, P p := by
  rw [inlinePlans_eq_map, List.forall_mem_map]
  exact h

theorem forall_blockPlans {blocks : List Block} (h : ∀ c ∈ blocks.map Node.block, P c.plan) :
    ∀ p ∈ blockPlans blocks, P p := by
  rw [blockPlans_eq_map, List.forall_mem_map]
  exact h

theorem forall_linePlans
    (hline : ∀ ps, (∀ p ∈ ps, P p) → Q (.both (.nested ps) (.text (.str "\n"))))
    {lines : List (List Inline)}
    (h : ∀ c ∈ lines.flatMap (fun line => line.map Node.inline), P c.plan) :
    ∀ p ∈ linePlans lines, Q p := by
  rw [linePlans_eq_map, List.forall_mem_map]
  intro line hmem
  refine hline _ (forall_inlinePlans fun c hc => h c ?_)
  exact List.mem_flatMap.mpr ⟨line, hmem, hc⟩

theorem forall_itemPlans {tag : String}
    (hitem : ∀ ps, (∀ p ∈ ps, P p) → Q (.plainElement tag (.nested ps)))
    {items : List (List Block)}
    (h : ∀ c ∈ items.flatMap (fun item => item.map Node.block), P c.plan) :
    ∀ p ∈ itemPlans tag items, Q p := by
  rw [itemPlans_eq_map, List.forall_mem_map]
  intro item hmem
  refine hitem _ (forall_blockPlans fun c hc => h c ?_)
  exact List.mem_flatMap.mpr ⟨item, hmem, hc⟩

theorem forall_definitionPlans
    (hterm : ∀ ps, (∀ p ∈ ps, P p) → Q (.plainElement "dt" (.nested ps)))
    (hmeaning : ∀ ps, (∀ p ∈ ps, P p) → Q (.plainElement "dd" (.nested ps)))
    {items : List Definition}
    (h : ∀ c ∈ items.flatMap (fun d =>
      d.term.map Node.inline ++ d.meanings.flatMap fun m => m.map Node.block), P c.plan) :
    ∀ p ∈ definitionPlans items, Q p := by
  rw [definitionPlans_eq_flatMap]
  intro p hp
  obtain ⟨d, hd, hp⟩ := List.mem_flatMap.mp hp
  have hd : ∀ c ∈ d.term.map Node.inline ++ d.meanings.flatMap fun m => m.map Node.block,
      P c.plan := fun c hc => h c (List.mem_flatMap.mpr ⟨d, hd, hc⟩)
  rw [List.forall_mem_append] at hd
  rw [List.mem_cons] at hp
  rcases hp with rfl | hp
  · exact hterm _ (forall_inlinePlans hd.1)
  · exact forall_itemPlans hmeaning hd.2 p hp

theorem forall_rowPlans {tag : String}
    (hcell : ∀ ps, (∀ p ∈ ps, P p) → Q (.plainElement tag (.nested ps)))
    (hrow : ∀ ps, (∀ p ∈ ps, Q p) → R (.plainElement "tr" (.parts ps)))
    {rows : List Row} (h : ∀ c ∈ rowNodes rows, P c.plan) : ∀ p ∈ rowPlans tag rows, R p := by
  rw [rowPlans_eq_map, List.forall_mem_map]
  intro r hr
  apply hrow
  rw [cellPlans_eq_map, List.forall_mem_map]
  intro c hc
  refine hcell _ (forall_blockPlans fun n hn => h n ?_)
  exact List.mem_flatMap.mpr ⟨r, hr, List.mem_flatMap.mpr ⟨c, hc, hn⟩⟩

theorem forall_bodyPlans (hcell : ∀ ps, (∀ p ∈ ps, P p) → Q (.plainElement "td" (.nested ps)))
    (hrow : ∀ ps, (∀ p ∈ ps, Q p) → R (.plainElement "tr" (.parts ps)))
    (hbody : ∀ ps, (∀ p ∈ ps, R p) → S (.plainElement "tbody" (.parts ps)))
    {bodies : List TableBody}
    (h : ∀ c ∈ bodies.flatMap (fun b => rowNodes b.rows), P c.plan) :
    ∀ p ∈ bodyPlans bodies, S p := by
  rw [bodyPlans_eq_map, List.forall_mem_map]
  intro b hb
  refine hbody _ (forall_rowPlans hcell hrow fun c hc => h c ?_)
  exact List.mem_flatMap.mpr ⟨b, hb, hc⟩

end Forall

namespace Plan.Sound

variable {ps : List Plan}

theorem item {tag : String} (htag : isContent tag false = true) (h : ∀ p ∈ ps, p.Sound) :
    (Plan.plainElement tag (.nested ps)).Sound :=
  .plainElement htag (.nested h)

theorem group {tag : String} (htag : isContent tag false = true) (h : ∀ p ∈ ps, p.Sound) :
    (Plan.plainElement tag (.parts ps)).Sound :=
  .plainElement htag (.parts h)

end Plan.Sound

/-! ### Plans of trees -/

theorem Inline.sound_plan_of_children (i : Inline) (ht : (Node.inline i).isTyped = true)
    (h : ∀ c ∈ i.children, c.plan.Sound) : i.plan.Sound := by
  have hf := Node.hasTypedFields_of_isTyped ht
  cases i with
  | str text =>
    obtain ⟨s, rfl⟩ := Json.eq_str_of_isText hf
    exact .text s
  | styled style content =>
    exact .plainElement style.isContent_element (.nested (forall_inlinePlans h))
  | quoted kind content =>
    refine .parts fun p hp => ?_
    simp only [List.mem_cons, List.not_mem_nil, or_false] at hp
    rcases hp with rfl | rfl | rfl
    · exact .text _
    · exact .nested (forall_inlinePlans h)
    · exact .text _
  | cite citations content =>
    have hcs : (citations.map Citation.id).all Json.isText = true := by
      rw [List.all_map, List.all_eq_true]
      intro c hc
      have htc := List.all_eq_true.mp hf c hc
      simp only [Citation.isTyped, Bool.and_eq_true] at htc
      exact htc.1.1
    obtain ⟨keys, hkeys⟩ := exists_map_str hcs
    rw [Inline.plan, hkeys]
    exact .cite keys
  | code attr text =>
    simp only [Node.hasTypedFields, Bool.and_eq_true] at hf
    obtain ⟨s, rfl⟩ := Json.eq_str_of_isText hf.2
    exact .attrElement (by decide) hf.1 (.text s)
  | space => exact .text _
  | softBreak => exact .text _
  | lineBreak => exact .leaf (by decide) rfl
  | math kind text => exact .written _ (.givenElement (by decide) rfl (.text _))
  | raw format text =>
    simp only [Node.hasTypedFields, Bool.and_eq_true] at hf
    obtain ⟨s, rfl⟩ := Json.eq_str_of_isText hf.1
    obtain ⟨t, rfl⟩ := Json.eq_str_of_isText hf.2
    exact .raw .inline s t
  | link attr content target =>
    simp only [Node.hasTypedFields, Bool.and_eq_true] at hf
    exact .linkPlan hf.1 hf.2 (forall_inlinePlans h)
  | image attr content target =>
    simp only [Node.hasTypedFields, Bool.and_eq_true] at hf
    refine .imagePlan hf.1 hf.2 fun i hi => ?_
    exact Node.isTyped_of_mem_children ht (List.mem_map_of_mem hi)
  | note blocks =>
    have hblocks : blocksTyped blocks = true := by
      rw [blocksTyped_iff]
      exact fun b hb => Node.isTyped_of_mem_children ht (List.mem_map_of_mem hb)
    exact .note (isBodyKey_of_blocksTyped hblocks) (forall_blockPlans h)
  | span attr content =>
    exact .attrElement (by decide) hf (.nested (forall_inlinePlans h))

theorem Block.sound_plan_of_children (b : Block) (ht : (Node.block b).isTyped = true)
    (h : ∀ c ∈ b.shown, c.plan.Sound) : b.plan.Sound := by
  have hf := Node.hasTypedFields_of_isTyped ht
  cases b with
  | plain content =>
    have hcontent := forall_inlinePlans h
    exact .taskOr (fun i hi => Node.isTyped_of_mem_children ht (List.mem_map_of_mem hi)) hcontent
      (.nested hcontent)
  | para content =>
    have hcontent := forall_inlinePlans h
    exact .taskOr (fun i hi => Node.isTyped_of_mem_children ht (List.mem_map_of_mem hi)) hcontent
      (.plainElement (by decide) (.nested hcontent))
  | lineBlock lines =>
    exact .parts (forall_linePlans (fun _ hps => .both (.nested hps) (.text _)) h)
  | codeBlock attr text =>
    simp only [Node.hasTypedFields, Bool.and_eq_true] at hf
    obtain ⟨s, rfl⟩ := Json.eq_str_of_isText hf.2
    exact .code (.attrElement (by decide) hf.1 (.plainElement (by decide) (.text s)))
  | raw format text =>
    simp only [Node.hasTypedFields, Bool.and_eq_true] at hf
    obtain ⟨s, rfl⟩ := Json.eq_str_of_isText hf.1
    obtain ⟨t, rfl⟩ := Json.eq_str_of_isText hf.2
    exact .raw .block s t
  | blockQuote blocks => exact .plainElement (by decide) (.nested (forall_blockPlans h))
  | orderedList attributes items =>
    exact .written _ (.givenElement (by decide) attributes.isTyped_toMap
      (.parts (forall_itemPlans (fun _ => .item (by decide)) h)))
  | bulletList items =>
    exact .group (by decide) (forall_itemPlans (fun _ => .item (by decide)) h)
  | definitionList items =>
    exact .group (by decide)
      (forall_definitionPlans (fun _ => .item (by decide)) (fun _ => .item (by decide)) h)
  | header level attr content =>
    simp only [Node.hasTypedFields, Bool.and_eq_true] at hf
    obtain ⟨tag, htag, hmem⟩ := exists_headerTag hf.1
    have hcontent : isContent tag true = true := by
      simp only [List.mem_cons, List.not_mem_nil, or_false] at hmem
      rcases hmem with rfl | rfl | rfl | rfl | rfl | rfl <;> decide
    simp only [Block.plan, htag, Plan.withValue]
    exact .attrElement hcontent hf.2 (.nested (forall_inlinePlans h))
  | horizontalRule => exact .leaf (by decide) rfl
  | table attr caption colSpecs head bodies foot =>
    simp only [Node.hasTypedFields, Bool.and_eq_true] at hf
    obtain ⟨m, hm, htm⟩ := Attr.exists_toMap hf.1.1.1.1
    obtain ⟨headAttr, rows⟩ := head
    rw [Block.shown, List.forall_mem_append] at h
    simp only [Block.plan, hm]
    have hrow : ∀ ps : List Plan, (∀ p ∈ ps, p.Sound) →
        (Plan.plainElement "tr" (.parts ps)).Sound := fun _ => .group (by decide)
    exact .givenElement (by decide) htm
      (.both (.group (by decide) (forall_rowPlans (fun _ => .item (by decide)) hrow h.1))
        (.parts (forall_bodyPlans (fun _ => .item (by decide)) hrow (fun _ => .group (by decide))
          h.2)))
  | figure attr caption blocks =>
    exact .attrElement (by decide) hf (.nested (forall_blockPlans h))
  | div attr blocks =>
    exact .attrElement (by decide) hf (.nested (forall_blockPlans h))

/-- The plan of a well-typed node is sound. -/
theorem Node.sound_plan (n : Node) (h : n.isTyped = true) : n.plan.Sound := by
  induction n using Node.induction with
  | step n ih =>
    have hchildren : ∀ c ∈ n.children, c.plan.Sound := fun c hc =>
      ih c hc (Node.isTyped_of_mem_children h hc)
    cases n with
    | block b =>
      exact b.sound_plan_of_children h fun c hc => hchildren c (b.shown_sublist.subset hc)
    | inline i => exact i.sound_plan_of_children h hchildren

theorem sound_items_of_blocksTyped {blocks : List Block} (h : blocksTyped blocks = true) :
    ∀ p ∈ (blocks.map Block.item).map (Item.plan .block), p.Sound := by
  rw [List.map_map, List.forall_mem_map]
  exact fun b hb => Node.sound_plan (.block b) ((blocksTyped_iff blocks).mp h b hb)

theorem sound_items_of_inlinesTyped {content : List Inline} (h : inlinesTyped content = true) :
    ∀ p ∈ (content.map Inline.item).map (Item.plan .inline), p.Sound := by
  rw [List.map_map, List.forall_mem_map]
  exact fun i hi => Node.sound_plan (.inline i) ((inlinesTyped_iff content).mp h i hi)

theorem sound_plans_of_blocksTyped {blocks : List Block} (h : blocksTyped blocks = true) :
    ∀ p ∈ blocks.map Block.plan, p.Sound := by
  rw [List.forall_mem_map]
  intro b hb
  exact Node.sound_plan (.block b) ((blocksTyped_iff blocks).mp h b hb)

end PandocHtml
