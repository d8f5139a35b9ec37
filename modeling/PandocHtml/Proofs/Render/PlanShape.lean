import PandocHtml.Proofs.Render.EqualPlans

/-!
# The shape of plans

Between two levels of nesting the plan of a node asks for at most four elements one inside another,
as many as a table needs around the content of a cell.  The attribute names in a plan are those of
the fixed vocabulary and the names that the nodes give in their own pairs.
-/

namespace PandocHtml

/-! ### Attribute names -/

/-- The attribute names that plans ask for, apart from the names in the pairs of nodes. -/
def plannedNames : List String :=
  ["alt", "checked", "class", "disabled", "href", "id", "src", "start", "title", "type"]

def AttrMap.Within (allowed : String → Prop) (m : AttrMap) : Prop := ∀ p ∈ m, allowed p.1

def attrsWithin (allowed : String → Prop) (attrs : Option AttrMap) : Prop :=
  AttrMap.Within allowed (attrs.getD [])

namespace AttrMap

variable {allowed : String → Prop} {m : AttrMap}

theorem within_set (hm : m.Within allowed) {name : String} (hname : allowed name) (value : Json) :
    (m.set name value).Within allowed := by
  intro p hp
  have hmem : p.1 ∈ (m.set name value).map (·.1) := List.mem_map_of_mem hp
  have hcases := (Json.mem_names_insertField m name p.1 value).mp hmem
  rcases hcases with heq | hold
  · rw [heq]
    exact hname
  · obtain ⟨q, hq, hqp⟩ := List.mem_map.mp hold
    rw [← hqp]
    exact hm q hq

theorem within_setPairs (hm : m.Within allowed) {pairs : List (String × String)}
    (h : ∀ p ∈ pairs, allowed p.1) : (m.setPairs pairs).Within allowed := by
  induction pairs generalizing m with
  | nil => exact hm
  | cons p rest ih =>
    rw [List.forall_mem_cons] at h
    exact ih (within_set hm h.1 (.str p.2)) h.2

theorem within_dropEmpty (hm : m.Within allowed) : m.dropEmpty.Within allowed :=
  fun p hp => hm p (List.mem_filter.mp hp).1

theorem within_setDefault (hm : m.Within allowed) {name : String} (hname : allowed name)
    (value : Json) : (m.setDefault name value).Within allowed := by
  rw [setDefault]
  split
  · exact hm
  · have hnew : AttrMap.Within allowed [(name, value)] := by
      rw [Within, List.forall_mem_singleton]
      exact hname
    rw [Within, List.forall_mem_append]
    exact ⟨hm, hnew⟩

theorem within_withDefaults {defaults : AttrMap} (hm : m.Within allowed)
    (hd : defaults.Within allowed) : (m.withDefaults defaults).Within allowed := by
  apply within_dropEmpty
  induction defaults generalizing m with
  | nil => exact hm
  | cons p rest ih =>
    rw [Within, List.forall_mem_cons] at hd
    exact ih (within_setDefault hm hd.1 p.2) hd.2

theorem within_planned (h : ∀ name ∈ plannedNames, allowed name)
    (hm : ∀ p ∈ m, plannedNames.contains p.1 = true) : m.Within allowed :=
  fun p hp => h p.1 (List.contains_iff_mem.mp (hm p hp))

end AttrMap

namespace Attr

variable {allowed : String → Prop} {a : Attr} {m : AttrMap}

theorem within_toMap (hfixed : ∀ name ∈ plannedNames, allowed name)
    (hown : ∀ p ∈ a.pairs, allowed p.1) (hm : a.toMap = .ok m) : m.Within allowed := by
  have hid : AttrMap.Within allowed (if a.identifier.isTruthy then [("id", a.identifier)] else [])
      := by
    split
    · exact AttrMap.within_planned hfixed (by simp [plannedNames])
    · exact AttrMap.within_planned hfixed (by simp)
  have hclass : allowed "class" := hfixed "class" (by decide)
  rw [toMap] at hm
  cases htext : a.classText with
  | error f =>
    rw [htext] at hm
    cases hm
  | ok text =>
    rw [htext] at hm
    cases text with
    | none =>
      cases hm
      exact AttrMap.within_dropEmpty (AttrMap.within_setPairs hid hown)
    | some s =>
      cases hm
      have hstart := AttrMap.within_set hid hclass (.str s)
      exact AttrMap.within_dropEmpty (AttrMap.within_setPairs hstart hown)

theorem within_toMapWith (hfixed : ∀ name ∈ plannedNames, allowed name)
    (hown : ∀ p ∈ a.pairs, allowed p.1) {defaults : AttrMap} (hd : defaults.Within allowed)
    (hm : a.toMapWith defaults = .ok m) : m.Within allowed := by
  cases hmap : a.toMap with
  | error f =>
    rw [toMapWith, hmap] at hm
    cases hm
  | ok own =>
    rw [toMapWith_eq hmap, Except.ok.injEq] at hm
    rw [← hm]
    exact AttrMap.within_withDefaults (within_toMap hfixed hown hmap) hd

end Attr

theorem ListAttributes.within_toMap {allowed : String → Prop}
    (hfixed : ∀ name ∈ plannedNames, allowed name) (a : ListAttributes) :
    a.toMap.Within allowed := by
  apply AttrMap.within_planned hfixed
  rw [ListAttributes.toMap, List.forall_mem_append]
  constructor
  · cases a.style.marker? <;> simp [plannedNames]
  · rw [List.forall_mem_map]
    intro start _
    rfl

/-! ### Shapes -/

/-- Every attribute name in a plan is allowed, and at most so many elements stand one inside another
before a level of nesting begins; within a level there may be four again. -/
inductive Plan.Fits (allowed : String → Prop) : Nat → Plan → Prop where
  | text (room : Nat) (content : Json) : Fits allowed room (.text content)
  | parts {room : Nat} {ps : List Plan} (hps : ∀ p ∈ ps, Fits allowed room p) :
      Fits allowed room (.parts ps)
  | both {room : Nat} {p q : Plan} (hp : Fits allowed room p) (hq : Fits allowed room q) :
      Fits allowed room (.both p q)
  | leaf {room : Nat} {tag : String} {attrs : Option AttrMap} (hattrs : attrsWithin allowed attrs) :
      Fits allowed (room + 1) (.leaf tag attrs)
  | element {room : Nat} {tag : String} {attrs : Option AttrMap} {p : Plan}
      (hattrs : attrsWithin allowed attrs) (hp : Fits allowed room p) :
      Fits allowed (room + 1) (.element tag attrs p)
  | nested {room : Nat} {ps : List Plan} (hps : ∀ p ∈ ps, Fits allowed 4 p) :
      Fits allowed room (.nested ps)
  | written {room : Nat} (values : List Json) {p : Plan} (hp : Fits allowed room p) :
      Fits allowed room (.written values p)
  | fault (room : Nat) (f : Fault) : Fits allowed room (.fault f)
  | link {room : Nat} {url : Json} {attrs : AttrMap} {inner : Option (List Inline)}
      {standard : Plan} (hs : Fits allowed room standard) :
      Fits allowed room (.link url attrs inner standard)
  | code {room : Nat} {attr : Attr} {content : Json} {standard : Plan}
      (hs : Fits allowed room standard) : Fits allowed room (.code attr content standard)
  | raw (room : Nat) (kind : RawKind) (format content : Json) :
      Fits allowed (room + 1) (.raw kind format content)
  | note {room : Nat} {body : List Block} {ps : List Plan} (hps : ∀ p ∈ ps, Fits allowed 4 p) :
      Fits allowed (room + 2) (.note body (.element "aside" asideAttrs (.nested ps)))
  | cite (room : Nat) (keys : List Json) : Fits allowed (room + 1) (.cite keys)

namespace Plan.Fits

variable {allowed : String → Prop} {room : Nat} {p : Plan} {ps : List Plan}

theorem plainElement {tag : String} (hp : p.Fits allowed room) :
    (Plan.plainElement tag p).Fits allowed (room + 1) :=
  .element (fun _ hq => absurd hq List.not_mem_nil) hp

theorem item {tag : String} (h : ∀ p ∈ ps, p.Fits allowed 4) :
    (Plan.plainElement tag (.nested ps)).Fits allowed (room + 1) :=
  .plainElement (.nested h)

theorem group {tag : String} (h : ∀ p ∈ ps, p.Fits allowed room) :
    (Plan.plainElement tag (.parts ps)).Fits allowed (room + 1) :=
  .plainElement (.parts h)

theorem withValue {α : Type} {r : Except Fault α} {f : α → Plan}
    (h : ∀ a, r = .ok a → (f a).Fits allowed room) : (Plan.withValue r f).Fits allowed room := by
  cases r with
  | ok a => exact h a rfl
  | error e => exact .fault room e

section Attributes

variable (hfixed : ∀ name ∈ plannedNames, allowed name) {attr : Attr}
  (hown : ∀ p ∈ attr.pairs, allowed p.1)

include hfixed hown

theorem attrElement {tag : String} (hp : p.Fits allowed room) :
    (Plan.attrElement tag attr p).Fits allowed (room + 1) :=
  .withValue fun _ hm => .element (Attr.within_toMap hfixed hown hm) hp

theorem linkPlan {content : List Inline} {target : Target} (h : ∀ p ∈ ps, p.Fits allowed 4) :
    (PandocHtml.linkPlan attr content target ps).Fits allowed (room + 1) := by
  have hdefaults : AttrMap.Within allowed [("href", target.url), ("title", target.title)] :=
    AttrMap.within_planned hfixed (by simp [plannedNames])
  refine .withValue fun own _ => .link (.withValue fun m hm => ?_)
  exact .element (Attr.within_toMapWith hfixed hown hdefaults hm) (.nested h)

theorem imagePlan {content : List Inline} {target : Target} :
    (PandocHtml.imagePlan attr content target).Fits allowed (room + 1) := by
  refine .withValue fun description _ => .withValue fun m hm => ?_
  have hdefaults : AttrMap.Within allowed
      [("src", target.url), ("title", target.title), ("alt", .str description)] :=
    AttrMap.within_planned hfixed (by simp [plannedNames])
  exact .leaf (Attr.within_toMapWith hfixed hown hdefaults hm)

end Attributes

theorem taskOr (hfixed : ∀ name ∈ plannedNames, allowed name) {content : List Inline}
    (h : ∀ p ∈ ps, p.Fits allowed 4) {usual : Plan} (husual : usual.Fits allowed (room + 1)) :
    (PandocHtml.taskOr content ps usual).Fits allowed (room + 1) := by
  rw [PandocHtml.taskOr]
  split
  · next checked _ =>
    have hattrs : AttrMap.Within allowed (AttrMap.ofTexts
        ([("type", "checkbox"), ("disabled", "True")]
          ++ if checked then [("checked", "True")] else [])) := by
      apply AttrMap.within_planned hfixed
      cases checked <;> decide
    exact .both (.leaf hattrs) (.nested fun p hp => h p (List.mem_of_mem_drop hp))
  · exact .fault _ _
  · exact husual

end Plan.Fits

/-! ### Plans of trees -/

section Trees

variable {allowed : String → Prop}

theorem Inline.fits_plan_of_children (hfixed : ∀ name ∈ plannedNames, allowed name) (i : Inline)
    (hown : ∀ attr, (Node.inline i).shownAttr? = some attr → ∀ p ∈ attr.pairs, allowed p.1)
    (h : ∀ c ∈ i.children, c.plan.Fits allowed 4) : i.plan.Fits allowed 4 := by
  cases i with
  | str text => exact .text 4 text
  | styled style content => exact .item (forall_inlinePlans h)
  | quoted kind content =>
    refine .parts fun p hp => ?_
    simp only [List.mem_cons, List.not_mem_nil, or_false] at hp
    rcases hp with rfl | rfl | rfl
    · exact .text 4 _
    · exact .nested (forall_inlinePlans h)
    · exact .text 4 _
  | cite citations content => exact .cite 3 _
  | code attr text => exact .attrElement hfixed (hown attr rfl) (.text 3 text)
  | space => exact .text 4 _
  | softBreak => exact .text 4 _
  | lineBreak => exact .leaf fun _ hp => absurd hp List.not_mem_nil
  | math kind text =>
    exact .written _ (.element (AttrMap.within_planned hfixed (by simp [plannedNames])) (.text 3 _))
  | raw format text => exact .raw 3 .inline format text
  | link attr content target =>
    exact .linkPlan hfixed (hown attr rfl) (forall_inlinePlans h)
  | image attr content target => exact .imagePlan hfixed (hown attr rfl)
  | note blocks => exact .note (forall_blockPlans h)
  | span attr content =>
    exact .attrElement hfixed (hown attr rfl) (.nested (forall_inlinePlans h))

theorem Block.fits_plan_of_children (hfixed : ∀ name ∈ plannedNames, allowed name) (b : Block)
    (hown : ∀ attr, (Node.block b).shownAttr? = some attr → ∀ p ∈ attr.pairs, allowed p.1)
    (h : ∀ c ∈ b.shown, c.plan.Fits allowed 4) : b.plan.Fits allowed 4 := by
  cases b with
  | plain content =>
    have hcontent := forall_inlinePlans h
    exact .taskOr hfixed hcontent (.nested hcontent)
  | para content =>
    have hcontent := forall_inlinePlans h
    exact .taskOr hfixed hcontent (.item hcontent)
  | lineBlock lines =>
    exact .parts (forall_linePlans (fun _ hps => .both (.nested hps) (.text 4 _)) h)
  | codeBlock attr text =>
    exact .code (.attrElement hfixed (hown attr rfl) (.plainElement (.text 2 text)))
  | raw format text => exact .raw 3 .block format text
  | blockQuote blocks => exact .item (forall_blockPlans h)
  | orderedList attributes items =>
    exact .written _ (.element (attributes.within_toMap hfixed)
      (.parts (forall_itemPlans (fun _ => .item) h)))
  | bulletList items => exact .group (forall_itemPlans (fun _ => .item) h)
  | definitionList items =>
    exact .group (forall_definitionPlans (fun _ => .item) (fun _ => .item) h)
  | header level attr content =>
    refine .withValue fun tag _ => ?_
    exact .attrElement hfixed (hown attr rfl) (.nested (forall_inlinePlans h))
  | horizontalRule => exact .leaf fun _ hp => absurd hp List.not_mem_nil
  | table attr caption colSpecs head bodies foot =>
    obtain ⟨headAttr, rows⟩ := head
    rw [Block.shown, List.forall_mem_append] at h
    have hcell : ∀ (room : Nat) (tag : String) (ps : List Plan), (∀ p ∈ ps, p.Fits allowed 4) →
        (Plan.plainElement tag (.nested ps)).Fits allowed (room + 1) := fun _ _ _ => .item
    have hrow : ∀ (room : Nat) (ps : List Plan), (∀ p ∈ ps, p.Fits allowed (room + 1)) →
        (Plan.plainElement "tr" (.parts ps)).Fits allowed (room + 2) := fun _ _ => .group
    have hbody : ∀ (room : Nat) (ps : List Plan), (∀ p ∈ ps, p.Fits allowed (room + 2)) →
        (Plan.plainElement "tbody" (.parts ps)).Fits allowed (room + 3) := fun _ _ => .group
    have hgroups : ∀ room : Nat, (Plan.both (.plainElement "thead" (.parts (rowPlans "th" rows)))
        (.parts (bodyPlans bodies))).Fits allowed (room + 3) := fun room =>
      .both (.group (forall_rowPlans (hcell room "th") (hrow room) h.1))
        (.parts (forall_bodyPlans (hcell room "td") (hrow room) (hbody room) h.2))
    simp only [Block.plan]
    split
    · next m hm => exact .element (Attr.within_toMap hfixed (hown attr rfl) hm) (hgroups 0)
    · next f _ => exact .both (hgroups 1) (.fault 4 f)
  | figure attr caption blocks =>
    exact .attrElement hfixed (hown attr rfl) (.nested (forall_blockPlans h))
  | div attr blocks =>
    exact .attrElement hfixed (hown attr rfl) (.nested (forall_blockPlans h))

/-- The plan of a node has room for four elements, and the names that the nodes under it give. -/
theorem Node.fits_plan (hfixed : ∀ name ∈ plannedNames, allowed name) (n : Node)
    (hown : ∀ attr ∈ n.preorder.filterMap Node.shownAttr?, ∀ p ∈ attr.pairs, allowed p.1) :
    n.plan.Fits allowed 4 := by
  induction n using Node.induction with
  | step n ih =>
    have hself : ∀ attr, n.shownAttr? = some attr → ∀ p ∈ attr.pairs, allowed p.1 :=
      fun attr ha => hown attr (List.mem_filterMap.mpr ⟨n, n.mem_preorder_self, ha⟩)
    have hchildren : ∀ c ∈ n.children, c.plan.Fits allowed 4 := by
      intro c hc
      have hsub : c.preorder.Sublist n.preorder := by
        rw [Node.preorder_eq n]
        exact (Node.preorder_sublist_of_mem hc).trans (List.sublist_cons_self ..)
      exact ih c hc fun attr ha => hown attr ((hsub.filterMap _).subset ha)
    cases n with
    | block b =>
      exact b.fits_plan_of_children hfixed hself fun c hc =>
        hchildren c (b.shown_sublist.subset hc)
    | inline i => exact i.fits_plan_of_children hfixed hself hchildren

theorem fits_plans (hfixed : ∀ name ∈ plannedNames, allowed name) {blocks : List Block}
    (hown : ∀ attr ∈ (blocksPreorder blocks).filterMap Node.shownAttr?,
      ∀ p ∈ attr.pairs, allowed p.1) :
    ∀ p ∈ blocks.map Block.plan, p.Fits allowed 4 := by
  rw [blocksPreorder_eq] at hown
  rw [List.forall_mem_map]
  intro b hb
  have hnode : Node.block b ∈ blocks.map Node.block := List.mem_map_of_mem hb
  have hsub := Node.preorder_sublist_of_mem hnode
  exact Node.fits_plan hfixed (.block b) fun attr ha => hown attr ((hsub.filterMap _).subset ha)

end Trees

end PandocHtml
