import PandocHtml.Proofs.Render.Outlined

/-!
# Decisions

Carrying out a plan decides, one after another, about links, code blocks, raw content, footnotes,
citations and values to be written, and about every level of nesting that the limit cuts off.  The
decisions of the plan of a node are about the displayed nodes under it that no cut hides, in
pre-order.  Whatever an outline holds besides texts and the fixed vocabulary of plans is shown by
one of the decisions.
-/

namespace PandocHtml

/-! ### Levels beyond the limit -/

theorem isSome_beyond_of_le {limit : Option Limit} {m k : Nat} (h : (beyond limit m).isSome = true)
    (hle : m ≤ k) : (beyond limit k).isSome = true := by
  cases limit with
  | none => cases h
  | some l =>
    simp only [beyond, Option.isSome_filter, Option.any_some] at h ⊢
    simp only [Limit.excludes] at h ⊢
    cases hd : l.deepest with
    | none => simp [hd] at h
    | some d =>
      simp only [hd, decide_eq_true_eq] at h ⊢
      omega

def reached {α : Type} (limit : Option Limit) (x : Nat × α) : Bool := (beyond limit x.1).isNone

theorem isNone_beyond_zero (limit : Option Limit) : (beyond limit 0).isNone = true := by
  rw [Option.isNone_iff_eq_none, beyond, Option.filter_eq_none_iff]
  intro l _
  rw [Limit.excludes]
  cases l.deepest <;> simp

theorem reached_none {α : Type} (x : Nat × α) : reached none x = true := rfl

theorem filter_reached_none {α : Type} (xs : List (Nat × α)) : xs.filter (reached none) = xs :=
  List.filter_eq_self.mpr fun x _ => reached_none x

/-! ### Decisions of plans -/

section Const

variable {γ : Type} {g : Plan → γ} {z : γ}

/-- A function of plans with one value for faults and for what follows from a value. -/
theorem Plan.withValue_const {α : Type} (r : Except Fault α) {f : α → Plan}
    (hfault : ∀ e, g (.fault e) = z) (h : ∀ a, g (f a) = z) : g (Plan.withValue r f) = z := by
  cases r with
  | ok a => exact h a
  | error e => exact hfault e

theorem taskOr_const (content : List Inline) (plans : List Plan) {usual : Plan}
    (hfault : ∀ e, g (.fault e) = z) (hboth : ∀ p q, g (.both p q) = z) (h : g usual = z) :
    g (taskOr content plans usual) = z := by
  rw [taskOr]
  split
  · exact hboth _ _
  · exact hfault _
  · exact h

end Const

namespace Plan

def isNested : Plan → Bool
  | .nested _ => true
  | _ => false

/-- A link, a code block, raw content, a footnote, a citation, or values to be written. -/
def isOpen : Plan → Bool
  | .link .. | .code .. | .raw .. | .note .. | .cite _ | .written .. => true
  | _ => false

theorem isOpen_of_isNested {p : Plan} (h : p.isNested = true) : p.isOpen = false := by
  cases p with
  | nested ps => rfl
  | _ => cases h

end Plan

section Decisions

variable (mode : RawMode) (limit : Option Limit) (notes : Footnotes)

mutual

/-- What is decided while a plan is carried out, in order, each with the levels above; of the
levels of nesting those that are cut off. -/
def Plan.decisions (level : Nat) : Plan → List (Nat × Plan)
  | .text _ | .leaf .. | .fault _ => []
  | .parts ps => plansDecisions level ps
  | .both p q => p.decisions level ++ q.decisions level
  | .element _ _ children => children.decisions level
  | .nested ps =>
    match beyond limit (level + 1) with
    | some _ => [(level, .nested ps)]
    | none => plansDecisions (level + 1) ps
  | .written values p => (level, .written values p) :: p.decisions level
  | .link url attrs inner standard =>
    (level, .link url attrs inner standard) :: standard.decisions level
  | .code attr content standard => (level, .code attr content standard) :: standard.decisions level
  | .raw kind format content => [(level, .raw kind format content)]
  | .note body aside =>
    (level, .note body aside)
      :: match notes.number? (FootnoteBody.ofBlocks body) with
        | some _ => []
        | none => aside.decisions level
  | .cite keys => [(level, .cite keys)]

/-- The decisions of plans one after another. -/
def plansDecisions (level : Nat) : List Plan → List (Nat × Plan)
  | [] => []
  | p :: rest => p.decisions level ++ plansDecisions level rest

end

attribute [simp] Plan.decisions plansDecisions

/-- What a decision shows by itself; an aside without what is inside it. -/
def Plan.shows (level : Nat) : Plan → List OutlineNode
  | .nested _ =>
    match beyond limit (level + 1) with
    | some l => (OutlineNode.diagnostic l.wording).preorder
    | none => []
  | .raw kind format content => outlinePreorder (rawOutline mode kind format content)
  | .note body aside =>
    match notes.number? (FootnoteBody.ofBlocks body) with
    | some number => (OutlineNode.reference number).preorder
    | none => aside.outlined mode limit notes level
  | .cite _ => (OutlineNode.diagnostic citeWording).preorder
  | _ => []

theorem plansDecisions_eq_flatMap (level : Nat) (ps : List Plan) :
    plansDecisions limit notes level ps = ps.flatMap (Plan.decisions limit notes level) := by
  induction ps with
  | nil => rfl
  | cons p rest ih => rw [plansDecisions, ih, List.flatMap_cons]

end Decisions

/-! ### What the decisions show -/

/-- A predicate that is false of texts and of the fixed vocabulary of plans. -/
structure Quiet (q : OutlineNode → Bool) : Prop where
  text : ∀ content, q (.text content) = false
  leaf : ∀ (tag : String) (attrs : Option AttrMap), tag ∈ leafTags → q (.leaf tag attrs) = false
  element : ∀ (tag : String) (attrs : Option AttrMap) (children : Outline),
    isContent tag attrs.isSome = true → q (.element tag attrs children) = false

theorem Quiet.of_imp {q r : OutlineNode → Bool} (hr : Quiet r)
    (h : ∀ n, q n = true → r n = true) : Quiet q := by
  have hfalse : ∀ n, r n = false → q n = false := by
    intro n hn
    rw [← Bool.not_eq_true] at hn ⊢
    exact fun hq => hn (h n hq)
  exact ⟨fun content => hfalse _ (hr.text content),
    fun tag attrs htag => hfalse _ (hr.leaf tag attrs htag),
    fun tag attrs children htag => hfalse _ (hr.element tag attrs children htag)⟩

/-- Preformatted text that is given no attributes and holds a single text, as diagnostics are. -/
def OutlineNode.isBare : OutlineNode → Bool
  | .element tag none [.text _] => tag == "pre"
  | _ => false

theorem OutlineNode.isBare_of_ne_pre {tag : String} (htag : tag ≠ "pre") (attrs : Option AttrMap)
    (children : Outline) : (OutlineNode.element tag attrs children).isBare = false := by
  unfold OutlineNode.isBare
  split
  · next heq =>
    cases heq
    exact beq_eq_false_iff_ne.mpr htag
  · rfl

theorem quiet_isBare : Quiet OutlineNode.isBare where
  text _ := rfl
  leaf _ _ _ := rfl
  element tag attrs children htag := by
    cases attrs with
    | some m => rfl
    | none =>
      refine OutlineNode.isBare_of_ne_pre ?_ none children
      rintro rfl
      cases htag

section Shown

variable {q : OutlineNode → Bool} {mode : RawMode} {limit : Option Limit} {notes : Footnotes}

/-- The pieces that a predicate picks from an outline are those it picks from the decisions. -/
def ShownBy (q : OutlineNode → Bool) (mode : RawMode) (limit : Option Limit) (notes : Footnotes)
    (level : Nat) (p : Plan) : Prop :=
  (outlinePreorder (p.outlined mode limit notes level)).filter q
    = (p.decisions limit notes level).flatMap fun x =>
        (x.2.shows mode limit notes x.1).filter q

theorem shownBy_plans {level : Nat} {ps : List Plan}
    (h : ∀ p ∈ ps, ShownBy q mode limit notes level p) :
    (outlinePreorder (plansOutlined mode limit notes level ps)).filter q
      = (plansDecisions limit notes level ps).flatMap fun x =>
          (x.2.shows mode limit notes x.1).filter q := by
  induction ps with
  | nil => rfl
  | cons p rest ih =>
    rw [List.forall_mem_cons] at h
    have hp := h.1
    rw [ShownBy] at hp
    rw [plansOutlined, outlinePreorder_append, List.filter_append, hp, ih h.2, plansDecisions,
      List.flatMap_append]

theorem shownBy_nested {level : Nat} {ps : List Plan}
    (h : ∀ p ∈ ps, ShownBy q mode limit notes (level + 1) p) :
    ShownBy q mode limit notes level (.nested ps) := by
  rw [ShownBy, Plan.outlined, Plan.decisions]
  cases hb : beyond limit (level + 1) with
  | some l =>
    simp only [List.flatMap_singleton, Plan.shows, hb]
    rw [outlinePreorder_singleton]
  | none => exact shownBy_plans h

/-- A plan all of whose texts and elements a predicate passes over. -/
inductive Plan.Clear (q : OutlineNode → Bool) : Plan → Prop where
  | text {content : Json} (h : q (.text content) = false) : Clear q (.text content)
  | parts {ps : List Plan} (hps : ∀ p ∈ ps, Clear q p) : Clear q (.parts ps)
  | both {p p' : Plan} (hp : Clear q p) (hp' : Clear q p') : Clear q (.both p p')
  | leaf {tag : String} {attrs : Option AttrMap} (h : q (.leaf tag attrs) = false) :
      Clear q (.leaf tag attrs)
  | element {tag : String} {attrs : Option AttrMap} {p : Plan}
      (h : ∀ children, q (.element tag attrs children) = false) (hp : Clear q p) :
      Clear q (.element tag attrs p)
  | nested {ps : List Plan} (hps : ∀ p ∈ ps, Clear q p) : Clear q (.nested ps)
  | written (values : List Json) {p : Plan} (hp : Clear q p) : Clear q (.written values p)
  | fault (f : Fault) : Clear q (.fault f)
  | link {url : Json} {attrs : AttrMap} {inner : Option (List Inline)} {standard : Plan}
      (hs : Clear q standard) : Clear q (.link url attrs inner standard)
  | code {attr : Attr} {content : Json} {standard : Plan} (hs : Clear q standard) :
      Clear q (.code attr content standard)
  | raw (kind : RawKind) (format content : Json) : Clear q (.raw kind format content)
  | note {body : List Block} {attrs : Option AttrMap} {ps : List Plan}
      (hps : ∀ p ∈ ps, Clear q p) : Clear q (.note body (.element "aside" attrs (.nested ps)))
  | cite (keys : List Json) : Clear q (.cite keys)

theorem Plan.Sound.clear (hq : Quiet q) {p : Plan} (hp : p.Sound) : p.Clear q := by
  induction hp with
  | text s => exact .text (hq.text _)
  | parts _ ih => exact .parts ih
  | both _ _ ihp ihp' => exact .both ihp ihp'
  | leaf htag _ => exact .leaf (hq.leaf _ _ htag)
  | element htag _ _ ih => exact .element (fun children => hq.element _ _ children htag) ih
  | nested _ ih => exact .nested ih
  | written values _ ih => exact .written values ih
  | link _ ih => exact .link ih
  | code _ ih => exact .code ih
  | raw kind format content => exact .raw kind _ _
  | note _ _ ih => exact .note ih
  | cite keys => exact .cite _

/-- What a predicate picks from the outline of a clear plan is shown by its decisions. -/
theorem Plan.Clear.shownBy {p : Plan} (hp : p.Clear q) (level : Nat) :
    ShownBy q mode limit notes level p := by
  induction hp generalizing level with
  | text h =>
    rw [ShownBy, Plan.outlined, Plan.decisions, outlinePreorder_singleton, OutlineNode.preorder,
      List.filter_cons_of_neg (by simp [h])]
    rfl
  | parts _ ih =>
    rw [ShownBy, Plan.outlined, Plan.decisions]
    exact shownBy_plans fun p hp => ih p hp level
  | both _ _ ihp ihp' =>
    have hp := ihp level
    have hp' := ihp' level
    rw [ShownBy] at hp hp'
    rw [ShownBy, Plan.outlined, Plan.decisions, outlinePreorder_append, List.filter_append, hp, hp',
      List.flatMap_append]
  | leaf h =>
    rw [ShownBy, Plan.outlined, Plan.decisions, outlinePreorder_singleton, OutlineNode.preorder,
      List.filter_cons_of_neg (by simp [h])]
    rfl
  | element h _ ih =>
    have hinside := ih level
    rw [ShownBy] at hinside
    rw [ShownBy, Plan.outlined, Plan.decisions, outlinePreorder_singleton, OutlineNode.preorder,
      List.filter_cons_of_neg (by simp [h]), hinside]
  | nested _ ih => exact shownBy_nested fun p hp => ih p hp (level + 1)
  | written _ _ ih =>
    have h := ih level
    rw [ShownBy] at h
    rw [ShownBy, Plan.outlined, Plan.decisions, List.flatMap_cons, h]
    rfl
  | fault f => rfl
  | link _ ih =>
    have h := ih level
    rw [ShownBy] at h
    rw [ShownBy, Plan.outlined, Plan.decisions, List.flatMap_cons, h]
    rfl
  | code _ ih =>
    have h := ih level
    rw [ShownBy] at h
    rw [ShownBy, Plan.outlined, Plan.decisions, List.flatMap_cons, h]
    rfl
  | raw kind format content =>
    rw [ShownBy, Plan.outlined, Plan.decisions, List.flatMap_singleton]
    rfl
  | @note body attrs ps _ ih =>
    rw [ShownBy, Plan.outlined, Plan.decisions, List.flatMap_cons]
    simp only [Plan.shows]
    cases notes.number? (FootnoteBody.ofBlocks body) with
    | some number => rw [outlinePreorder_singleton, List.flatMap_nil, List.append_nil]
    | none =>
      have h : ShownBy q mode limit notes level (.nested ps) :=
        shownBy_nested fun p hp => ih p hp (level + 1)
      rw [ShownBy] at h
      simp only [Plan.outlined, outlinePreorder_singleton, OutlineNode.preorder, Plan.decisions]
      rw [← List.singleton_append, List.filter_append]
      rw [Plan.outlined, Plan.decisions] at h
      rw [h]
      rfl
  | cite keys =>
    rw [ShownBy, Plan.outlined, Plan.decisions, List.flatMap_singleton, outlinePreorder_singleton]
    rfl

theorem shownBy_of_blocksTyped (hq : Quiet q) {blocks : List Block}
    (ht : blocksTyped blocks = true) (level : Nat) :
    ∀ p ∈ blocks.map Block.plan, ShownBy q mode limit notes level p :=
  fun p hp => ((sound_plans_of_blocksTyped ht p hp).clear hq).shownBy level

end Shown

/-! ### Decisions about displayed nodes -/

/-- The decisions of a plan apart from the cuts. -/
def Plan.opened (limit : Option Limit) (notes : Footnotes) (level : Nat) (p : Plan) :
    List (Nat × Plan) :=
  (p.decisions limit notes level).filter fun x => !x.2.isNested

/-- The decisions of a plan one level deeper, apart from the cuts. -/
def Plan.openedBelow (limit : Option Limit) (notes : Footnotes) (level : Nat) (p : Plan) :
    List (Nat × Plan) :=
  if (beyond limit (level + 1)).isNone then p.opened limit notes (level + 1) else []

section Opened

variable {limit : Option Limit} {notes : Footnotes} {level : Nat}

theorem Plan.opened_plans (ps : List Plan) :
    (plansDecisions limit notes level ps).filter (fun x => !x.2.isNested)
      = ps.flatMap (Plan.opened limit notes level) := by
  rw [plansDecisions_eq_flatMap, List.filter_flatMap]
  rfl

theorem Plan.opened_parts (ps : List Plan) :
    (Plan.parts ps).opened limit notes level = ps.flatMap (Plan.opened limit notes level) := by
  rw [Plan.opened, Plan.decisions, Plan.opened_plans]

theorem Plan.opened_both (p q : Plan) :
    (Plan.both p q).opened limit notes level
      = p.opened limit notes level ++ q.opened limit notes level := by
  rw [Plan.opened, Plan.decisions, List.filter_append]
  rfl

theorem Plan.opened_written (values : List Json) (p : Plan) :
    (Plan.written values p).opened limit notes level
      = (level, .written values p) :: p.opened limit notes level := by
  rw [Plan.opened, Plan.decisions]
  exact List.filter_cons_of_pos rfl

theorem Plan.opened_element (tag : String) (attrs : Option AttrMap) (p : Plan) :
    (Plan.element tag attrs p).opened limit notes level = p.opened limit notes level := by
  rw [Plan.opened, Plan.decisions]
  rfl

theorem Plan.opened_nested (ps : List Plan) :
    (Plan.nested ps).opened limit notes level
      = ps.flatMap (Plan.openedBelow limit notes level) := by
  rw [Plan.opened, Plan.decisions]
  cases hb : beyond limit (level + 1) with
  | some l =>
    have hbelow : ∀ p : Plan, p.openedBelow limit notes level = [] := by
      intro p
      rw [Plan.openedBelow, hb]
      rfl
    rw [List.flatMap_congr fun p _ => hbelow p]
    simp [Plan.isNested]
  | none =>
    have hbelow : ∀ p : Plan,
        p.openedBelow limit notes level = p.opened limit notes (level + 1) := by
      intro p
      rw [Plan.openedBelow, hb]
      rfl
    rw [List.flatMap_congr fun p _ => hbelow p]
    exact Plan.opened_plans ps

theorem Plan.openedBelow_of_decisions_eq_nil {p : Plan}
    (h : p.decisions limit notes (level + 1) = []) : p.openedBelow limit notes level = [] := by
  rw [Plan.openedBelow, Plan.opened, h]
  split <;> rfl

theorem opened_inlinePlans (content : List Inline) :
    (Plan.nested (inlinePlans content)).opened limit notes level
      = (content.map Node.inline).flatMap fun c => c.plan.openedBelow limit notes level := by
  rw [Plan.opened_nested, inlinePlans_eq_map, List.flatMap_map]

theorem opened_blockPlans (blocks : List Block) :
    (Plan.nested (blockPlans blocks)).opened limit notes level
      = (blocks.map Node.block).flatMap fun c => c.plan.openedBelow limit notes level := by
  rw [Plan.opened_nested, blockPlans_eq_map, List.flatMap_map]

theorem opened_linePlans (lines : List (List Inline)) :
    (linePlans lines).flatMap (Plan.opened limit notes level)
      = (lines.flatMap fun line => line.map Node.inline).flatMap
          fun c => c.plan.openedBelow limit notes level := by
  rw [linePlans_eq_map, List.flatMap_map, List.flatMap_assoc]
  apply List.flatMap_congr
  intro line _
  rw [Plan.opened_both, opened_inlinePlans]
  exact List.append_nil _

theorem opened_itemPlans (tag : String) (items : List (List Block)) :
    (itemPlans tag items).flatMap (Plan.opened limit notes level)
      = (items.flatMap fun item => item.map Node.block).flatMap
          fun c => c.plan.openedBelow limit notes level := by
  rw [itemPlans_eq_map, List.flatMap_map, List.flatMap_assoc]
  apply List.flatMap_congr
  intro item _
  rw [Plan.plainElement, Plan.opened_element, opened_blockPlans]

theorem opened_definitionPlans (items : List Definition) :
    (definitionPlans items).flatMap (Plan.opened limit notes level)
      = (items.flatMap fun d =>
          d.term.map Node.inline ++ d.meanings.flatMap fun m => m.map Node.block).flatMap
          fun c => c.plan.openedBelow limit notes level := by
  rw [definitionPlans_eq_flatMap, List.flatMap_assoc, List.flatMap_assoc]
  apply List.flatMap_congr
  intro d _
  rw [List.flatMap_cons, List.flatMap_append, opened_itemPlans, Plan.plainElement,
    Plan.opened_element, opened_inlinePlans]

theorem opened_rowPlans (tag : String) (rows : List Row) :
    (rowPlans tag rows).flatMap (Plan.opened limit notes level)
      = (rowNodes rows).flatMap fun c => c.plan.openedBelow limit notes level := by
  rw [rowPlans_eq_map, List.flatMap_map, rowNodes, List.flatMap_assoc]
  apply List.flatMap_congr
  intro r _
  rw [Plan.plainElement, Plan.opened_element, Plan.opened_parts, cellPlans_eq_map,
    List.flatMap_map, List.flatMap_assoc]
  apply List.flatMap_congr
  intro c _
  rw [Plan.plainElement, Plan.opened_element, opened_blockPlans]

theorem opened_bodyPlans (bodies : List TableBody) :
    (bodyPlans bodies).flatMap (Plan.opened limit notes level)
      = (bodies.flatMap fun b => rowNodes b.rows).flatMap
          fun c => c.plan.openedBelow limit notes level := by
  rw [bodyPlans_eq_map, List.flatMap_map, List.flatMap_assoc]
  apply List.flatMap_congr
  intro b _
  rw [Plan.plainElement, Plan.opened_element, Plan.opened_parts, opened_rowPlans]

theorem opened_taskOr {content : List Inline}
    (h : ∀ i ∈ content, (Node.inline i).isTyped = true) {usual : Plan}
    (husual : usual.opened limit notes level
      = (Plan.nested (inlinePlans content)).opened limit notes level) :
    (taskOr content (inlinePlans content) usual).opened limit notes level
      = (content.map Node.inline).flatMap fun c => c.plan.openedBelow limit notes level := by
  rw [← opened_inlinePlans, taskOr]
  split
  · next checked hstate =>
    -- a task begins with a text and a space, about which nothing is decided
    unfold taskState at hstate
    split at hstate
    · next glyph rest =>
      have hempty : (checkBox checked).opened limit notes level = [] := rfl
      have hglyph : (Inline.str glyph).plan.openedBelow limit notes level = [] :=
        Plan.openedBelow_of_decisions_eq_nil (by rw [Inline.plan, Plan.decisions])
      have hspace : Inline.space.plan.openedBelow limit notes level = [] :=
        Plan.openedBelow_of_decisions_eq_nil (by rw [Inline.plan, Plan.decisions])
      rw [Plan.opened_both, hempty, List.nil_append, Plan.opened_nested, Plan.opened_nested]
      simp only [inlinePlans, List.drop_succ_cons, List.drop_zero, List.flatMap_cons, hglyph,
        hspace, List.nil_append]
    · cases hstate
  · next f hstate => exact absurd hstate (taskState_ne_error h f)
  · exact husual

theorem opened_attrElement {attr : Attr} (ha : attr.isTyped = true) (tag : String) (p : Plan) :
    (Plan.attrElement tag attr p).opened limit notes level = p.opened limit notes level := by
  obtain ⟨m, _, heq⟩ := exists_attrElement ha tag p
  rw [heq, Plan.opened_element]

/-- What is left open by a plan itself. -/
def Plan.here (level : Nat) (p : Plan) : List (Nat × Plan) :=
  if p.isOpen then [(level, p)] else []

theorem Plan.here_eq_nil {p : Plan} (h : p.isOpen = false) : p.here level = [] := by
  rw [Plan.here, h]
  rfl

theorem isOpen_taskOr (content : List Inline) (plans : List Plan) {usual : Plan}
    (h : usual.isOpen = false) : (taskOr content plans usual).isOpen = false :=
  taskOr_const content plans (fun _ => rfl) (fun _ _ => rfl) h

theorem isOpen_attrElement {attr : Attr} (ha : attr.isTyped = true) (tag : String) (p : Plan) :
    (Plan.attrElement tag attr p).isOpen = false := by
  obtain ⟨m, _, heq⟩ := exists_attrElement ha tag p
  rw [heq]
  rfl

/-- The decisions of the plan of a block: about the block itself, then about its shown children. -/
theorem Block.opened_plan (b : Block) (ht : (Node.block b).isTyped = true) :
    b.plan.opened limit notes level
      = b.plan.here level
        ++ b.shown.flatMap fun c => c.plan.openedBelow limit notes level := by
  have hf := Node.hasTypedFields_of_isTyped ht
  cases b with
  | plain content =>
    rw [Block.plan, Plan.here_eq_nil (isOpen_taskOr content _ rfl), List.nil_append]
    exact opened_taskOr (fun i hi => Node.isTyped_of_mem_children ht (List.mem_map_of_mem hi)) rfl
  | para content =>
    rw [Block.plan, Plan.here_eq_nil (isOpen_taskOr content _ rfl), List.nil_append]
    exact opened_taskOr (fun i hi => Node.isTyped_of_mem_children ht (List.mem_map_of_mem hi))
      (Plan.opened_element "p" none _)
  | lineBlock lines =>
    rw [Plan.here_eq_nil rfl, List.nil_append, Block.plan, Plan.opened_parts]
    exact opened_linePlans lines
  | codeBlock attr text =>
    simp only [Node.hasTypedFields, Bool.and_eq_true] at hf
    have hcode : (Plan.attrElement "pre" attr (.plainElement "code" (.text text))).opened limit
        notes level = [] := by
      rw [opened_attrElement hf.1, Plan.plainElement, Plan.opened_element]
      rfl
    rw [Plan.opened] at hcode
    rw [Block.plan, Plan.opened, Plan.decisions, List.filter_cons_of_pos (by rfl), hcode]
    rfl
  | raw format text => rfl
  | blockQuote blocks =>
    rw [Plan.here_eq_nil rfl, List.nil_append, Block.plan, Plan.plainElement, Plan.opened_element]
    exact opened_blockPlans blocks
  | orderedList attributes items =>
    rw [Block.plan, Plan.opened_written, Plan.opened_element, Plan.opened_parts, opened_itemPlans]
    rfl
  | bulletList items =>
    rw [Plan.here_eq_nil rfl, List.nil_append, Block.plan, Plan.plainElement, Plan.opened_element,
      Plan.opened_parts]
    exact opened_itemPlans "li" items
  | definitionList items =>
    rw [Plan.here_eq_nil rfl, List.nil_append, Block.plan, Plan.plainElement, Plan.opened_element,
      Plan.opened_parts]
    exact opened_definitionPlans items
  | header level' attr content =>
    simp only [Node.hasTypedFields, Bool.and_eq_true] at hf
    obtain ⟨tag, htag, _⟩ := exists_headerTag hf.1
    have hplan : (Block.header level' attr content).plan
        = .attrElement tag attr (.nested (inlinePlans content)) := by
      simp only [Block.plan, htag, Plan.withValue]
    rw [hplan, Plan.here_eq_nil (isOpen_attrElement hf.2 _ _), List.nil_append,
      opened_attrElement hf.2]
    exact opened_inlinePlans content
  | horizontalRule => rfl
  | table attr caption colSpecs head bodies foot =>
    simp only [Node.hasTypedFields, Bool.and_eq_true] at hf
    obtain ⟨m, hm, _⟩ := Attr.exists_toMap hf.1.1.1.1
    obtain ⟨headAttr, rows⟩ := head
    have hplan : (Block.table attr caption colSpecs ⟨headAttr, rows⟩ bodies foot).plan
        = .element "table" (some m) (.both (.plainElement "thead" (.parts (rowPlans "th" rows)))
          (.parts (bodyPlans bodies))) := by
      simp only [Block.plan, hm]
      rfl
    rw [hplan, Plan.here_eq_nil rfl, List.nil_append, Plan.opened_element, Plan.opened_both,
      Plan.plainElement, Plan.opened_element, Plan.opened_parts, Plan.opened_parts,
      opened_rowPlans, opened_bodyPlans, Block.shown, List.flatMap_append]
  | figure attr caption blocks =>
    rw [Block.plan, Plan.here_eq_nil (isOpen_attrElement hf _ _), List.nil_append,
      opened_attrElement hf]
    exact opened_blockPlans blocks
  | div attr blocks =>
    rw [Block.plan, Plan.here_eq_nil (isOpen_attrElement hf _ _), List.nil_append,
      opened_attrElement hf]
    exact opened_blockPlans blocks

theorem Inline.opened_plan {inPlace : Bool} (i : Inline) (ht : (Node.inline i).isTyped = true)
    (hnote : ∀ b, (Node.inline i).noteBody? = some b →
      (notes.number? (FootnoteBody.ofBlocks b)).isNone = inPlace) :
    i.plan.opened limit notes level
      = i.plan.here level
        ++ (i.shown inPlace).flatMap fun c => c.plan.openedBelow limit notes level := by
  have hf := Node.hasTypedFields_of_isTyped ht
  cases i with
  | str text => rfl
  | styled style content =>
    rw [Plan.here_eq_nil rfl, List.nil_append, Inline.plan, Plan.plainElement, Plan.opened_element]
    exact opened_inlinePlans content
  | quoted kind content =>
    rw [Plan.here_eq_nil rfl, List.nil_append, Inline.plan, Plan.opened_parts, List.flatMap_cons,
      List.flatMap_cons, opened_inlinePlans]
    exact List.append_nil _
  | cite citations content => rfl
  | code attr text =>
    simp only [Node.hasTypedFields, Bool.and_eq_true] at hf
    rw [Inline.plan, Plan.here_eq_nil (isOpen_attrElement hf.1 _ _), List.nil_append,
      opened_attrElement hf.1]
    rfl
  | space => rfl
  | softBreak => rfl
  | lineBreak => rfl
  | math kind text => rfl
  | raw format text => rfl
  | link attr content target =>
    simp only [Node.hasTypedFields, Bool.and_eq_true] at hf
    obtain ⟨own, m, _, _, _, hplan⟩ := exists_linkPlan hf.1 hf.2 content (inlinePlans content)
    have hinner : (Plan.element "a" (some m) (.nested (inlinePlans content))).opened limit notes
        level
        = (content.map Node.inline).flatMap fun c => c.plan.openedBelow limit notes level := by
      rw [Plan.opened_element]
      exact opened_inlinePlans content
    rw [Plan.opened] at hinner
    rw [Inline.plan, hplan, Plan.opened, Plan.decisions, List.filter_cons_of_pos (by rfl), hinner]
    rfl
  | image attr content target =>
    simp only [Node.hasTypedFields, Bool.and_eq_true] at hf
    have hcontent : ∀ i ∈ content, (Node.inline i).isTyped = true :=
      fun i hi => Node.isTyped_of_mem_children ht (List.mem_map_of_mem hi)
    obtain ⟨_, m, _, _, _, hplan⟩ := exists_imagePlan hf.1 hf.2 hcontent
    rw [Inline.plan, hplan]
    rfl
  | note blocks =>
    have hnumber := hnote blocks rfl
    have haside : (Plan.element "aside" asideAttrs (.nested (blockPlans blocks))).opened limit notes
        level = (blocks.map Node.block).flatMap fun c => c.plan.openedBelow limit notes level := by
      rw [Plan.opened_element]
      exact opened_blockPlans blocks
    rw [Plan.opened] at haside
    rw [Inline.plan, Plan.opened, Plan.decisions, List.filter_cons_of_pos (by rfl)]
    cases hn : notes.number? (FootnoteBody.ofBlocks blocks) with
    | some number =>
      rw [hn] at hnumber
      obtain rfl : inPlace = false := hnumber.symm
      rfl
    | none =>
      rw [hn] at hnumber
      obtain rfl : inPlace = true := hnumber.symm
      exact congrArg _ haside
  | span attr content =>
    rw [Inline.plan, Plan.here_eq_nil (isOpen_attrElement hf _ _), List.nil_append,
      opened_attrElement hf]
    exact opened_inlinePlans content

/-- The footnotes among some nodes have numbers, or none has where bodies stand in place. -/
def notesDecided (notes : Footnotes) (inPlace : Bool) (ns : List Node) : Prop :=
  ∀ b ∈ noteBodies ns, (notes.number? (FootnoteBody.ofBlocks b)).isNone = inPlace

theorem mem_noteBodies {ns : List Node} {n : Node} (hn : n ∈ ns) {b : List Block}
    (hb : n.noteBody? = some b) : b ∈ noteBodies ns :=
  List.mem_filterMap.mpr ⟨n, hn, hb⟩

theorem Node.opened_plan {inPlace : Bool} (n : Node) (ht : n.isTyped = true)
    (hnotes : notesDecided notes inPlace n.preorder) :
    n.plan.opened limit notes level
      = n.plan.here level
        ++ (n.shown inPlace).flatMap fun c => c.plan.openedBelow limit notes level := by
  cases n with
  | block b => exact b.opened_plan ht
  | inline i =>
    exact i.opened_plan ht fun b hb => hnotes b (mem_noteBodies (Node.mem_preorder_self _) hb)

theorem Node.filter_reached_displayed {inPlace : Bool} (n : Node)
    (h : (beyond limit level).isSome = true) :
    (n.displayed inPlace level).filter (reached limit) = [] := by
  rw [List.filter_eq_nil_iff]
  intro x hx
  have hle := n.level_le_of_mem_displayed inPlace level hx
  have hbeyond := isSome_beyond_of_le h hle
  rw [reached, Bool.not_eq_true, ← Option.not_isSome, hbeyond]
  rfl

/-- The decisions of the plan of a node are about the displayed nodes that are reached. -/
theorem Node.opened_plan_eq_displayed {inPlace : Bool} (n : Node) (ht : n.isTyped = true)
    (hnotes : notesDecided notes inPlace n.preorder) (hlevel : (beyond limit level).isNone = true) :
    n.plan.opened limit notes level
      = ((n.displayed inPlace level).filter (reached limit)).flatMap
          fun x => x.2.plan.here x.1 := by
  induction n using Node.induction generalizing level with
  | step n ih =>
    have hbelow : ∀ c ∈ n.shown inPlace, c.plan.openedBelow limit notes level
        = ((c.displayed inPlace (level + 1)).filter (reached limit)).flatMap
            fun x => x.2.plan.here x.1 := by
      intro c hc
      have hchild := (n.shown_sublist inPlace).subset hc
      have hsub : c.preorder.Sublist n.preorder := by
        rw [Node.preorder_eq n]
        exact (Node.preorder_sublist_of_mem hchild).trans (List.sublist_cons_self ..)
      have hcnotes : notesDecided notes inPlace c.preorder :=
        fun b hb => hnotes b ((hsub.filterMap _).subset hb)
      rw [Plan.openedBelow]
      cases hb : beyond limit (level + 1) with
      | none =>
        exact ih c hchild (Node.isTyped_of_mem_children ht hchild) hcnotes (by rw [hb]; rfl)
      | some l =>
        -- the cut leaves no decision, and no node under it is reached
        rw [Node.filter_reached_displayed c (by rw [hb]; rfl)]
        rfl
    have hself : reached limit (level, n) = true := hlevel
    rw [Node.opened_plan n ht hnotes, Node.displayed_eq, List.filter_cons_of_pos hself,
      List.flatMap_cons, List.filter_flatMap, List.flatMap_assoc, List.flatMap_congr hbelow]

theorem opened_plans_eq_displayed {inPlace : Bool} {ns : List Node}
    (ht : ∀ n ∈ ns, n.isTyped = true) (hnotes : notesDecided notes inPlace (nodesPreorder ns))
    (hlevel : (beyond limit level).isNone = true) :
    (ns.map Node.plan).flatMap (Plan.opened limit notes level)
      = ((nodesDisplayed inPlace level ns).filter (reached limit)).flatMap
          fun x => x.2.plan.here x.1 := by
  rw [nodesDisplayed, List.filter_flatMap, List.flatMap_assoc, List.flatMap_map]
  apply List.flatMap_congr
  intro n hn
  refine Node.opened_plan_eq_displayed n (ht n hn) ?_ hlevel
  exact fun b hb => hnotes b (((Node.preorder_sublist_of_mem hn).filterMap _).subset hb)

end Opened

/-- The displayed nodes of some blocks that no cut hides, in pre-order. -/
def blocksReached (limit : Option Limit) (inPlace : Bool) (blocks : List Block) : List Node :=
  ((nodesDisplayed inPlace 0 (blocks.map Node.block)).filter (reached limit)).map (·.2)

theorem mem_preorder_of_mem_blocksReached {limit : Option Limit} {inPlace : Bool}
    {blocks : List Block} {n : Node} (h : n ∈ blocksReached limit inPlace blocks) :
    n ∈ blocksPreorder blocks := by
  have hdisplayed := ((List.filter_sublist ..).map _).subset h
  have hwalk := (nodesDisplayed_sublist inPlace 0 (blocks.map Node.block)).subset hdisplayed
  rwa [walk_eq_nodesPreorder, ← blocksPreorder_eq] at hwalk

/-! ### Outlines of displayed nodes -/

theorem flatMap_filter_of_eq_nil {α γ : Type} (keep : α → Bool) {f : α → List γ}
    (h : ∀ x, keep x = false → f x = []) (xs : List α) :
    (xs.filter keep).flatMap f = xs.flatMap f := by
  induction xs with
  | nil => rfl
  | cons x rest ih =>
    cases hx : keep x with
    | true => rw [List.filter_cons_of_pos hx, List.flatMap_cons, List.flatMap_cons, ih]
    | false => rw [List.filter_cons_of_neg (by simp [hx]), List.flatMap_cons, h x hx, ih,
        List.nil_append]

section Displayed

variable {q : OutlineNode → Bool} {mode : RawMode} {limit : Option Limit} {notes : Footnotes}
  {level : Nat}

theorem filter_shows_of_isNested (hcut : ∀ l : Limit,
    ((OutlineNode.diagnostic l.wording).preorder.filter q) = []) {p : Plan}
    (hp : p.isNested = true) : (p.shows mode limit notes level).filter q = [] := by
  cases p with
  | nested ps =>
    rw [Plan.shows]
    cases beyond limit (level + 1) with
    | some l => exact hcut l
    | none => rfl
  | _ => cases hp

theorem flatMap_here (hcut : ∀ l : Limit,
    ((OutlineNode.diagnostic l.wording).preorder.filter q) = []) (p : Plan) :
    ((p.here level).flatMap fun y => (y.2.shows mode limit notes y.1).filter q)
      = (p.shows mode limit notes level).filter q := by
  cases p with
  | nested ps => exact (filter_shows_of_isNested hcut rfl).symm
  | written _ _ => rfl
  | link _ _ _ _ => rfl
  | code _ _ _ => rfl
  | raw _ _ _ => exact List.flatMap_singleton ..
  | note _ _ => exact List.flatMap_singleton ..
  | cite _ => exact List.flatMap_singleton ..
  | _ => rfl

/-- What is made of the decisions of blocks, if cuts count for nothing, is made of the displayed
nodes that are reached. -/
theorem flatMap_blocksDecisions {γ : Type} {f : Nat × Plan → List γ}
    (hcut : ∀ x : Nat × Plan, x.2.isNested = true → f x = []) {inPlace : Bool}
    {blocks : List Block} (ht : blocksTyped blocks = true)
    (hnotes : notesDecided notes inPlace (blocksPreorder blocks))
    (hlevel : (beyond limit level).isNone = true) :
    (plansDecisions limit notes level (blocks.map Block.plan)).flatMap f
      = ((nodesDisplayed inPlace level (blocks.map Node.block)).filter (reached limit)).flatMap
          fun x => (x.2.plan.here x.1).flatMap f := by
  have hnodes : ∀ n ∈ blocks.map Node.block, n.isTyped = true := by
    rw [List.forall_mem_map]
    exact (blocksTyped_iff blocks).mp ht
  have hplans : blocks.map Block.plan = (blocks.map Node.block).map Node.plan := by
    rw [List.map_map]
    rfl
  have hskip : ∀ x : Nat × Plan, (!x.2.isNested) = false → f x = [] := by
    intro x hx
    rw [Bool.not_eq_false'] at hx
    exact hcut x hx
  rw [blocksPreorder_eq] at hnotes
  rw [← flatMap_filter_of_eq_nil (fun x : Nat × Plan => !x.2.isNested) hskip, Plan.opened_plans,
    hplans, opened_plans_eq_displayed hnodes hnotes hlevel, List.flatMap_assoc]

/-- What is made of the decisions of blocks at the top, if it is made of links, code blocks, raw
content, footnotes, citations and values to be written alone, is made of the nodes reached. -/
theorem flatMap_blocksReached {γ : Type} {f : Plan → List γ}
    (hshut : ∀ p : Plan, p.isOpen = false → f p = []) {inPlace : Bool} {blocks : List Block}
    (ht : blocksTyped blocks = true)
    (hnotes : notesDecided notes inPlace (blocksPreorder blocks)) :
    ((plansDecisions limit notes 0 (blocks.map Block.plan)).flatMap fun x => f x.2)
      = (blocksReached limit inPlace blocks).flatMap fun n => f n.plan := by
  have hcut : ∀ x : Nat × Plan, x.2.isNested = true → f x.2 = [] := by
    intro x hp
    exact hshut x.2 (Plan.isOpen_of_isNested hp)
  rw [flatMap_blocksDecisions hcut ht hnotes (isNone_beyond_zero limit), blocksReached,
    List.flatMap_map]
  apply List.flatMap_congr
  rintro ⟨level, n⟩ _
  rw [Plan.here]
  split
  · exact List.flatMap_singleton ..
  · next hopen =>
    rw [Bool.not_eq_true] at hopen
    rw [hshut n.plan hopen]
    rfl

/-- What a predicate picks from the outline of blocks, if the decisions show it and it passes over
cuts, is shown by the displayed nodes that are reached. -/
theorem filter_blocksOutlined (hcut : ∀ l : Limit,
    ((OutlineNode.diagnostic l.wording).preorder.filter q) = []) {inPlace : Bool}
    {blocks : List Block} (hshown : ∀ p ∈ blocks.map Block.plan, ShownBy q mode limit notes level p)
    (ht : blocksTyped blocks = true)
    (hnotes : notesDecided notes inPlace (blocksPreorder blocks))
    (hlevel : (beyond limit level).isNone = true) :
    (outlinePreorder (blocksOutlined mode limit notes level blocks)).filter q
      = ((nodesDisplayed inPlace level (blocks.map Node.block)).filter (reached limit)).flatMap
          fun x => (x.2.plan.shows mode limit notes x.1).filter q := by
  have hskip : ∀ x : Nat × Plan, x.2.isNested = true →
      (x.2.shows mode limit notes x.1).filter q = [] :=
    fun _ hx => filter_shows_of_isNested hcut hx
  rw [blocksOutlined, shownBy_plans hshown, flatMap_blocksDecisions hskip ht hnotes hlevel]
  apply List.flatMap_congr
  intro x _
  exact flatMap_here hcut x.2.plan

end Displayed

end PandocHtml
