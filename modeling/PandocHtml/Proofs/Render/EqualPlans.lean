import PandocHtml.Proofs.Document.AttributeOrder
import PandocHtml.Proofs.Render.AlikeOutlines

/-!
# Plans of equal nodes

Equal nodes ask for the same, except that the attributes they show may come in another order or,
where a name is given two values, with another value.  However the mappings of corresponding nodes
compare, the mappings in their plans compare too, also where defaults are added to them.
-/

namespace PandocHtml

/-! ### Shown attributes -/

/-- The attributes that a node gives its element. -/
def Node.shownAttr? : Node → Option Attr
  | .block b =>
    match b with
    | .codeBlock attr _ | .header _ attr _ | .table attr _ _ _ _ _ | .figure attr _ _
    | .div attr _ => some attr
    | _ => none
  | .inline i =>
    match i with
    | .code attr _ | .link attr _ _ | .image attr _ _ | .span attr _ => some attr
    | _ => none

/-- The mapping that a node shows on its element. -/
def Node.shownMap? (n : Node) : Option AttrMap := n.shownAttr?.bind fun attr => attr.toMap.toOption

theorem Node.shownMap?_eq {n : Node} {attr : Attr} {m : AttrMap} (hn : n.shownAttr? = some attr)
    (hm : attr.toMap = .ok m) : n.shownMap? = some m := by
  rw [shownMap?, hn, Option.bind_some, hm]
  rfl

theorem Node.exists_toMap {n : Node} (h : n.isTyped = true) {attr : Attr}
    (hn : n.shownAttr? = some attr) : attr.isTyped = true ∧ ∃ m, attr.toMap = .ok m := by
  have hf := Node.hasTypedFields_of_isTyped h
  have htyped : attr.isTyped = true := by
    cases n with
    | block b =>
      cases b with
      | codeBlock | header | table | figure | div =>
        cases hn
        simp only [Node.hasTypedFields, Bool.and_eq_true] at hf
        simp only [hf]
      | _ => cases hn
    | inline i =>
      cases i with
      | code | link | image | span =>
        cases hn
        simp only [Node.hasTypedFields, Bool.and_eq_true] at hf
        simp only [hf]
      | _ => cases hn
  obtain ⟨m, hm, _⟩ := Attr.exists_toMap htyped
  exact ⟨htyped, m, hm⟩

/-- The mappings that two nodes show, if both show one, compare. -/
def Node.AttrsBy (r : AttrMap → AttrMap → Prop) (n m : Node) : Prop :=
  ∀ x y, n.shownMap? = some x → m.shownMap? = some y → r x y

theorem Node.Equal.shownAttr {n m : Node} (h : Node.Equal n m) {a b : Attr}
    (ha : n.shownAttr? = some a) (hb : m.shownAttr? = some b) : a.same b = true := by
  cases h.matchesBy with
  | block hbc =>
    cases hbc with
    | codeBlock _ hattr | header _ hattr _ | table hattr _ _ _ _ | figure hattr _ _
    | div hattr _ =>
      cases ha
      cases hb
      exact hattr
    | _ => cases ha
  | inline hij =>
    cases hij with
    | code _ hattr | link _ hattr _ | image _ hattr _ | span hattr _ =>
      cases ha
      cases hb
      exact hattr
    | _ => cases ha

/-- Some node shows attributes that give a name two values. -/
def TwoValuedUnder (ns : List Node) (name : String) : Prop :=
  ∃ attr ∈ ns.filterMap Node.shownAttr?, attr.TwoValued name

theorem Node.Equal.attrsBy_agreeExcept {n m : Node} (h : Node.Equal n m) {ns : List Node}
    (hn : n ∈ ns) : n.AttrsBy (AttrMap.AgreeExcept (TwoValuedUnder ns)) m := by
  intro x y hx hy name hname
  obtain ⟨a, ha, hxa⟩ := Option.bind_eq_some_iff.mp hx
  obtain ⟨b, hb, hyb⟩ := Option.bind_eq_some_iff.mp hy
  obtain ⟨hatyped, x', hx'⟩ := Node.exists_toMap h.typed.1 ha
  obtain ⟨hbtyped, y', hy'⟩ := Node.exists_toMap h.typed.2 hb
  rw [hx'] at hxa
  rw [hy'] at hyb
  obtain rfl : x' = x := Option.some.inj hxa
  obtain rfl : y' = y := Option.some.inj hyb
  have hagree := Attr.toMap_agreeExcept hatyped hbtyped (h.shownAttr ha hb) hx' hy'
  exact hagree name fun htwo => hname ⟨a, List.mem_filterMap.mpr ⟨n, hn, ha⟩, htwo⟩

/-- Equal nodes whose mappings compare all the way down. -/
structure Node.EqualBy (r : AttrMap → AttrMap → Prop) (n m : Node) : Prop where
  equal : Node.Equal n m
  attrs : List.Forall₂ (Node.AttrsBy r) n.preorder m.preorder

namespace Node.EqualBy

variable {r : AttrMap → AttrMap → Prop} {n m : Node}

theorem attrs_cons (h : n.EqualBy r m) :
    n.AttrsBy r m
      ∧ List.Forall₂ (Node.AttrsBy r) (nodesPreorder n.children) (nodesPreorder m.children) := by
  have hattrs := h.attrs
  rw [Node.preorder_eq n, Node.preorder_eq m] at hattrs
  exact List.forall₂_cons.mp hattrs

theorem children (h : n.EqualBy r m) : List.Forall₂ (Node.EqualBy r) n.children m.children := by
  have hparts := h.equal.children.imp fun _ _ hc => hc.preorder
  have hattrs := forall₂_of_flatMap hparts h.attrs_cons.2
  exact List.Forall₂.mp (fun _ _ hequal hc => ⟨hequal, hc⟩) h.equal.children hattrs

theorem preorder (h : n.EqualBy r m) : List.Forall₂ (Node.EqualBy r) n.preorder m.preorder := by
  induction n using Node.induction generalizing m with
  | step n ih =>
    have hbelow := forall₂_of_mem h.children fun c hc c' _ hcc => ih c hc hcc
    rw [Node.preorder_eq n, Node.preorder_eq m]
    exact .cons h (forall₂_flatMap hbelow)

end Node.EqualBy

section Blocks

variable {xs ys : List Block}

theorem blocksPreorder_equal (h : BlocksBy Node.Equal xs ys) :
    List.Forall₂ Node.Equal (blocksPreorder xs) (blocksPreorder ys) := by
  rw [blocksPreorder_eq, blocksPreorder_eq]
  exact forall₂_flatMap (h.imp fun _ _ hb => hb.preorder)

theorem blocksBy_equalBy {r : AttrMap → AttrMap → Prop} (h : BlocksBy Node.Equal xs ys)
    (hattrs : List.Forall₂ (Node.AttrsBy r) (blocksPreorder xs) (blocksPreorder ys)) :
    BlocksBy (Node.EqualBy r) xs ys := by
  rw [blocksPreorder_eq, blocksPreorder_eq] at hattrs
  have hparts := forall₂_of_flatMap (h.imp fun _ _ hb => hb.preorder) hattrs
  exact List.Forall₂.mp (fun _ _ hequal hb => ⟨hequal, hb⟩) h hparts

/-- The mappings of equal blocks agree but under the names that a node gives two values. -/
theorem blocksBy_equalBy_agreeExcept (h : BlocksBy Node.Equal xs ys) :
    BlocksBy (Node.EqualBy (AttrMap.AgreeExcept (TwoValuedUnder (blocksPreorder xs)))) xs ys := by
  apply blocksBy_equalBy h
  apply forall₂_of_mem (blocksPreorder_equal h)
  intro n hn m _ hnm
  exact hnm.attrsBy_agreeExcept hn

end Blocks

/-! ### What content reads -/

theorem inlineValues_congr {xs ys : List Inline}
    (h : InlinesBy (fun n m => n.inline?.map Inline.plainValue = m.inline?.map Inline.plainValue)
      xs ys) : inlineValues xs = inlineValues ys := by
  induction xs generalizing ys with
  | nil =>
    cases ys with
    | nil => rfl
    | cons j ys => cases h
  | cons i xs ih =>
    cases ys with
    | nil => cases h
    | cons j ys =>
      obtain ⟨hij, hrest⟩ := List.forall₂_cons.mp h
      have hvalue : i.plainValue = j.plainValue := Option.some.inj hij
      rw [inlineValues, inlineValues, hvalue, ih hrest]

theorem Node.Equal.plainValue {n m : Node} (h : Node.Equal n m) :
    n.inline?.map Inline.plainValue = m.inline?.map Inline.plainValue := by
  induction n using Node.induction generalizing m with
  | step n ih =>
    have hbelow := forall₂_of_mem h.children fun c hc c' _ hcc => ih c hc hcc
    cases h.matchesBy.of_children hbelow with
    | block _ => rfl
    | inline hij =>
      apply congrArg some
      cases hij with
      | styled _ hxs | quoted _ hxs | cite _ hxs | link _ _ hxs | image _ _ hxs | span _ hxs =>
        simp only [Inline.plainValue, inlineValues_congr hxs]
      | _ => simp only [Inline.plainValue]

theorem plainText_congr {xs ys : List Inline} (h : InlinesBy Node.Equal xs ys) :
    plainText xs = plainText ys := by
  have hvalues : inlineValues xs = inlineValues ys :=
    inlineValues_congr (h.imp fun _ _ hij => hij.plainValue)
  rw [plainText, plainText, hvalues]

theorem taskState_congr {xs ys : List Inline} (h : InlinesBy Node.Equal xs ys) :
    taskState xs = taskState ys := by
  rw [InlinesBy, forall₂_map_iff] at h
  cases h with
  | nil => rfl
  | cons hfirst hrest =>
    cases hfirst.matchesBy with
    | inline hfirst =>
      cases hfirst with
      | str text =>
        cases hrest with
        | nil => rfl
        | cons hsecond _ =>
          cases hsecond.matchesBy with
          | inline hsecond => cases hsecond <;> rfl
      | _ => rfl

/-! ### Plans of corresponding parts -/

section Plans

variable {r : AttrMap → AttrMap → Prop}

/-- Equal nodes with alike plans. -/
structure Node.PlannedBy (r : AttrMap → AttrMap → Prop) (n m : Node) : Prop where
  equal : Node.Equal n m
  plan : n.plan.AlikeBy r m.plan

theorem alike_inlinePlans {xs ys : List Inline} (h : InlinesBy (Node.PlannedBy r) xs ys) :
    List.Forall₂ (Plan.AlikeBy r) (inlinePlans xs) (inlinePlans ys) := by
  rw [inlinePlans_eq_map, inlinePlans_eq_map, forall₂_map_iff]
  exact h.imp fun _ _ hnm => hnm.plan

theorem alike_blockPlans {xs ys : List Block} (h : BlocksBy (Node.PlannedBy r) xs ys) :
    List.Forall₂ (Plan.AlikeBy r) (blockPlans xs) (blockPlans ys) := by
  rw [blockPlans_eq_map, blockPlans_eq_map, forall₂_map_iff]
  exact h.imp fun _ _ hnm => hnm.plan

theorem alike_linePlans {xs ys : List (List Inline)}
    (h : List.Forall₂ (InlinesBy (Node.PlannedBy r)) xs ys) :
    List.Forall₂ (Plan.AlikeBy r) (linePlans xs) (linePlans ys) := by
  rw [linePlans_eq_map, linePlans_eq_map, forall₂_map_iff]
  exact h.imp fun _ _ hline => .both (.nested (alike_inlinePlans hline)) (.text _)

theorem alike_itemPlans (tag : String) {xs ys : List (List Block)}
    (h : List.Forall₂ (BlocksBy (Node.PlannedBy r)) xs ys) :
    List.Forall₂ (Plan.AlikeBy r) (itemPlans tag xs) (itemPlans tag ys) := by
  rw [itemPlans_eq_map, itemPlans_eq_map, forall₂_map_iff]
  exact h.imp fun _ _ hitem => .plainElement tag (.nested (alike_blockPlans hitem))

theorem alike_definitionPlans {xs ys : List Definition}
    (h : List.Forall₂ (Definition.MatchesBy (Node.PlannedBy r)) xs ys) :
    List.Forall₂ (Plan.AlikeBy r) (definitionPlans xs) (definitionPlans ys) := by
  rw [definitionPlans_eq_flatMap, definitionPlans_eq_flatMap]
  apply forall₂_flatMap
  apply h.imp
  intro d e hd
  have hterm : (Plan.plainElement "dt" (.nested (inlinePlans d.term))).AlikeBy r
      (.plainElement "dt" (.nested (inlinePlans e.term))) :=
    .plainElement "dt" (.nested (alike_inlinePlans hd.term))
  exact .cons hterm (alike_itemPlans "dd" hd.meanings)

theorem alike_rowPlans (tag : String) {xs ys : List Row} (h : RowsBy (Node.PlannedBy r) xs ys) :
    List.Forall₂ (Plan.AlikeBy r) (rowPlans tag xs) (rowPlans tag ys) := by
  rw [rowPlans_eq_map, rowPlans_eq_map, forall₂_map_iff]
  apply h.imp
  intro row row' hcells
  refine .plainElement "tr" (.parts ?_)
  rw [cellPlans_eq_map, cellPlans_eq_map, forall₂_map_iff]
  exact hcells.imp fun _ _ hblocks => .plainElement tag (.nested (alike_blockPlans hblocks))

theorem alike_bodyPlans {xs ys : List TableBody}
    (h : List.Forall₂ (TableBody.MatchesBy (Node.PlannedBy r)) xs ys) :
    List.Forall₂ (Plan.AlikeBy r) (bodyPlans xs) (bodyPlans ys) := by
  rw [bodyPlans_eq_map, bodyPlans_eq_map, forall₂_map_iff]
  exact h.imp fun _ _ hbody => .plainElement "tbody" (.parts (alike_rowPlans "td" hbody.rows))

/-! ### Plans with attributes -/

/-- Attributes whose mappings compare. -/
def Attr.MapsBy (r : AttrMap → AttrMap → Prop) (a b : Attr) : Prop :=
  ∃ x y, a.toMap = .ok x ∧ b.toMap = .ok y ∧ r x y

theorem Node.AttrsBy.mapsBy {n m : Node} (h : n.AttrsBy r m) (hequal : Node.Equal n m) {a b : Attr}
    (ha : n.shownAttr? = some a) (hb : m.shownAttr? = some b) : a.MapsBy r b := by
  obtain ⟨_, x, hx⟩ := Node.exists_toMap hequal.typed.1 ha
  obtain ⟨_, y, hy⟩ := Node.exists_toMap hequal.typed.2 hb
  exact ⟨x, y, hx, hy, h x y (Node.shownMap?_eq ha hx) (Node.shownMap?_eq hb hy)⟩

theorem alike_attrElement (tag : String) {a b : Attr} (h : a.MapsBy r b) {p q : Plan}
    (hpq : p.AlikeBy r q) : (Plan.attrElement tag a p).AlikeBy r (.attrElement tag b q) := by
  obtain ⟨x, y, hx, hy, hxy⟩ := h
  simp only [Plan.attrElement, hx, hy, Plan.withValue]
  exact .element tag (.some hxy) hpq

variable (hr : AttrMap.Comparison r)
include hr

theorem alike_linkPlan (target : Target) {a b : Attr} (h : a.MapsBy r b) {xs ys : List Inline}
    {ps qs : List Plan} (hps : List.Forall₂ (Plan.AlikeBy r) ps qs) :
    (linkPlan a xs target ps).AlikeBy r (linkPlan b ys target qs) := by
  obtain ⟨x, y, hx, hy, hxy⟩ := h
  simp only [linkPlan, Attr.toMapWith_eq hx, Attr.toMapWith_eq hy, hx, hy, Plan.withValue]
  exact .link (.element "a" (.some (hr.withDefaults _ hxy)) (.nested hps))

theorem alike_imagePlan {target : Target} {a b : Attr} (h : a.MapsBy r b) {xs ys : List Inline}
    (ht : target.isTyped = true) (ha : a.isTyped = true)
    (hxs : ∀ i ∈ xs, (Node.inline i).isTyped = true) (hxy : InlinesBy Node.Equal xs ys) :
    (imagePlan a xs target).AlikeBy r (imagePlan b ys target) := by
  obtain ⟨x, y, hx, hy, hmaps⟩ := h
  obtain ⟨description, _, _, hdescription, _⟩ := exists_imagePlan ha ht hxs
  have hother := hdescription
  rw [plainText_congr hxy] at hother
  simp only [imagePlan, hdescription, hother, Attr.toMapWith_eq hx, Attr.toMapWith_eq hy,
    Plan.withValue]
  exact .leaf "img" (.some (hr.withDefaults _ hmaps))

theorem alike_taskOr {xs ys : List Inline} (hxs : ∀ i ∈ xs, (Node.inline i).isTyped = true)
    (hxy : InlinesBy Node.Equal xs ys) {ps qs : List Plan}
    (hps : List.Forall₂ (Plan.AlikeBy r) ps qs) {p q : Plan} (hpq : p.AlikeBy r q) :
    (taskOr xs ps p).AlikeBy r (taskOr ys qs q) := by
  have hstate := taskState_congr hxy
  rw [taskOr, taskOr, ← hstate]
  cases hxs' : taskState xs with
  | none => exact hpq
  | some state =>
    cases state with
    | error f => exact absurd hxs' (taskState_ne_error hxs f)
    | ok checked =>
      have hbox : (checkBox checked).AlikeBy r (checkBox checked) :=
        .leaf "input" (optionRel_refl hr.refl _)
      exact .both hbox (.nested (List.forall₂_drop 2 hps))

/-! ### Plans of trees -/

theorem Inline.MatchesBy.plan {i j : Inline} (h : Inline.MatchesBy (Node.PlannedBy r) i j)
    (hij : Node.Equal (.inline i) (.inline j)) (hattrs : (Node.inline i).AttrsBy r (.inline j)) :
    i.plan.AlikeBy r j.plan := by
  have hcontent : ∀ {xs ys : List Inline}, InlinesBy (Node.PlannedBy r) xs ys →
      (Plan.nested (inlinePlans xs)).AlikeBy r (.nested (inlinePlans ys)) :=
    fun hxs => .nested (alike_inlinePlans hxs)
  cases h with
  | str text => exact .text text
  | styled style hxs => exact .plainElement style.element (hcontent hxs)
  | quoted kind hxs =>
    exact .parts (.cons (.text _) (.cons (hcontent hxs) (.cons (.text _) .nil)))
  | cite _ _ => exact .cite _ _
  | code text _ => exact alike_attrElement "code" (hattrs.mapsBy hij rfl rfl) (.text text)
  | space => exact .text _
  | softBreak => exact .text _
  | lineBreak => exact .leaf "br" .none
  | math kind text => exact .written _ (.element "span" (.some (hr.refl _)) (.text _))
  | raw format text => exact .raw .inline format text
  | link target _ hxs =>
    have hplans := alike_inlinePlans hxs
    exact alike_linkPlan hr target (hattrs.mapsBy hij rfl rfl) hplans
  | @image a b xs ys target _ hxs =>
    have hf := Node.hasTypedFields_of_isTyped hij.typed.1
    simp only [Node.hasTypedFields, Bool.and_eq_true] at hf
    have hequal := hxs.imp fun _ _ hc => hc.equal
    refine alike_imagePlan hr (hattrs.mapsBy hij rfl rfl) hf.2 hf.1 (fun i hi => ?_) hequal
    exact Node.isTyped_of_mem_children hij.typed.1 (List.mem_map_of_mem hi)
  | note hxs =>
    have hbody := hxs.imp fun _ _ hc => hc.equal
    exact .note hbody (.element "aside" (.some (hr.refl _)) (.nested (alike_blockPlans hxs)))
  | span _ hxs => exact alike_attrElement "span" (hattrs.mapsBy hij rfl rfl) (hcontent hxs)

theorem Block.MatchesBy.plan {b c : Block} (h : Block.MatchesBy (Node.PlannedBy r) b c)
    (hbc : Node.Equal (.block b) (.block c)) (hattrs : (Node.block b).AttrsBy r (.block c)) :
    b.plan.AlikeBy r c.plan := by
  have hf := Node.hasTypedFields_of_isTyped hbc.typed.1
  have hinlines : ∀ {xs : List Inline}, b.children = xs.map Node.inline →
      ∀ i ∈ xs, (Node.inline i).isTyped = true := by
    intro xs hxs i hi
    refine Node.isTyped_of_mem_children hbc.typed.1 ?_
    show Node.inline i ∈ b.children
    rw [hxs]
    exact List.mem_map_of_mem hi
  cases h with
  | plain hxs =>
    have hplans := alike_inlinePlans hxs
    exact alike_taskOr hr (hinlines rfl) (hxs.imp fun _ _ hc => hc.equal) hplans (.nested hplans)
  | para hxs =>
    have hplans := alike_inlinePlans hxs
    exact alike_taskOr hr (hinlines rfl) (hxs.imp fun _ _ hc => hc.equal) hplans
      (.plainElement "p" (.nested hplans))
  | lineBlock hlines => exact .parts (alike_linePlans hlines)
  | codeBlock text _ =>
    have hinside := Plan.AlikeBy.plainElement (r := r) "code" (.text text)
    exact .code (alike_attrElement "pre" (hattrs.mapsBy hbc rfl rfl) hinside)
  | raw format text => exact .raw .block format text
  | blockQuote hxs => exact .plainElement "blockquote" (.nested (alike_blockPlans hxs))
  | orderedList attributes hitems =>
    exact .written _ (.element "ol" (.some (hr.refl _)) (.parts (alike_itemPlans "li" hitems)))
  | bulletList hitems => exact .plainElement "ul" (.parts (alike_itemPlans "li" hitems))
  | definitionList hitems => exact .plainElement "dl" (.parts (alike_definitionPlans hitems))
  | header level _ hxs =>
    simp only [Node.hasTypedFields, Bool.and_eq_true] at hf
    obtain ⟨tag, htag, _⟩ := exists_headerTag hf.1
    simp only [Block.plan, htag, Plan.withValue]
    exact alike_attrElement tag (hattrs.mapsBy hbc rfl rfl) (.nested (alike_inlinePlans hxs))
  | horizontalRule => exact .leaf "hr" .none
  | @table a a' _ _ _ _ head head' _ _ _ _ _ _ hhead hbodies _ =>
    obtain ⟨x, y, hx, hy, hxy⟩ := hattrs.mapsBy hbc rfl rfl
    obtain ⟨headAttr, rows⟩ := head
    obtain ⟨headAttr', rows'⟩ := head'
    simp only [Block.plan, hx, hy]
    have hrows := alike_rowPlans "th" hhead
    exact .element "table" (.some hxy)
      (.both (.plainElement "thead" (.parts hrows)) (.parts (alike_bodyPlans hbodies)))
  | figure _ _ hxs =>
    exact alike_attrElement "figure" (hattrs.mapsBy hbc rfl rfl) (.nested (alike_blockPlans hxs))
  | div _ hxs =>
    exact alike_attrElement "div" (hattrs.mapsBy hbc rfl rfl) (.nested (alike_blockPlans hxs))

/-- Equal nodes whose mappings compare have alike plans. -/
theorem Node.EqualBy.planned {n m : Node} (h : n.EqualBy r m) : n.PlannedBy r m := by
  induction n using Node.induction generalizing m with
  | step n ih =>
    have hbelow := forall₂_of_mem h.children fun c hc c' _ hcc => ih c hc hcc
    have hequal := h.equal
    have hattrs := h.attrs_cons.1
    refine ⟨hequal, ?_⟩
    cases hequal.matchesBy.of_children hbelow with
    | block hbc => exact hbc.plan hr hequal hattrs
    | inline hij => exact hij.plan hr hequal hattrs

/-! ### Outlines of equal blocks -/

/-- Equal blocks have alike outlines at every level, under numberings that agree. -/
theorem blocksOutlined_alike {notes others : Footnotes} (hnotes : notes.Agree others)
    (mode : RawMode) (limit : Option Limit) (depth : Nat) {xs ys : List Block}
    (h : BlocksBy (Node.EqualBy r) xs ys) :
    Outline.AlikeBy r (blocksOutlined mode limit notes depth xs)
      (blocksOutlined mode limit others depth ys) := by
  apply plansOutlined_alike mode limit hr.refl hnotes depth
  rw [BlocksBy, forall₂_map_iff] at h
  rw [forall₂_map_iff]
  exact h.imp fun _ _ hbc => (hbc.planned hr).plan

end Plans

end PandocHtml
