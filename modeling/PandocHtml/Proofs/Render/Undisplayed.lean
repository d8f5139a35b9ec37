import PandocHtml.Proofs.Render.Total

/-!
# What is never displayed

Captions, column specifications, table feet, the attributes and spans of rows and cells, the
delimiters of lists and all of a citation but its key are read and kept, but reach neither an output
nor a report.  With these parts erased, blocks have the same plans up to what the standard rules
leave undecided, and plans that agree so far are carried out alike.
-/

namespace PandocHtml

/-! ### Erasing -/

/-- A citation with its key alone. -/
def Citation.erased (c : Citation) : Citation := ⟨c.id, [], [], .normal, .int 0, .int 0⟩

mutual

/-- An inline without the parts that are not displayed; images are kept whole. -/
def Inline.erased : Inline → Inline
  | .str text => .str text
  | .styled style content => .styled style (inlinesErased content)
  | .quoted kind content => .quoted kind (inlinesErased content)
  | .cite citations _ => .cite (citations.map Citation.erased) []
  | .code attr text => .code attr text
  | .space => .space
  | .softBreak => .softBreak
  | .lineBreak => .lineBreak
  | .math kind text => .math kind text
  | .raw format text => .raw format text
  | .link attr content target => .link attr (inlinesErased content) target
  | .image attr content target => .image attr content target
  | .note blocks => .note (blocksErased blocks)
  | .span attr content => .span attr (inlinesErased content)

/-- A block without the parts that are not displayed. -/
def Block.erased : Block → Block
  | .plain content => .plain (inlinesErased content)
  | .para content => .para (inlinesErased content)
  | .lineBlock lines => .lineBlock (linesErased lines)
  | .codeBlock attr text => .codeBlock attr text
  | .raw format text => .raw format text
  | .blockQuote blocks => .blockQuote (blocksErased blocks)
  | .orderedList attributes items =>
    .orderedList ⟨attributes.start, attributes.style, .default⟩ (itemsErased items)
  | .bulletList items => .bulletList (itemsErased items)
  | .definitionList items => .definitionList (definitionsErased items)
  | .header level attr content => .header level attr (inlinesErased content)
  | .horizontalRule => .horizontalRule
  | .table attr _ _ head bodies _ =>
    .table attr ⟨none, []⟩ [] head.erased (bodiesErased bodies) ⟨Attr.none, []⟩
  | .figure attr _ blocks => .figure attr ⟨none, []⟩ (blocksErased blocks)
  | .div attr blocks => .div attr (blocksErased blocks)

def RowGroup.erased : RowGroup → RowGroup
  | ⟨_, rows⟩ => ⟨Attr.none, rowsErased rows⟩

def inlinesErased : List Inline → List Inline
  | [] => []
  | i :: rest => i.erased :: inlinesErased rest

def blocksErased : List Block → List Block
  | [] => []
  | b :: rest => b.erased :: blocksErased rest

def linesErased : List (List Inline) → List (List Inline)
  | [] => []
  | line :: rest => inlinesErased line :: linesErased rest

def itemsErased : List (List Block) → List (List Block)
  | [] => []
  | item :: rest => blocksErased item :: itemsErased rest

def definitionsErased : List Definition → List Definition
  | [] => []
  | ⟨term, meanings⟩ :: rest =>
    ⟨inlinesErased term, itemsErased meanings⟩ :: definitionsErased rest

def bodiesErased : List TableBody → List TableBody
  | [] => []
  | ⟨_, _, _, rows⟩ :: rest => ⟨Attr.none, .int 0, [], rowsErased rows⟩ :: bodiesErased rest

def rowsErased : List Row → List Row
  | [] => []
  | ⟨_, cells⟩ :: rest => ⟨Attr.none, cellsErased cells⟩ :: rowsErased rest

def cellsErased : List Cell → List Cell
  | [] => []
  | ⟨_, _, _, _, blocks⟩ :: rest =>
    ⟨Attr.none, .default, .int 1, .int 1, blocksErased blocks⟩ :: cellsErased rest

end

/-! ### Bare plans -/

mutual

/-- A plan with the standard forms of links and code blocks, and every footnote in place. -/
def Plan.bare : Plan → Plan
  | .text content => .text content
  | .parts ps => .parts (plansBare ps)
  | .both p q => .both p.bare q.bare
  | .leaf tag attrs => .leaf tag attrs
  | .element tag attrs children => .element tag attrs children.bare
  | .nested ps => .nested (plansBare ps)
  | .written values p => .written values p.bare
  | .fault f => .fault f
  | .link _ _ _ standard => standard.bare
  | .code _ _ standard => standard.bare
  | .raw kind format text => .raw kind format text
  | .note _ aside => aside.bare
  | .cite keys => .cite keys

def plansBare : List Plan → List Plan
  | [] => []
  | p :: rest => p.bare :: plansBare rest

end

theorem plansBare_eq_map (ps : List Plan) : plansBare ps = ps.map Plan.bare := by
  induction ps with
  | nil => rfl
  | cons p rest ih => rw [plansBare, ih, List.map_cons]

theorem plansBare_append (ps qs : List Plan) :
    plansBare (ps ++ qs) = plansBare ps ++ plansBare qs := by
  simp only [plansBare_eq_map, List.map_append]

theorem Plan.bare_withValue {α : Type} (r : Except Fault α) (f : α → Plan) :
    (withValue r f).bare = withValue r fun a => (f a).bare := by
  cases r <;> rfl

theorem Plan.bare_attrElement (tag : String) (attr : Attr) (p : Plan) :
    (attrElement tag attr p).bare = attrElement tag attr p.bare := by
  rw [attrElement, bare_withValue]
  simp only [bare]
  rfl

theorem Plan.bare_plainElement (tag : String) (p : Plan) :
    (plainElement tag p).bare = plainElement tag p.bare := by
  rw [plainElement, bare, plainElement]

theorem bare_linkPlan (attr : Attr) (content : List Inline) (target : Target) (ps : List Plan) :
    (linkPlan attr content target ps).bare
      = Plan.withValue attr.toMap fun _ =>
        Plan.withValue (attr.toMapWith [("href", target.url), ("title", target.title)]) fun m =>
          .element "a" (some m) (.nested (plansBare ps)) := by
  simp only [linkPlan, Plan.bare_withValue, Plan.bare]

theorem bare_taskOr (content : List Inline) (ps : List Plan) (usual : Plan) :
    (taskOr content ps usual).bare = taskOr content (plansBare ps) usual.bare := by
  rw [taskOr, taskOr]
  cases taskState content with
  | none => rfl
  | some state =>
    cases state with
    | error f => rfl
    | ok checked =>
      rw [plansBare_eq_map, ← List.map_drop, ← plansBare_eq_map]
      rfl

/-! ### Plans of erased blocks -/

theorem taskState_erased (content : List Inline) :
    taskState (inlinesErased content) = taskState content := by
  match content with
  | [] => rfl
  | [i] => cases i <;> rfl
  | i :: j :: rest => cases i <;> cases j <;> rfl

theorem taskOr_erased (content : List Inline) (ps : List Plan) (usual : Plan) :
    taskOr (inlinesErased content) ps usual = taskOr content ps usual := by
  rw [taskOr, taskOr, taskState_erased]

theorem map_id_erased (citations : List Citation) :
    (citations.map Citation.erased).map Citation.id = citations.map Citation.id := by
  rw [List.map_map]
  rfl

mutual

theorem Inline.bare_erased : ∀ i : Inline, i.erased.plan.bare = i.plan.bare
  | .str _ | .code .. | .space | .softBreak | .lineBreak | .math .. | .raw .. | .image .. => rfl
  | .styled style content => by
    rw [Inline.erased, Inline.plan, Inline.plan, Plan.bare_plainElement, Plan.bare_plainElement,
      Plan.bare, Plan.bare, bare_inlinesErased content]
  | .quoted kind content => by
    simp only [Inline.erased, Inline.plan, Plan.bare, plansBare, bare_inlinesErased content]
  | .cite citations content => by
    rw [Inline.erased, Inline.plan, Inline.plan, map_id_erased]
  | .link attr content target => by
    rw [Inline.erased, Inline.plan, Inline.plan, bare_linkPlan, bare_linkPlan,
      bare_inlinesErased content]
  | .note blocks => by
    simp only [Inline.erased, Inline.plan, Plan.bare, bare_blocksErased blocks]
  | .span attr content => by
    rw [Inline.erased, Inline.plan, Inline.plan, Plan.bare_attrElement, Plan.bare_attrElement,
      Plan.bare, Plan.bare, bare_inlinesErased content]

theorem Block.bare_erased : ∀ b : Block, b.erased.plan.bare = b.plan.bare
  | .codeBlock .. | .raw .. | .horizontalRule => rfl
  | .plain content => by
    simp only [Block.erased, Block.plan, taskOr_erased, bare_taskOr, Plan.bare,
      bare_inlinesErased content]
  | .para content => by
    simp only [Block.erased, Block.plan, taskOr_erased, bare_taskOr, Plan.bare_plainElement,
      Plan.bare, bare_inlinesErased content]
  | .lineBlock lines => by
    simp only [Block.erased, Block.plan, Plan.bare, bare_linesErased lines]
  | .blockQuote blocks => by
    simp only [Block.erased, Block.plan, Plan.bare_plainElement, Plan.bare,
      bare_blocksErased blocks]
  | .orderedList attributes items => by
    simp only [Block.erased, Block.plan, Plan.bare, bare_itemsErased "li" items,
      ListAttributes.toMap, ListAttributes.statedStart]
  | .bulletList items => by
    simp only [Block.erased, Block.plan, Plan.bare_plainElement, Plan.bare,
      bare_itemsErased "li" items]
  | .definitionList items => by
    simp only [Block.erased, Block.plan, Plan.bare_plainElement, Plan.bare,
      bare_definitionsErased items]
  | .header level attr content => by
    simp only [Block.erased, Block.plan, Plan.bare_withValue, Plan.bare_attrElement, Plan.bare,
      bare_inlinesErased content]
  | .table attr _ _ head bodies _ => by
    simp only [Block.erased, Block.plan]
    cases attr.toMap with
    | ok _ | error _ =>
      simp only [Plan.bare, Plan.bare_plainElement, bare_groupErased "th" head,
        bare_bodiesErased bodies]
  | .figure attr _ blocks => by
    simp only [Block.erased, Block.plan, Plan.bare_attrElement, Plan.bare,
      bare_blocksErased blocks]
  | .div attr blocks => by
    simp only [Block.erased, Block.plan, Plan.bare_attrElement, Plan.bare,
      bare_blocksErased blocks]

theorem bare_groupErased (tag : String) : ∀ g : RowGroup,
    plansBare (groupPlans tag g.erased) = plansBare (groupPlans tag g)
  | ⟨_, rows⟩ => by
    simp only [RowGroup.erased, groupPlans, bare_rowsErased tag rows]

theorem bare_inlinesErased : ∀ content : List Inline,
    plansBare (inlinePlans (inlinesErased content)) = plansBare (inlinePlans content)
  | [] => rfl
  | i :: rest => by
    simp only [inlinesErased, inlinePlans, plansBare, Inline.bare_erased i,
      bare_inlinesErased rest]

theorem bare_blocksErased : ∀ blocks : List Block,
    plansBare (blockPlans (blocksErased blocks)) = plansBare (blockPlans blocks)
  | [] => rfl
  | b :: rest => by
    simp only [blocksErased, blockPlans, plansBare, Block.bare_erased b, bare_blocksErased rest]

theorem bare_linesErased : ∀ lines : List (List Inline),
    plansBare (linePlans (linesErased lines)) = plansBare (linePlans lines)
  | [] => rfl
  | line :: rest => by
    simp only [linesErased, linePlans, plansBare, Plan.bare, bare_inlinesErased line,
      bare_linesErased rest]

theorem bare_itemsErased (tag : String) : ∀ items : List (List Block),
    plansBare (itemPlans tag (itemsErased items)) = plansBare (itemPlans tag items)
  | [] => rfl
  | item :: rest => by
    simp only [itemsErased, itemPlans, plansBare, Plan.bare_plainElement, Plan.bare,
      bare_blocksErased item, bare_itemsErased tag rest]

theorem bare_definitionsErased : ∀ items : List Definition,
    plansBare (definitionPlans (definitionsErased items)) = plansBare (definitionPlans items)
  | [] => rfl
  | ⟨term, meanings⟩ :: rest => by
    simp only [definitionsErased, definitionPlans, plansBare, plansBare_append,
      Plan.bare_plainElement, Plan.bare, bare_inlinesErased term, bare_itemsErased "dd" meanings,
      bare_definitionsErased rest]

theorem bare_bodiesErased : ∀ bodies : List TableBody,
    plansBare (bodyPlans (bodiesErased bodies)) = plansBare (bodyPlans bodies)
  | [] => rfl
  | ⟨_, _, _, rows⟩ :: rest => by
    simp only [bodiesErased, bodyPlans, plansBare, Plan.bare_plainElement, Plan.bare,
      bare_rowsErased "td" rows, bare_bodiesErased rest]

theorem bare_rowsErased (tag : String) : ∀ rows : List Row,
    plansBare (rowPlans tag (rowsErased rows)) = plansBare (rowPlans tag rows)
  | [] => rfl
  | ⟨_, cells⟩ :: rest => by
    simp only [rowsErased, rowPlans, plansBare, Plan.bare_plainElement, Plan.bare,
      bare_cellsErased tag cells, bare_rowsErased tag rest]

theorem bare_cellsErased (tag : String) : ∀ cells : List Cell,
    plansBare (cellPlans tag (cellsErased cells)) = plansBare (cellPlans tag cells)
  | [] => rfl
  | ⟨_, _, _, _, blocks⟩ :: rest => by
    simp only [cellsErased, cellPlans, plansBare, Plan.bare_plainElement, Plan.bare,
      bare_blocksErased blocks, bare_cellsErased tag rest]

end

/-! ### Carrying out bare plans -/

section Engines

variable {β : Type} {o : Output β} {mode : RawMode} {limit : Option Limit}

theorem Engine.runAll_bare {e : Engine β} {place : Place} {ps : List Plan}
    (h : ∀ p ∈ ps, e.run place p.bare = e.run place p) :
    e.runAll place (plansBare ps) = e.runAll place ps := by
  induction ps with
  | nil => rfl
  | cons p rest ih =>
    rw [List.forall_mem_cons] at h
    rw [plansBare, Engine.runAll, Engine.runAll, h.1, ih h.2]

theorem Engine.run_nested_bare {e : Engine β} {place : Place} {ps : List Plan}
    (h : ∀ p ∈ ps, e.run place.descend p.bare = e.run place.descend p) :
    e.run place (.nested (plansBare ps)) = e.run place (.nested ps) := by
  rw [Engine.run, Engine.run, Engine.runAll_bare h]

/-- Under the standard rules and without numbers, a bare plan is carried out like the plan. -/
theorem Plan.Sound.run_bare {p : Plan} (hp : p.Sound) (place : Place)
    (hplace : place.notes = Footnotes.none) :
    ((Config.plain mode limit).engine o).run place p.bare
      = ((Config.plain mode limit).engine o).run place p := by
  induction hp generalizing place with
  | text s => rfl
  | leaf _ _ => rfl
  | raw kind format content => rfl
  | cite keys => rfl
  | parts _ ih =>
    rw [Plan.bare, Engine.run, Engine.run, Engine.runAll_bare fun p hp => ih p hp place hplace]
  | both _ _ ihp ihq =>
    rw [Plan.bare, Engine.run, Engine.run, ihp place hplace, ihq place hplace]
  | element _ _ _ ih => rw [Plan.bare, Engine.run, Engine.run, ih place hplace]
  | nested _ ih =>
    rw [Plan.bare]
    exact Engine.run_nested_bare fun p hp => ih p hp place.descend hplace
  | written _ _ ih => rw [Plan.bare, Engine.run_written, Engine.run_written, ih place hplace]
  | link _ ih =>
    rw [Plan.bare, ih place hplace, Engine.run]
    rfl
  | code _ ih =>
    rw [Plan.bare, ih place hplace, Engine.run]
    rfl
  | @note body ps hbody _ ih =>
    have hnumber : place.notes.number? (FootnoteBody.ofBlocks body) = none := by
      rw [hplace]
      rfl
    have hinside : ((Config.plain mode limit).engine o).run place (.nested (plansBare ps))
        = ((Config.plain mode limit).engine o).run place (.nested ps) :=
      Engine.run_nested_bare fun p hp => ih p hp place.descend hplace
    rw [Engine.run_note _ place hbody, hnumber, Plan.bare, Plan.bare, Plan.bare]
    show ((Config.plain mode limit).engine o).run place (.element _ _ (.nested (plansBare ps)))
      = ((Config.plain mode limit).engine o).run place (.element _ _ (.nested ps))
    rw [Engine.run, Engine.run, hinside]

theorem Engine.renderBlocks_eq_bare {blocks : List Block} (h : blocksTyped blocks = true) :
    ((Config.plain mode limit).engine o).renderBlocks blocks Place.start
      = do
        let parts ← ((Config.plain mode limit).engine o).runAll Place.start
          (plansBare (blockPlans blocks))
        return o.concat parts := by
  have hplans : (blocks.map Block.item).map (Item.plan .block) = blockPlans blocks := by
    rw [blockPlans_eq_map, List.map_map, List.map_map]
    rfl
  have hsound := sound_items_of_blocksTyped h
  rw [hplans] at hsound
  rw [Engine.renderBlocks, Engine.renderItems, hplans,
    Engine.runAll_bare fun p hp => (hsound p hp).run_bare Place.start rfl]
  rfl

end Engines

/-- Where no footnote has a number, blocks that differ only in what is not displayed are rendered
with the same outcome and the same reports, whatever the output is.  For text and for outlines the
outcome is a value. -/
theorem undisplayed_parts_have_no_influence (mode : RawMode) (limit : Option Limit)
    {xs ys : List Block} (hx : blocksTyped xs = true) (hy : blocksTyped ys = true)
    (h : blocksErased xs = blocksErased ys) :
    (∀ {β : Type} (o : Output β),
      ((Config.plain mode limit).engine o).renderBlocks xs Place.start
        = ((Config.plain mode limit).engine o).renderBlocks ys Place.start)
    ∧ (((Config.plain mode limit).engine Html.stringOutput).renderBlocks xs Place.start).Succeeds
    ∧ (((Config.plain mode limit).engine outline).renderBlocks xs Place.start).Succeeds := by
  have hstring : ((Config.plain mode limit).engine Html.stringOutput).Total :=
    Engine.total_of_reports stringOutput_reports rfl
  have houtline : ((Config.plain mode limit).engine outline).Total :=
    Engine.total_of_reports outline_reports rfl
  refine ⟨?_, hstring.blocks xs Place.start hx, houtline.blocks xs Place.start hx⟩
  intro β o
  have hplans : plansBare (blockPlans xs) = plansBare (blockPlans ys) := by
    rw [← bare_blocksErased xs, h, bare_blocksErased ys]
  rw [Engine.renderBlocks_eq_bare hx, Engine.renderBlocks_eq_bare hy, hplans]

/-- A table and a figure with captions, the table with a foot, spans and a head inside its body; in
a cell a numbered list, and in it a footnote with a citation and its fallback. -/
def captionedTable : List Block :=
  [.table ⟨.str "t", [], []⟩ ⟨some [.str (.str "s")], [.para [.note [.plain [.str (.str "f")]]]]⟩
      [⟨.left, .int 1⟩]
      ⟨⟨.str "h", [], []⟩,
        [⟨Attr.none, [⟨Attr.none, .left, .int 1, .int 2, [.plain [.str (.str "a")]]⟩]⟩]⟩
      [⟨Attr.none, .int 1,
        [⟨Attr.none, [⟨Attr.none, .right, .int 1, .int 1, [.horizontalRule]⟩]⟩],
        [⟨⟨.str "", [.str "c"], []⟩,
          [⟨Attr.none, .center, .int 3, .int 1,
            [.orderedList ⟨.int 2, .lowerAlpha, .twoParens⟩
              [[.para [.note [.plain
                [.cite [⟨.str "k", [.str (.str "see")], [.space], .suppressAuthor, .int 4, .int 5⟩]
                  [.str (.str "[k]")]]]]]]]⟩]⟩]⟩]
      ⟨Attr.none, [⟨Attr.none, [⟨Attr.none, .default, .int 1, .int 1, [.plain [.space]]⟩]⟩]⟩,
    .figure Attr.none ⟨none, [.para [.str (.str "c")]]⟩
      [.plain [.image Attr.none [.cite [] [.str (.str "d")]] ⟨.str "u", .str ""⟩]]]

theorem captionedTable_renders_as_erased :
    blocksTyped captionedTable = true ∧ blocksTyped (blocksErased captionedTable) = true
    ∧ blocksErased captionedTable = blocksErased (blocksErased captionedTable)
    ∧ ((Config.plain .drop (some (Limit.ofNat 4))).engine Html.stringOutput).renderBlocks
        captionedTable Place.start
      = ((Config.plain .drop (some (Limit.ofNat 4))).engine Html.stringOutput).renderBlocks
        (blocksErased captionedTable) Place.start := by
  have hx : blocksTyped captionedTable = true := by decide
  have hy : blocksTyped (blocksErased captionedTable) = true := by decide
  have herased : blocksErased captionedTable = blocksErased (blocksErased captionedTable) := rfl
  have h := undisplayed_parts_have_no_influence .drop (some (Limit.ofNat 4)) hx hy herased
  exact ⟨hx, hy, herased, h.1 Html.stringOutput⟩

end PandocHtml
