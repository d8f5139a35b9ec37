import PandocHtml.Proofs.Render.PlanShape
import PandocHtml.Proofs.Render.Section

/-!
# The nesting of rendered documents

Under a limit of `n` levels no rendering nests deeper than `4 * n + 5` elements: at most four for
each of the levels from zero to `n`, and one for the diagnostic where the limit cuts.  The section
of footnotes begins again at level zero, inside three elements of its own.
-/

namespace PandocHtml

/-! ### Nesting -/

mutual

/-- How many elements stand one inside another in a piece of an outline. -/
def OutlineNode.nesting : OutlineNode → Nat
  | .text _ | .raw _ => 0
  | .leaf .. => 1
  | .element _ _ children => outlineNesting children + 1

def outlineNesting : List OutlineNode → Nat
  | [] => 0
  | n :: rest => max n.nesting (outlineNesting rest)

end

attribute [simp] OutlineNode.nesting outlineNesting

theorem outlineNesting_append (s t : Outline) :
    outlineNesting (s ++ t) = max (outlineNesting s) (outlineNesting t) := by
  induction s with
  | nil => simp
  | cons n rest ih =>
    simp only [List.cons_append, outlineNesting]
    omega

theorem outlineNesting_le_iff {t : Outline} {k : Nat} :
    outlineNesting t ≤ k ↔ ∀ n ∈ t, n.nesting ≤ k := by
  induction t with
  | nil => simp
  | cons n rest ih =>
    rw [List.forall_mem_cons, ← ih, outlineNesting]
    omega

theorem outlineNesting_rawOutline (mode : RawMode) (kind : RawKind) (format content : Json) :
    outlineNesting (rawOutline mode kind format content) ≤ 1 := by
  unfold rawOutline
  split
  · simp
  · simp [OutlineNode.shownRaw]
  · split <;> simp
  · simp

/-! ### Nesting of plans -/

section Plans

variable {mode : RawMode} {notes : Footnotes} {l : Limit} {deepest level : Nat}

theorem beyond_of_deepest (hl : l.deepest = some deepest) (level : Nat) :
    beyond (some l) level = if deepest < level then some l else none := by
  have hexcludes : l.excludes level = decide (deepest < level) := by rw [Limit.excludes, hl]
  rw [beyond, Option.filter_some, hexcludes]
  simp only [decide_eq_true_eq]

theorem outlineNesting_plansOutlined {limit : Option Limit} {ps : List Plan} {k : Nat}
    (h : ∀ p ∈ ps, outlineNesting (p.outlined mode limit notes level) ≤ k) :
    outlineNesting (plansOutlined mode limit notes level ps) ≤ k := by
  induction ps with
  | nil => simp [plansOutlined]
  | cons p rest ih =>
    rw [List.forall_mem_cons] at h
    have hp := h.1
    have hrest := ih h.2
    rw [plansOutlined, outlineNesting_append]
    omega

/-- A level of nesting either is the last one and holds a diagnostic, or leaves four elements fewer
for the levels below. -/
theorem outlineNesting_nested (hl : l.deepest = some deepest) {ps : List Plan}
    (h : ∀ p ∈ ps, outlineNesting (p.outlined mode (some l) notes (level + 1))
      ≤ 4 + 1 + 4 * (deepest - (level + 1))) :
    outlineNesting ((Plan.nested ps).outlined mode (some l) notes level)
      ≤ 1 + 4 * (deepest - level) := by
  rw [Plan.outlined, beyond_of_deepest hl]
  by_cases hcut : deepest < level + 1
  · rw [if_pos hcut]
    simp [OutlineNode.diagnostic]
  · rw [if_neg hcut]
    have hbelow := outlineNesting_plansOutlined h
    show outlineNesting (plansOutlined mode (some l) notes (level + 1) ps) ≤ _
    omega

/-- With room for so many elements before the next level begins, a plan nests those, a diagnostic,
and four for each level that is left. -/
theorem Plan.Fits.nesting_outlined {allowed : String → Prop} (hl : l.deepest = some deepest)
    {p : Plan} {room : Nat} (hp : p.Fits allowed room) (level : Nat) :
    outlineNesting (p.outlined mode (some l) notes level) ≤ room + 1 + 4 * (deepest - level) := by
  induction hp generalizing level with
  | text room content => simp [Plan.outlined]
  | parts _ ih =>
    rw [Plan.outlined]
    exact outlineNesting_plansOutlined fun p hp => ih p hp level
  | both _ _ ihp ihq =>
    have hp := ihp level
    have hq := ihq level
    rw [Plan.outlined, outlineNesting_append]
    omega
  | leaf _ =>
    simp only [Plan.outlined, outlineNesting, OutlineNode.nesting]
    omega
  | element _ _ ih =>
    have hinside := ih level
    simp only [Plan.outlined, outlineNesting, OutlineNode.nesting]
    omega
  | nested _ ih =>
    have hinside := outlineNesting_nested hl fun p hp => ih p hp (level + 1)
    omega
  | written _ _ ih => exact ih level
  | fault room f => simp [Plan.outlined]
  | link _ ih => exact ih level
  | code _ ih => exact ih level
  | raw room kind format content =>
    have hraw := outlineNesting_rawOutline mode kind format content
    rw [Plan.outlined]
    omega
  | @note room body ps _ ih =>
    have hinside := outlineNesting_nested hl fun p hp => ih p hp (level + 1)
    rw [Plan.outlined]
    cases notes.number? (FootnoteBody.ofBlocks body) with
    | some number =>
      -- a reference is an anchor inside a superscript
      simp only [OutlineNode.reference, outlineNesting, OutlineNode.nesting]
      omega
    | none =>
      simp only [Plan.outlined, outlineNesting, OutlineNode.nesting] at hinside ⊢
      omega
  | cite room keys =>
    simp only [Plan.outlined, OutlineNode.diagnostic, outlineNesting, OutlineNode.nesting]
    omega

theorem outlineNesting_blocksOutlined (hl : l.deepest = some deepest) (blocks : List Block) :
    outlineNesting (blocksOutlined mode (some l) notes 0 blocks) ≤ 4 * deepest + 5 := by
  have hfits : ∀ p ∈ blocks.map Block.plan, p.Fits (fun _ => True) 4 :=
    fits_plans (fun _ _ => trivial) fun _ _ _ _ => trivial
  apply outlineNesting_plansOutlined
  intro p hp
  have hnesting : outlineNesting (p.outlined mode (some l) notes 0) ≤ 4 + 1 + 4 * (deepest - 0) :=
    (hfits p hp).nesting_outlined hl 0
  omega

end Plans

/-! ### Nesting of documents -/

theorem outlineNesting_outlined_encountered {l : Limit} {deepest : Nat}
    (hl : l.deepest = some deepest) (mode : RawMode) (met : List (List Block)) :
    outlineNesting ((encountered met).outlined mode (some l)) ≤ 4 * deepest + 8 := by
  by_cases hnil : firstBodies met = []
  · rw [Footnotes.outlined, isEmpty_encountered, hnil]
    simp
  · have hitems : outlineNesting ((firstBodies met).zipIdx.map fun p => OutlineNode.listed
        (p.2 + 1) (blocksOutlined mode (some l) Footnotes.none 0 p.1)) ≤ 4 * deepest + 6 := by
      rw [outlineNesting_le_iff, List.forall_mem_map]
      intro p _
      have hbody : outlineNesting (blocksOutlined mode (some l) Footnotes.none 0 p.1)
          ≤ 4 * deepest + 5 := outlineNesting_blocksOutlined hl p.1
      simp only [OutlineNode.listed, OutlineNode.nesting, outlineNesting, outlineNesting_append]
      omega
    rw [outlined_encountered mode (some l) hnil]
    simp only [OutlineNode.section, outlineNesting, OutlineNode.nesting]
    omega

/-- Rendering a well-typed document under a limit whose deepest level is `deepest` nests at most
`4 * deepest + 5` elements in the main content and `4 * deepest + 8` in the section of footnotes
behind it, however deep the document is. -/
theorem nesting_bounded_by_limit (d : Document) (h : d.isTyped = true) (mode : RawMode) (l : Limit)
    (deepest : Nat) (hl : l.deepest = some deepest) :
    ∃ (notes : Footnotes) (main listed : Outline),
      d.footnotes.outcome = .ok notes
      ∧ (((Config.plain mode (some l)).engine outline).renderBlocks d.blocks ⟨notes, 0⟩).outcome
        = .ok main
      ∧ (((Config.plain mode (some l)).engine outline).footnoteSection notes).outcome = .ok listed
      ∧ (((Config.plain mode (some l)).engine outline).renderDocument d).outcome
        = .ok (main ++ listed)
      ∧ outlineNesting main ≤ 4 * deepest + 5
      ∧ outlineNesting listed ≤ 4 * deepest + 8 := by
  have hmain := Engine.outline_renderBlocks mode (some l) h ⟨d.numbering, 0⟩
  have hlisted := Engine.outline_footnoteSection mode (some l) (Document.typed_numbering h)
  have hwhole := Engine.outline_renderDocument mode (some l) h
  exact ⟨d.numbering, _, _, Document.outcome_footnotes h, hmain, hlisted, hwhole,
    outlineNesting_blocksOutlined hl d.blocks, outlineNesting_outlined_encountered hl mode _⟩

/-! ### Tables inside tables -/

/-- A table with a single cell, and in the cell so many more one inside another. -/
def nestedTables : Nat → Block
  | 0 => .horizontalRule
  | n + 1 =>
    .table Attr.none ⟨none, []⟩ [] ⟨Attr.none, []⟩
      [⟨Attr.none, .int 0, [],
        [⟨Attr.none, [⟨Attr.none, .default, .int 1, .int 1, [nestedTables n]⟩]⟩]⟩]
      ⟨Attr.none, []⟩

theorem nestedTables_preorder (n : Nat) :
    (nestedTables (n + 1)).preorder
      = .block (nestedTables (n + 1)) :: (nestedTables n).preorder := by
  simp [nestedTables, Block.preorder, Caption.preorder, RowGroup.preorder, bodiesPreorder,
    rowsPreorder, cellsPreorder, blocksPreorder]

theorem nestedTables_isTyped (n : Nat) : (Node.block (nestedTables n)).isTyped = true := by
  induction n with
  | zero => rfl
  | succ n ih =>
    have hinside : (nestedTables n).preorder.all Node.hasTypedFields = true := ih
    rw [Node.isTyped, Node.preorder, nestedTables_preorder, List.all_cons, hinside, Bool.and_true]
    rfl

theorem noteBodies_nestedTables (n : Nat) : noteBodies (nestedTables n).preorder = [] := by
  induction n with
  | zero => rfl
  | succ n ih =>
    rw [nestedTables_preorder, noteBodies, List.filterMap_cons_none rfl]
    exact ih

theorem nestedTables_plan (n : Nat) :
    (nestedTables (n + 1)).plan
      = .element "table" (some [])
        (.both (.plainElement "thead" (.parts []))
          (.parts [.plainElement "tbody" (.parts [.plainElement "tr"
            (.parts [.plainElement "td" (.nested [(nestedTables n).plan])])])])) := rfl

/-- Where as many levels are left as there are tables inside, the tables fill them. -/
theorem outlineNesting_nestedTables {mode : RawMode} {notes : Footnotes} {l : Limit} {deepest : Nat}
    (hl : l.deepest = some deepest) (n : Nat) {level : Nat} (hlevel : level + n = deepest) :
    outlineNesting ((nestedTables (n + 1)).plan.outlined mode (some l) notes level)
      = 4 * n + 5 := by
  induction n generalizing level with
  | zero =>
    have hcut : deepest < level + 1 := by omega
    rw [nestedTables_plan]
    simp [Plan.outlined, plansOutlined, Plan.plainElement, beyond_of_deepest hl, hcut,
      OutlineNode.diagnostic]
  | succ n ih =>
    have hopen : ¬ deepest < level + 1 := by omega
    have hinside := @ih (level + 1) (by omega)
    rw [nestedTables_plan]
    simp [Plan.outlined, plansOutlined, Plan.plainElement, beyond_of_deepest hl, hopen, hinside]
    omega

/-- The tables once in the main content and once in a footnote. -/
def tablesTwice (n : Nat) : Document := ⟨[], [nestedTables n, .para [.note [nestedTables n]]]⟩

theorem tablesTwice_isTyped (n : Nat) : (tablesTwice n).isTyped = true := by
  have htyped : (nestedTables n).preorder.all Node.hasTypedFields = true := nestedTables_isTyped n
  simp [tablesTwice, Document.isTyped, blocksTyped, blocksPreorder, Block.preorder,
    inlinesPreorder, Inline.preorder, htyped, Node.hasTypedFields]

theorem firstBodies_tablesTwice (n : Nat) :
    firstBodies (noteBodies (blocksPreorder (tablesTwice n).blocks)) = [[nestedTables n]] := by
  have hnone : (nestedTables n).preorder.filterMap Node.noteBody? = [] := noteBodies_nestedTables n
  have hbodies : noteBodies (blocksPreorder (tablesTwice n).blocks) = [[nestedTables n]] := by
    simp [tablesTwice, noteBodies, blocksPreorder, Block.preorder, inlinesPreorder,
      Inline.preorder, hnone, Node.noteBody?, List.filterMap_cons]
  rw [hbodies]
  rfl

/-- Both bounds are reached under every limit, by tables in a table and in a footnote. -/
theorem nesting_limit_is_reached (mode : RawMode) (deepest : Nat) :
    ∃ (d : Document) (main listed : Outline),
      d.isTyped = true
      ∧ (((Config.plain mode (some (Limit.ofNat deepest))).engine outline).renderDocument d).outcome
        = .ok (main ++ listed)
      ∧ outlineNesting main = 4 * deepest + 5
      ∧ outlineNesting listed = 4 * deepest + 8 := by
  have hl : (Limit.ofNat deepest).deepest = some deepest := rfl
  have ht := tablesTwice_isTyped (deepest + 1)
  have htables : ∀ notes : Footnotes, outlineNesting ((nestedTables (deepest + 1)).plan.outlined
      mode (some (Limit.ofNat deepest)) notes 0) = 4 * deepest + 5 := fun _ =>
    outlineNesting_nestedTables hl deepest (Nat.zero_add deepest)
  have hmain : outlineNesting (blocksOutlined mode (some (Limit.ofNat deepest))
      (tablesTwice (deepest + 1)).numbering 0 (tablesTwice (deepest + 1)).blocks)
      = 4 * deepest + 5 := by
    have hwhole : outlineNesting (blocksOutlined mode (some (Limit.ofNat deepest))
        (tablesTwice (deepest + 1)).numbering 0 (tablesTwice (deepest + 1)).blocks)
        ≤ 4 * deepest + 5 := outlineNesting_blocksOutlined hl _
    have hfirst := htables (tablesTwice (deepest + 1)).numbering
    simp only [blocksOutlined, tablesTwice, List.map_cons, plansOutlined,
      outlineNesting_append] at hwhole hfirst ⊢
    omega
  have hlisted : outlineNesting ((tablesTwice (deepest + 1)).numbering.outlined mode
      (some (Limit.ofNat deepest))) = 4 * deepest + 8 := by
    have hbodies := firstBodies_tablesTwice (deepest + 1)
    rw [Document.numbering,
      outlined_encountered mode _ (by rw [hbodies]; exact List.cons_ne_nil _ _), hbodies]
    simp [OutlineNode.section, OutlineNode.listed, outlineNesting_append, blocksOutlined,
      plansOutlined, htables]
  exact ⟨tablesTwice (deepest + 1), _, _, ht, Engine.outline_renderDocument mode _ ht, hmain,
    hlisted⟩

/-- Two tables in a table, under a limit of one. -/
theorem nestedTables_within_limit :
    (Document.mk [] [nestedTables 3]).isTyped = true
    ∧ (Limit.ofNat 1).deepest = some 1
    ∧ ∃ main listed : Outline,
      (((Config.plain .drop (some (Limit.ofNat 1))).engine outline).renderDocument
        ⟨[], [nestedTables 3]⟩).outcome = .ok (main ++ listed)
      ∧ outlineNesting main ≤ 9 ∧ outlineNesting listed ≤ 12 := by
  have h : (Document.mk [] [nestedTables 3]).isTyped = true := by decide
  obtain ⟨_, main, listed, _, _, _, hwhole, hmain, hlisted⟩ :=
    nesting_bounded_by_limit ⟨[], [nestedTables 3]⟩ h .drop (Limit.ofNat 1) 1 rfl
  exact ⟨h, rfl, main, listed, hwhole, hmain, hlisted⟩

end PandocHtml
