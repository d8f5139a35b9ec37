import PandocHtml.Proofs.Render.Reported
import PandocHtml.Proofs.Render.Section

/-!
# What a limit changes

A level of nesting beyond the limit is cut off: the log holds a warning and the output a
diagnostic that no rendering without a limit holds.  Where nothing is cut off, the limit is as good
as any wider one and as none.
-/

namespace PandocHtml

/-! ### Cuts -/

/-- Some level of nesting is cut off. -/
def Plan.isCut (limit : Option Limit) (notes : Footnotes) (level : Nat) (p : Plan) : Bool :=
  (p.decisions limit notes level).any fun x => x.2.isNested

section Cuts

variable {limit : Option Limit} {notes : Footnotes} {level : Nat}

theorem any_isNested_plansDecisions (ps : List Plan) :
    ((plansDecisions limit notes level ps).any fun x => x.2.isNested)
      = ps.any (Plan.isCut limit notes level) := by
  rw [plansDecisions_eq_flatMap, List.any_flatMap]
  rfl

theorem Plan.isCut_parts (ps : List Plan) :
    (Plan.parts ps).isCut limit notes level = ps.any (Plan.isCut limit notes level) := by
  rw [Plan.isCut, Plan.decisions, any_isNested_plansDecisions]

theorem Plan.isCut_both (p q : Plan) :
    (Plan.both p q).isCut limit notes level
      = (p.isCut limit notes level || q.isCut limit notes level) := by
  rw [Plan.isCut, Plan.decisions, List.any_append]
  rfl

theorem Plan.isCut_element (tag : String) (attrs : Option AttrMap) (p : Plan) :
    (Plan.element tag attrs p).isCut limit notes level = p.isCut limit notes level := by
  rw [Plan.isCut, Plan.decisions]
  rfl

theorem Plan.isCut_written (values : List Json) (p : Plan) :
    (Plan.written values p).isCut limit notes level = p.isCut limit notes level := by
  rw [Plan.isCut, Plan.decisions, List.any_cons]
  rfl

theorem Plan.isCut_link (url : Json) (attrs : AttrMap) (inner : Option (List Inline)) (p : Plan) :
    (Plan.link url attrs inner p).isCut limit notes level = p.isCut limit notes level := by
  rw [Plan.isCut, Plan.decisions, List.any_cons]
  rfl

theorem Plan.isCut_code (attr : Attr) (content : Json) (p : Plan) :
    (Plan.code attr content p).isCut limit notes level = p.isCut limit notes level := by
  rw [Plan.isCut, Plan.decisions, List.any_cons]
  rfl

theorem Plan.isCut_nested_of_some (ps : List Plan) {l : Limit}
    (h : beyond limit (level + 1) = some l) : (Plan.nested ps).isCut limit notes level = true := by
  rw [Plan.isCut, Plan.decisions, h]
  rfl

theorem Plan.isCut_nested_of_none (ps : List Plan) (h : beyond limit (level + 1) = none) :
    (Plan.nested ps).isCut limit notes level = ps.any (Plan.isCut limit notes (level + 1)) := by
  rw [Plan.isCut, Plan.decisions, h]
  exact any_isNested_plansDecisions ps

theorem Plan.isCut_note_of_some {body : List Block} (aside : Plan) {number : Nat}
    (h : notes.number? (FootnoteBody.ofBlocks body) = some number) :
    (Plan.note body aside).isCut limit notes level = false := by
  rw [Plan.isCut, Plan.decisions, h]
  rfl

theorem Plan.isCut_note_of_none {body : List Block} (aside : Plan)
    (h : notes.number? (FootnoteBody.ofBlocks body) = none) :
    (Plan.note body aside).isCut limit notes level = aside.isCut limit notes level := by
  rw [Plan.isCut, Plan.decisions, h, List.any_cons]
  rfl

end Cuts

/-- Some level of nesting is cut off where blocks are rendered at the top. -/
def blocksCut (limit : Option Limit) (notes : Footnotes) (blocks : List Block) : Bool :=
  (blocks.map Block.plan).any (Plan.isCut limit notes 0)

/-- Some level of nesting is cut off, in a document or in a body that its section lists. -/
def Document.isCut (limit : Option Limit) (d : Document) : Bool :=
  blocksCut limit d.numbering d.blocks
    || (firstBodies (noteBodies (blocksPreorder d.blocks))).any (blocksCut limit Footnotes.none)

theorem any_congr_of_mem {α : Type} {f g : α → Bool} {xs : List α} (h : ∀ x ∈ xs, f x = g x) :
    xs.any f = xs.any g := by
  induction xs with
  | nil => rfl
  | cons x rest ih =>
    rw [List.forall_mem_cons] at h
    rw [List.any_cons, List.any_cons, h.1, ih h.2]

/-! ### Warnings -/

/-- A warning that something lies beyond one of some limits. -/
def Event.isTooDeep (among : String → Bool) : Event → Bool
  | .notice (.tooDeep limit) => among limit
  | _ => false

theorem Sanitize.any_isTooDeep_clean (among : String → Bool) (s : String) :
    (Sanitize.clean s).events.any (Event.isTooDeep among) = false := by
  simp only [Sanitize.clean]
  split <;> rfl

theorem RawMode.any_isTooDeep_applyTo (among : String → Bool) (mode : RawMode) (s : String) :
    (mode.applyTo s).events.any (Event.isTooDeep among) = false := by
  cases mode with
  | sanitize => exact Sanitize.any_isTooDeep_clean among s
  | _ => rfl

theorem LinkRule.any_isTooDeep_reported (among : String → Bool) (rule : LinkRule) (url : Json)
    (attrs : AttrMap) (inner : Option (List Inline)) :
    (rule.reported url attrs inner).any (Event.isTooDeep among) = false := by
  cases rule <;> rfl

theorem CodeRule.any_isTooDeep_reported (among : String → Bool) (rule : CodeRule) (attr : Attr)
    (content : Json) :
    (rule.reported attr content).any (Event.isTooDeep among) = false := by
  cases rule <;> rfl

section Warnings

variable {among : String → Bool} {c : Config} {heard : Option AttrMap → List Event}
  {notes : Footnotes} {level : Nat}

theorem any_isTooDeep_plansReported {ps : List Plan}
    (h : ∀ p ∈ ps, (p.reported c heard notes level).any (Event.isTooDeep among)
      = p.isCut c.limit notes level) :
    (plansReported c heard notes level ps).any (Event.isTooDeep among)
      = ps.any (Plan.isCut c.limit notes level) := by
  rw [plansReported_eq_flatMap, List.any_flatMap]
  exact any_congr_of_mem h

variable (hamong : ∀ k l, beyond c.limit k = some l → among l.whole = true)

include hamong in
theorem any_isTooDeep_reported_nested {ps : List Plan}
    (h : ∀ p ∈ ps, (p.reported c heard notes (level + 1)).any (Event.isTooDeep among)
      = p.isCut c.limit notes (level + 1)) :
    ((Plan.nested ps).reported c heard notes level).any (Event.isTooDeep among)
      = (Plan.nested ps).isCut c.limit notes level := by
  rw [Plan.reported]
  cases hb : beyond c.limit (level + 1) with
  | some l =>
    rw [Plan.isCut_nested_of_some ps hb, List.any_cons, Event.isTooDeep, hamong _ l hb]
    rfl
  | none =>
    rw [Plan.isCut_nested_of_none ps hb]
    exact any_isTooDeep_plansReported h

variable (hheard : ∀ attrs, (heard attrs).any (Event.isTooDeep among) = false)
include hheard

theorem any_isTooDeep_rawReported (kind : RawKind) (format content : Json) :
    (rawReported c heard kind format content).any (Event.isTooDeep among) = false := by
  unfold rawReported
  split
  · rfl
  · exact hheard _
  · split
    · exact RawMode.any_isTooDeep_applyTo among _ _
    · rfl
  · rfl

theorem any_isTooDeep_citeReported (keys : List Json) :
    (citeReported heard keys).any (Event.isTooDeep among) = false := by
  rw [citeReported]
  split
  · exact hheard none
  · rfl

include hamong

/-- Carrying out a plan warns exactly if something is cut off. -/
theorem Plan.Sound.any_isTooDeep_reported {p : Plan} (hp : p.Sound) (level : Nat) :
    (p.reported c heard notes level).any (Event.isTooDeep among) = p.isCut c.limit notes level := by
  induction hp generalizing level with
  | text s => rfl
  | parts _ ih =>
    rw [Plan.reported, Plan.isCut_parts]
    exact any_isTooDeep_plansReported fun p hp => ih p hp level
  | both _ _ ihp ihq =>
    rw [Plan.reported, List.any_append, ihp, ihq, Plan.isCut_both]
  | leaf _ _ => exact hheard _
  | element _ _ _ ih =>
    rw [Plan.reported, List.any_append, hheard, Bool.or_false, ih, Plan.isCut_element]
  | nested _ ih => exact any_isTooDeep_reported_nested hamong fun p hp => ih p hp (level + 1)
  | written _ _ ih => rw [Plan.reported, ih, Plan.isCut_written]
  | link _ ih =>
    rw [Plan.reported, List.any_append, LinkRule.any_isTooDeep_reported, Bool.false_or, ih,
      Plan.isCut_link]
  | code _ ih =>
    rw [Plan.reported, List.any_append, CodeRule.any_isTooDeep_reported, Bool.false_or, ih,
      Plan.isCut_code]
  | raw kind format content => exact any_isTooDeep_rawReported hheard kind _ _
  | @note body ps _ _ ih =>
    rw [Plan.reported]
    cases hn : notes.number? (FootnoteBody.ofBlocks body) with
    | some number =>
      rw [Plan.isCut_note_of_some _ hn]
      simp only [referenceReported, List.any_append, hheard, Bool.or_false]
    | none =>
      rw [Plan.isCut_note_of_none _ hn, Plan.isCut_element, Plan.reported, List.any_append, hheard,
        Bool.or_false]
      exact any_isTooDeep_reported_nested hamong fun p hp => ih p hp (level + 1)
  | cite keys => exact any_isTooDeep_citeReported hheard _

theorem any_isTooDeep_blocksReported {blocks : List Block} (h : blocksTyped blocks = true) :
    (plansReported c heard notes 0 (blocks.map Block.plan)).any (Event.isTooDeep among)
      = blocksCut c.limit notes blocks :=
  any_isTooDeep_plansReported fun p hp =>
    (sound_plans_of_blocksTyped h p hp).any_isTooDeep_reported hamong hheard 0

theorem any_isTooDeep_entryReported (number : Nat) {b : List Block} (h : blocksTyped b = true) :
    (entryReported c heard number (FootnoteBody.ofBlocks b)).any (Event.isTooDeep among)
      = blocksCut c.limit Footnotes.none b := by
  simp only [entryReported, FootnoteBody.plans_ofBlocks, List.any_append, hheard, Bool.or_false,
    Bool.false_or]
  exact any_isTooDeep_blocksReported hamong hheard h

theorem any_isTooDeep_reported_encountered {met : List (List Block)}
    (h : ∀ b ∈ firstBodies met, blocksTyped b = true) :
    ((encountered met).reported c heard).any (Event.isTooDeep among)
      = (firstBodies met).any (blocksCut c.limit Footnotes.none) := by
  rw [Footnotes.reported, isEmpty_encountered]
  by_cases hnil : firstBodies met = []
  · rw [hnil]
    rfl
  · rw [List.isEmpty_eq_false_iff.mpr hnil, entries_encountered, List.flatMap_map]
    simp only [Bool.false_eq_true, ite_false, List.any_append, hheard, Bool.or_false,
      List.any_flatMap]
    conv_rhs => rw [← List.zipIdx_map_fst 0 (firstBodies met), List.any_map]
    apply any_congr_of_mem
    intro p hp
    have hmem := List.fst_mem_of_mem_zipIdx hp
    exact any_isTooDeep_entryReported hamong hheard (p.2 + 1) (h p.1 hmem)

theorem Document.any_isTooDeep_reported {d : Document} (hd : d.isTyped = true) :
    (d.reported c heard d.numbering).any (Event.isTooDeep among) = d.isCut c.limit := by
  have hfirst : ∀ b ∈ firstBodies (noteBodies (blocksPreorder d.blocks)), blocksTyped b = true :=
    fun b hb => blocksTyped_of_mem_preorder hd b (mem_of_mem_bodiesMet hb)
  rw [Document.reported, List.any_append, any_isTooDeep_blocksReported hamong hheard hd,
    Document.numbering, any_isTooDeep_reported_encountered hamong hheard hfirst]
  rfl

end Warnings

theorem Document.any_isTooDeep_footnotes (among : String → Bool) {d : Document}
    (hd : d.isTyped = true) : d.footnotes.events.any (Event.isTooDeep among) = false := by
  have hrepeats : ∀ met : List (List Block),
      (repeatNotices met).any (Event.isTooDeep among) = false := by
    intro met
    rw [repeatNotices, List.any_map, List.any_eq_false]
    exact fun b _ => Bool.false_ne_true
  rw [Document.footnotes, collect_eq d.blocks (isBodyKey_of_mem_preorder hd), List.any_append,
    hrepeats]
  rfl

/-! ### Diagnostics -/

/-- The diagnostic in the place of what a limit cuts off. -/
def OutlineNode.isCut (l : Limit) : OutlineNode → Bool
  | .element tag none [.text (.str s)] => tag == "pre" && s == "error[docrender]: " ++ l.wording
  | _ => false

theorem OutlineNode.isCut_diagnostic (l : Limit) (wording : String) :
    (OutlineNode.diagnostic wording).isCut l = (wording == l.wording) := by
  show ("error[docrender]: " ++ wording == "error[docrender]: " ++ l.wording) = _
  rw [Bool.eq_iff_iff, beq_iff_eq, beq_iff_eq, String.append_right_inj]

theorem OutlineNode.isBare_of_isCut {l : Limit} {n : OutlineNode} (h : n.isCut l = true) :
    n.isBare = true := by
  unfold OutlineNode.isCut at h
  split at h
  · rw [Bool.and_eq_true] at h
    exact h.1
  · cases h

theorem quiet_isCut (l : Limit) : Quiet (OutlineNode.isCut l) :=
  quiet_isBare.of_imp fun _ h => OutlineNode.isBare_of_isCut h

theorem Limit.head?_wording (l : Limit) : l.wording.toList.head? = some 'm' := by
  unfold Limit.wording
  simp

theorem citeWording_ne_wording (l : Limit) : citeWording ≠ l.wording := by
  intro h
  have hhead := l.head?_wording
  rw [← h, citeWording] at hhead
  exact absurd hhead (by decide)

section Diagnostics

variable {mode : RawMode} {limit : Option Limit} {notes : Footnotes} {level : Nat} {l : Limit}

theorem any_isCut_diagnostic (wording : String) :
    (OutlineNode.diagnostic wording).preorder.any (OutlineNode.isCut l)
      = (wording == l.wording) := by
  rw [← OutlineNode.isCut_diagnostic]
  exact Bool.or_false _

theorem any_isCut_rawOutline (kind : RawKind) (format content : Json) :
    (outlinePreorder (rawOutline mode kind format content)).any (OutlineNode.isCut l) = false := by
  unfold rawOutline
  split
  · rfl
  · rw [outlinePreorder_singleton]
    cases kind <;> rfl
  · split <;> rfl
  · rfl

theorem any_isCut_element {tag : String} {attrs : Option AttrMap} (children : Outline)
    (h : ∀ cs : Outline, (OutlineNode.element tag attrs cs).isCut l = false) :
    (outlinePreorder [OutlineNode.element tag attrs children]).any (OutlineNode.isCut l)
      = (outlinePreorder children).any (OutlineNode.isCut l) := by
  rw [outlinePreorder_singleton, OutlineNode.preorder, List.any_cons, h, Bool.false_or]

theorem any_isCut_plansOutlined {ps : List Plan}
    (h : ∀ p ∈ ps, (outlinePreorder (p.outlined mode limit notes level)).any (OutlineNode.isCut l)
      = p.isCut limit notes level) :
    (outlinePreorder (plansOutlined mode limit notes level ps)).any (OutlineNode.isCut l)
      = ps.any (Plan.isCut limit notes level) := by
  induction ps with
  | nil => rfl
  | cons p rest ih =>
    rw [List.forall_mem_cons] at h
    rw [plansOutlined, outlinePreorder_append, List.any_append, h.1, ih h.2, List.any_cons]

variable (hlimit : ∀ k l', beyond limit k = some l' → l' = l)
include hlimit

theorem any_isCut_outlined_nested {ps : List Plan}
    (h : ∀ p ∈ ps, (outlinePreorder (p.outlined mode limit notes (level + 1))).any
      (OutlineNode.isCut l) = p.isCut limit notes (level + 1)) :
    (outlinePreorder ((Plan.nested ps).outlined mode limit notes level)).any (OutlineNode.isCut l)
      = (Plan.nested ps).isCut limit notes level := by
  rw [Plan.outlined]
  cases hb : beyond limit (level + 1) with
  | some l' =>
    obtain rfl := hlimit _ _ hb
    rw [Plan.isCut_nested_of_some ps hb]
    show (outlinePreorder [OutlineNode.diagnostic l'.wording]).any _ = true
    rw [outlinePreorder_singleton, any_isCut_diagnostic, beq_self_eq_true]
  | none =>
    rw [Plan.isCut_nested_of_none ps hb]
    exact any_isCut_plansOutlined h

/-- The outline of a plan shows a diagnostic of the limit exactly if something is cut off. -/
theorem Plan.Sound.any_isCut_outlined {p : Plan} (hp : p.Sound) (level : Nat) :
    (outlinePreorder (p.outlined mode limit notes level)).any (OutlineNode.isCut l)
      = p.isCut limit notes level := by
  induction hp generalizing level with
  | text s => rfl
  | parts _ ih =>
    rw [Plan.outlined, Plan.isCut_parts]
    exact any_isCut_plansOutlined fun p hp => ih p hp level
  | both _ _ ihp ihq =>
    rw [Plan.outlined, outlinePreorder_append, List.any_append, ihp, ihq, Plan.isCut_both]
  | leaf _ _ => rfl
  | element htag _ _ ih =>
    rw [Plan.outlined, any_isCut_element _ fun cs => (quiet_isCut l).element _ _ cs htag, ih,
      Plan.isCut_element]
  | nested _ ih => exact any_isCut_outlined_nested hlimit fun p hp => ih p hp (level + 1)
  | written _ _ ih => rw [Plan.outlined, ih, Plan.isCut_written]
  | link _ ih => rw [Plan.outlined, ih, Plan.isCut_link]
  | code _ ih => rw [Plan.outlined, ih, Plan.isCut_code]
  | raw kind format content => exact any_isCut_rawOutline kind _ _
  | @note body ps _ _ ih =>
    rw [Plan.outlined]
    cases hn : notes.number? (FootnoteBody.ofBlocks body) with
    | some number =>
      rw [Plan.isCut_note_of_some _ hn]
      rfl
    | none =>
      have haside : ∀ cs : Outline, (OutlineNode.element "aside" asideAttrs cs).isCut l = false :=
        fun _ => rfl
      rw [Plan.isCut_note_of_none _ hn, Plan.isCut_element, Plan.outlined,
        any_isCut_element _ haside]
      exact any_isCut_outlined_nested hlimit fun p hp => ih p hp (level + 1)
  | cite keys =>
    rw [Plan.outlined, outlinePreorder_singleton, any_isCut_diagnostic]
    exact beq_eq_false_iff_ne.mpr (citeWording_ne_wording l)

theorem any_isCut_blocksOutlined {blocks : List Block} (h : blocksTyped blocks = true) :
    (outlinePreorder (blocksOutlined mode limit notes 0 blocks)).any (OutlineNode.isCut l)
      = blocksCut limit notes blocks :=
  any_isCut_plansOutlined fun p hp =>
    (sound_plans_of_blocksTyped h p hp).any_isCut_outlined hlimit 0

theorem Document.any_isCut_outlined {d : Document} (hd : d.isTyped = true) :
    (outlinePreorder (d.outlined mode limit d.numbering)).any (OutlineNode.isCut l)
      = d.isCut limit := by
  have hself : ∀ t : Outline, (outlinePreorder t).any (OutlineNode.isCut l)
      = ((outlinePreorder t).filter (OutlineNode.isCut l)).any (OutlineNode.isCut l) := by
    intro t
    simp only [List.any_filter, Bool.and_self]
  have hsection : (outlinePreorder (d.numbering.outlined mode limit)).any (OutlineNode.isCut l)
      = (firstBodies (noteBodies (blocksPreorder d.blocks))).any
          (blocksCut limit Footnotes.none) := by
    rw [hself, Document.numbering, filter_outlined_encountered (quiet_isCut l) (fun _ => rfl),
      List.any_flatMap]
    apply any_congr_of_mem
    intro b hb
    rw [← hself]
    exact any_isCut_blocksOutlined hlimit
      (blocksTyped_of_mem_preorder hd b (mem_of_mem_bodiesMet hb))
  rw [Document.outlined, outlinePreorder_append, List.any_append,
    any_isCut_blocksOutlined hlimit hd, hsection]
  rfl

end Diagnostics

/-! ### Wider limits -/

section Wider

variable {β : Type} {o : Output β} {mode : RawMode} {limit wider : Option Limit}

theorem Engine.runAll_congr {e e' : Engine β} {place : Place} {ps : List Plan}
    (h : ∀ p ∈ ps, e.run place p = e'.run place p) : e.runAll place ps = e'.runAll place ps := by
  induction ps with
  | nil => rfl
  | cons p rest ih =>
    rw [List.forall_mem_cons] at h
    rw [Engine.runAll, Engine.runAll, h.1, ih h.2]

theorem forall_not_isCut {notes : Footnotes} {level : Nat} {ps : List Plan}
    (h : ps.any (Plan.isCut limit notes level) = false) :
    ∀ p ∈ ps, p.isCut limit notes level = false :=
  fun p hp => Bool.eq_false_iff.mpr (List.any_eq_false.mp h p hp)

variable (hwider : ∀ k, beyond limit k = none → beyond wider k = none)
include hwider

theorem Engine.run_nested_of_not_cut {place : Place} {ps : List Plan}
    (h : ∀ p ∈ ps, p.isCut limit place.notes (place.depth + 1) = false →
      ((Config.plain mode limit).engine o).run place.descend p
        = ((Config.plain mode wider).engine o).run place.descend p)
    (hcut : (Plan.nested ps).isCut limit place.notes place.depth = false) :
    ((Config.plain mode limit).engine o).run place (.nested ps)
      = ((Config.plain mode wider).engine o).run place (.nested ps) := by
  cases hb : beyond limit (place.depth + 1) with
  | some l =>
    rw [Plan.isCut_nested_of_some ps hb] at hcut
    cases hcut
  | none =>
    rw [Plan.isCut_nested_of_none ps hb] at hcut
    rw [Engine.run_nested_of_none ps hb, Engine.run_nested_of_none ps (hwider _ hb),
      Engine.runAll_congr fun p hp => h p hp (forall_not_isCut hcut p hp)]
    rfl

/-- Where nothing is cut off, a plan is carried out as under any wider limit. -/
theorem Plan.Sound.run_of_not_cut {p : Plan} (hp : p.Sound) (place : Place)
    (hcut : p.isCut limit place.notes place.depth = false) :
    ((Config.plain mode limit).engine o).run place p
      = ((Config.plain mode wider).engine o).run place p := by
  induction hp generalizing place with
  | text s => rfl
  | parts _ ih =>
    rw [Plan.isCut_parts] at hcut
    rw [Engine.run, Engine.run,
      Engine.runAll_congr fun p hp => ih p hp place (forall_not_isCut hcut p hp)]
    rfl
  | both _ _ ihp ihq =>
    rw [Plan.isCut_both, Bool.or_eq_false_iff] at hcut
    rw [Engine.run, Engine.run, ihp place hcut.1, ihq place hcut.2]
    rfl
  | leaf _ _ => rfl
  | element _ _ _ ih =>
    rw [Plan.isCut_element] at hcut
    rw [Engine.run, Engine.run, ih place hcut]
    rfl
  | nested _ ih =>
    exact Engine.run_nested_of_not_cut hwider (fun p hp => ih p hp place.descend) hcut
  | written _ _ ih =>
    rw [Plan.isCut_written] at hcut
    rw [Engine.run_written, Engine.run_written, ih place hcut]
  | link _ ih =>
    rw [Plan.isCut_link] at hcut
    rw [Engine.run, Engine.run, ih place hcut]
    rfl
  | code _ ih =>
    rw [Plan.isCut_code] at hcut
    rw [Engine.run, Engine.run, ih place hcut]
    rfl
  | raw kind format content => rfl
  | @note body ps hbody _ ih =>
    rw [Engine.run_note _ place hbody, Engine.run_note _ place hbody]
    cases hn : place.notes.number? (FootnoteBody.ofBlocks body) with
    | some number => rfl
    | none =>
      rw [Plan.isCut_note_of_none _ hn, Plan.isCut_element] at hcut
      have hinside : ((Config.plain mode limit).engine o).run place (.nested ps)
          = ((Config.plain mode wider).engine o).run place (.nested ps) :=
        Engine.run_nested_of_not_cut hwider (fun p hp => ih p hp place.descend) hcut
      show (((Config.plain mode limit).engine o).run place (.element _ _ _))
        = ((Config.plain mode wider).engine o).run place (.element _ _ _)
      rw [Engine.run, Engine.run, hinside]
      rfl
  | cite keys => rfl

theorem Engine.renderBlocks_of_not_cut {notes : Footnotes} {blocks : List Block}
    (h : blocksTyped blocks = true) (hcut : blocksCut limit notes blocks = false) :
    ((Config.plain mode limit).engine o).renderBlocks blocks ⟨notes, 0⟩
      = ((Config.plain mode wider).engine o).renderBlocks blocks ⟨notes, 0⟩ := by
  have hplans := FootnoteBody.plans_ofBlocks blocks
  rw [FootnoteBody.ofBlocks] at hplans
  rw [Engine.renderBlocks, Engine.renderBlocks, Engine.renderItems, Engine.renderItems, hplans,
    Engine.runAll_congr fun p hp => (sound_plans_of_blocksTyped h p hp).run_of_not_cut hwider
      ⟨notes, 0⟩ (forall_not_isCut hcut p hp)]
  rfl

theorem Engine.sectionEntry_of_not_cut (number : Nat) {b : List Block} (h : blocksTyped b = true)
    (hcut : blocksCut limit Footnotes.none b = false) :
    ((Config.plain mode limit).engine o).sectionEntry number (FootnoteBody.ofBlocks b)
      = ((Config.plain mode wider).engine o).sectionEntry number (FootnoteBody.ofBlocks b) := by
  have hbody : ((Config.plain mode limit).engine o).renderItems .block (FootnoteBody.ofBlocks b)
      Place.start = ((Config.plain mode wider).engine o).renderItems .block
        (FootnoteBody.ofBlocks b) Place.start := Engine.renderBlocks_of_not_cut hwider h hcut
  rw [Engine.sectionEntry, Engine.sectionEntry, hbody]
  rfl

theorem Engine.footnoteSection_of_not_cut {met : List (List Block)}
    (h : ∀ b ∈ firstBodies met, blocksTyped b = true)
    (hcut : (firstBodies met).any (blocksCut limit Footnotes.none) = false) :
    ((Config.plain mode limit).engine o).footnoteSection (encountered met)
      = ((Config.plain mode wider).engine o).footnoteSection (encountered met) := by
  have hentries : ∀ entries : List (Nat × FootnoteBody),
      (∀ e ∈ entries, ((Config.plain mode limit).engine o).sectionEntry e.1 e.2
        = ((Config.plain mode wider).engine o).sectionEntry e.1 e.2) →
      (entries.mapM fun e => ((Config.plain mode limit).engine o).sectionEntry e.1 e.2)
        = entries.mapM fun e => ((Config.plain mode wider).engine o).sectionEntry e.1 e.2 := by
    intro entries
    induction entries with
    | nil => exact fun _ => rfl
    | cons e rest ih =>
      intro h
      rw [List.forall_mem_cons] at h
      rw [List.mapM_cons, List.mapM_cons, h.1, ih h.2]
  have hall : ∀ e ∈ (encountered met).entries,
      ((Config.plain mode limit).engine o).sectionEntry e.1 e.2
        = ((Config.plain mode wider).engine o).sectionEntry e.1 e.2 := by
    rw [entries_encountered, List.forall_mem_map]
    intro p hp
    have hb := List.fst_mem_of_mem_zipIdx hp
    exact Engine.sectionEntry_of_not_cut hwider (p.2 + 1) (h p.1 hb)
      (Bool.eq_false_iff.mpr (List.any_eq_false.mp hcut p.1 hb))
  rw [Engine.footnoteSection, Engine.footnoteSection, hentries _ hall]
  rfl

/-- Where nothing is cut off, a document is rendered as under any wider limit. -/
theorem Engine.renderDocument_of_not_cut {d : Document} (hd : d.isTyped = true)
    (hcut : d.isCut limit = false) :
    ((Config.plain mode limit).engine o).renderDocument d
      = ((Config.plain mode wider).engine o).renderDocument d := by
  have hfirst : ∀ b ∈ firstBodies (noteBodies (blocksPreorder d.blocks)), blocksTyped b = true :=
    fun b hb => blocksTyped_of_mem_preorder hd b (mem_of_mem_bodiesMet hb)
  have hfootnotes : d.footnotes = ⟨d.footnotes.events, .ok d.numbering⟩ := by
    rw [← Document.outcome_footnotes hd]
  rw [Document.isCut, Bool.or_eq_false_iff] at hcut
  rw [Engine.renderDocument, Engine.renderDocument, hfootnotes, Traced.ok_bind, Traced.ok_bind,
    Engine.renderNumbered, Engine.renderNumbered,
    Engine.renderBlocks_of_not_cut hwider hd hcut.1, Document.numbering,
    Engine.footnoteSection_of_not_cut hwider hfirst hcut.2]
  rfl

end Wider

/-! ### Limits -/

theorem beyond_none (k : Nat) : beyond none k = none := rfl

theorem eq_of_beyond_some {l l' : Limit} {k : Nat} (h : beyond (some l) k = some l') : l' = l := by
  rw [beyond, Option.filter_some] at h
  split at h
  · exact (Option.some.inj h).symm
  · cases h

theorem beyond_ofNat_eq_none_iff (n k : Nat) :
    beyond (some (Limit.ofNat n)) k = none ↔ k ≤ n := by
  rw [beyond, Option.filter_eq_none_iff]
  constructor
  · intro h
    have hn := h _ rfl
    simp only [Limit.ofNat, Limit.excludes, decide_eq_true_eq] at hn
    omega
  · intro h l hl
    obtain rfl := Option.some.inj hl
    simp only [Limit.ofNat, Limit.excludes, decide_eq_true_eq]
    omega

theorem Document.isCut_none {d : Document} (hd : d.isTyped = true) : d.isCut none = false := by
  -- without a limit there is not even a warning that no limit could give
  have hreported : (d.reported Config.standard (fun _ => []) d.numbering).any
      (Event.isTooDeep fun _ => false) = d.isCut none :=
    Document.any_isTooDeep_reported (fun _ _ h => by cases h) (fun _ => rfl) hd
  rw [← hreported, List.any_eq_false]
  intro e _
  rw [Bool.not_eq_true]
  unfold Event.isTooDeep
  split <;> rfl

/-- Rendering a document to its outline under a nesting limit. -/
def Document.within (mode : RawMode) (limit : Option Limit) (d : Document) : Traced Outline :=
  ((Config.plain mode limit).engine outline).renderDocument d

theorem Traced.tooDeep_mem_notices_iff {α : Type} (x : Traced α) (limit : String) :
    Notice.tooDeep limit ∈ x.notices ↔ x.events.any (Event.isTooDeep (· == limit)) = true := by
  rw [Traced.notices, List.mem_filterMap, List.any_eq_true]
  constructor
  · rintro ⟨e, he, hn⟩
    refine ⟨e, he, ?_⟩
    cases e with
    | notice n =>
      cases hn
      exact beq_self_eq_true limit
    | _ => cases hn
  · rintro ⟨e, he, hn⟩
    refine ⟨e, he, ?_⟩
    unfold Event.isTooDeep at hn
    split at hn
    · rw [beq_iff_eq] at hn
      rw [hn]
    · cases hn

section Exact

variable {d : Document} (hd : d.isTyped = true) (mode : RawMode)
include hd

theorem Document.outcome_within (limit : Option Limit) :
    (d.within mode limit).outcome = .ok (d.outlined mode limit d.numbering) :=
  Engine.outline_renderDocument mode limit hd

/-- A rendering warns of its limit exactly if something is cut off. -/
theorem Document.tooDeep_mem_notices_within_iff (l : Limit) :
    Notice.tooDeep l.whole ∈ (d.within mode (some l)).notices ↔ d.isCut (some l) = true := by
  obtain ⟨t, hrun⟩ := Engine.yields_renderDocument (c := Config.plain mode (some l))
    outline_reports rfl hd
  have hamong : ∀ k l', beyond (some l) k = some l' → (l'.whole == l.whole) = true := by
    intro k l' h
    rw [eq_of_beyond_some h, beq_self_eq_true]
  have hreported : (d.reported (Config.plain mode (some l)) (fun _ => []) d.numbering).any
      (Event.isTooDeep (· == l.whole)) = d.isCut (some l) :=
    Document.any_isTooDeep_reported hamong (fun _ => rfl) hd
  rw [Traced.tooDeep_mem_notices_iff, Document.within, hrun, List.any_append,
    Document.any_isTooDeep_footnotes _ hd, hreported, Bool.false_or]

theorem Document.any_isCut_within (l : Limit) {limit : Option Limit}
    (hlimit : ∀ k l', beyond limit k = some l' → l' = l) {t : Outline}
    (ht : (d.within mode limit).outcome = .ok t) :
    (outlinePreorder t).any (OutlineNode.isCut l) = d.isCut limit := by
  rw [Document.outcome_within hd mode limit] at ht
  obtain rfl := Except.ok.inj ht
  exact Document.any_isCut_outlined hlimit hd

theorem Document.any_isCut_within_some {l : Limit} {t : Outline}
    (ht : (d.within mode (some l)).outcome = .ok t) :
    (outlinePreorder t).any (OutlineNode.isCut l) = d.isCut (some l) :=
  Document.any_isCut_within hd mode l (fun _ _ h => eq_of_beyond_some h) ht

theorem Document.any_isCut_within_none (l : Limit) {t : Outline}
    (ht : (d.within mode none).outcome = .ok t) :
    (outlinePreorder t).any (OutlineNode.isCut l) = false := by
  rw [← Document.isCut_none hd]
  exact Document.any_isCut_within hd mode l (fun _ _ h => by cases h) ht

/-- A limit that changes nothing cuts nothing off. -/
theorem Document.isCut_eq_false_of_outcome_eq {l : Limit}
    (h : (d.within mode (some l)).outcome = (d.within mode none).outcome) :
    d.isCut (some l) = false := by
  have ht := Document.outcome_within hd mode none
  rw [← Document.any_isCut_within_some hd mode (h.trans ht)]
  exact Document.any_isCut_within_none hd mode l ht

theorem Document.within_of_not_cut {limit wider : Option Limit}
    (hwider : ∀ k, beyond limit k = none → beyond wider k = none) (hcut : d.isCut limit = false) :
    d.within mode wider = d.within mode limit :=
  (Engine.renderDocument_of_not_cut hwider hd hcut).symm

end Exact

/-- A nesting limit of one or more is exact for every well-typed document.  Rendering within the
limit gives what rendering without one gives if and only if it does not warn of the limit; if it
does warn, its outline holds a diagnostic that the other does not hold.  If it does not, rendering
within any wider limit and without one is the same, what it reports included, and warns of
nothing. -/
theorem nesting_limit_is_exact (d : Document) (h : d.isTyped = true) (mode : RawMode) (n : Nat)
    (hn : 1 ≤ n) :
    ∃ (l : Limit) (within whole : Outline),
      Limit.ofJson (.int n) = .ok (some l)
      ∧ (d.within mode (some l)).outcome = .ok within
      ∧ (d.within mode none).outcome = .ok whole
      ∧ (within = whole ↔ Notice.tooDeep (toString n) ∉ (d.within mode (some l)).notices)
      ∧ (Notice.tooDeep (toString n) ∈ (d.within mode (some l)).notices →
        (∃ x ∈ outlinePreorder within, x.isCut l = true)
        ∧ ∀ x ∈ outlinePreorder whole, x.isCut l = false)
      ∧ (Notice.tooDeep (toString n) ∉ (d.within mode (some l)).notices →
        d.within mode none = d.within mode (some l)
        ∧ ∀ m, n ≤ m → ∃ wider : Limit,
          Limit.ofJson (.int m) = .ok (some wider)
          ∧ d.within mode (some wider) = d.within mode (some l)
          ∧ Notice.tooDeep (toString m) ∉ (d.within mode (some wider)).notices) := by
  have hofJson : ∀ m : Nat, 1 ≤ m → Limit.ofJson (.int m) = .ok (some (Limit.ofNat m)) := by
    intro m hm
    have hlow : ¬ (m : Int) < 1 := by omega
    rw [Limit.ofJson, if_neg hlow]
    rfl
  have hwarns : ∀ m : Nat, Notice.tooDeep (toString m)
      ∈ (d.within mode (some (Limit.ofNat m))).notices ↔ d.isCut (some (Limit.ofNat m)) = true :=
    fun m => Document.tooDeep_mem_notices_within_iff h mode (Limit.ofNat m)
  have hwithin := Document.outcome_within h mode (some (Limit.ofNat n))
  have hwhole := Document.outcome_within h mode none
  have hnone : d.isCut (some (Limit.ofNat n)) = false →
      d.within mode none = d.within mode (some (Limit.ofNat n)) :=
    Document.within_of_not_cut h mode fun k _ => beyond_none k
  refine ⟨Limit.ofNat n, _, _, hofJson n hn, hwithin, hwhole, ?_, ?_, ?_⟩
  · rw [hwarns, Bool.not_eq_true]
    constructor
    · intro heq
      exact Document.isCut_eq_false_of_outcome_eq h mode (by rw [hwithin, hwhole, heq])
    · intro hcut
      have houtcome := hwhole
      rw [hnone hcut, hwithin] at houtcome
      exact Except.ok.inj houtcome
  · rw [hwarns]
    intro hcut
    rw [← Document.any_isCut_within_some h mode hwithin, List.any_eq_true] at hcut
    have hnever := List.any_eq_false.mp
      (Document.any_isCut_within_none h mode (Limit.ofNat n) hwhole)
    exact ⟨hcut, fun x hx => Bool.eq_false_iff.mpr (hnever x hx)⟩
  · rw [hwarns, Bool.not_eq_true]
    intro hcut
    refine ⟨hnone hcut, fun m hm => ⟨Limit.ofNat m, hofJson m (by omega), ?_⟩⟩
    have hwider : d.within mode (some (Limit.ofNat m)) = d.within mode (some (Limit.ofNat n)) := by
      refine Document.within_of_not_cut h mode (fun k hk => ?_) hcut
      rw [beyond_ofNat_eq_none_iff] at hk ⊢
      omega
    refine ⟨hwider, ?_⟩
    rw [hwarns, Bool.not_eq_true]
    exact Document.isCut_eq_false_of_outcome_eq h mode (by rw [hwider, hnone hcut])

/-- The section of `nestedRepeat` has a footnote inside a footnote, three levels deep. -/
theorem nestedRepeat_within_limits :
    (Document.mk [] nestedRepeat).isTyped = true ∧ 1 ≤ 2 ∧ 1 ≤ 3
    ∧ (Document.mk [] nestedRepeat).within .drop (some (Limit.ofNat 2))
      ≠ (Document.mk [] nestedRepeat).within .drop none
    ∧ (Document.mk [] nestedRepeat).within .drop (some (Limit.ofNat 3))
      = (Document.mk [] nestedRepeat).within .drop none := by
  have h : (Document.mk [] nestedRepeat).isTyped = true := by decide
  have hwarns := fun m =>
    Document.tooDeep_mem_notices_within_iff h .drop (Limit.ofNat m)
  refine ⟨h, by decide, by decide, ?_, ?_⟩
  · obtain ⟨l, within, whole, hl, hwithin, hwhole, hiff, _⟩ :=
      nesting_limit_is_exact _ h .drop 2 (by decide)
    obtain rfl : Limit.ofNat 2 = l := Option.some.inj (Except.ok.inj hl)
    intro heq
    have hsame : within = whole := Except.ok.inj (by rw [← hwithin, ← hwhole, heq])
    exact hiff.mp hsame ((hwarns 2).mpr (by decide))
  · obtain ⟨l, _, _, hl, _, _, _, _, hnone⟩ := nesting_limit_is_exact _ h .drop 3 (by decide)
    obtain rfl : Limit.ofNat 3 = l := Option.some.inj (Except.ok.inj hl)
    refine (hnone fun hmem => ?_).1.symm
    exact absurd ((hwarns 3).mp hmem) (by decide)

end PandocHtml
