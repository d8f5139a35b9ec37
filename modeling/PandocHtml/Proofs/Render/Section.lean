import PandocHtml.Proofs.Render.References

/-!
# The section of footnotes

The section lists the numbered bodies, each once and in the order of their numbers.  Bodies are
rendered there without numbered footnotes: whatever footnotes a body displays stand in place, at
any depth and whether the section lists them too or not, and the section holds no reference.
-/

namespace PandocHtml

/-! ### Footnotes in place -/

/-- The element of a footnote that stands in place. -/
def OutlineNode.isInlineAside : OutlineNode → Bool
  | .element tag (some m) _ =>
    tag == "aside" && match m.get? "class" with
      | some (.str name) => name == "footnote-inline"
      | _ => false
  | _ => false

theorem stern_isInlineAside : Stern OutlineNode.isInlineAside where
  text _ := rfl
  leaf _ _ _ := rfl
  element tag attrs children htag := by
    have haside := quiet_isAside.element tag attrs children htag
    rw [OutlineNode.isAside] at haside
    cases attrs with
    | none => rfl
    | some m => rw [OutlineNode.isInlineAside, haside, Bool.false_and]
  diagnostic _ := rfl
  raw := filter_rawOutline (fun _ => rfl) fun kind _ _ => by cases kind <;> rfl

theorem Node.plan_of_noteBody? {n : Node} {b : List Block} (h : n.noteBody? = some b) :
    n.plan = .note b (.element "aside" asideAttrs (.nested (blockPlans b))) := by
  cases n with
  | block c => cases h
  | inline i =>
    cases i with
    | note blocks =>
      cases h
      rfl
    | _ => cases h

section InPlace

variable {q : OutlineNode → Bool} {mode : RawMode} {limit : Option Limit} {level : Nat}

theorem notesDecided_none (ns : List Node) : notesDecided Footnotes.none true ns :=
  fun _ _ => rfl

/-- Without numbers a footnote shows an aside, whatever stands inside it. -/
theorem Inert.filter_shows_inPlace (hq : Inert q) {count : Nat}
    (haside : ∀ children : Outline,
      ([OutlineNode.element "aside" asideAttrs children].filter q).length = count) (n : Node) :
    ((n.plan.shows mode limit Footnotes.none level).filter q).length
      = n.noteBody?.toList.length * count := by
  cases hb : n.noteBody? with
  | none =>
    have hplan : n.plan.isNote = false := by rw [Node.isNote_plan, hb, Option.isSome_none]
    rw [hq.filter_shows hplan]
    exact (Nat.zero_mul count).symm
  | some b =>
    rw [Node.plan_of_noteBody? hb]
    exact (haside _).trans (Nat.one_mul count).symm

/-- What a predicate picks from blocks that are rendered without numbers, if it only looks for what
footnotes show: so many pieces for each displayed footnote that is reached. -/
theorem Inert.length_filter_blocksOutlined (hq : Inert q) (mode : RawMode) (limit : Option Limit)
    (count : Nat)
    (haside : ∀ children : Outline,
      ([OutlineNode.element "aside" asideAttrs children].filter q).length = count)
    {blocks : List Block}
    (hshown : ∀ p ∈ blocks.map Block.plan, ShownBy q mode limit Footnotes.none 0 p)
    (ht : blocksTyped blocks = true) :
    ((outlinePreorder (blocksOutlined mode limit Footnotes.none 0 blocks)).filter q).length
      = (noteBodies (((nodesDisplayed true 0 (blocks.map Node.block)).filter (reached limit)).map
          (·.2))).length * count := by
  rw [PandocHtml.filter_blocksOutlined (fun l => hq.diagnostic l.wording) hshown ht
    (notesDecided_none _) (isNone_beyond_zero limit), noteBodies, List.filterMap_eq_flatMap_toList]
  generalize (nodesDisplayed true 0 (blocks.map Node.block)).filter (reached limit) = xs
  induction xs with
  | nil => exact (Nat.zero_mul count).symm
  | cons x rest ih =>
    rw [List.flatMap_cons, List.length_append, ih, hq.filter_shows_inPlace haside, List.map_cons,
      List.flatMap_cons, List.length_append, Nat.add_mul]

end InPlace

/-! ### Entries -/

/-- The entry of a footnote around the rendering of its body. -/
def OutlineNode.listed (number : Nat) (content : Outline) : OutlineNode :=
  .element "li" none
    (.leaf "a" (some (AttrMap.ofTexts [("name", footnoteAnchor number)]))
      :: (content
        ++ [.element "a" (some (AttrMap.ofTexts [("href", "#" ++ referenceAnchor number)]))
          [.text (.str "↩︎")]]))

theorem FootnoteBody.plans_ofBlocks (b : List Block) :
    (FootnoteBody.ofBlocks b).map (Item.plan .block) = b.map Block.plan := by
  rw [FootnoteBody.ofBlocks, List.map_map]
  rfl

theorem OutlineNode.entry_ofBlocks (mode : RawMode) (limit : Option Limit) (number : Nat)
    (b : List Block) :
    OutlineNode.entry mode limit number (FootnoteBody.ofBlocks b)
      = .listed number (blocksOutlined mode limit Footnotes.none 0 b) := by
  rw [OutlineNode.entry, FootnoteBody.plans_ofBlocks]
  rfl

theorem filter_listed {q : OutlineNode → Bool} (hq : Quiet q)
    (hanchor : ∀ attrs : Option AttrMap, q (.leaf "a" attrs) = false) (number : Nat)
    (content : Outline) :
    (OutlineNode.listed number content).preorder.filter q
      = (outlinePreorder content).filter q := by
  have hback : (outlinePreorder [.element "a"
      (some (AttrMap.ofTexts [("href", "#" ++ referenceAnchor number)]))
      [.text (.str "↩︎")]]).filter q = [] := by
    rw [outlinePreorder_singleton, OutlineNode.preorder, outlinePreorder_singleton,
      OutlineNode.preorder, List.filter_cons_of_neg (by simp [hq.element "a" _ _ rfl]),
      List.filter_cons_of_neg (by simp [hq.text])]
    rfl
  rw [OutlineNode.listed, OutlineNode.preorder,
    List.filter_cons_of_neg (by simp [hq.element "li" none _ rfl]), outlinePreorder,
    OutlineNode.preorder, List.filter_append,
    List.filter_cons_of_neg (by simp [hanchor]), outlinePreorder_append,
    List.filter_append, hback, List.append_nil]
  rfl

/-- The entries of a section, one for each of some bodies in order: the entry holds what rendering
the body without numbers gives, and an aside for each footnote that the body displays. -/
structure ListsBodies (mode : RawMode) (bodies : List (List Block)) (items : List OutlineNode) :
    Prop where
  length : items.length = bodies.length
  item : ∀ (i : Nat) (b : List Block), bodies[i]? = some b →
    ∃ content : Outline,
      (((Config.plain mode none).engine outline).renderBlocks b Place.start).outcome = .ok content
      ∧ items[i]? = some (.listed (i + 1) content)
  asides : items.map (fun n => (n.preorder.filter OutlineNode.isInlineAside).length)
    = bodies.map fun b =>
        (noteBodies ((nodesDisplayed true 0 (b.map Node.block)).map (·.2))).length

theorem listsBodies (mode : RawMode) {bodies : List (List Block)}
    (h : ∀ b ∈ bodies, blocksTyped b = true) :
    ListsBodies mode bodies
      (bodies.zipIdx.map fun p =>
        .listed (p.2 + 1) (blocksOutlined mode none Footnotes.none 0 p.1)) where
  length := by rw [List.length_map, List.length_zipIdx]
  item i b hb := by
    refine ⟨blocksOutlined mode none Footnotes.none 0 b, ?_, ?_⟩
    · have ht := h b (List.mem_of_getElem? hb)
      exact Engine.outline_renderBlocks mode none ht Place.start
    · rw [List.getElem?_map, List.getElem?_zipIdx, hb]
      simp only [Option.map_some, Nat.zero_add]
  asides := by
    rw [List.map_map]
    conv_rhs => rw [← List.zipIdx_map_fst 0 bodies, List.map_map]
    apply List.map_congr_left
    intro p hp
    have ht := h p.1 (List.fst_mem_of_mem_zipIdx hp)
    have hcount := stern_isInlineAside.toInert.length_filter_blocksOutlined mode none 1
      (fun _ => rfl) (shownBy_of_blocksTyped stern_isInlineAside.toQuiet ht 0) ht
    rw [Nat.mul_one, filter_reached_none] at hcount
    rw [Function.comp_apply, filter_listed stern_isInlineAside.toQuiet fun _ => rfl, hcount]
    rfl

/-! ### The section -/

/-- The list of entries in its place. -/
def OutlineNode.section (items : List OutlineNode) : OutlineNode :=
  .element "div" (some (AttrMap.ofTexts [("id", "footnotes")])) [.element "ol" none items]

theorem entries_encountered (met : List (List Block)) :
    (encountered met).entries
      = (firstBodies met).zipIdx.map fun p => (p.2 + 1, FootnoteBody.ofBlocks p.1) := by
  rw [Footnotes.entries, encountered, List.zipIdx_map, List.map_map]
  rfl

theorem isEmpty_encountered (met : List (List Block)) :
    (encountered met).bodies.isEmpty = (firstBodies met).isEmpty :=
  List.isEmpty_map

theorem outlined_encountered (mode : RawMode) (limit : Option Limit) {met : List (List Block)}
    (h : firstBodies met ≠ []) :
    (encountered met).outlined mode limit
      = [.section ((firstBodies met).zipIdx.map fun p =>
          .listed (p.2 + 1) (blocksOutlined mode limit Footnotes.none 0 p.1))] := by
  have hentries : (encountered met).entries.map (fun e => OutlineNode.entry mode limit e.1 e.2)
      = (firstBodies met).zipIdx.map fun p =>
          .listed (p.2 + 1) (blocksOutlined mode limit Footnotes.none 0 p.1) := by
    rw [entries_encountered, List.map_map]
    apply List.map_congr_left
    intro p _
    exact OutlineNode.entry_ofBlocks mode limit (p.2 + 1) p.1
  rw [Footnotes.outlined, isEmpty_encountered, List.isEmpty_eq_false_iff.mpr h, hentries]
  rfl

theorem outlinePreorder_eq_flatMap (t : Outline) :
    outlinePreorder t = t.flatMap OutlineNode.preorder := by
  induction t with
  | nil => rfl
  | cons n rest ih => rw [outlinePreorder, ih, List.flatMap_cons]

/-- What a quiet predicate picks from the section, it picks from the bodies. -/
theorem filter_outlined_encountered {q : OutlineNode → Bool} (hq : Quiet q)
    (hanchor : ∀ attrs : Option AttrMap, q (.leaf "a" attrs) = false) (mode : RawMode)
    (limit : Option Limit) (met : List (List Block)) :
    (outlinePreorder ((encountered met).outlined mode limit)).filter q
      = (firstBodies met).flatMap fun b =>
          (outlinePreorder (blocksOutlined mode limit Footnotes.none 0 b)).filter q := by
  by_cases hnil : firstBodies met = []
  · rw [Footnotes.outlined, isEmpty_encountered, hnil]
    rfl
  · have hitems : (outlinePreorder ((firstBodies met).zipIdx.map fun p => OutlineNode.listed
        (p.2 + 1) (blocksOutlined mode limit Footnotes.none 0 p.1))).filter q
        = (firstBodies met).flatMap fun b =>
            (outlinePreorder (blocksOutlined mode limit Footnotes.none 0 b)).filter q := by
      rw [outlinePreorder_eq_flatMap, List.filter_flatMap, List.flatMap_map]
      conv_rhs => rw [← List.zipIdx_map_fst 0 (firstBodies met), List.flatMap_map]
      apply List.flatMap_congr
      intro p _
      exact filter_listed hq hanchor (p.2 + 1) _
    rw [outlined_encountered mode limit hnil, outlinePreorder_singleton, OutlineNode.section,
      OutlineNode.preorder, List.filter_cons_of_neg (by simp [hq.element "div" _ _ rfl]),
      outlinePreorder_singleton, OutlineNode.preorder,
      List.filter_cons_of_neg (by simp [hq.element "ol" none _ rfl]), hitems]

theorem filter_isReference_outlined_encountered (mode : RawMode) {limit : Option Limit}
    {met : List (List Block)} (h : ∀ b ∈ firstBodies met, blocksTyped b = true) :
    (outlinePreorder ((encountered met).outlined mode limit)).filter OutlineNode.isReference
      = [] := by
  rw [filter_outlined_encountered quiet_isReference (fun _ => rfl), List.flatMap_eq_nil_iff]
  intro b hb
  have hcount := stern_isReference.toInert.length_filter_blocksOutlined mode limit 0
    (fun _ => rfl) (shownBy_of_blocksTyped quiet_isReference (h b hb) 0) (h b hb)
  exact List.eq_nil_of_length_eq_zero hcount

/-- The section for a numbering of well-typed bodies, met in any order and any number of times.  It
is empty exactly if nothing is numbered.  Otherwise it is one list with an entry for each body that
equals no earlier one, in the order in which these are met.  No reference stands in it, and every
footnote that a body displays stands in place, one inside another too. -/
theorem footnoteSection_lists_bodies (met : List (List Block))
    (h : ∀ b ∈ met, blocksTyped b = true) (mode : RawMode) :
    ∃ (notes : Footnotes) (listed : Outline) (items : List OutlineNode),
      Footnotes.ofBodies (met.map FootnoteBody.ofBlocks) = .ok notes
      ∧ FirstEncounter met notes
      ∧ (((Config.plain mode none).engine outline).footnoteSection notes).outcome = .ok listed
      ∧ (listed = [] ↔ notes.size = 0)
      ∧ (notes.size ≠ 0 → listed = [.section items])
      ∧ items.length = notes.size
      ∧ ListsBodies mode (firstBodies met) items
      ∧ ∀ n ∈ outlinePreorder listed, n.isReference = false := by
  have hmet : ∀ b ∈ met, isBodyKey b = true := fun b hb => isBodyKey_of_blocksTyped (h b hb)
  have hfirst : ∀ b ∈ firstBodies met, blocksTyped b = true :=
    fun b hb => h b (mem_of_mem_bodiesMet hb)
  have htyped : (encountered met).Typed := by
    rw [Footnotes.Typed, encountered, List.forall_mem_map]
    exact fun b hb => ⟨b, rfl, hfirst b hb⟩
  have hsection : (((Config.plain mode none).engine outline).footnoteSection
      (encountered met)).outcome = .ok ((encountered met).outlined mode none) :=
    (Engine.outcome_footnoteSection outline_lawful rfl htyped).trans (outline_build _)
  have hsize : (encountered met).size = (firstBodies met).length := by
    rw [Footnotes.size, encountered, List.length_map]
  have hitems := listsBodies mode hfirst
  refine ⟨encountered met, (encountered met).outlined mode none, _, ofBodies_ofBlocks hmet,
    firstEncounter_encountered hmet, hsection, ?_, ?_, hitems.length.trans hsize.symm, hitems, ?_⟩
  · rw [hsize, List.length_eq_zero_iff]
    constructor
    · intro hnil
      by_contra hne
      rw [outlined_encountered mode none hne] at hnil
      exact List.cons_ne_nil _ _ hnil
    · intro hnil
      rw [Footnotes.outlined, encountered, hnil]
      rfl
  · intro hne
    rw [hsize, ne_eq, List.length_eq_zero_iff] at hne
    exact outlined_encountered mode none hne
  · intro n hn
    have hnone := List.filter_eq_nil_iff.mp
      (filter_isReference_outlined_encountered mode hfirst) n hn
    exact Bool.not_eq_true _ ▸ hnone

/-- Of the three footnotes of `nestedRepeat` the last repeats the first and stands inside the
second. -/
theorem footnoteSection_nestedRepeat :
    (∀ b ∈ noteBodies (blocksPreorder nestedRepeat), blocksTyped b = true)
    ∧ ∃ (notes : Footnotes) (items : List OutlineNode),
      (((Config.plain .drop none).engine outline).footnoteSection notes).outcome
        = .ok [.section items]
      ∧ items.map (fun n => (n.preorder.filter OutlineNode.isInlineAside).length) = [0, 1] := by
  have h : ∀ b ∈ noteBodies (blocksPreorder nestedRepeat), blocksTyped b = true :=
    blocksTyped_of_mem_preorder (by decide)
  obtain ⟨notes, listed, items, _, _, hsection, _, hlisted, hlength, hitems, _⟩ :=
    footnoteSection_lists_bodies _ h .drop
  have hcounts : (firstBodies (noteBodies (blocksPreorder nestedRepeat))).map (fun b =>
      (noteBodies ((nodesDisplayed true 0 (b.map Node.block)).map (·.2))).length) = [0, 1] := by
    have hbodies : firstBodies (noteBodies (blocksPreorder nestedRepeat))
        = [[.plain [.str (.str "a")]],
          [.para [.str (.str "b"), .note [.plain [.str (.str "a")]]]]] := rfl
    rw [hbodies]
    simp [nodesDisplayed, Node.displayed_eq, Node.shown, Block.shown, Inline.shown,
      noteBodies, Node.noteBody?, List.filterMap_cons]
  have hsize : notes.size ≠ 0 := by
    rw [← hlength, hitems.length, ← List.length_map, hcounts]
    decide
  rw [hlisted hsize] at hsection
  exact ⟨h, notes, items, hsection, hitems.asides.trans hcounts⟩

end PandocHtml
