import PandocHtml.Proofs.Document.FieldwiseEquality
import PandocHtml.Proofs.Document.Matching
import PandocHtml.Proofs.Footnote.FirstEncounter

/-!
# Equal nodes

Equal nodes were made by one constructor from equal arguments.  Of well-typed nodes this says more:
their own values are the same, so the nodes match by their children, which are equal in turn.  So
equal trees have the same shape all the way down, their nodes are equal one after another in
pre-order, and so are the bodies of their footnotes.
-/

namespace PandocHtml

/-! ### Equal values -/

theorem Json.eq_of_same_text {v w : Json} (hv : v.isText = true) (hw : w.isText = true)
    (h : v.same w = true) : v = w := by
  obtain ⟨s, rfl⟩ := Json.eq_str_of_isText hv
  obtain ⟨t, rfl⟩ := Json.eq_str_of_isText hw
  have hst : (s == t) = true := h
  rw [beq_iff_eq.mp hst]

theorem Json.eq_of_same_integer {v w : Json} (hv : v.isInteger = true) (hw : w.isInteger = true)
    (h : v.same w = true) : v = w := by
  obtain ⟨m, rfl⟩ := Json.eq_int_of_isInteger hv
  obtain ⟨n, rfl⟩ := Json.eq_int_of_isInteger hw
  have hmn : (m == n) = true := h
  rw [beq_iff_eq.mp hmn]

theorem Target.eq_of_same {s t : Target} (hs : s.isTyped = true) (ht : t.isTyped = true)
    (h : s.SameFields t) : s = t := by
  obtain ⟨url, title⟩ := s
  obtain ⟨url', title'⟩ := t
  simp only [Target.isTyped, Bool.and_eq_true] at hs ht
  obtain rfl := Json.eq_of_same_text hs.1 ht.1 h.url
  obtain rfl := Json.eq_of_same_text hs.2 ht.2 h.title
  rfl

theorem ListAttributes.eq_of_same {a b : ListAttributes} (ha : a.start.isInteger = true)
    (hb : b.start.isInteger = true) (h : a.SameFields b) : a = b := by
  obtain ⟨start, style, delimiter⟩ := a
  obtain ⟨start', style', delimiter'⟩ := b
  obtain rfl := Json.eq_of_same_integer ha hb h.start
  obtain rfl := h.style
  obtain rfl := h.delimiter
  rfl

theorem Json.eq_of_sameItems_texts {vs ws : List Json} (hv : vs.all Json.isText = true)
    (hw : ws.all Json.isText = true) (h : Json.sameItems vs ws = true) : vs = ws := by
  induction vs generalizing ws with
  | nil =>
    cases ws with
    | nil => rfl
    | cons w ws => cases h
  | cons v vs ih =>
    cases ws with
    | nil => cases h
    | cons w ws =>
      rw [List.all_cons, Bool.and_eq_true] at hv hw
      rw [Json.sameItems, Bool.and_eq_true] at h
      rw [Json.eq_of_same_text hv.1 hw.1 h.1, ih hv.2 hw.2 h.2]

/-- Equal attributes have one identifier and one list of classes, and the same pairs. -/
theorem Attr.eq_of_same {a b : Attr} (ha : a.isTyped = true) (hb : b.isTyped = true)
    (h : a.same b = true) :
    a.identifier = b.identifier ∧ a.classes = b.classes ∧ ∀ p, p ∈ a.pairs ↔ p ∈ b.pairs := by
  have hpairs := ((Attr.same_iff (isKey_of_isTyped ha) (isKey_of_isTyped hb)).mp h).2.2
  simp only [Attr.isTyped, Bool.and_eq_true] at ha hb
  simp only [Attr.same, Bool.and_eq_true] at h
  exact ⟨Json.eq_of_same_text ha.1 hb.1 h.1.1.1, Json.eq_of_sameItems_texts ha.2 hb.2 h.1.1.2,
    hpairs⟩

/-! ### Equal well-typed nodes -/

/-- Equal well-typed nodes, both blocks or both inlines. -/
inductive Node.Equal : Node → Node → Prop where
  | block {b c : Block} (hb : (Node.block b).isTyped = true) (hc : (Node.block c).isTyped = true)
      (h : b.same c = true) : Equal (.block b) (.block c)
  | inline {i j : Inline} (hi : (Node.inline i).isTyped = true)
      (hj : (Node.inline j).isTyped = true) (h : i.same j = true) : Equal (.inline i) (.inline j)

def AllTyped (ns : List Node) : Prop := ∀ n ∈ ns, n.isTyped = true

theorem AllTyped.flatMap {α : Type} {f : α → List Node} {xs : List α} (h : AllTyped (xs.flatMap f))
    {x : α} (hx : x ∈ xs) : AllTyped (f x) :=
  fun n hn => h n (List.mem_flatMap.mpr ⟨x, hx, hn⟩)

theorem AllTyped.append {ns ms : List Node} (h : AllTyped (ns ++ ms)) :
    AllTyped ns ∧ AllTyped ms :=
  List.forall_mem_append.mp h

theorem inlinesBy_equal {xs ys : List Inline} (hx : AllTyped (xs.map Node.inline))
    (hy : AllTyped (ys.map Node.inline)) (h : SameInlines xs ys) :
    InlinesBy Node.Equal xs ys := by
  rw [InlinesBy, forall₂_map_iff]
  apply forall₂_of_mem h
  intro i hi j hj hij
  exact .inline (hx _ (List.mem_map_of_mem hi)) (hy _ (List.mem_map_of_mem hj)) hij

theorem blocksBy_equal {xs ys : List Block} (hx : AllTyped (xs.map Node.block))
    (hy : AllTyped (ys.map Node.block)) (h : SameBlocks xs ys) : BlocksBy Node.Equal xs ys := by
  rw [BlocksBy, forall₂_map_iff]
  apply forall₂_of_mem h
  intro b hb c hc hbc
  exact .block (hx _ (List.mem_map_of_mem hb)) (hy _ (List.mem_map_of_mem hc)) hbc

/-- Lists of equal entries are related entry by entry, if two equal entries are whenever the nodes
in them are well-typed. -/
theorem related_of_sameFields {α : Type} {R S : α → α → Prop} {nodes : α → List Node}
    {xs ys : List α} (hx : AllTyped (xs.flatMap nodes)) (hy : AllTyped (ys.flatMap nodes))
    (h : List.Forall₂ S xs ys)
    (hR : ∀ x y, AllTyped (nodes x) → AllTyped (nodes y) → S x y → R x y) :
    List.Forall₂ R xs ys := by
  apply forall₂_of_mem h
  intro x hxs y hys hxy
  exact hR x y (hx.flatMap hxs) (hy.flatMap hys) hxy

theorem linesBy_equal {xs ys : List (List Inline)}
    (hx : AllTyped (xs.flatMap fun line => line.map Node.inline))
    (hy : AllTyped (ys.flatMap fun line => line.map Node.inline))
    (h : List.Forall₂ SameInlines xs ys) : List.Forall₂ (InlinesBy Node.Equal) xs ys :=
  related_of_sameFields hx hy h fun _ _ hline hother hsame => inlinesBy_equal hline hother hsame

theorem itemsBy_equal {xs ys : List (List Block)}
    (hx : AllTyped (xs.flatMap fun item => item.map Node.block))
    (hy : AllTyped (ys.flatMap fun item => item.map Node.block))
    (h : List.Forall₂ SameBlocks xs ys) : List.Forall₂ (BlocksBy Node.Equal) xs ys :=
  related_of_sameFields hx hy h fun _ _ hitem hother hsame => blocksBy_equal hitem hother hsame

theorem definitionsBy_equal {xs ys : List Definition}
    (hx : AllTyped (xs.flatMap fun d =>
      d.term.map Node.inline ++ d.meanings.flatMap fun m => m.map Node.block))
    (hy : AllTyped (ys.flatMap fun d =>
      d.term.map Node.inline ++ d.meanings.flatMap fun m => m.map Node.block))
    (h : List.Forall₂ Definition.SameFields xs ys) :
    List.Forall₂ (Definition.MatchesBy Node.Equal) xs ys := by
  apply related_of_sameFields hx hy h
  intro d e hd he hsame
  obtain ⟨hterm, hmeanings⟩ := hd.append
  obtain ⟨hterm', hmeanings'⟩ := he.append
  exact ⟨inlinesBy_equal hterm hterm' hsame.term, itemsBy_equal hmeanings hmeanings' hsame.meanings⟩

theorem citationsBy_equal {xs ys : List Citation}
    (hx : AllTyped (xs.flatMap fun c => c.before.map Node.inline ++ c.after.map Node.inline))
    (hy : AllTyped (ys.flatMap fun c => c.before.map Node.inline ++ c.after.map Node.inline))
    (h : List.Forall₂ Citation.SameFields xs ys) :
    List.Forall₂ (Citation.MatchesBy Node.Equal) xs ys := by
  apply related_of_sameFields hx hy h
  intro c c' hc hc' hsame
  obtain ⟨hbefore, hafter⟩ := hc.append
  obtain ⟨hbefore', hafter'⟩ := hc'.append
  exact ⟨inlinesBy_equal hbefore hbefore' hsame.before, inlinesBy_equal hafter hafter' hsame.after⟩

theorem cellsBy_equal {xs ys : List Cell}
    (hx : AllTyped (xs.flatMap fun c => c.blocks.map Node.block))
    (hy : AllTyped (ys.flatMap fun c => c.blocks.map Node.block))
    (h : List.Forall₂ Cell.SameFields xs ys) : CellsBy Node.Equal xs ys :=
  related_of_sameFields hx hy h fun _ _ hcell hother hsame =>
    blocksBy_equal hcell hother hsame.blocks

theorem rowsBy_equal {xs ys : List Row} (hx : AllTyped (rowNodes xs)) (hy : AllTyped (rowNodes ys))
    (h : List.Forall₂ Row.SameFields xs ys) : RowsBy Node.Equal xs ys :=
  related_of_sameFields hx hy h fun _ _ hrow hother hsame => cellsBy_equal hrow hother hsame.cells

theorem bodiesBy_equal {xs ys : List TableBody}
    (hx : AllTyped (xs.flatMap fun b => rowNodes b.headRows ++ rowNodes b.rows))
    (hy : AllTyped (ys.flatMap fun b => rowNodes b.headRows ++ rowNodes b.rows))
    (h : List.Forall₂ TableBody.SameFields xs ys) :
    List.Forall₂ (TableBody.MatchesBy Node.Equal) xs ys := by
  apply related_of_sameFields hx hy h
  intro b b' hb hb' hsame
  obtain ⟨hhead, hrows⟩ := hb.append
  obtain ⟨hhead', hrows'⟩ := hb'.append
  exact ⟨rowsBy_equal hhead hhead' hsame.headRows, rowsBy_equal hrows hrows' hsame.rows⟩

theorem captionBy_equal {c c' : Caption} (hx : AllTyped c.nodes) (hy : AllTyped c'.nodes)
    (h : c.SameFields c') : Caption.MatchesBy Node.Equal c c' := by
  obtain ⟨hshort, hblocks⟩ := hx.append
  obtain ⟨hshort', hblocks'⟩ := hy.append
  obtain ⟨short, blocks⟩ := c
  obtain ⟨short', blocks'⟩ := c'
  refine ⟨?_, blocksBy_equal hblocks hblocks' h.blocks⟩
  cases h.short with
  | none => exact .nil
  | some hinlines => exact inlinesBy_equal hshort hshort' hinlines

theorem Inline.matchesBy_of_same {i j : Inline} (hi : (Node.inline i).isTyped = true)
    (hj : (Node.inline j).isTyped = true) (h : i.same j = true) :
    Inline.MatchesBy Node.Equal i j := by
  have hf := Node.hasTypedFields_of_isTyped hi
  have hg := Node.hasTypedFields_of_isTyped hj
  have hx : AllTyped i.children := fun c hc => Node.isTyped_of_mem_children hi hc
  have hy : AllTyped j.children := fun c hc => Node.isTyped_of_mem_children hj hc
  cases Inline.sameFields_iff.mp h with
  | @str text text' htext =>
    obtain rfl := Json.eq_of_same_text hf hg htext
    exact .str text
  | styled style hcontent => exact .styled style (inlinesBy_equal hx hy hcontent)
  | quoted kind hcontent => exact .quoted kind (inlinesBy_equal hx hy hcontent)
  | cite hcitations hcontent =>
    obtain ⟨haround, hinlines⟩ := AllTyped.append hx
    obtain ⟨haround', hinlines'⟩ := AllTyped.append hy
    exact .cite (citationsBy_equal haround haround' hcitations)
      (inlinesBy_equal hinlines hinlines' hcontent)
  | @code _ _ text text' hattr htext =>
    simp only [Node.hasTypedFields, Bool.and_eq_true] at hf hg
    obtain rfl := Json.eq_of_same_text hf.2 hg.2 htext
    exact .code text (Attr.sameFields_iff.mpr hattr)
  | space => exact .space
  | softBreak => exact .softBreak
  | lineBreak => exact .lineBreak
  | @math kind text text' htext =>
    obtain rfl := Json.eq_of_same_text hf hg htext
    exact .math kind text
  | @raw format format' text text' hformat htext =>
    simp only [Node.hasTypedFields, Bool.and_eq_true] at hf hg
    obtain rfl := Json.eq_of_same_text hf.1 hg.1 hformat
    obtain rfl := Json.eq_of_same_text hf.2 hg.2 htext
    exact .raw format text
  | @link _ _ _ _ target target' hattr hcontent htarget =>
    simp only [Node.hasTypedFields, Bool.and_eq_true] at hf hg
    obtain rfl := Target.eq_of_same hf.2 hg.2 htarget
    exact .link target (Attr.sameFields_iff.mpr hattr) (inlinesBy_equal hx hy hcontent)
  | @image _ _ _ _ target target' hattr hcontent htarget =>
    simp only [Node.hasTypedFields, Bool.and_eq_true] at hf hg
    obtain rfl := Target.eq_of_same hf.2 hg.2 htarget
    exact .image target (Attr.sameFields_iff.mpr hattr) (inlinesBy_equal hx hy hcontent)
  | note hblocks => exact .note (blocksBy_equal hx hy hblocks)
  | span hattr hcontent =>
    exact .span (Attr.sameFields_iff.mpr hattr) (inlinesBy_equal hx hy hcontent)

theorem Block.matchesBy_of_same {b c : Block} (hb : (Node.block b).isTyped = true)
    (hc : (Node.block c).isTyped = true) (h : b.same c = true) :
    Block.MatchesBy Node.Equal b c := by
  have hf := Node.hasTypedFields_of_isTyped hb
  have hg := Node.hasTypedFields_of_isTyped hc
  have hx : AllTyped b.children := fun n hn => Node.isTyped_of_mem_children hb hn
  have hy : AllTyped c.children := fun n hn => Node.isTyped_of_mem_children hc hn
  cases Block.sameFields_iff.mp h with
  | plain hcontent => exact .plain (inlinesBy_equal hx hy hcontent)
  | para hcontent => exact .para (inlinesBy_equal hx hy hcontent)
  | lineBlock hlines => exact .lineBlock (linesBy_equal hx hy hlines)
  | @codeBlock _ _ text text' hattr htext =>
    simp only [Node.hasTypedFields, Bool.and_eq_true] at hf hg
    obtain rfl := Json.eq_of_same_text hf.2 hg.2 htext
    exact .codeBlock text (Attr.sameFields_iff.mpr hattr)
  | @raw format format' text text' hformat htext =>
    simp only [Node.hasTypedFields, Bool.and_eq_true] at hf hg
    obtain rfl := Json.eq_of_same_text hf.1 hg.1 hformat
    obtain rfl := Json.eq_of_same_text hf.2 hg.2 htext
    exact .raw format text
  | blockQuote hblocks => exact .blockQuote (blocksBy_equal hx hy hblocks)
  | @orderedList attributes attributes' _ _ hattributes hitems =>
    obtain rfl := ListAttributes.eq_of_same hf hg hattributes
    exact .orderedList attributes (itemsBy_equal hx hy hitems)
  | bulletList hitems => exact .bulletList (itemsBy_equal hx hy hitems)
  | definitionList hitems => exact .definitionList (definitionsBy_equal hx hy hitems)
  | @header level level' _ _ _ _ hlevel hattr hcontent =>
    simp only [Node.hasTypedFields, Bool.and_eq_true] at hf hg
    obtain rfl := Json.eq_of_same_integer hf.1 hg.1 hlevel
    exact .header level (Attr.sameFields_iff.mpr hattr) (inlinesBy_equal hx hy hcontent)
  | horizontalRule => exact .horizontalRule
  | table hattr hcaption _ hhead hbodies hfoot =>
    obtain ⟨hx, hinFoot⟩ := AllTyped.append hx
    obtain ⟨hx, hinBodies⟩ := AllTyped.append hx
    obtain ⟨hinCaption, hinHead⟩ := AllTyped.append hx
    obtain ⟨hy, hinFoot'⟩ := AllTyped.append hy
    obtain ⟨hy, hinBodies'⟩ := AllTyped.append hy
    obtain ⟨hinCaption', hinHead'⟩ := AllTyped.append hy
    exact .table (Attr.sameFields_iff.mpr hattr) (captionBy_equal hinCaption hinCaption' hcaption)
      (rowsBy_equal hinHead hinHead' hhead.rows) (bodiesBy_equal hinBodies hinBodies' hbodies)
      (rowsBy_equal hinFoot hinFoot' hfoot.rows)
  | figure hattr hcaption hblocks =>
    obtain ⟨hinCaption, hinside⟩ := AllTyped.append hx
    obtain ⟨hinCaption', hinside'⟩ := AllTyped.append hy
    exact .figure (Attr.sameFields_iff.mpr hattr) (captionBy_equal hinCaption hinCaption' hcaption)
      (blocksBy_equal hinside hinside' hblocks)
  | div hattr hblocks =>
    exact .div (Attr.sameFields_iff.mpr hattr) (blocksBy_equal hx hy hblocks)

/-! ### Equal trees -/

namespace Node.Equal

variable {n m : Node}

theorem typed (h : Node.Equal n m) : n.isTyped = true ∧ m.isTyped = true := by
  cases h with
  | block hb hc _ => exact ⟨hb, hc⟩
  | inline hi hj _ => exact ⟨hi, hj⟩

theorem matchesBy (h : Node.Equal n m) : Node.MatchesBy Node.Equal n m := by
  cases h with
  | block hb hc h => exact .block (Block.matchesBy_of_same hb hc h)
  | inline hi hj h => exact .inline (Inline.matchesBy_of_same hi hj h)

theorem children (h : Node.Equal n m) : List.Forall₂ Node.Equal n.children m.children :=
  h.matchesBy.children

theorem preorder (h : Node.Equal n m) : List.Forall₂ Node.Equal n.preorder m.preorder := by
  induction n using Node.induction generalizing m with
  | step n ih =>
    have hbelow := forall₂_of_mem h.children fun c hc c' _ hcc => ih c hc hcc
    rw [Node.preorder_eq n, Node.preorder_eq m]
    exact .cons h (forall₂_flatMap hbelow)

end Node.Equal

/-! ### Equal bodies -/

theorem FootnoteBody.data_ofBlocks (blocks : List Block) :
    (FootnoteBody.ofBlocks blocks).data = blockData blocks := by
  rw [FootnoteBody.data, FootnoteBody.ofBlocks, List.map_map, blockData_eq_map]
  rfl

theorem sameBody_iff (a b : List Block) : sameBody a b = true ↔ SameBlocks a b := by
  rw [sameBody, FootnoteBody.same, FootnoteBody.data_ofBlocks, FootnoteBody.data_ofBlocks,
    ← sameBlocks_iff, Datum.same]

theorem sameBody_of_blocksBy {a b : List Block} (h : BlocksBy Node.Equal a b) :
    sameBody a b = true := by
  rw [BlocksBy, forall₂_map_iff] at h
  rw [sameBody_iff]
  apply h.imp
  intro b c hbc
  cases hbc with
  | block _ _ hsame => exact hsame

theorem blocksBy_of_sameBody {a b : List Block} (ha : blocksTyped a = true)
    (hb : blocksTyped b = true) (h : sameBody a b = true) : BlocksBy Node.Equal a b := by
  refine blocksBy_equal ?_ ?_ ((sameBody_iff a b).mp h)
  · exact List.forall_mem_map.mpr ((blocksTyped_iff a).mp ha)
  · exact List.forall_mem_map.mpr ((blocksTyped_iff b).mp hb)

end PandocHtml
