import PandocHtml.Proofs.Render.Section

/-!
# Ways back from the section

Each entry of the section links back to the references of its footnote.  Collecting numbers every
footnote of a document, rendering makes references of the displayed ones alone: not of those in
captions, in intermediate heads and feet of tables, in citations and images, inside another
footnote, or beyond the limit.  The way back from an entry leads somewhere exactly if a footnote
with an equal body is displayed.
-/

namespace PandocHtml

/-! ### References by number -/

/-- Different numbers have different texts. -/
theorem eq_of_toString_eq {j k : Nat} (h : toString j = toString k) : j = k := by
  rw [Nat.toString_eq_ofList_toDigits, Nat.toString_eq_ofList_toDigits] at h
  have hdigits : Nat.toDigits 10 j = Nat.toDigits 10 k := by
    rw [← String.toList_ofList (l := Nat.toDigits 10 j), h, String.toList_ofList]
  rw [← Nat.ofDigitChars_ten_toDigits (n := j), hdigits, Nat.ofDigitChars_ten_toDigits]

namespace OutlineNode

theorem isReference_reference (k : Nat) : (reference k).isReference = true := rfl

theorem reference_inj {j k : Nat} : reference j = reference k ↔ j = k := by
  constructor
  · intro h
    rw [reference, reference] at h
    injection h with _ _ hchildren
    injection hchildren with hanchor _
    injection hanchor with _ _ htexts
    injection htexts with htext _
    injection htext with hstr
    injection hstr with hnumber
    exact eq_of_toString_eq hnumber
  · rintro rfl
    rfl

end OutlineNode

theorem mem_numbersAmong_iff {notes : Footnotes} {ns : List Node} {k : Nat} :
    k ∈ numbersAmong notes ns
      ↔ ∃ b ∈ noteBodies ns, notes.number? (FootnoteBody.ofBlocks b) = some k := by
  constructor
  · intro hk
    obtain ⟨n, hn, hnk⟩ := List.mem_filterMap.mp hk
    obtain ⟨b, hb, hbk⟩ := Option.bind_eq_some_iff.mp hnk
    exact ⟨b, mem_noteBodies hn hb, hbk⟩
  · rintro ⟨b, hb, hbk⟩
    obtain ⟨n, hn, hnb⟩ := List.mem_filterMap.mp hb
    refine List.mem_filterMap.mpr ⟨n, hn, ?_⟩
    rw [Node.number?, hnb, Option.bind_some, hbk]

section Documents

variable {d : Document}

theorem Document.mem_of_mem_reachedNodes {limit : Option Limit} {n : Node}
    (hn : n ∈ d.reachedNodes limit) : n ∈ blocksPreorder d.blocks :=
  Document.mem_of_mem_displayed ((d.reachedNodes_sublist limit).subset hn)

/-- The displayed footnotes that are reached are among all footnotes. -/
theorem Document.mem_noteBodies_of_reached {limit : Option Limit} {b : List Block}
    (hb : b ∈ noteBodies (d.reachedNodes limit)) : b ∈ noteBodies (blocksPreorder d.blocks) := by
  obtain ⟨n, hn, hnb⟩ := List.mem_filterMap.mp hb
  exact mem_noteBodies (Document.mem_of_mem_reachedNodes hn) hnb

theorem reference_mem_blocksOutlined_iff (h : d.isTyped = true) (mode : RawMode)
    (limit : Option Limit) (k : Nat) :
    OutlineNode.reference k ∈ outlinePreorder (blocksOutlined mode limit d.numbering 0 d.blocks)
      ↔ ∃ b ∈ noteBodies (d.reachedNodes limit),
          d.numbering.lookup (FootnoteBody.ofBlocks b) = .ok (some k) := by
  have hfilter := filter_isReference_blocksOutlined h mode limit
  have hmem : OutlineNode.reference k
        ∈ outlinePreorder (blocksOutlined mode limit d.numbering 0 d.blocks)
      ↔ k ∈ numbersAmong d.numbering (d.reachedNodes limit) := by
    rw [← List.mem_map_of_injective fun _ _ => OutlineNode.reference_inj.mp, ← hfilter,
      List.mem_filter, OutlineNode.isReference_reference]
    simp only [and_true]
  rw [hmem, mem_numbersAmong_iff]
  apply exists_congr
  intro b
  apply and_congr_right
  intro hb
  have hkey : (FootnoteBody.ofBlocks b).isKey = true :=
    isBodyKey_of_mem_preorder h b (Document.mem_noteBodies_of_reached hb)
  rw [Footnotes.lookup, if_pos hkey, Except.ok.injEq]

theorem Document.exists_body_of_number (h : d.isTyped = true) {k : Nat} (hlow : 1 ≤ k)
    (hhigh : k ≤ d.numbering.size) :
    ∃ b ∈ noteBodies (blocksPreorder d.blocks),
      d.numbering.lookup (FootnoteBody.ofBlocks b) = .ok (some k) := by
  have hmet := isBodyKey_of_mem_preorder h
  have hlt : k - 1 < (firstBodies (noteBodies (blocksPreorder d.blocks))).length := by
    rw [Document.numbering, size_encountered] at hhigh
    omega
  have hfirst := List.getElem_mem hlt
  have hbody := mem_of_mem_bodiesMet hfirst
  have hkey := hmet _ hbody
  refine ⟨_, hbody, (encountered_lookup_some_iff hmet hkey k).mpr ⟨_, ?_, sameBody_refl hkey⟩⟩
  rw [List.mem_zipIdx_iff_le_and_getElem?_sub]
  exact ⟨hlow, List.getElem?_eq_getElem hlt⟩

/-- Every number has a reference exactly if every footnote equals one that is displayed. -/
theorem forall_reference_mem_iff (h : d.isTyped = true) (mode : RawMode) (limit : Option Limit) :
    (∀ k, 1 ≤ k → k ≤ d.numbering.size → OutlineNode.reference k
        ∈ outlinePreorder (blocksOutlined mode limit d.numbering 0 d.blocks))
      ↔ ∀ b ∈ noteBodies (blocksPreorder d.blocks),
          ∃ c ∈ noteBodies (d.reachedNodes limit), sameBody b c = true := by
  have hmet := isBodyKey_of_mem_preorder h
  constructor
  · intro hall b hb
    obtain ⟨k, _, hk, hlow, hhigh⟩ := Document.exists_number h hb
    obtain ⟨c, hc, hck⟩ := (reference_mem_blocksOutlined_iff h mode limit k).mp (hall k hlow hhigh)
    have hlookup := hk.trans hck.symm
    exact ⟨c, hc, (encountered_lookup_eq_iff hmet hb
      (Document.mem_noteBodies_of_reached hc)).mp hlookup⟩
  · intro hall k hlow hhigh
    obtain ⟨b, hb, hbk⟩ := Document.exists_body_of_number h hlow hhigh
    obtain ⟨c, hc, hbc⟩ := hall b hb
    have hlookup := (encountered_lookup_eq_iff hmet hb
      (Document.mem_noteBodies_of_reached hc)).mpr hbc
    exact (reference_mem_blocksOutlined_iff h mode limit k).mpr ⟨c, hc, hlookup.symm.trans hbk⟩

end Documents

/-! ### Ways back -/

/-- An anchor with an attribute of this value. -/
def OutlineNode.isAnchor (name value : String) : OutlineNode → Bool
  | .leaf tag (some m) | .element tag (some m) _ =>
    tag == "a" && match m.get? name with
      | some (Json.str given) => given == value
      | _ => false
  | _ => false

theorem any_isAnchor_listed (k : Nat) (content : Outline) :
    (OutlineNode.listed k content).preorder.any
      (OutlineNode.isAnchor "href" ("#" ++ referenceAnchor k)) = true := by
  have hback : OutlineNode.isAnchor "href" ("#" ++ referenceAnchor k)
      (.element "a" (some (AttrMap.ofTexts [("href", "#" ++ referenceAnchor k)]))
        [.text (.str "↩︎")]) = true := by
    show ("a" == "a" && ("#" ++ referenceAnchor k == "#" ++ referenceAnchor k)) = true
    rw [beq_self_eq_true, beq_self_eq_true, Bool.and_self]
  simp only [OutlineNode.listed, OutlineNode.preorder, outlinePreorder, outlinePreorder_append,
    List.any_cons, List.any_append, hback, Bool.true_or, Bool.or_true]

/-- Rendering a well-typed document puts the section behind its blocks.  The section has one entry
for each number, with a link back to the references of that number, and holds no reference itself.
The blocks hold a reference to a number exactly if a footnote with that number is displayed and
reached; so every link back leads to a reference exactly if every footnote, wherever it stands,
equals one that is. -/
theorem backLinks_lead_to_displayed (d : Document) (h : d.isTyped = true) (mode : RawMode)
    (limit : Option Limit) :
    ∃ (notes : Footnotes) (main listed : Outline) (items : List OutlineNode),
      d.footnotes.outcome = .ok notes
      ∧ (((Config.plain mode limit).engine outline).footnoteSection notes).outcome = .ok listed
      ∧ (((Config.plain mode limit).engine outline).renderDocument d).outcome
        = .ok (main ++ listed)
      ∧ (notes.size ≠ 0 → listed = [.section items])
      ∧ items.length = notes.size
      ∧ (∀ (i : Nat) (n : OutlineNode), items[i]? = some n →
        ∃ content : Outline, n = .listed (i + 1) content
          ∧ n.preorder.any (OutlineNode.isAnchor "href" ("#" ++ referenceAnchor (i + 1))) = true)
      ∧ (∀ n ∈ outlinePreorder listed, n.isReference = false)
      ∧ (∀ k : Nat, .reference k ∈ outlinePreorder main
        ↔ ∃ b ∈ noteBodies (d.reachedNodes limit),
            notes.lookup (FootnoteBody.ofBlocks b) = .ok (some k))
      ∧ ((∀ k, 1 ≤ k → k ≤ notes.size → .reference k ∈ outlinePreorder main)
        ↔ ∀ b ∈ noteBodies d.walk,
            ∃ c ∈ noteBodies (d.reachedNodes limit), sameBody b c = true) := by
  have hlisted := Engine.outline_footnoteSection mode limit (Document.typed_numbering h)
  have hwhole := Engine.outline_renderDocument mode limit h
  have hfirst : ∀ b ∈ firstBodies (noteBodies (blocksPreorder d.blocks)), blocksTyped b = true :=
    fun b hb => blocksTyped_of_mem_preorder h b (mem_of_mem_bodiesMet hb)
  refine ⟨d.numbering, blocksOutlined mode limit d.numbering 0 d.blocks,
    d.numbering.outlined mode limit,
    (firstBodies (noteBodies (blocksPreorder d.blocks))).zipIdx.map fun p =>
      .listed (p.2 + 1) (blocksOutlined mode limit Footnotes.none 0 p.1),
    Document.outcome_footnotes h, hlisted, hwhole, ?_, ?_, ?_, ?_,
    reference_mem_blocksOutlined_iff h mode limit, ?_⟩
  · intro hsize
    rw [Document.numbering, size_encountered, ne_eq, List.length_eq_zero_iff] at hsize
    exact outlined_encountered mode limit hsize
  · rw [List.length_map, List.length_zipIdx, Document.numbering, size_encountered]
  · intro i n hn
    rw [List.getElem?_map, List.getElem?_zipIdx, Option.map_map, Option.map_eq_some_iff] at hn
    obtain ⟨b, _, rfl⟩ := hn
    rw [Function.comp_apply, Nat.zero_add]
    exact ⟨_, rfl, any_isAnchor_listed (i + 1) _⟩
  · intro n hn
    have hnone := List.filter_eq_nil_iff.mp
      (filter_isReference_outlined_encountered mode hfirst) n hn
    exact Bool.not_eq_true _ ▸ hnone
  · rw [Document.walk_eq]
    exact forall_reference_mem_iff h mode limit

/-- A limit of one hides what stands inside the footnotes of `nestedRepeat`; the footnote in there
repeats one that is displayed. -/
theorem backLinks_nestedRepeat :
    (Document.mk [] nestedRepeat).isTyped = true
    ∧ ∃ (notes : Footnotes) (main listed : Outline),
      (Document.mk [] nestedRepeat).footnotes.outcome = .ok notes
      ∧ (((Config.plain .drop (some (Limit.ofNat 1))).engine outline).renderDocument
        ⟨[], nestedRepeat⟩).outcome = .ok (main ++ listed)
      ∧ ∀ k, 1 ≤ k → k ≤ notes.size → .reference k ∈ outlinePreorder main := by
  have h : (Document.mk [] nestedRepeat).isTyped = true := by decide
  have hall : noteBodies (Document.mk [] nestedRepeat).walk
      = [[.plain [.str (.str "a")]],
        [.para [.str (.str "b"), .note [.plain [.str (.str "a")]]]],
        [.plain [.str (.str "a")]]] := by
    rw [Document.walk_eq]
    rfl
  have hshown : noteBodies ((Document.mk [] nestedRepeat).reachedNodes (some (Limit.ofNat 1)))
      = [[.plain [.str (.str "a")]],
        [.para [.str (.str "b"), .note [.plain [.str (.str "a")]]]]] := by
    simp [nestedRepeat, Document.reachedNodes, Document.displayed, nodesDisplayed,
      Node.displayed_eq, Node.shown, Block.shown, Inline.shown, reached, beyond, Limit.excludes,
      Limit.ofNat, noteBodies, Node.noteBody?, List.filterMap_cons]
  obtain ⟨notes, main, listed, _, hnotes, _, hwhole, _, _, _, _, _, hiff⟩ :=
    backLinks_lead_to_displayed _ h .drop (some (Limit.ofNat 1))
  rw [hall, hshown] at hiff
  exact ⟨h, notes, main, listed, hnotes, hwhole, hiff.mpr (by decide)⟩

/-- A footnote inside a footnote. -/
def nestedNote : Document :=
  ⟨[], [.para [.note [.para [.str (.str "a"), .note [.plain [.str (.str "b")]]]]]]⟩

/-- The footnote inside the other is numbered and listed with a link back; no anchor of the output
has the name that the link leads to. -/
theorem nestedNote_backLink_leads_nowhere :
    nestedNote.isTyped = true
    ∧ ∃ t : Outline,
      (((Config.plain .drop none).engine outline).renderDocument nestedNote).outcome = .ok t
      ∧ (outlinePreorder t).any (OutlineNode.isAnchor "href" "#fnref2") = true
      ∧ (outlinePreorder t).any (OutlineNode.isAnchor "name" "fnref2") = false := by
  have h : nestedNote.isTyped = true := by decide
  have hrendered := Engine.outline_renderDocument .drop none h
  exact ⟨h, _, hrendered, by decide, by decide⟩

end PandocHtml
