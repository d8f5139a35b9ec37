import PandocHtml.Proofs.Render.Outlined

/-!
# Outlines of well-typed documents

The outline of a well-typed document holds texts and elements of a fixed vocabulary, all attribute
values are texts, and only the modes that keep raw content leave any in it.
-/

namespace PandocHtml

def emptyTags : List String := "a" :: leafTags

def nestingTags : List String := "aside" :: contentTags

def RawMode.keepsRaw : RawMode → Bool
  | .passThrough | .sanitize => true
  | .drop | .escape => false

/-- The pieces of outlines of well-typed documents, with or without raw content. -/
inductive OutlineNode.Sound (raws : Bool) : OutlineNode → Prop where
  | text (s : String) : Sound raws (.text (.str s))
  | raw (hraws : raws = true) (s : String) : Sound raws (.raw (.str s))
  | leaf {tag : String} {attrs : Option AttrMap} (htag : tag ∈ emptyTags)
      (hattrs : attrsTyped attrs = true) : Sound raws (.leaf tag attrs)
  | element {tag : String} {attrs : Option AttrMap} {children : List OutlineNode}
      (htag : tag ∈ nestingTags) (hattrs : attrsTyped attrs = true)
      (hchildren : ∀ c ∈ children, Sound raws c) : Sound raws (.element tag attrs children)

namespace OutlineNode

variable {raws : Bool}

theorem Sound.diagnostic (wording : String) : (OutlineNode.diagnostic wording).Sound raws := by
  refine .element (by decide) rfl ?_
  rw [List.forall_mem_singleton]
  exact .text _

theorem Sound.reference (number : Nat) : (OutlineNode.reference number).Sound raws := by
  refine .element (by decide) rfl ?_
  rw [List.forall_mem_singleton]
  refine .element (by decide) rfl ?_
  rw [List.forall_mem_singleton]
  exact .text _

theorem Sound.shownRaw (kind : RawKind) (format content : String) :
    (OutlineNode.shownRaw kind (.str format) (.str content)).Sound raws := by
  refine .element ?_ rfl ?_
  · cases kind <;> decide
  · rw [List.forall_mem_singleton]
    exact .text content

end OutlineNode

theorem sound_outlinePreorder {raws : Bool} {t : Outline}
    (h : ∀ c ∈ t, ∀ m ∈ c.preorder, m.Sound raws) : ∀ m ∈ outlinePreorder t, m.Sound raws := by
  induction t with
  | nil =>
    intro m hm
    cases hm
  | cons c rest ih =>
    rw [List.forall_mem_cons] at h
    rw [outlinePreorder, List.forall_mem_append]
    exact ⟨h.1, ih h.2⟩

theorem OutlineNode.Sound.preorder {raws : Bool} {n : OutlineNode} (hn : n.Sound raws) :
    ∀ m ∈ n.preorder, m.Sound raws := by
  induction hn with
  | text s =>
    rw [OutlineNode.preorder, List.forall_mem_singleton]
    exact .text s
  | raw hraws s =>
    rw [OutlineNode.preorder, List.forall_mem_singleton]
    exact .raw hraws s
  | leaf htag hattrs =>
    rw [OutlineNode.preorder, List.forall_mem_singleton]
    exact .leaf htag hattrs
  | element htag hattrs hchildren ih =>
    rw [OutlineNode.preorder, List.forall_mem_cons]
    exact ⟨.element htag hattrs hchildren, sound_outlinePreorder ih⟩

section Plans

variable {mode : RawMode} {limit : Option Limit} {notes : Footnotes}

theorem sound_rawOutline (mode : RawMode) (kind : RawKind) (format content : String) :
    ∀ n ∈ rawOutline mode kind (.str format) (.str content), n.Sound mode.keepsRaw := by
  cases mode with
  | drop =>
    intro n hn
    cases hn
  | escape =>
    rw [rawOutline, List.forall_mem_singleton]
    exact .shownRaw kind format content
  | passThrough | sanitize =>
    simp only [rawOutline]
    split
    · rw [List.forall_mem_singleton]
      exact .raw rfl _
    · intro n hn
      cases hn

theorem sound_plansOutlined {depth : Nat} {ps : List Plan}
    (h : ∀ p ∈ ps, ∀ n ∈ p.outlined mode limit notes depth, n.Sound mode.keepsRaw) :
    ∀ n ∈ plansOutlined mode limit notes depth ps, n.Sound mode.keepsRaw := by
  rw [plansOutlined_eq_flatMap]
  intro n hn
  obtain ⟨p, hp, hnp⟩ := List.mem_flatMap.mp hn
  exact h p hp n hnp

theorem sound_outlined_nested {depth : Nat} {ps : List Plan}
    (h : ∀ p ∈ ps, ∀ n ∈ p.outlined mode limit notes (depth + 1), n.Sound mode.keepsRaw) :
    ∀ n ∈ (Plan.nested ps).outlined mode limit notes depth, n.Sound mode.keepsRaw := by
  rw [Plan.outlined]
  cases beyond limit (depth + 1) with
  | some l =>
    rw [List.forall_mem_singleton]
    exact .diagnostic l.wording
  | none => exact sound_plansOutlined h

theorem Plan.Sound.outlined {p : Plan} (hp : p.Sound) (depth : Nat) :
    ∀ n ∈ p.outlined mode limit notes depth, n.Sound mode.keepsRaw := by
  induction hp generalizing depth with
  | text s =>
    rw [Plan.outlined, List.forall_mem_singleton]
    exact .text s
  | parts _ ih =>
    rw [Plan.outlined]
    exact sound_plansOutlined fun p hp => ih p hp depth
  | both _ _ ihp ihq =>
    rw [Plan.outlined, List.forall_mem_append]
    exact ⟨ihp depth, ihq depth⟩
  | leaf htag hattrs =>
    rw [Plan.outlined, List.forall_mem_singleton]
    exact .leaf (List.mem_cons_of_mem _ htag) hattrs
  | element htag hattrs _ ih =>
    rw [isContent, Bool.and_eq_true, List.contains_iff_mem] at htag
    rw [Plan.outlined, List.forall_mem_singleton]
    exact .element (List.mem_cons_of_mem _ htag.1) hattrs (ih depth)
  | nested _ ih => exact sound_outlined_nested fun p hp => ih p hp (depth + 1)
  | written _ _ ih =>
    rw [Plan.outlined]
    exact ih depth
  | link _ ih =>
    rw [Plan.outlined]
    exact ih depth
  | code _ ih =>
    rw [Plan.outlined]
    exact ih depth
  | raw kind format content =>
    rw [Plan.outlined]
    exact sound_rawOutline mode kind format content
  | @note body ps _ _ ih =>
    rw [Plan.outlined]
    cases notes.number? (FootnoteBody.ofBlocks body) with
    | some number =>
      rw [List.forall_mem_singleton]
      exact .reference number
    | none =>
      rw [Plan.outlined, List.forall_mem_singleton]
      exact .element (List.mem_cons_self ..) rfl
        (sound_outlined_nested fun p hp => ih p hp (depth + 1))
  | cite keys =>
    rw [Plan.outlined, List.forall_mem_singleton]
    exact .diagnostic citeWording

end Plans

/-! ### Outlines of documents -/

theorem sound_blocksOutlined {blocks : List Block} (h : blocksTyped blocks = true) (mode : RawMode)
    (limit : Option Limit) (notes : Footnotes) (depth : Nat) :
    ∀ n ∈ blocksOutlined mode limit notes depth blocks, n.Sound mode.keepsRaw := by
  rw [blocksOutlined]
  refine sound_plansOutlined ?_
  rw [List.forall_mem_map]
  intro b hb
  exact (Node.sound_plan (.block b) ((blocksTyped_iff blocks).mp h b hb)).outlined depth

theorem sound_entry {body : FootnoteBody} (h : ∀ p ∈ body.map (Item.plan .block), p.Sound)
    (mode : RawMode) (limit : Option Limit) (number : Nat) :
    (OutlineNode.entry mode limit number body).Sound mode.keepsRaw := by
  refine .element (by decide) rfl ?_
  rw [List.forall_mem_cons, List.forall_mem_append, List.forall_mem_singleton]
  refine ⟨.leaf (by decide) rfl, sound_plansOutlined fun p hp => (h p hp).outlined 0, ?_⟩
  refine .element (by decide) rfl ?_
  rw [List.forall_mem_singleton]
  exact .text _

theorem Footnotes.sound_outlined {notes : Footnotes} (h : notes.Typed) (mode : RawMode)
    (limit : Option Limit) : ∀ n ∈ notes.outlined mode limit, n.Sound mode.keepsRaw := by
  rw [Footnotes.outlined]
  split
  · intro n hn
    cases hn
  · rw [List.forall_mem_singleton]
    refine .element (by decide) rfl ?_
    rw [List.forall_mem_singleton]
    refine .element (by decide) rfl ?_
    rw [List.forall_mem_map]
    intro e he
    exact sound_entry (Footnotes.sound_items h e he) mode limit e.1

/-- The outline of a well-typed document is sound. -/
theorem Document.sound_outlined {d : Document} (h : d.isTyped = true) {notes : Footnotes}
    (hn : notes.Typed) (mode : RawMode) (limit : Option Limit) :
    ∀ n ∈ d.outlined mode limit notes, n.Sound mode.keepsRaw := by
  rw [Document.outlined, List.forall_mem_append]
  exact ⟨sound_blocksOutlined h mode limit notes 0, Footnotes.sound_outlined hn mode limit⟩

end PandocHtml
