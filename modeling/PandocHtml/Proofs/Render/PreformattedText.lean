import PandocHtml.Proofs.Render.Section

/-!
# Preformatted text

A diagnostic is preformatted text without attributes that holds a single text.  The plans of nodes
ask for preformatted text too, for code blocks, and it may come out without attributes; but what
they put inside is an element.  So a piece that looks like a diagnostic is one that was given no
attributes at all.
-/

namespace PandocHtml

/-! ### Preformatted text in plans -/

def Plan.isElement : Plan → Bool
  | .element .. => true
  | _ => false

mutual

/-- Preformatted text in a plan is around an element. -/
def Plan.wrapsPre : Plan → Bool
  | .text _ | .leaf .. | .fault _ | .raw .. | .cite _ => true
  | .parts ps | .nested ps => plansWrapPre ps
  | .both p q => p.wrapsPre && q.wrapsPre
  | .element tag _ children => (tag != "pre" || children.isElement) && children.wrapsPre
  | .written _ p => p.wrapsPre
  | .link _ _ _ standard | .code _ _ standard => standard.wrapsPre
  | .note _ aside => aside.wrapsPre

def plansWrapPre : List Plan → Bool
  | [] => true
  | p :: rest => p.wrapsPre && plansWrapPre rest

end

theorem plansWrapPre_iff (ps : List Plan) :
    plansWrapPre ps = true ↔ ∀ p ∈ ps, p.wrapsPre = true := by
  induction ps with
  | nil => simp [plansWrapPre]
  | cons p rest ih => rw [plansWrapPre, Bool.and_eq_true, ih, List.forall_mem_cons]

theorem plansWrapPre_cons {p : Plan} {ps : List Plan} (h : p.wrapsPre = true)
    (hps : plansWrapPre ps = true) : plansWrapPre (p :: ps) = true := by
  rw [plansWrapPre, h, hps]
  rfl

theorem plansWrapPre_append {ps qs : List Plan} (hp : plansWrapPre ps = true)
    (hq : plansWrapPre qs = true) : plansWrapPre (ps ++ qs) = true := by
  rw [plansWrapPre_iff] at hp hq ⊢
  rw [List.forall_mem_append]
  exact ⟨hp, hq⟩

theorem wrapsPre_both {p q : Plan} (hp : p.wrapsPre = true) (hq : q.wrapsPre = true) :
    (Plan.both p q).wrapsPre = true := by
  rw [Plan.wrapsPre, hp, hq]
  rfl

theorem wrapsPre_element {tag : String} {attrs : Option AttrMap} {p : Plan} (htag : tag ≠ "pre")
    (h : p.wrapsPre = true) : (Plan.element tag attrs p).wrapsPre = true := by
  rw [Plan.wrapsPre, h, bne_iff_ne.mpr htag]
  rfl

theorem wrapsPre_withValue {α : Type} (r : Except Fault α) {f : α → Plan}
    (h : ∀ a, r = .ok a → (f a).wrapsPre = true) : (Plan.withValue r f).wrapsPre = true := by
  cases r with
  | ok a => exact h a rfl
  | error e => rfl

theorem wrapsPre_attrElement {tag : String} (attr : Attr) {p : Plan} (htag : tag ≠ "pre")
    (h : p.wrapsPre = true) : (Plan.attrElement tag attr p).wrapsPre = true :=
  wrapsPre_withValue _ fun _ _ => wrapsPre_element htag h

theorem wrapsPre_taskOr (content : List Inline) {plans : List Plan} {usual : Plan}
    (hplans : plansWrapPre plans = true) (h : usual.wrapsPre = true) :
    (taskOr content plans usual).wrapsPre = true := by
  rw [taskOr]
  split
  · refine wrapsPre_both rfl ?_
    rw [plansWrapPre_iff] at hplans
    rw [Plan.wrapsPre, plansWrapPre_iff]
    exact fun p hp => hplans p (List.mem_of_mem_drop hp)
  · rfl
  · exact h

theorem Style.element_ne_pre (style : Style) : style.element ≠ "pre" := by
  cases style <;> decide

theorem exists_eq_of_headerTag {level : Json} {tag : String} (h : headerTag level = .ok tag) :
    ∃ shown : String, tag = "h" ++ shown := by
  have hbelow : ∀ raised : Json,
      (do
        let level ← if ← raised.compare false 6 then pure (Json.int 6) else pure raised
        return "h" ++ level.plain : Except Fault String) = .ok tag →
      ∃ shown : String, tag = "h" ++ shown := by
    intro raised h
    cases hhigh : raised.compare false 6 with
    | error e =>
      rw [hhigh] at h
      cases h
    | ok high =>
      rw [hhigh] at h
      cases high with
      | true => exact ⟨_, (Except.ok.inj h).symm⟩
      | false => exact ⟨_, (Except.ok.inj h).symm⟩
  unfold headerTag at h
  cases hlow : level.compare true 1 with
  | error e =>
    rw [hlow] at h
    cases h
  | ok low =>
    rw [hlow] at h
    cases low with
    | true => exact hbelow (.int 1) h
    | false => exact hbelow level h

theorem ne_pre_of_headerTag {level : Json} {tag : String} (h : headerTag level = .ok tag) :
    tag ≠ "pre" := by
  obtain ⟨shown, rfl⟩ := exists_eq_of_headerTag h
  intro hpre
  have hhead := congrArg (fun s : String => s.toList.head?) hpre
  simp at hhead

mutual

theorem Inline.wrapsPre_plan : ∀ i : Inline, i.plan.wrapsPre = true
  | .str _ | .space | .softBreak | .lineBreak | .cite .. | .raw .. | .math .. => rfl
  | .styled style content => wrapsPre_element style.element_ne_pre (wrapPre_inlinePlans content)
  | .quoted _ content =>
    plansWrapPre_cons rfl (plansWrapPre_cons (wrapPre_inlinePlans content) rfl)
  | .code attr _ => wrapsPre_attrElement attr (by decide) rfl
  | .link attr content target =>
    wrapsPre_withValue attr.toMap fun _ _ => wrapsPre_withValue _ fun _ _ =>
      wrapsPre_element (by decide) (wrapPre_inlinePlans content)
  | .image _ _ _ => wrapsPre_withValue _ fun _ _ => wrapsPre_withValue _ fun _ _ => rfl
  | .note blocks => @wrapsPre_element "aside" asideAttrs _ (by decide) (wrapPre_blockPlans blocks)
  | .span attr content => wrapsPre_attrElement attr (by decide) (wrapPre_inlinePlans content)

theorem Block.wrapsPre_plan : ∀ b : Block, b.plan.wrapsPre = true
  | .plain content =>
    wrapsPre_taskOr content (wrapPre_inlinePlans content) (wrapPre_inlinePlans content)
  | .para content =>
    wrapsPre_taskOr content (wrapPre_inlinePlans content)
      (wrapsPre_element (by decide) (wrapPre_inlinePlans content))
  | .lineBlock lines => wrapPre_linePlans lines
  -- what stands inside a code block is the element for code
  | .codeBlock attr _ => wrapsPre_withValue attr.toMap fun _ _ => rfl
  | .raw .. | .horizontalRule => rfl
  | .blockQuote blocks => wrapsPre_element (by decide) (wrapPre_blockPlans blocks)
  | .orderedList attributes items =>
    @wrapsPre_element "ol" (some attributes.toMap) _ (by decide)
      (wrapPre_itemPlans (by decide) items)
  | .bulletList items => wrapsPre_element (by decide) (wrapPre_itemPlans (by decide) items)
  | .definitionList items => wrapsPre_element (by decide) (wrapPre_definitionPlans items)
  | .header _ attr content =>
    wrapsPre_withValue _ fun _ htag =>
      wrapsPre_attrElement attr (ne_pre_of_headerTag htag) (wrapPre_inlinePlans content)
  | .table attr _ _ ⟨_, rows⟩ bodies _ => by
    have hrows : (Plan.both (.plainElement "thead" (.parts (rowPlans "th" rows)))
        (.parts (bodyPlans bodies))).wrapsPre = true :=
      wrapsPre_both (wrapsPre_element (by decide) (wrapPre_rowPlans (by decide) rows))
        (wrapPre_bodyPlans bodies)
    rw [Block.plan]
    cases attr.toMap with
    | ok m => exact wrapsPre_element (by decide) hrows
    | error f => exact wrapsPre_both hrows rfl
  | .figure attr _ blocks => wrapsPre_attrElement attr (by decide) (wrapPre_blockPlans blocks)
  | .div attr blocks => wrapsPre_attrElement attr (by decide) (wrapPre_blockPlans blocks)

theorem wrapPre_inlinePlans : ∀ content : List Inline, plansWrapPre (inlinePlans content) = true
  | [] => rfl
  | i :: rest => plansWrapPre_cons i.wrapsPre_plan (wrapPre_inlinePlans rest)

theorem wrapPre_blockPlans : ∀ blocks : List Block, plansWrapPre (blockPlans blocks) = true
  | [] => rfl
  | b :: rest => plansWrapPre_cons b.wrapsPre_plan (wrapPre_blockPlans rest)

theorem wrapPre_linePlans : ∀ lines : List (List Inline), plansWrapPre (linePlans lines) = true
  | [] => rfl
  | line :: rest =>
    plansWrapPre_cons (wrapsPre_both (wrapPre_inlinePlans line) rfl) (wrapPre_linePlans rest)

theorem wrapPre_itemPlans {tag : String} (htag : tag ≠ "pre") :
    ∀ items : List (List Block), plansWrapPre (itemPlans tag items) = true
  | [] => rfl
  | item :: rest =>
    plansWrapPre_cons (wrapsPre_element htag (wrapPre_blockPlans item))
      (wrapPre_itemPlans htag rest)

theorem wrapPre_definitionPlans :
    ∀ items : List Definition, plansWrapPre (definitionPlans items) = true
  | [] => rfl
  | ⟨term, meanings⟩ :: rest =>
    plansWrapPre_cons (wrapsPre_element (by decide) (wrapPre_inlinePlans term))
      (plansWrapPre_append (wrapPre_itemPlans (by decide) meanings) (wrapPre_definitionPlans rest))

theorem wrapPre_bodyPlans : ∀ bodies : List TableBody, plansWrapPre (bodyPlans bodies) = true
  | [] => rfl
  | ⟨_, _, _, rows⟩ :: rest =>
    plansWrapPre_cons (wrapsPre_element (by decide) (wrapPre_rowPlans (by decide) rows))
      (wrapPre_bodyPlans rest)

theorem wrapPre_rowPlans {tag : String} (htag : tag ≠ "pre") :
    ∀ rows : List Row, plansWrapPre (rowPlans tag rows) = true
  | [] => rfl
  | ⟨_, cells⟩ :: rest =>
    plansWrapPre_cons (wrapsPre_element (by decide) (wrapPre_cellPlans htag cells))
      (wrapPre_rowPlans htag rest)

theorem wrapPre_cellPlans {tag : String} (htag : tag ≠ "pre") :
    ∀ cells : List Cell, plansWrapPre (cellPlans tag cells) = true
  | [] => rfl
  | ⟨_, _, _, _, blocks⟩ :: rest =>
    plansWrapPre_cons (wrapsPre_element htag (wrapPre_blockPlans blocks))
      (wrapPre_cellPlans htag rest)

end

/-! ### Preformatted text in outlines -/

namespace OutlineNode

/-- Preformatted text without attributes that holds a single text. -/
def isDiagnostic : OutlineNode → Bool
  | .element tag attrs [.text _] => tag == "pre" && (attrs.getD []).isEmpty
  | _ => false

theorem isDiagnostic_of_ne_pre {tag : String} (htag : tag ≠ "pre") (attrs : Option AttrMap)
    (children : Outline) : (OutlineNode.element tag attrs children).isDiagnostic = false := by
  unfold isDiagnostic
  split
  · next heq =>
    cases heq
    rw [beq_eq_false_iff_ne.mpr htag, Bool.false_and]
  · rfl

end OutlineNode

/-- Of the pieces of an outline only those that were given no attributes look like diagnostics. -/
def Unforged (t : Outline) : Prop := ∀ n ∈ outlinePreorder t, n.isDiagnostic = n.isBare

namespace Unforged

theorem nil : Unforged [] := fun _ hn => absurd hn List.not_mem_nil

theorem append {s t : Outline} (hs : Unforged s) (ht : Unforged t) : Unforged (s ++ t) := by
  rw [Unforged, outlinePreorder_append, List.forall_mem_append]
  exact ⟨hs, ht⟩

theorem of_forall {t : Outline} (h : ∀ n ∈ t, Unforged [n]) : Unforged t := by
  rw [Unforged, outlinePreorder_eq_flatMap]
  intro m hm
  obtain ⟨n, hn, hmn⟩ := List.mem_flatMap.mp hm
  rw [← outlinePreorder_singleton] at hmn
  exact h n hn m hmn

theorem text (content : Json) : Unforged [.text content] := by
  rw [Unforged, outlinePreorder_singleton, OutlineNode.preorder, List.forall_mem_singleton]
  rfl

theorem raw (content : Json) : Unforged [.raw content] := by
  rw [Unforged, outlinePreorder_singleton, OutlineNode.preorder, List.forall_mem_singleton]
  rfl

theorem leaf (tag : String) (attrs : Option AttrMap) : Unforged [.leaf tag attrs] := by
  rw [Unforged, outlinePreorder_singleton, OutlineNode.preorder, List.forall_mem_singleton]
  rfl

theorem of_self {tag : String} {attrs : Option AttrMap} {children : Outline}
    (hself : (OutlineNode.element tag attrs children).isDiagnostic
      = (OutlineNode.element tag attrs children).isBare)
    (h : Unforged children) : Unforged [.element tag attrs children] := by
  rw [Unforged, outlinePreorder_singleton, OutlineNode.preorder, List.forall_mem_cons]
  exact ⟨hself, h⟩

theorem element {tag : String} (htag : tag ≠ "pre") (attrs : Option AttrMap) {children : Outline}
    (h : Unforged children) : Unforged [.element tag attrs children] :=
  of_self ((OutlineNode.isDiagnostic_of_ne_pre htag attrs children).trans
    (OutlineNode.isBare_of_ne_pre htag attrs children).symm) h

/-- Around an element nothing looks like a diagnostic. -/
theorem aroundElement (tag : String) (attrs : Option AttrMap) {inner : String}
    {innerAttrs : Option AttrMap} {children : Outline}
    (h : Unforged [.element inner innerAttrs children]) :
    Unforged [.element tag attrs [.element inner innerAttrs children]] :=
  of_self (by cases attrs <;> rfl) h

theorem diagnostic (wording : String) : Unforged [.diagnostic wording] :=
  of_self rfl (text _)

theorem reference (number : Nat) : Unforged [.reference number] :=
  element (by decide) _ (element (by decide) _ (text _))

end Unforged

section Plans

variable {mode : RawMode} {limit : Option Limit} {notes : Footnotes}

theorem unforged_rawOutline (mode : RawMode) (kind : RawKind) (format content : Json) :
    Unforged (rawOutline mode kind format content) := by
  unfold rawOutline
  split
  · exact .nil
  · exact .of_self (Bool.and_false _) (.text _)
  · split
    · exact .raw _
    · exact .nil
  · exact .nil

mutual

theorem Plan.unforged_outlined : ∀ (p : Plan) (depth : Nat), p.wrapsPre = true →
    Unforged (p.outlined mode limit notes depth)
  | .text content, _, _ => .text content
  | .parts ps, depth, h => plansUnforged ps depth h
  | .both p q, depth, h => by
    rw [Plan.wrapsPre, Bool.and_eq_true] at h
    exact (p.unforged_outlined depth h.1).append (q.unforged_outlined depth h.2)
  | .leaf tag attrs, _, _ => .leaf tag attrs
  | .element tag attrs children, depth, h => by
    rw [Plan.wrapsPre, Bool.and_eq_true, Bool.or_eq_true, bne_iff_ne] at h
    have hchildren := children.unforged_outlined depth h.2
    rcases h.1 with htag | helement
    · exact .element htag attrs hchildren
    · cases children with
      | element inner innerAttrs p => exact .aroundElement tag attrs hchildren
      | _ => cases helement
  | .nested ps, depth, h => by
    rw [Plan.outlined]
    cases beyond limit (depth + 1) with
    | some l => exact .diagnostic l.wording
    | none => exact plansUnforged ps (depth + 1) h
  | .written _ p, depth, h => p.unforged_outlined depth h
  | .fault _, _, _ => .nil
  | .link _ _ _ standard, depth, h => standard.unforged_outlined depth h
  | .code _ _ standard, depth, h => standard.unforged_outlined depth h
  | .raw kind format content, _, _ => unforged_rawOutline mode kind format content
  | .note body aside, depth, h => by
    rw [Plan.outlined]
    cases notes.number? (FootnoteBody.ofBlocks body) with
    | some number => exact .reference number
    | none => exact aside.unforged_outlined depth h
  | .cite _, _, _ => .diagnostic citeWording

theorem plansUnforged : ∀ (ps : List Plan) (depth : Nat), plansWrapPre ps = true →
    Unforged (plansOutlined mode limit notes depth ps)
  | [], _, _ => .nil
  | p :: rest, depth, h => by
    rw [plansWrapPre, Bool.and_eq_true] at h
    exact (p.unforged_outlined depth h.1).append (plansUnforged rest depth h.2)

end

end Plans

/-! ### Preformatted text in documents -/

theorem unforged_blocksOutlined (mode : RawMode) (limit : Option Limit) (notes : Footnotes)
    (depth : Nat) (blocks : List Block) :
    Unforged (blocksOutlined mode limit notes depth blocks) := by
  refine plansUnforged _ depth ?_
  rw [plansWrapPre_iff, List.forall_mem_map]
  exact fun b _ => b.wrapsPre_plan

theorem unforged_outlined_encountered (mode : RawMode) (limit : Option Limit)
    (met : List (List Block)) : Unforged ((encountered met).outlined mode limit) := by
  by_cases hnil : firstBodies met = []
  · rw [Footnotes.outlined, isEmpty_encountered, hnil]
    exact .nil
  · rw [outlined_encountered mode limit hnil]
    refine .element (by decide) _ (.element (by decide) _ (.of_forall ?_))
    rw [List.forall_mem_map]
    intro p _
    have hback : Unforged [.element "a"
        (some (AttrMap.ofTexts [("href", "#" ++ referenceAnchor (p.2 + 1))]))
        [.text (.str "↩︎")]] :=
      .element (by decide) _ (.text _)
    exact .element (by decide) _ ((Unforged.leaf _ _).append
      ((unforged_blocksOutlined mode limit Footnotes.none 0 p.1).append hback))

theorem Document.unforged_outlined (mode : RawMode) (limit : Option Limit) (d : Document) :
    Unforged (d.outlined mode limit d.numbering) :=
  (unforged_blocksOutlined mode limit d.numbering 0 d.blocks).append
    (unforged_outlined_encountered mode limit _)

end PandocHtml
