import PandocHtml.Proofs.Render.EqualPlans
import PandocHtml.Proofs.Render.Section
import PandocHtml.Proofs.Render.Total

/-!
# Renderings of equal documents

Equal documents number their footnotes alike: bodies are compared by the same equality, so what is
first in one document is first in the other.  Their outlines hold the same pieces in the same
places, in the blocks and in the section.  The attributes of the pieces are those of the nodes,
which equality compares as sets of pairs; where the nodes show the same mappings, the renderings are
the same texts.
-/

namespace PandocHtml

/-! ### Related lists -/

section Lists

variable {α β γ : Type} {R : α → β → Prop} {xs : List α} {ys : List β}

theorem map_eq_map_of_forall₂ {f : α → γ} {g : β → γ}
    (h : List.Forall₂ (fun x y => f x = g y) xs ys) : xs.map f = ys.map g := by
  rw [← List.forall₂_eq_eq_eq, forall₂_map_iff]
  exact h

theorem any_eq_of_forall₂ {p : α → Bool} {q : β → Bool}
    (h : List.Forall₂ (fun x y => p x = q y) xs ys) : xs.any p = ys.any q := by
  have hvalues := congrArg (fun values : List Bool => values.any id) (map_eq_map_of_forall₂ h)
  rw [List.any_map, List.any_map] at hvalues
  exact hvalues

theorem findIdx?_eq_of_forall₂ {p : α → Bool} {q : β → Bool}
    (h : List.Forall₂ (fun x y => p x = q y) xs ys) : xs.findIdx? p = ys.findIdx? q := by
  have hvalues := congrArg (fun values : List Bool => values.findIdx? id) (map_eq_map_of_forall₂ h)
  rw [List.findIdx?_map, List.findIdx?_map] at hvalues
  exact hvalues

theorem forall₂_zipIdx (h : List.Forall₂ R xs ys) (k : Nat) :
    List.Forall₂ (fun p q => R p.1 q.1 ∧ p.2 = q.2) (xs.zipIdx k) (ys.zipIdx k) := by
  induction h generalizing k with
  | nil => exact .nil
  | cons hxy _ ih => exact .cons ⟨hxy, rfl⟩ (ih (k + 1))

end Lists

/-! ### Numberings -/

section Numberings

theorem allTyped_of_equal {ns ms : List Node} (h : List.Forall₂ Node.Equal ns ms) :
    AllTyped ns ∧ AllTyped ms := by
  have hleft := h.imp fun _ _ hnm => And.intro hnm.typed.1 hnm
  have hright := h.flip.imp fun _ _ hnm => And.intro hnm.typed.2 hnm
  rw [List.forall₂_and_left] at hleft hright
  exact ⟨hleft.1, hright.1⟩

theorem isBodyKey_of_equal {a b : List Block} (h : BlocksBy Node.Equal a b) :
    isBodyKey a = true ∧ isBodyKey b = true := by
  obtain ⟨ha, hb⟩ := allTyped_of_equal h
  rw [AllTyped, List.forall_mem_map] at ha hb
  exact ⟨isBodyKey_of_blocksTyped ((blocksTyped_iff a).mpr ha),
    isBodyKey_of_blocksTyped ((blocksTyped_iff b).mpr hb)⟩

/-- Bodies are compared as the bodies they equal. -/
theorem sameBody_congr {a b a' b' : List Block} (ha : BlocksBy Node.Equal a a')
    (hb : BlocksBy Node.Equal b b') : sameBody a b = sameBody a' b' := by
  obtain ⟨hka, hka'⟩ := isBodyKey_of_equal ha
  obtain ⟨hkb, hkb'⟩ := isBodyKey_of_equal hb
  have haa := sameBody_of_blocksBy ha
  have hbb := sameBody_of_blocksBy hb
  rw [Bool.eq_iff_iff]
  constructor
  · intro hab
    have hab' := sameBody_trans hka hkb hkb' hab hbb
    rw [sameBody_comm hka hka'] at haa
    exact sameBody_trans hka' hka hkb' haa hab'
  · intro hab
    have hab' := sameBody_trans hka hka' hkb' haa hab
    rw [sameBody_comm hkb hkb'] at hbb
    exact sameBody_trans hka hkb' hkb hab' hbb

/-- What is first among some bodies corresponds to what is first among bodies that equal them. -/
theorem firstBodies_related {P : List Block → List Block → Prop}
    (hP : ∀ a b, P a b → BlocksBy Node.Equal a b) {met others : List (List Block)}
    (h : List.Forall₂ P met others) : List.Forall₂ P (firstBodies met) (firstBodies others) := by
  have hrepeats : ∀ p q : List Block × Nat, P p.1 q.1 ∧ p.2 = q.2 →
      (((met.take p.2).any (sameBody p.1) == false) = true
        ↔ ((others.take q.2).any (sameBody q.1) == false) = true) := by
    rintro ⟨b, i⟩ ⟨c, j⟩ ⟨hbc, rfl⟩
    have hany : (met.take i).any (sameBody b) = (others.take i).any (sameBody c) :=
      any_eq_of_forall₂ ((List.forall₂_take i h).imp fun a a' haa =>
        sameBody_congr (hP b c hbc) (hP a a' haa))
    rw [hany]
  have hkept := List.rel_filter (fun p q hpq => hrepeats p q hpq) (forall₂_zipIdx h 0)
  rw [firstBodies, bodiesMet, bodiesMet, forall₂_map_iff]
  exact hkept.imp fun _ _ hpq => hpq.1

/-- Numberings of equal bodies in one order agree. -/
theorem agree_encountered {met others : List (List Block)}
    (h : List.Forall₂ (BlocksBy Node.Equal) met others) :
    (encountered met).Agree (encountered others) := by
  intro xs ys hxy
  have hfirst := firstBodies_related (fun _ _ hab => hab) h
  have hindex : (firstBodies met).findIdx? (sameBody xs)
      = (firstBodies others).findIdx? (sameBody ys) :=
    findIdx?_eq_of_forall₂ (hfirst.imp fun _ _ hab => sameBody_congr hxy hab)
  rw [number?_encountered, number?_encountered, hindex]

end Numberings

/-! ### Outlines of documents -/

section Documents

variable {r : AttrMap → AttrMap → Prop}

theorem noteBodies_related {ns ms : List Node} (h : List.Forall₂ (Node.EqualBy r) ns ms) :
    List.Forall₂ (BlocksBy (Node.EqualBy r)) (noteBodies ns) (noteBodies ms) := by
  refine List.rel_filterMap (fun n m hnm => ?_) h
  have hchildren := hnm.children
  cases hnm.equal.matchesBy with
  | block _ => exact .none
  | inline hij =>
    cases hij with
    | note _ => exact .some hchildren
    | _ => exact .none

variable (hr : AttrMap.Comparison r)
include hr

theorem alike_listed (number : Nat) {content other : Outline}
    (h : Outline.AlikeBy r content other) :
    (OutlineNode.listed number content).AlikeBy r (.listed number other) := by
  have hback := Outline.AlikeBy.refl hr.refl [.element "a"
    (some (AttrMap.ofTexts [("href", "#" ++ referenceAnchor number)])) [.text (.str "↩︎")]]
  exact .element "li" .none (.cons (.refl hr.refl _) (List.rel_append h hback))

theorem section_alike (mode : RawMode) (limit : Option Limit) {met others : List (List Block)}
    (h : List.Forall₂ (BlocksBy (Node.EqualBy r)) met others) :
    Outline.AlikeBy r ((encountered met).outlined mode limit)
      ((encountered others).outlined mode limit) := by
  have hequal : ∀ a b : List Block, BlocksBy (Node.EqualBy r) a b → BlocksBy Node.Equal a b :=
    fun _ _ hab => hab.imp fun _ _ hnm => hnm.equal
  have hfirst := firstBodies_related hequal h
  by_cases hnil : firstBodies met = []
  · have hother : firstBodies others = [] := by
      rw [hnil] at hfirst
      exact List.forall₂_nil_left_iff.mp hfirst
    rw [Footnotes.outlined, Footnotes.outlined, encountered, encountered, hnil, hother]
    exact .nil
  · have hother : firstBodies others ≠ [] := by
      intro hempty
      rw [hempty] at hfirst
      exact hnil (List.forall₂_nil_right_iff.mp hfirst)
    rw [outlined_encountered mode limit hnil, outlined_encountered mode limit hother]
    refine .cons (.element "div" (.some (hr.refl _)) (.cons (.element "ol" .none ?_) .nil)) .nil
    rw [forall₂_map_iff]
    apply (forall₂_zipIdx hfirst 0).imp
    rintro ⟨b, i⟩ ⟨c, j⟩ ⟨hbc, rfl⟩
    exact alike_listed hr (i + 1)
      (blocksOutlined_alike hr Footnotes.Agree.none mode limit 0 hbc)

/-- Equal documents have alike outlines. -/
theorem Document.outlined_alike (mode : RawMode) (limit : Option Limit) {d e : Document}
    (h : BlocksBy (Node.EqualBy r) d.blocks e.blocks) :
    Outline.AlikeBy r (d.outlined mode limit d.numbering)
      (e.outlined mode limit e.numbering) := by
  have hnodes : List.Forall₂ (Node.EqualBy r) (blocksPreorder d.blocks)
      (blocksPreorder e.blocks) := by
    rw [blocksPreorder_eq, blocksPreorder_eq]
    exact forall₂_flatMap (h.imp fun _ _ hb => hb.preorder)
  have hbodies := noteBodies_related hnodes
  have hnotes : d.numbering.Agree e.numbering :=
    agree_encountered (hbodies.imp fun _ _ hab => hab.imp fun _ _ hnm => hnm.equal)
  exact List.rel_append (blocksOutlined_alike hr hnotes mode limit 0 h)
    (section_alike hr mode limit hbodies)

end Documents

theorem Document.blocksBy_of_same {d e : Document} (hd : d.isTyped = true) (he : e.isTyped = true)
    (h : d.same e = true) : BlocksBy Node.Equal d.blocks e.blocks :=
  blocksBy_equal (List.forall_mem_map.mpr ((blocksTyped_iff d.blocks).mp hd))
    (List.forall_mem_map.mpr ((blocksTyped_iff e.blocks).mp he)) (sameBlocks_iff.mp h)

/-- Equal well-typed documents, whatever their metadata, render to outlines that are alike: the same
pieces in the same places, with attributes that agree under every name but those that a node gives
two values.  If there is no such name, the attributes agree up to order; and if corresponding nodes
show the same mappings, the outlines and the texts are the same. -/
theorem equal_documents_render_alike (d e : Document) (hd : d.isTyped = true)
    (he : e.isTyped = true) (h : d.same e = true) (mode : RawMode) (limit : Option Limit) :
    ∃ (t u : Outline) (html other : String),
      (((Config.plain mode limit).engine outline).renderDocument d).outcome = .ok t
      ∧ (((Config.plain mode limit).engine outline).renderDocument e).outcome = .ok u
      ∧ (((Config.plain mode limit).engine Html.stringOutput).renderDocument d).outcome = .ok html
      ∧ (((Config.plain mode limit).engine Html.stringOutput).renderDocument e).outcome = .ok other
      ∧ Outline.AlikeBy (AttrMap.AgreeExcept (TwoValuedUnder d.walk)) t u
      ∧ ((∀ name, ¬ TwoValuedUnder d.walk name) → Outline.AlikeBy List.Perm t u)
      ∧ (d.walk.map Node.shownMap? = e.walk.map Node.shownMap? → t = u ∧ html = other) := by
  have hequal := Document.blocksBy_of_same hd he h
  have hlawful := Html.stringOutput_lawful
  have htotal : ((Config.plain mode limit).engine Html.stringOutput).Total :=
    Engine.total_of_reports stringOutput_reports rfl
  have halike := Document.outlined_alike (AttrMap.comparison_agreeExcept _) mode limit
    (blocksBy_equalBy_agreeExcept hequal)
  rw [← Document.walk_eq] at halike
  obtain ⟨html, hhtml⟩ := htotal.document d hd
  obtain ⟨other, hother⟩ := htotal.document e he
  refine ⟨_, _, html, other, Engine.outline_renderDocument mode limit hd,
    Engine.outline_renderDocument mode limit he, hhtml, hother, ?_, ?_, ?_⟩
  · exact halike
  · intro hone
    exact halike.imp fun m n hmn => AttrMap.perm_of_under fun name => hmn name (hone name)
  · intro hmaps
    have hattrs : List.Forall₂ (Node.AttrsBy (· = ·)) (blocksPreorder d.blocks)
        (blocksPreorder e.blocks) := by
      rw [Document.walk_eq, Document.walk_eq, ← List.forall₂_eq_eq_eq,
        forall₂_map_iff] at hmaps
      apply hmaps.imp
      intro n m hnm x y hx hy
      exact Option.some.inj (hx.symm.trans (hnm.trans hy))
    have hsame : d.outlined mode limit d.numbering = e.outlined mode limit e.numbering :=
      Outline.eq_of_alike (Document.outlined_alike AttrMap.comparison_eq mode limit
        (blocksBy_equalBy hequal hattrs))
    -- both texts are built from the one outline
    have hbuilt : Except.ok (ε := Fault) html = .ok other := by
      rw [← hhtml, ← hother]
      refine (Engine.outcome_renderDocument hlawful rfl hd).trans ?_
      refine Eq.trans ?_ (Engine.outcome_renderDocument hlawful rfl he).symm
      exact congrArg Html.stringOutput.build hsame
    exact ⟨hsame, Except.ok.inj hbuilt⟩

/-- A span with some pairs. -/
def pairedSpan (metadata : List (String × Json)) (pairs : List (String × String)) : Document :=
  ⟨metadata, [.plain [.span ⟨.str "", [], pairs⟩ [.str (.str "x")]]]⟩

/-- A pair given twice makes no difference. -/
theorem pairedSpan_repeated_renders_same :
    (pairedSpan [("title", .str "t")] [("a", "1"), ("a", "1")]).isTyped = true
    ∧ (pairedSpan [] [("a", "1")]).isTyped = true
    ∧ (pairedSpan [("title", .str "t")] [("a", "1"), ("a", "1")]).same (pairedSpan [] [("a", "1")])
      = true
    ∧ ∃ html : String,
      (((Config.plain .drop none).engine Html.stringOutput).renderDocument
        (pairedSpan [("title", .str "t")] [("a", "1"), ("a", "1")])).outcome = .ok html
      ∧ (((Config.plain .drop none).engine Html.stringOutput).renderDocument
        (pairedSpan [] [("a", "1")])).outcome = .ok html := by
  have hd : (pairedSpan [("title", .str "t")] [("a", "1"), ("a", "1")]).isTyped = true := by decide
  have he : (pairedSpan [] [("a", "1")]).isTyped = true := by decide
  have hsame : (pairedSpan [("title", .str "t")] [("a", "1"), ("a", "1")]).same
      (pairedSpan [] [("a", "1")]) = true := by decide
  have hmaps : (pairedSpan [("title", .str "t")] [("a", "1"), ("a", "1")]).walk.map Node.shownMap?
      = (pairedSpan [] [("a", "1")]).walk.map Node.shownMap? := by
    rw [Document.walk_eq, Document.walk_eq]
    rfl
  obtain ⟨_, _, html, other, _, _, hhtml, hother, _, _, htexts⟩ :=
    equal_documents_render_alike _ _ hd he hsame .drop none
  obtain ⟨_, rfl⟩ := htexts hmaps
  exact ⟨hd, he, hsame, html, hhtml, hother⟩

theorem eq_ok_of_toOption {α : Type} {x : Except Fault α} {a : α} (h : x.toOption = some a) :
    x = .ok a := by
  cases x with
  | error f => cases h
  | ok b => exact congrArg Except.ok (Option.some.inj h)

/-- Pairs in another order make equal documents with different texts. -/
theorem pairedSpan_swapped_renders_differently :
    (pairedSpan [] [("a", "1"), ("b", "2")]).isTyped = true
    ∧ (pairedSpan [] [("b", "2"), ("a", "1")]).isTyped = true
    ∧ (pairedSpan [] [("a", "1"), ("b", "2")]).same (pairedSpan [] [("b", "2"), ("a", "1")]) = true
    ∧ ∃ html other : String,
      (((Config.plain .drop none).engine Html.stringOutput).renderDocument
        (pairedSpan [] [("a", "1"), ("b", "2")])).outcome = .ok html
      ∧ (((Config.plain .drop none).engine Html.stringOutput).renderDocument
        (pairedSpan [] [("b", "2"), ("a", "1")])).outcome = .ok other
      ∧ html ≠ other := by
  refine ⟨by decide, by decide, by decide, "<span a=\"1\" b=\"2\">x</span>",
    "<span b=\"2\" a=\"1\">x</span>", eq_ok_of_toOption ?_, eq_ok_of_toOption ?_, by decide⟩
  · decide +kernel
  · decide +kernel

end PandocHtml
