import Mathlib.Data.List.Forall2
import PandocHtml.Document.Walk

/-!
# Nodes compared level by level

Two nodes match, relative to a relation between nodes, if they are of one kind, hold the same
values, and have related children in corresponding places.  Attributes need only be equal, so their
pairs may stand in another order.  Whatever relation holds between the children one after another
can take the place of the one that the nodes were matched by.
-/

namespace PandocHtml

/-! ### Pairwise related lists -/

section Lists

variable {α β γ δ : Type} {R Q : α → β → Prop} {S : γ → δ → Prop}

theorem forall₂_of_mem {xs : List α} {ys : List β} (h : List.Forall₂ R xs ys)
    (himp : ∀ x ∈ xs, ∀ y ∈ ys, R x y → Q x y) : List.Forall₂ Q xs ys := by
  induction h with
  | nil => exact .nil
  | cons hxy _ ih =>
    have hhead := himp _ (List.mem_cons_self ..) _ (List.mem_cons_self ..) hxy
    refine .cons hhead (ih fun x hx y hy => ?_)
    exact himp x (List.mem_cons_of_mem _ hx) y (List.mem_cons_of_mem _ hy)

theorem forall₂_map_iff {f : α → γ} {g : β → δ} {xs : List α} {ys : List β} :
    List.Forall₂ S (xs.map f) (ys.map g) ↔ List.Forall₂ (fun x y => S (f x) (g y)) xs ys := by
  rw [List.forall₂_map_left_iff, List.forall₂_map_right_iff]

theorem forall₂_flatMap {f : α → List γ} {g : β → List δ} {xs : List α} {ys : List β}
    (h : List.Forall₂ (fun x y => List.Forall₂ S (f x) (g y)) xs ys) :
    List.Forall₂ S (xs.flatMap f) (ys.flatMap g) :=
  List.rel_flatMap h fun _ _ hxy => hxy

/-- Related lists fall into related parts where their lengths say so. -/
theorem forall₂_of_append {xs xs' : List γ} {ys ys' : List δ} (hlen : xs.length = ys.length)
    (h : List.Forall₂ S (xs ++ xs') (ys ++ ys')) :
    List.Forall₂ S xs ys ∧ List.Forall₂ S xs' ys' := by
  have hfirst := List.forall₂_take_append _ _ _ h
  have hsecond := List.forall₂_drop_append _ _ _ h
  rw [← hlen, List.take_left] at hfirst
  rw [← hlen, List.drop_left] at hsecond
  exact ⟨hfirst, hsecond⟩

/-- Where the parts of two lists correspond, lists that are related as wholes are related part by
part. -/
theorem forall₂_of_flatMap {T : γ → δ → Prop} {f : α → List γ} {g : β → List δ} {xs : List α}
    {ys : List β} (h : List.Forall₂ (fun x y => List.Forall₂ S (f x) (g y)) xs ys)
    (hT : List.Forall₂ T (xs.flatMap f) (ys.flatMap g)) :
    List.Forall₂ (fun x y => List.Forall₂ T (f x) (g y)) xs ys := by
  induction h with
  | nil => exact .nil
  | cons hxy _ ih =>
    rw [List.flatMap_cons, List.flatMap_cons] at hT
    obtain ⟨hhead, hrest⟩ := forall₂_of_append hxy.length_eq hT
    exact .cons hhead (ih hrest)

end Lists

/-! ### One level -/

section Level

variable (R : Node → Node → Prop)

abbrev InlinesBy (xs ys : List Inline) : Prop :=
  List.Forall₂ R (xs.map Node.inline) (ys.map Node.inline)

abbrev BlocksBy (xs ys : List Block) : Prop :=
  List.Forall₂ R (xs.map Node.block) (ys.map Node.block)

def CellsBy (xs ys : List Cell) : Prop :=
  List.Forall₂ (fun c c' => BlocksBy R c.blocks c'.blocks) xs ys

def RowsBy (xs ys : List Row) : Prop := List.Forall₂ (fun r r' => CellsBy R r.cells r'.cells) xs ys

structure Definition.MatchesBy (d e : Definition) : Prop where
  term : InlinesBy R d.term e.term
  meanings : List.Forall₂ (BlocksBy R) d.meanings e.meanings

structure Citation.MatchesBy (c c' : Citation) : Prop where
  before : InlinesBy R c.before c'.before
  after : InlinesBy R c.after c'.after

structure Caption.MatchesBy (c c' : Caption) : Prop where
  short : InlinesBy R (c.short.getD []) (c'.short.getD [])
  blocks : BlocksBy R c.blocks c'.blocks

structure TableBody.MatchesBy (b b' : TableBody) : Prop where
  headRows : RowsBy R b.headRows b'.headRows
  rows : RowsBy R b.rows b'.rows

/-- Inlines of one kind with the same values and related children. -/
inductive Inline.MatchesBy : Inline → Inline → Prop where
  | str (text : Json) : MatchesBy (.str text) (.str text)
  | styled (style : Style) {xs ys : List Inline} (h : InlinesBy R xs ys) :
      MatchesBy (.styled style xs) (.styled style ys)
  | quoted (kind : QuoteKind) {xs ys : List Inline} (h : InlinesBy R xs ys) :
      MatchesBy (.quoted kind xs) (.quoted kind ys)
  | cite {cs ds : List Citation} {xs ys : List Inline}
      (hcitations : List.Forall₂ (Citation.MatchesBy R) cs ds) (h : InlinesBy R xs ys) :
      MatchesBy (.cite cs xs) (.cite ds ys)
  | code {a b : Attr} (text : Json) (hattr : a.same b = true) :
      MatchesBy (.code a text) (.code b text)
  | space : MatchesBy .space .space
  | softBreak : MatchesBy .softBreak .softBreak
  | lineBreak : MatchesBy .lineBreak .lineBreak
  | math (kind : MathKind) (text : Json) : MatchesBy (.math kind text) (.math kind text)
  | raw (format text : Json) : MatchesBy (.raw format text) (.raw format text)
  | link {a b : Attr} {xs ys : List Inline} (target : Target) (hattr : a.same b = true)
      (h : InlinesBy R xs ys) : MatchesBy (.link a xs target) (.link b ys target)
  | image {a b : Attr} {xs ys : List Inline} (target : Target) (hattr : a.same b = true)
      (h : InlinesBy R xs ys) : MatchesBy (.image a xs target) (.image b ys target)
  | note {xs ys : List Block} (h : BlocksBy R xs ys) : MatchesBy (.note xs) (.note ys)
  | span {a b : Attr} {xs ys : List Inline} (hattr : a.same b = true) (h : InlinesBy R xs ys) :
      MatchesBy (.span a xs) (.span b ys)

/-- Blocks of one kind with the same values and related children. -/
inductive Block.MatchesBy : Block → Block → Prop where
  | plain {xs ys : List Inline} (h : InlinesBy R xs ys) : MatchesBy (.plain xs) (.plain ys)
  | para {xs ys : List Inline} (h : InlinesBy R xs ys) : MatchesBy (.para xs) (.para ys)
  | lineBlock {xs ys : List (List Inline)} (h : List.Forall₂ (InlinesBy R) xs ys) :
      MatchesBy (.lineBlock xs) (.lineBlock ys)
  | codeBlock {a b : Attr} (text : Json) (hattr : a.same b = true) :
      MatchesBy (.codeBlock a text) (.codeBlock b text)
  | raw (format text : Json) : MatchesBy (.raw format text) (.raw format text)
  | blockQuote {xs ys : List Block} (h : BlocksBy R xs ys) :
      MatchesBy (.blockQuote xs) (.blockQuote ys)
  | orderedList (attributes : ListAttributes) {xs ys : List (List Block)}
      (h : List.Forall₂ (BlocksBy R) xs ys) :
      MatchesBy (.orderedList attributes xs) (.orderedList attributes ys)
  | bulletList {xs ys : List (List Block)} (h : List.Forall₂ (BlocksBy R) xs ys) :
      MatchesBy (.bulletList xs) (.bulletList ys)
  | definitionList {xs ys : List Definition} (h : List.Forall₂ (Definition.MatchesBy R) xs ys) :
      MatchesBy (.definitionList xs) (.definitionList ys)
  | header (level : Json) {a b : Attr} {xs ys : List Inline} (hattr : a.same b = true)
      (h : InlinesBy R xs ys) : MatchesBy (.header level a xs) (.header level b ys)
  | horizontalRule : MatchesBy .horizontalRule .horizontalRule
  | table {a b : Attr} {caption caption' : Caption} {specs specs' : List ColSpec}
      {head head' foot foot' : RowGroup} {bodies bodies' : List TableBody}
      (hattr : a.same b = true) (hcaption : Caption.MatchesBy R caption caption')
      (hhead : RowsBy R head.rows head'.rows)
      (hbodies : List.Forall₂ (TableBody.MatchesBy R) bodies bodies')
      (hfoot : RowsBy R foot.rows foot'.rows) :
      MatchesBy (.table a caption specs head bodies foot)
        (.table b caption' specs' head' bodies' foot')
  | figure {a b : Attr} {caption caption' : Caption} {xs ys : List Block}
      (hattr : a.same b = true) (hcaption : Caption.MatchesBy R caption caption')
      (h : BlocksBy R xs ys) : MatchesBy (.figure a caption xs) (.figure b caption' ys)
  | div {a b : Attr} {xs ys : List Block} (hattr : a.same b = true) (h : BlocksBy R xs ys) :
      MatchesBy (.div a xs) (.div b ys)

/-- Nodes of one kind with the same values and related children. -/
inductive Node.MatchesBy : Node → Node → Prop where
  | block {b c : Block} (h : Block.MatchesBy R b c) : MatchesBy (.block b) (.block c)
  | inline {i j : Inline} (h : Inline.MatchesBy R i j) : MatchesBy (.inline i) (.inline j)

end Level

section Children

variable {R S : Node → Node → Prop}

/-! ### Children of matching nodes -/

theorem CellsBy.nodes {xs ys : List Cell} (h : CellsBy R xs ys) :
    List.Forall₂ R (xs.flatMap fun c => c.blocks.map Node.block)
      (ys.flatMap fun c => c.blocks.map Node.block) :=
  forall₂_flatMap h

theorem RowsBy.nodes {xs ys : List Row} (h : RowsBy R xs ys) :
    List.Forall₂ R (rowNodes xs) (rowNodes ys) :=
  forall₂_flatMap (h.imp fun _ _ hcells => hcells.nodes)

theorem Caption.MatchesBy.nodes {c c' : Caption} (h : Caption.MatchesBy R c c') :
    List.Forall₂ R c.nodes c'.nodes :=
  List.rel_append h.short h.blocks

theorem Definition.MatchesBy.nodes {d e : Definition} (h : Definition.MatchesBy R d e) :
    List.Forall₂ R (d.term.map Node.inline ++ d.meanings.flatMap fun m => m.map Node.block)
      (e.term.map Node.inline ++ e.meanings.flatMap fun m => m.map Node.block) :=
  List.rel_append h.term (forall₂_flatMap h.meanings)

theorem TableBody.MatchesBy.nodes {b b' : TableBody} (h : TableBody.MatchesBy R b b') :
    List.Forall₂ R (rowNodes b.headRows ++ rowNodes b.rows)
      (rowNodes b'.headRows ++ rowNodes b'.rows) :=
  List.rel_append h.headRows.nodes h.rows.nodes

theorem Citation.MatchesBy.nodes {c c' : Citation} (h : Citation.MatchesBy R c c') :
    List.Forall₂ R (c.before.map Node.inline ++ c.after.map Node.inline)
      (c'.before.map Node.inline ++ c'.after.map Node.inline) :=
  List.rel_append h.before h.after

theorem Inline.MatchesBy.children {i j : Inline} (h : Inline.MatchesBy R i j) :
    List.Forall₂ R i.children j.children := by
  cases h with
  | styled _ h | quoted _ h | link _ _ h | image _ _ h | note h | span _ h => exact h
  | cite hcitations h =>
    exact List.rel_append (forall₂_flatMap (hcitations.imp fun _ _ hc => hc.nodes)) h
  | str | code | space | softBreak | lineBreak | math | raw => exact .nil

theorem Block.MatchesBy.children {b c : Block} (h : Block.MatchesBy R b c) :
    List.Forall₂ R b.children c.children := by
  cases h with
  | plain h | para h | blockQuote h | header _ _ h | div _ h => exact h
  | lineBlock h => exact forall₂_flatMap h
  | orderedList _ h => exact forall₂_flatMap h
  | bulletList h => exact forall₂_flatMap h
  | definitionList h => exact forall₂_flatMap (h.imp fun _ _ hd => hd.nodes)
  | table _ hcaption hhead hbodies hfoot =>
    have hrows := forall₂_flatMap (hbodies.imp fun _ _ hb => hb.nodes)
    exact List.rel_append (List.rel_append (List.rel_append hcaption.nodes hhead.nodes) hrows)
      hfoot.nodes
  | figure _ hcaption h => exact List.rel_append hcaption.nodes h
  | codeBlock | raw | horizontalRule => exact .nil

theorem Node.MatchesBy.children {n m : Node} (h : Node.MatchesBy R n m) :
    List.Forall₂ R n.children m.children := by
  cases h with
  | block h => exact h.children
  | inline h => exact h.children

/-! ### Another relation between the children -/

theorem CellsBy.of_nodes {xs ys : List Cell} (h : CellsBy R xs ys)
    (hS : List.Forall₂ S (xs.flatMap fun c => c.blocks.map Node.block)
      (ys.flatMap fun c => c.blocks.map Node.block)) : CellsBy S xs ys :=
  forall₂_of_flatMap h hS

theorem RowsBy.of_nodes {xs ys : List Row} (h : RowsBy R xs ys)
    (hS : List.Forall₂ S (rowNodes xs) (rowNodes ys)) : RowsBy S xs ys := by
  have hrows := forall₂_of_flatMap (h.imp fun _ _ hcells => hcells.nodes) hS
  exact List.Forall₂.mp (fun _ _ hcells hnodes => hcells.of_nodes hnodes) h hrows

theorem Caption.MatchesBy.of_nodes {c c' : Caption} (h : Caption.MatchesBy R c c')
    (hS : List.Forall₂ S c.nodes c'.nodes) : Caption.MatchesBy S c c' := by
  obtain ⟨hshort, hblocks⟩ := forall₂_of_append h.short.length_eq hS
  exact ⟨hshort, hblocks⟩

theorem Definition.MatchesBy.of_nodes {d e : Definition} (h : Definition.MatchesBy R d e)
    (hS : List.Forall₂ S
      (d.term.map Node.inline ++ d.meanings.flatMap fun m => m.map Node.block)
      (e.term.map Node.inline ++ e.meanings.flatMap fun m => m.map Node.block)) :
    Definition.MatchesBy S d e := by
  obtain ⟨hterm, hmeanings⟩ := forall₂_of_append h.term.length_eq hS
  exact ⟨hterm, forall₂_of_flatMap h.meanings hmeanings⟩

theorem TableBody.MatchesBy.of_nodes {b b' : TableBody} (h : TableBody.MatchesBy R b b')
    (hS : List.Forall₂ S (rowNodes b.headRows ++ rowNodes b.rows)
      (rowNodes b'.headRows ++ rowNodes b'.rows)) : TableBody.MatchesBy S b b' := by
  obtain ⟨hhead, hrows⟩ := forall₂_of_append h.headRows.nodes.length_eq hS
  exact ⟨h.headRows.of_nodes hhead, h.rows.of_nodes hrows⟩

theorem Citation.MatchesBy.of_nodes {c c' : Citation} (h : Citation.MatchesBy R c c')
    (hS : List.Forall₂ S (c.before.map Node.inline ++ c.after.map Node.inline)
      (c'.before.map Node.inline ++ c'.after.map Node.inline)) : Citation.MatchesBy S c c' := by
  obtain ⟨hbefore, hafter⟩ := forall₂_of_append h.before.length_eq hS
  exact ⟨hbefore, hafter⟩

theorem Inline.MatchesBy.of_children {i j : Inline} (h : Inline.MatchesBy R i j)
    (hS : List.Forall₂ S i.children j.children) : Inline.MatchesBy S i j := by
  cases h with
  | str text => exact .str text
  | styled style _ => exact .styled style hS
  | quoted kind _ => exact .quoted kind hS
  | cite hcitations _ =>
    have hparts := hcitations.imp fun _ _ hc => hc.nodes
    obtain ⟨haround, hcontent⟩ := forall₂_of_append (forall₂_flatMap hparts).length_eq hS
    have hsplit := forall₂_of_flatMap hparts haround
    exact .cite (List.Forall₂.mp (fun _ _ hc hnodes => hc.of_nodes hnodes) hcitations hsplit)
      hcontent
  | code text hattr => exact .code text hattr
  | space => exact .space
  | softBreak => exact .softBreak
  | lineBreak => exact .lineBreak
  | math kind text => exact .math kind text
  | raw format text => exact .raw format text
  | link target hattr _ => exact .link target hattr hS
  | image target hattr _ => exact .image target hattr hS
  | note _ => exact .note hS
  | span hattr _ => exact .span hattr hS

theorem Block.MatchesBy.of_children {b c : Block} (h : Block.MatchesBy R b c)
    (hS : List.Forall₂ S b.children c.children) : Block.MatchesBy S b c := by
  cases h with
  | plain _ => exact .plain hS
  | para _ => exact .para hS
  | lineBlock h => exact .lineBlock (forall₂_of_flatMap h hS)
  | codeBlock text hattr => exact .codeBlock text hattr
  | raw format text => exact .raw format text
  | blockQuote _ => exact .blockQuote hS
  | orderedList attributes h => exact .orderedList attributes (forall₂_of_flatMap h hS)
  | bulletList h => exact .bulletList (forall₂_of_flatMap h hS)
  | definitionList h =>
    have hsplit := forall₂_of_flatMap (h.imp fun _ _ hd => hd.nodes) hS
    exact .definitionList (List.Forall₂.mp (fun _ _ hd hnodes => hd.of_nodes hnodes) h hsplit)
  | header level hattr _ => exact .header level hattr hS
  | horizontalRule => exact .horizontalRule
  | table hattr hcaption hhead hbodies hfoot =>
    have hparts := hbodies.imp fun _ _ hb => hb.nodes
    have hfirst := List.rel_append hcaption.nodes hhead.nodes
    have hsecond := List.rel_append hfirst (forall₂_flatMap hparts)
    obtain ⟨hS, hfootS⟩ := forall₂_of_append hsecond.length_eq hS
    obtain ⟨hS, hbodiesS⟩ := forall₂_of_append hfirst.length_eq hS
    obtain ⟨hcaptionS, hheadS⟩ := forall₂_of_append hcaption.nodes.length_eq hS
    have hsplit := forall₂_of_flatMap hparts hbodiesS
    exact .table hattr (hcaption.of_nodes hcaptionS) (hhead.of_nodes hheadS)
      (List.Forall₂.mp (fun _ _ hb hnodes => hb.of_nodes hnodes) hbodies hsplit)
      (hfoot.of_nodes hfootS)
  | figure hattr hcaption _ =>
    obtain ⟨hcaptionS, hblocksS⟩ := forall₂_of_append hcaption.nodes.length_eq hS
    exact .figure hattr (hcaption.of_nodes hcaptionS) hblocksS
  | div hattr _ => exact .div hattr hS

/-- Whatever holds between the children of matching nodes, one after another, they match by. -/
theorem Node.MatchesBy.of_children {n m : Node} (h : Node.MatchesBy R n m)
    (hS : List.Forall₂ S n.children m.children) : Node.MatchesBy S n m := by
  cases h with
  | block h => exact .block (h.of_children hS)
  | inline h => exact .inline (h.of_children hS)

end Children

end PandocHtml
