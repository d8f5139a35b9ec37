import PandocHtml.Html.StringOutput
import PandocHtml.Markup.TreeOutput
import PandocHtml.Proofs.Footnote.FirstEncounter
import PandocHtml.Proofs.Render.SoundPlan
import PandocHtml.Render.Config
import PandocHtml.Render.Outline

/-!
# Renderings are built from outlines

The outline of a well-typed document says everything about its rendering: which texts, elements
and attributes there are, and in which order.  Building the outline piece by piece with any
lawful output gives what rendering with that output gives, whatever the mode for raw content, the
nesting limit and the numbered footnotes are.
-/

namespace PandocHtml

/-! ### Lawful outputs -/

theorem Html.stringOutput_lawful : Html.stringOutput.Lawful where
  assoc := fun _ _ _ => String.append_assoc
  empty_combine := fun _ => String.empty_append
  combine_empty := fun _ => String.append_empty
  concat_eq _ := rfl

namespace Output

variable {β : Type} {o : Output β}

theorem Lawful.foldl_combine (ho : o.Lawful) (xs : List β) (a : β) :
    xs.foldl o.combine a = o.combine a (xs.foldl o.combine o.empty) := by
  induction xs generalizing a with
  | nil => exact (ho.combine_empty a).symm
  | cons x rest ih =>
    rw [List.foldl_cons, List.foldl_cons, ih, ih (o.combine o.empty x), ho.empty_combine, ho.assoc]

theorem Lawful.concat_nil (ho : o.Lawful) : o.concat [] = o.empty := ho.concat_eq []

theorem Lawful.concat_cons (ho : o.Lawful) (x : β) (xs : List β) :
    o.concat (x :: xs) = o.combine x (o.concat xs) := by
  rw [ho.concat_eq, ho.concat_eq, fold, fold, List.foldl_cons, ho.foldl_combine, ho.empty_combine]

/-! ### Building from outlines -/

variable (o)

mutual

/-- A piece of an outline as a piece of an output. -/
def piece : OutlineNode → Except Fault β
  | .text content => (o.text content).outcome
  | .raw content => (o.raw content).outcome
  | .leaf tag attrs => (o.element tag attrs none).outcome
  | .element tag attrs children => do
    let inside ← pieces children
    (o.element tag attrs (some (o.concat inside))).outcome

def pieces : List OutlineNode → Except Fault (List β)
  | [] => .ok []
  | n :: rest => do
    let first ← piece n
    let others ← pieces rest
    return first :: others

end

def build (t : Outline) : Except Fault β := do
  let parts ← o.pieces t
  return o.concat parts

variable {o}

theorem pieces_map {α : Type} (f : α → OutlineNode) (xs : List α) :
    o.pieces (xs.map f) = xs.mapM fun x => o.piece (f x) := by
  induction xs with
  | nil => rfl
  | cons x rest ih => rw [List.map_cons, pieces, ih, List.mapM_cons]

theorem build_nil (ho : o.Lawful) : o.build [] = .ok o.empty := by
  rw [build, pieces, ← ho.concat_nil]
  rfl

theorem build_cons (ho : o.Lawful) (n : OutlineNode) (t : Outline) :
    o.build (n :: t) = do
      let first ← o.piece n
      let others ← o.build t
      return o.combine first others := by
  simp only [build, pieces, bind_assoc, pure_bind, ho.concat_cons]

theorem build_singleton (ho : o.Lawful) (n : OutlineNode) : o.build [n] = o.piece n := by
  rw [build_cons ho, build_nil ho]
  cases o.piece n with
  | error f => rfl
  | ok a => exact congrArg Except.ok (ho.combine_empty a)

theorem build_append (ho : o.Lawful) (s t : Outline) :
    o.build (s ++ t) = do
      let left ← o.build s
      let right ← o.build t
      return o.combine left right := by
  induction s with
  | nil =>
    rw [build_nil ho]
    show o.build t = o.build t >>= fun right => .ok (o.combine o.empty right)
    simp only [ho.empty_combine]
    exact (bind_pure _).symm
  | cons n rest ih =>
    rw [List.cons_append, build_cons ho, ih, build_cons ho]
    simp only [bind_assoc, pure_bind, ho.assoc]

theorem piece_element (tag : String) (attrs : Option AttrMap) (children : Outline) :
    o.piece (.element tag attrs children)
      = o.build children >>= fun inside => (o.element tag attrs (some inside)).outcome := by
  simp only [piece, build, bind_assoc, pure_bind]

end Output

mutual

theorem outline_piece : ∀ n : OutlineNode, outline.piece n = .ok [n]
  | .text _ | .raw _ | .leaf _ _ => rfl
  | .element tag attrs children => by
    rw [Output.piece_element, outline_build children]
    rfl

theorem outline_build : ∀ t : Outline, outline.build t = .ok t
  | [] => rfl
  | n :: rest => by
    rw [Output.build_cons outline_lawful, outline_piece n, outline_build rest]
    rfl

end

/-! ### Pre-order of outlines -/

mutual

/-- A piece of an outline with the pieces inside it, itself first. -/
def OutlineNode.preorder : OutlineNode → List OutlineNode
  | .text content => [.text content]
  | .raw content => [.raw content]
  | .leaf tag attrs => [.leaf tag attrs]
  | .element tag attrs children => .element tag attrs children :: outlinePreorder children

/-- The pieces of an outline with those inside them. -/
def outlinePreorder : List OutlineNode → List OutlineNode
  | [] => []
  | n :: rest => n.preorder ++ outlinePreorder rest

end

theorem outlinePreorder_append (s t : Outline) :
    outlinePreorder (s ++ t) = outlinePreorder s ++ outlinePreorder t := by
  induction s with
  | nil => rfl
  | cons n rest ih => rw [List.cons_append, outlinePreorder, ih, outlinePreorder, List.append_assoc]

theorem outlinePreorder_singleton (n : OutlineNode) : outlinePreorder [n] = n.preorder := by
  rw [outlinePreorder, outlinePreorder, List.append_nil]

/-! ### Outlines of plans -/

/-- The standard rules for links and code blocks, which may record the calls. -/
def Config.isPlain (c : Config) : Bool :=
  (match c.link with
    | .standard | .traced => true
    | .wrapped => false)
  && match c.code with
    | .standard | .traced => true
    | .replaced | .highlighted _ => false

/-- The standard rules for links and code blocks, with a mode for raw content and a limit. -/
def Config.plain (mode : RawMode) (limit : Option Limit) : Config :=
  ⟨.standard, .standard, mode, limit⟩

def OutlineNode.diagnostic (wording : String) : OutlineNode :=
  .element "pre" none [.text (.str ("error[docrender]: " ++ wording))]

def citeWording : String := "Pandoc Cite is not handled"

/-- The wording of the diagnostic in the place of a subtree beyond the limit. -/
def Limit.wording (l : Limit) : String := "maximum nesting depth " ++ l.shown ++ " exceeded"

def OutlineNode.reference (number : Nat) : OutlineNode :=
  .element "sup" (some (AttrMap.ofTexts [("class", "footnote-ref")]))
    [.element "a" (some (AttrMap.ofTexts
        [("name", referenceAnchor number), ("href", "#" ++ footnoteAnchor number)]))
      [.text (.str (toString number))]]

def RawMode.kept (mode : RawMode) (html : String) : String :=
  match mode with
  | .passThrough => html
  | .escape => Html.escape html
  | .drop => ""
  | .sanitize => Sanitize.writeClean (Sanitize.withoutDangerAll (Markup.parse html))

def OutlineNode.shownRaw (kind : RawKind) (format text : Json) : OutlineNode :=
  .element (match kind with
      | .block => "pre"
      | .inline => "code")
    (some [("class", .str "raw"), ("data-format", format)]) [.text text]

/-- The outline of raw content under a mode. -/
def rawOutline (mode : RawMode) (kind : RawKind) (format text : Json) : Outline :=
  match mode, format, text with
  | .drop, _, _ => []
  | .escape, _, _ => [.shownRaw kind format text]
  | _, .str name, .str html =>
    if Config.htmlFormats.contains name.toLower then [.raw (.str (mode.kept html))] else []
  | _, _, _ => []

section Plans

variable (mode : RawMode) (limit : Option Limit) (notes : Footnotes)

mutual

def Plan.outlined (depth : Nat) : Plan → Outline
  | .text content => [.text content]
  | .parts ps => plansOutlined depth ps
  | .both p q => p.outlined depth ++ q.outlined depth
  | .leaf tag attrs => [.leaf tag attrs]
  | .element tag attrs children => [.element tag attrs (children.outlined depth)]
  | .nested ps =>
    match beyond limit (depth + 1) with
    | some l => [.diagnostic l.wording]
    | none => plansOutlined (depth + 1) ps
  | .written _ p => p.outlined depth
  | .fault _ => []
  | .link _ _ _ standard => standard.outlined depth
  | .code _ _ standard => standard.outlined depth
  | .raw kind format text => rawOutline mode kind format text
  | .note body aside =>
    match notes.number? (FootnoteBody.ofBlocks body) with
    | some number => [.reference number]
    | none => aside.outlined depth
  | .cite _ => [.diagnostic citeWording]

def plansOutlined (depth : Nat) : List Plan → Outline
  | [] => []
  | p :: rest => p.outlined depth ++ plansOutlined depth rest

end

theorem plansOutlined_eq_flatMap (depth : Nat) (ps : List Plan) :
    plansOutlined mode limit notes depth ps
      = ps.flatMap (Plan.outlined mode limit notes depth) := by
  induction ps with
  | nil => rfl
  | cons p rest ih => rw [plansOutlined, ih, List.flatMap_cons]

end Plans

def blocksOutlined (mode : RawMode) (limit : Option Limit) (notes : Footnotes) (depth : Nat)
    (blocks : List Block) : Outline :=
  plansOutlined mode limit notes depth (blocks.map Block.plan)

def OutlineNode.entry (mode : RawMode) (limit : Option Limit) (number : Nat)
    (body : FootnoteBody) : OutlineNode :=
  .element "li" none
    (.leaf "a" (some (AttrMap.ofTexts [("name", footnoteAnchor number)]))
      :: (plansOutlined mode limit Footnotes.none 0 (body.map (Item.plan .block))
        ++ [.element "a" (some (AttrMap.ofTexts [("href", "#" ++ referenceAnchor number)]))
          [.text (.str "↩︎")]]))

def Footnotes.outlined (mode : RawMode) (limit : Option Limit) (notes : Footnotes) : Outline :=
  if notes.bodies.isEmpty then []
  else
    [.element "div" (some (AttrMap.ofTexts [("id", "footnotes")]))
      [.element "ol" Option.none (notes.entries.map fun e => .entry mode limit e.1 e.2)]]

/-- The outline of a document under numbered footnotes, with their section behind it. -/
def Document.outlined (mode : RawMode) (limit : Option Limit) (notes : Footnotes) (d : Document) :
    Outline :=
  blocksOutlined mode limit notes 0 d.blocks ++ notes.outlined mode limit

/-- Every numbered body consists of well-typed blocks. -/
def Footnotes.Typed (notes : Footnotes) : Prop :=
  ∀ body ∈ notes.bodies, ∃ blocks, body = FootnoteBody.ofBlocks blocks ∧ blocksTyped blocks = true

theorem Footnotes.typed_encountered {bodies : List (List Block)}
    (h : ∀ b ∈ bodies, blocksTyped b = true) : (encountered bodies).Typed := by
  rw [Footnotes.Typed, encountered, List.forall_mem_map]
  intro b hb
  exact ⟨b, rfl, h b (mem_of_mem_bodiesMet hb)⟩

theorem Document.typed_numbering {d : Document} (h : d.isTyped = true) : d.numbering.Typed :=
  Footnotes.typed_encountered (blocksTyped_of_mem_preorder h)

/-! ### Renderings of plans -/

section Engines

variable {β : Type} {o : Output β} {c : Config}

theorem Config.outcome_linkHook (hc : c.isPlain = true) (url : Json) (attrs : AttrMap)
    (inner : Option (List Inline)) (rendering : Traced β) :
    (Config.linkHook c.link o url attrs inner rendering).outcome = rendering.outcome := by
  obtain ⟨link, code, mode, limit⟩ := c
  cases link with
  | standard => rfl
  | traced => exact Traced.outcome_bind _ _
  | wrapped => cases hc

theorem Config.outcome_codeHook (hc : c.isPlain = true) (attr : Attr) (text : Json)
    (rendering : Traced β) :
    (Config.codeHook c.code o attr text rendering).outcome = rendering.outcome := by
  obtain ⟨link, code, mode, limit⟩ := c
  rw [Config.isPlain, Bool.and_eq_true] at hc
  cases code with
  | standard => rfl
  | traced => exact Traced.outcome_bind _ _
  | replaced => cases hc.2
  | highlighted settings => cases hc.2

theorem Sanitize.outcome_clean (s : String) :
    (Sanitize.clean s).outcome = .ok (RawMode.sanitize.kept s) := by
  simp only [Sanitize.clean]
  split
  · exact Traced.outcome_bind _ _
  · rfl

theorem RawMode.outcome_applyTo (mode : RawMode) (s : String) :
    (mode.applyTo s).outcome = .ok (mode.kept s) := by
  cases mode with
  | sanitize => exact Sanitize.outcome_clean s
  | _ => rfl

theorem Config.outcome_rawHook (ho : o.Lawful) (mode : RawMode) (kind : RawKind)
    (name html : String) :
    (Config.rawHook mode o kind (.str name) (.str html)).outcome
      = o.build (rawOutline mode kind (.str name) (.str html)) := by
  have hdrop : (Hooks.dropRaw o kind (.str name)).outcome = o.build [] := by
    rw [Output.build_nil ho]
    rfl
  have hraw : ∀ kept : String, (o.raw (.str kept)).outcome = o.build [.raw (.str kept)] := by
    intro kept
    rw [Output.build_singleton ho, Output.piece]
  cases mode with
  | drop => exact hdrop
  | escape =>
    rw [rawOutline, Output.build_singleton ho]
    show _ = o.piece (.element _ _ [.text (.str html)])
    rw [Output.piece_element, Output.build_singleton ho]
    exact Traced.outcome_bind _ _
  | passThrough =>
    simp only [Config.rawHook, Config.htmlRaw, rawOutline]
    split
    · exact hraw _
    · exact hdrop
  | sanitize =>
    simp only [Config.rawHook, Config.htmlRaw, rawOutline]
    split
    · rw [Traced.outcome_bind, RawMode.outcome_applyTo]
      exact hraw _
    · exact hdrop

theorem Engine.outcome_diagnostic (ho : o.Lawful) (e : Engine β) (he : e.output = o)
    (wording : String) :
    (e.diagnostic wording).outcome = o.build [.diagnostic wording] := by
  rw [Output.build_singleton ho, OutlineNode.diagnostic, Output.piece_element,
    Output.build_singleton ho, ← he]
  exact Traced.outcome_bind _ _

theorem Engine.outcome_reference (ho : o.Lawful) (e : Engine β) (he : e.output = o)
    (number : Nat) : (e.reference number).outcome = o.build [.reference number] := by
  rw [Output.build_singleton ho, OutlineNode.reference, Output.piece_element,
    Output.build_singleton ho, Output.piece_element, Output.build_singleton ho, ← he,
    bind_assoc]
  simp only [Engine.reference, Traced.outcome_bind]
  rfl

theorem Engine.outcome_runAll (ho : o.Lawful) (e : Engine β) (he : e.output = o) (place : Place)
    (f : Plan → Outline) {ps : List Plan}
    (h : ∀ p ∈ ps, (e.run place p).outcome = o.build (f p)) :
    (e.runAll place ps >>= fun parts => pure (e.output.concat parts)).outcome
      = o.build (ps.flatMap f) := by
  induction ps with
  | nil =>
    rw [List.flatMap_nil, Output.build_nil ho, Engine.runAll, ← ho.concat_nil, ← he]
    rfl
  | cons p rest ih =>
    rw [List.forall_mem_cons] at h
    have ih := ih h.2
    rw [Traced.outcome_bind] at ih
    rw [List.flatMap_cons, Output.build_append ho, ← h.1, ← ih, Engine.runAll]
    simp only [Traced.outcome_bind, bind_assoc, Traced.pure_outcome, he]
    congr 1
    funext a
    cases (e.runAll place rest).outcome with
    | error f => rfl
    | ok parts => exact congrArg Except.ok (ho.concat_cons a parts)

theorem Engine.outcome_run_element (ho : o.Lawful) {place : Place} {p : Plan} (mode : RawMode)
    (limit : Option Limit) (tag : String) (attrs : Option AttrMap)
    (h : ((c.engine o).run place p).outcome
      = o.build (p.outlined mode limit place.notes place.depth)) :
    ((c.engine o).run place (.element tag attrs p)).outcome
      = o.build ((Plan.element tag attrs p).outlined mode limit place.notes place.depth) := by
  rw [Plan.outlined, Output.build_singleton ho, Output.piece_element, ← h, Engine.run,
    Traced.outcome_bind]
  rfl

/-! Off a host every number can be written. -/

theorem Engine.run_written (c : Config) (o : Output β) (place : Place) (values : List Json)
    (p : Plan) : (c.engine o).run place (.written values p) = (c.engine o).run place p := by
  rw [Engine.run]
  exact if_pos (Json.areWritable_none values)

theorem Engine.tooDeep_eq (c : Config) (o : Output β) (l : Limit) :
    (c.engine o).tooDeep l
      = Traced.note (.tooDeep l.whole) >>= fun _ => (c.engine o).diagnostic l.wording := by
  have hgiven : l.given.isWritable (c.engine o).digits = true := Json.isWritable_none _
  rw [Engine.tooDeep]
  simp only [hgiven, if_true]
  rfl

theorem Engine.outcome_run_nested (ho : o.Lawful) {place : Place} {ps : List Plan}
    (h : ∀ p ∈ ps, ((c.engine o).run place.descend p).outcome
      = o.build (p.outlined c.raw c.limit place.notes (place.depth + 1))) :
    ((c.engine o).run place (.nested ps)).outcome
      = o.build ((Plan.nested ps).outlined c.raw c.limit place.notes place.depth) := by
  rw [Plan.outlined, Engine.run]
  show Traced.outcome (match beyond c.limit (place.depth + 1) with
    | some limit => _
    | none => _) = _
  cases beyond c.limit (place.depth + 1) with
  | some l =>
    refine (congrArg Traced.outcome (Engine.tooDeep_eq c o l)).trans ?_
    refine (Traced.outcome_bind _ _).trans ?_
    exact Engine.outcome_diagnostic ho _ rfl l.wording
  | none =>
    rw [plansOutlined_eq_flatMap]
    exact Engine.outcome_runAll ho _ rfl place.descend _ h

/-- Carrying out a sound plan builds its outline. -/
theorem Engine.outcome_run (ho : o.Lawful) (hc : c.isPlain = true) {p : Plan} (hp : p.Sound)
    (place : Place) :
    ((c.engine o).run place p).outcome
      = o.build (p.outlined c.raw c.limit place.notes place.depth) := by
  induction hp generalizing place with
  | text s =>
    rw [Plan.outlined, Output.build_singleton ho, Output.piece]
    rfl
  | parts _ ih =>
    rw [Plan.outlined, plansOutlined_eq_flatMap, Engine.run]
    exact Engine.outcome_runAll ho _ rfl place _ fun p hp => ih p hp place
  | both _ _ ihp ihq =>
    rw [Plan.outlined, Output.build_append ho, ← ihp place, ← ihq place, Engine.run]
    simp only [Traced.outcome_bind]
    rfl
  | leaf _ _ =>
    rw [Plan.outlined, Output.build_singleton ho, Output.piece]
    rfl
  | element _ _ _ ih => exact Engine.outcome_run_element ho c.raw c.limit _ _ (ih place)
  | nested _ ih => exact Engine.outcome_run_nested ho fun p hp => ih p hp place.descend
  | written values _ ih => rw [Engine.run_written, Plan.outlined, ih place]
  | link _ ih =>
    rw [Plan.outlined, ← ih place, Engine.run]
    exact Config.outcome_linkHook hc _ _ _ _
  | code _ ih =>
    rw [Plan.outlined, ← ih place, Engine.run]
    exact Config.outcome_codeHook hc _ _ _
  | raw kind format content =>
    rw [Plan.outlined, Engine.run]
    exact Config.outcome_rawHook ho c.raw kind format content
  | @note body ps hbody _ ih =>
    have hkey : (FootnoteBody.ofBlocks body).isKey = true := hbody
    rw [Engine.run, Traced.outcome_bind, Traced.outcome_lift, Footnotes.lookup, if_pos hkey,
      Plan.outlined]
    show Traced.outcome (match place.notes.number? (FootnoteBody.ofBlocks body) with
      | some number => _
      | none => _) = _
    cases place.notes.number? (FootnoteBody.ofBlocks body) with
    | some number => exact Engine.outcome_reference ho _ rfl number
    | none =>
      -- without a number the body stands in place, one level deeper
      exact Engine.outcome_run_element ho c.raw c.limit _ _
        (Engine.outcome_run_nested ho fun p hp => ih p hp place.descend)
  | cite keys =>
    rw [Plan.outlined, Engine.run, Engine.citations, Engine.citationKeys, texts?_map_str]
    refine (Traced.outcome_bind _ _).trans ?_
    rw [Traced.outcome_lift]
    refine (Traced.outcome_bind _ _).trans ?_
    exact Engine.outcome_diagnostic ho _ rfl citeWording

/-! ### Renderings of documents -/

theorem Engine.outcome_renderItems (ho : o.Lawful) (hc : c.isPlain = true) {wanted : RawKind}
    {items : List Item} (h : ∀ p ∈ items.map (Item.plan wanted), p.Sound) (place : Place) :
    ((c.engine o).renderItems wanted items place).outcome
      = o.build (plansOutlined c.raw c.limit place.notes place.depth
          (items.map (Item.plan wanted))) := by
  rw [plansOutlined_eq_flatMap]
  exact Engine.outcome_runAll ho _ rfl place _ fun p hp => Engine.outcome_run ho hc (h p hp) place

theorem Engine.outcome_renderBlocks (ho : o.Lawful) (hc : c.isPlain = true) {blocks : List Block}
    (h : blocksTyped blocks = true) (place : Place) :
    ((c.engine o).renderBlocks blocks place).outcome
      = o.build (blocksOutlined c.raw c.limit place.notes place.depth blocks) := by
  have hitems : (blocks.map Block.item).map (Item.plan .block) = blocks.map Block.plan := by
    rw [List.map_map]
    rfl
  rw [blocksOutlined, ← hitems]
  exact Engine.outcome_renderItems ho hc (sound_items_of_blocksTyped h) place

theorem Engine.outcome_renderInlines (ho : o.Lawful) (hc : c.isPlain = true)
    {content : List Inline} (h : inlinesTyped content = true) (place : Place) :
    ((c.engine o).renderInlines content place).outcome
      = o.build (plansOutlined c.raw c.limit place.notes place.depth
          (content.map Inline.plan)) := by
  have hitems : (content.map Inline.item).map (Item.plan .inline) = content.map Inline.plan := by
    rw [List.map_map]
    rfl
  rw [← hitems]
  exact Engine.outcome_renderItems ho hc (sound_items_of_inlinesTyped h) place

theorem Engine.outcome_sectionEntry (ho : o.Lawful) (hc : c.isPlain = true) (number : Nat)
    {body : FootnoteBody} (h : ∀ p ∈ body.map (Item.plan .block), p.Sound) :
    ((c.engine o).sectionEntry number body).outcome
      = o.piece (.entry c.raw c.limit number body) := by
  have hbody : ((c.engine o).renderItems .block body Place.start).outcome
      = o.build (plansOutlined c.raw c.limit Footnotes.none 0 (body.map (Item.plan .block))) :=
    Engine.outcome_renderItems ho hc h Place.start
  have hbuild : ∀ inside : Outline,
      o.build (.leaf "a" (some (AttrMap.ofTexts [("name", footnoteAnchor number)]))
        :: (inside
          ++ [.element "a" (some (AttrMap.ofTexts [("href", "#" ++ referenceAnchor number)]))
            [.text (.str "↩︎")]]))
      = (do
          let anchor ← (o.element "a"
            (some (AttrMap.ofTexts [("name", footnoteAnchor number)])) none).outcome
          let content ← o.build inside
          let arrow ← (o.text (.str "↩︎")).outcome
          let back ← (o.element "a"
            (some (AttrMap.ofTexts [("href", "#" ++ referenceAnchor number)])) (some arrow)).outcome
          return o.concat [anchor, content, back]) := by
    intro inside
    rw [Output.build_cons ho, Output.build_append ho, Output.build_singleton ho,
      Output.piece_element, Output.build_singleton ho, Output.piece, Output.piece]
    simp only [bind_assoc, pure_bind, ho.concat_cons, ho.concat_nil, ho.combine_empty]
  rw [OutlineNode.entry, Output.piece_element, hbuild, ← hbody]
  simp only [Engine.sectionEntry, Traced.outcome_bind, bind_assoc, pure_bind]
  rfl

theorem Footnotes.mem_bodies_of_mem_entries {notes : Footnotes} {e : Nat × FootnoteBody}
    (h : e ∈ notes.entries) : e.2 ∈ notes.bodies := by
  rw [Footnotes.entries, List.mem_map] at h
  obtain ⟨p, hp, rfl⟩ := h
  exact List.fst_mem_of_mem_zipIdx hp

theorem Footnotes.sound_items {notes : Footnotes} (h : notes.Typed) :
    ∀ e ∈ notes.entries, ∀ p ∈ e.2.map (Item.plan .block), p.Sound := by
  intro e he
  obtain ⟨blocks, hblocks, ht⟩ := h e.2 (Footnotes.mem_bodies_of_mem_entries he)
  rw [hblocks]
  exact sound_items_of_blocksTyped ht

theorem Engine.outcome_sectionEntries (ho : o.Lawful) (hc : c.isPlain = true)
    {entries : List (Nat × FootnoteBody)}
    (h : ∀ e ∈ entries, ∀ p ∈ e.2.map (Item.plan .block), p.Sound) :
    (entries.mapM fun e => (c.engine o).sectionEntry e.1 e.2).outcome
      = o.pieces (entries.map fun e => .entry c.raw c.limit e.1 e.2) := by
  rw [Output.pieces_map]
  induction entries with
  | nil => rfl
  | cons e rest ih =>
    rw [List.forall_mem_cons] at h
    rw [List.mapM_cons, List.mapM_cons, ← ih h.2, ← Engine.outcome_sectionEntry ho hc e.1 h.1]
    simp only [Traced.outcome_bind, Traced.pure_outcome]
    rfl

theorem Engine.outcome_footnoteSection (ho : o.Lawful) (hc : c.isPlain = true)
    {notes : Footnotes} (h : notes.Typed) :
    ((c.engine o).footnoteSection notes).outcome = o.build (notes.outlined c.raw c.limit) := by
  have hentries := Engine.outcome_sectionEntries ho hc (Footnotes.sound_items h)
  rw [Engine.footnoteSection, Footnotes.outlined]
  split
  · exact (Output.build_nil ho).symm
  · rw [Output.build_singleton ho, Output.piece_element, Output.build_singleton ho, Output.piece,
      ← hentries]
    simp only [Traced.outcome_bind, bind_assoc]
    rfl

theorem Engine.outcome_renderNumbered (ho : o.Lawful) (hc : c.isPlain = true) {d : Document}
    (hd : d.isTyped = true) {notes : Footnotes} (h : notes.Typed) :
    ((c.engine o).renderNumbered d notes).outcome
      = o.build (d.outlined c.raw c.limit notes) := by
  rw [Document.outlined, Output.build_append ho, ← Engine.outcome_footnoteSection ho hc h]
  have hblocks := Engine.outcome_renderBlocks ho hc hd ⟨notes, 0⟩
  rw [← hblocks]
  simp only [Engine.renderNumbered, Traced.outcome_bind]
  rfl

theorem Engine.outcome_renderDocument (ho : o.Lawful) (hc : c.isPlain = true) {d : Document}
    (hd : d.isTyped = true) :
    ((c.engine o).renderDocument d).outcome
      = o.build (d.outlined c.raw c.limit d.numbering) := by
  rw [Engine.renderDocument, Traced.outcome_bind, Document.outcome_footnotes hd]
  exact Engine.outcome_renderNumbered ho hc hd (Document.typed_numbering hd)

end Engines

/-! ### Renderings as outlines -/

section Outlines

variable (mode : RawMode) (limit : Option Limit)

theorem Engine.outline_renderBlocks {blocks : List Block} (h : blocksTyped blocks = true)
    (place : Place) :
    (((Config.plain mode limit).engine outline).renderBlocks blocks place).outcome
      = .ok (blocksOutlined mode limit place.notes place.depth blocks) :=
  (Engine.outcome_renderBlocks outline_lawful rfl h place).trans (outline_build _)

theorem Engine.outline_renderInlines {content : List Inline} (h : inlinesTyped content = true)
    (place : Place) :
    (((Config.plain mode limit).engine outline).renderInlines content place).outcome
      = .ok (plansOutlined mode limit place.notes place.depth (content.map Inline.plan)) :=
  (Engine.outcome_renderInlines outline_lawful rfl h place).trans (outline_build _)

theorem Engine.outline_footnoteSection {notes : Footnotes} (h : notes.Typed) :
    (((Config.plain mode limit).engine outline).footnoteSection notes).outcome
      = .ok (notes.outlined mode limit) :=
  (Engine.outcome_footnoteSection outline_lawful rfl h).trans (outline_build _)

theorem Engine.outline_renderDocument {d : Document} (h : d.isTyped = true) :
    (((Config.plain mode limit).engine outline).renderDocument d).outcome
      = .ok (d.outlined mode limit d.numbering) :=
  (Engine.outcome_renderDocument outline_lawful rfl h).trans (outline_build _)

end Outlines

/-! ### Renderings and outlines -/

/-- A rendering has an outline, and is what building that outline gives. -/
def Output.BuiltFrom {β : Type} (o : Output β) (kept : Traced Outline) (rendering : Traced β) :
    Prop :=
  ∃ t : Outline, kept.outcome = .ok t ∧ rendering.outcome = o.build t

theorem Output.builtFrom_of_outcomes {β : Type} {o : Output β} {kept : Traced Outline}
    {rendering : Traced β} {t : Outline} (hkept : kept.outcome = outline.build t)
    (h : rendering.outcome = o.build t) : o.BuiltFrom kept rendering :=
  ⟨t, hkept.trans (outline_build t), h⟩

/-- Renderings to text, to trees and to counts are lawful, and for every lawful output, mode for
raw content and limit, rendering a well-typed document with collected or given footnotes, blocks
or inlines anywhere gives what building its outline piece by piece gives. -/
theorem rendering_builtFrom_outline :
    Html.stringOutput.Lawful ∧ Markup.treeOutput.Lawful ∧ elementCount.Lawful
    ∧ ∀ {β : Type} (o : Output β), o.Lawful → ∀ (mode : RawMode) (limit : Option Limit),
      (∀ d : Document, d.isTyped = true →
        o.BuiltFrom (((Config.plain mode limit).engine outline).renderDocument d)
          (((Config.plain mode limit).engine o).renderDocument d))
      ∧ (∀ (d : Document) (notes : Footnotes), d.isTyped = true → notes.Typed →
        o.BuiltFrom (((Config.plain mode limit).engine outline).renderNumbered d notes)
          (((Config.plain mode limit).engine o).renderNumbered d notes))
      ∧ (∀ (blocks : List Block) (place : Place), blocksTyped blocks = true →
        o.BuiltFrom (((Config.plain mode limit).engine outline).renderBlocks blocks place)
          (((Config.plain mode limit).engine o).renderBlocks blocks place))
      ∧ (∀ (content : List Inline) (place : Place), inlinesTyped content = true →
        o.BuiltFrom (((Config.plain mode limit).engine outline).renderInlines content place)
          (((Config.plain mode limit).engine o).renderInlines content place)) := by
  refine ⟨Html.stringOutput_lawful, Markup.treeOutput_lawful, elementCount_lawful, ?_⟩
  intro β o ho mode limit
  have hk := outline_lawful
  refine ⟨?_, ?_, ?_, ?_⟩
  · intro d hd
    exact Output.builtFrom_of_outcomes (Engine.outcome_renderDocument hk rfl hd)
      (Engine.outcome_renderDocument ho rfl hd)
  · intro d notes hd hn
    exact Output.builtFrom_of_outcomes (Engine.outcome_renderNumbered hk rfl hd hn)
      (Engine.outcome_renderNumbered ho rfl hd hn)
  · intro blocks place hb
    exact Output.builtFrom_of_outcomes (Engine.outcome_renderBlocks hk rfl hb place)
      (Engine.outcome_renderBlocks ho rfl hb place)
  · intro content place hi
    exact Output.builtFrom_of_outcomes (Engine.outcome_renderInlines hk rfl hi place)
      (Engine.outcome_renderInlines ho rfl hi place)

/-- The document of `nestedRepeat`, beyond a limit of two, as a number of elements. -/
theorem count_builtFrom_outline :
    elementCount.Lawful ∧ (Document.mk [] nestedRepeat).isTyped = true
    ∧ elementCount.BuiltFrom
      (((Config.plain .escape (some (Limit.ofNat 2))).engine outline).renderDocument
        ⟨[], nestedRepeat⟩)
      (((Config.plain .escape (some (Limit.ofNat 2))).engine elementCount).renderDocument
        ⟨[], nestedRepeat⟩) := by
  have hd : (Document.mk [] nestedRepeat).isTyped = true := by decide
  have h := rendering_builtFrom_outline.2.2.2 elementCount elementCount_lawful .escape
    (some (Limit.ofNat 2))
  exact ⟨elementCount_lawful, hd, h.1 _ hd⟩

end PandocHtml
