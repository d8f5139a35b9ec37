import PandocHtml.Proofs.Render.DecisionReports
import PandocHtml.Proofs.Render.SoundOutline

/-!
# Raw content

Raw content reaches an output as one kind of piece, which is written as it is.  The modes that leave
raw content out or show it as text leave no such piece, at any depth.  Passing it through gives one
piece for each displayed node with content in an HTML format, with its text as it was, in the order
of the nodes; of any other raw content a report is all that is left.
-/

namespace PandocHtml

/-! ### Raw content of nodes -/

/-- Raw content, as a block or an inline holds it. -/
structure RawContent where
  kind : RawKind
  format : Json
  content : Json

namespace RawContent

def isHtml (r : RawContent) : Bool :=
  match r.format with
  | .str name => Config.htmlFormats.contains name.toLower
  | _ => false

def isForeign (r : RawContent) : Bool := !r.isHtml

/-- The report that it is left out. -/
def dropped (r : RawContent) : Notice := .droppedRaw r.kind r.format

/-- Its format and its content are texts. -/
def OfTexts (r : RawContent) : Prop :=
  ∃ format content : String, r.format = .str format ∧ r.content = .str content

end RawContent

def Node.raw? : Node → Option RawContent
  | .block (.raw format content) => some ⟨.block, format, content⟩
  | .inline (.raw format content) => some ⟨.inline, format, content⟩
  | _ => none

/-- The text of raw content in an HTML format. -/
def Node.html? (n : Node) : Option Json := (n.raw?.filter RawContent.isHtml).map RawContent.content

/-- The report about raw content in another format. -/
def Node.dropped? (n : Node) : Option Notice :=
  (n.raw?.filter RawContent.isForeign).map RawContent.dropped

/-- The displayed nodes of some blocks in pre-order. -/
def blocksDisplayed (inPlace : Bool) (blocks : List Block) : List Node :=
  (nodesDisplayed inPlace 0 (blocks.map Node.block)).map (·.2)

theorem isTyped_of_mem_blocksDisplayed {inPlace : Bool} {blocks : List Block}
    (ht : blocksTyped blocks = true) {n : Node} (hn : n ∈ blocksDisplayed inPlace blocks) :
    n.isTyped = true := by
  have hwalk := (nodesDisplayed_sublist inPlace 0 (blocks.map Node.block)).subset hn
  rw [walk_eq_nodesPreorder] at hwalk
  refine isTyped_of_mem_nodesPreorder ?_ hwalk
  rw [List.forall_mem_map]
  exact (blocksTyped_iff blocks).mp ht

theorem Node.plan_of_raw? {n : Node} {r : RawContent} (h : n.raw? = some r) :
    n.plan = .raw r.kind r.format r.content := by
  cases n with
  | block b =>
    cases b with
    | raw format content =>
      cases h
      rfl
    | _ => cases h
  | inline i =>
    cases i with
    | raw format content =>
      cases h
      rfl
    | _ => cases h

theorem Node.ofTexts_of_raw? {n : Node} (ht : n.isTyped = true) {r : RawContent}
    (h : n.raw? = some r) : r.OfTexts := by
  have hf := Node.hasTypedFields_of_isTyped ht
  have htexts : ∀ (kind : RawKind) {format content : Json},
      (format.isText && content.isText) = true → (RawContent.mk kind format content).OfTexts := by
    intro kind format content hboth
    rw [Bool.and_eq_true] at hboth
    obtain ⟨s, rfl⟩ := Json.eq_str_of_isText hboth.1
    obtain ⟨t, rfl⟩ := Json.eq_str_of_isText hboth.2
    exact ⟨s, t, rfl, rfl⟩
  cases n with
  | block b =>
    cases b with
    | raw format content =>
      cases h
      exact htexts .block hf
    | _ => cases h
  | inline i =>
    cases i with
    | raw format content =>
      cases h
      exact htexts .inline hf
    | _ => cases h

/-! ### Pieces of raw content -/

def OutlineNode.isRaw : OutlineNode → Bool
  | .raw _ => true
  | _ => false

/-- The pieces of raw content in an outline, in order. -/
def rawPieces (t : Outline) : List OutlineNode := (outlinePreorder t).filter OutlineNode.isRaw

theorem quiet_isRaw : Quiet OutlineNode.isRaw where
  text _ := rfl
  leaf _ _ _ := rfl
  element _ _ _ _ := rfl

theorem OutlineNode.Sound.isRaw {n : OutlineNode} (h : n.Sound false) : n.isRaw = false := by
  cases h with
  | raw hraws _ => cases hraws
  | _ => rfl

/-- Without a mode that keeps raw content there is none in the outline of a document. -/
theorem Document.rawPieces_outlined {d : Document} (h : d.isTyped = true) {mode : RawMode}
    (hmode : mode.keepsRaw = false) (limit : Option Limit) :
    rawPieces (d.outlined mode limit d.numbering) = [] := by
  have hsound := Document.sound_outlined h (Document.typed_numbering h) mode limit
  rw [hmode] at hsound
  have hpieces := sound_outlinePreorder fun c hc => (hsound c hc).preorder
  rw [rawPieces, List.filter_eq_nil_iff]
  intro n hn
  rw [(hpieces n hn).isRaw]
  exact Bool.false_ne_true

/-! ### What raw content shows and tells -/

namespace RawContent.OfTexts

variable {r : RawContent}

theorem rawOutline (h : r.OfTexts) :
    rawOutline .passThrough r.kind r.format r.content
      = if r.isHtml then [.raw r.content] else [] := by
  obtain ⟨kind, _, _⟩ := r
  obtain ⟨format, content, rfl, rfl⟩ := h
  rfl

theorem rawReported (h : r.OfTexts) :
    rawReported (.plain .passThrough none) silent r.kind r.format r.content
      = if r.isHtml then [] else [.notice r.dropped] := by
  obtain ⟨kind, _, _⟩ := r
  obtain ⟨format, content, rfl, rfl⟩ := h
  rfl

theorem rawHook (h : r.OfTexts) :
    Config.rawHook .passThrough outline r.kind r.format r.content
      = if r.isHtml then ⟨[], .ok [.raw r.content]⟩ else ⟨[.notice r.dropped], .ok []⟩ := by
  obtain ⟨kind, _, _⟩ := r
  obtain ⟨format, content, rfl, rfl⟩ := h
  rfl

end RawContent.OfTexts

def Plan.isRaw : Plan → Bool
  | .raw .. => true
  | _ => false

theorem Node.isRaw_plan (n : Node) : n.plan.isRaw = n.raw?.isSome := by
  have hother : n.isReplaced = false → n.plan.isRaw = false :=
    Node.plan_const fun p hp => by
      cases p with
      | raw kind format content => cases hp
      | _ => rfl
  cases n with
  | block b =>
    cases b with
    | raw format text => rfl
    | _ => exact hother rfl
  | inline i =>
    cases i with
    | raw format text => rfl
    | note blocks => rfl
    | cite citations content => rfl
    | _ => exact hother rfl

section Nodes

variable {n : Node} {limit : Option Limit} {notes : Footnotes} {level : Nat}

theorem Node.filter_isRaw_shows_of_none {mode : RawMode} (h : n.raw? = none) :
    (n.plan.shows mode limit notes level).filter OutlineNode.isRaw = [] := by
  cases hb : n.noteBody? with
  | some b =>
    rw [Node.plan_of_noteBody? hb, Plan.shows]
    cases notes.number? (FootnoteBody.ofBlocks b) <;> rfl
  | none =>
    have hraw : n.plan.isRaw = false := by rw [Node.isRaw_plan, h, Option.isSome_none]
    have hnote : n.plan.isNote = false := by rw [Node.isNote_plan, hb, Option.isSome_none]
    cases hp : n.plan with
    | nested ps => exact filter_shows_of_isNested (fun _ => rfl) rfl
    | cite keys => rfl
    | raw kind format content =>
      rw [hp] at hraw
      cases hraw
    | note body aside =>
      rw [hp] at hnote
      cases hnote
    | _ => rfl

/-- A displayed node leaves one piece if it is raw HTML, and else none. -/
theorem Node.filter_isRaw_shows (ht : n.isTyped = true) :
    (n.plan.shows .passThrough limit notes level).filter OutlineNode.isRaw
      = n.html?.toList.map .raw := by
  rw [Node.html?]
  cases hr : n.raw? with
  | none =>
    rw [Node.filter_isRaw_shows_of_none hr]
    rfl
  | some r =>
    rw [Node.plan_of_raw? hr, Plan.shows, (Node.ofTexts_of_raw? ht hr).rawOutline]
    cases hhtml : r.isHtml with
    | true =>
      rw [Option.filter_some_pos hhtml]
      rfl
    | false =>
      rw [Option.filter_some_neg hhtml]
      rfl

def Notice.isDroppedRaw : Notice → Bool
  | .droppedRaw .. => true
  | _ => false

theorem Plan.noticesAmong_tells_of_not_isRaw {p : Plan} (h : p.isRaw = false) :
    noticesAmong Notice.isDroppedRaw (p.tells (.plain .passThrough none) level) = [] := by
  cases p with
  | raw kind format content => cases h
  | cite keys =>
    rw [Plan.tells, citeReported]
    cases Engine.citationKeys keys <;> rfl
  | _ => rfl

/-- A displayed node is reported as left out if it is raw content in a format that is not HTML. -/
theorem Node.noticesAmong_tells (ht : n.isTyped = true) :
    noticesAmong Notice.isDroppedRaw (n.plan.tells (.plain .passThrough none) level)
      = n.dropped?.toList := by
  rw [Node.dropped?]
  cases hr : n.raw? with
  | none =>
    rw [Plan.noticesAmong_tells_of_not_isRaw (by rw [Node.isRaw_plan, hr, Option.isSome_none])]
    rfl
  | some r =>
    rw [Node.plan_of_raw? hr, Plan.tells, (Node.ofTexts_of_raw? ht hr).rawReported]
    cases hhtml : r.isHtml with
    | true =>
      have hforeign : r.isForeign = false := congrArg not hhtml
      rw [Option.filter_some_neg hforeign]
      rfl
    | false =>
      have hforeign : r.isForeign = true := congrArg not hhtml
      rw [Option.filter_some_pos hforeign]
      rfl

/-- Carried out by itself, raw HTML gives its text, and any other raw content only its report. -/
theorem Node.run_raw (ht : n.isTyped = true) {r : RawContent} (hr : n.raw? = some r)
    (place : Place) :
    ((Config.plain .passThrough limit).engine outline).run place n.plan
      = if r.isHtml then ⟨[], .ok [.raw r.content]⟩ else ⟨[.notice r.dropped], .ok []⟩ := by
  rw [Node.plan_of_raw? hr, Engine.run]
  exact (Node.ofTexts_of_raw? ht hr).rawHook

end Nodes

/-! ### Raw content of blocks -/

section Blocks

variable {notes : Footnotes} {inPlace : Bool} {blocks : List Block}

/-- The texts of the raw HTML among some nodes. -/
def htmlTexts (ns : List Node) : List Json := ns.filterMap Node.html?

/-- The reports about the other raw content among some nodes. -/
def droppedAmong (ns : List Node) : List Notice := ns.filterMap Node.dropped?

theorem rawPieces_blocksOutlined (ht : blocksTyped blocks = true)
    (hnotes : notesDecided notes inPlace (blocksPreorder blocks)) :
    rawPieces (blocksOutlined .passThrough none notes 0 blocks)
      = (htmlTexts (blocksDisplayed inPlace blocks)).map .raw := by
  rw [rawPieces, filter_blocksOutlined (fun _ => rfl) (shownBy_of_blocksTyped quiet_isRaw ht 0) ht
    hnotes rfl, filter_reached_none, htmlTexts, List.filterMap_eq_flatMap_toList, List.map_flatMap,
    blocksDisplayed, List.flatMap_map]
  apply List.flatMap_congr
  intro x hx
  exact Node.filter_isRaw_shows (isTyped_of_mem_blocksDisplayed ht (List.mem_map_of_mem hx))

theorem noticesAmong_isDroppedRaw_blocksReported (ht : blocksTyped blocks = true)
    (hnotes : notesDecided notes inPlace (blocksPreorder blocks)) :
    noticesAmong Notice.isDroppedRaw (blocksReported (.plain .passThrough none) notes blocks)
      = droppedAmong (blocksDisplayed inPlace blocks) := by
  rw [noticesAmong_blocksReported (fun _ => rfl) ht hnotes, Config.plain, filter_reached_none,
    droppedAmong, List.filterMap_eq_flatMap_toList, blocksDisplayed, List.flatMap_map]
  apply List.flatMap_congr
  intro x hx
  exact Node.noticesAmong_tells (isTyped_of_mem_blocksDisplayed ht (List.mem_map_of_mem hx))

end Blocks

/-! ### Raw content of documents -/

/-- Rendering to outlines without a limit, with raw HTML passed through. -/
def passing : Engine Outline := (Config.plain .passThrough none).engine outline

theorem rawPieces_numbering {d : Document} (h : d.isTyped = true) :
    rawPieces (d.numbering.outlined .passThrough none)
      = (htmlTexts (d.numbered.flatMap (blocksDisplayed true))).map .raw := by
  rw [rawPieces, Document.numbering, filter_outlined_encountered quiet_isRaw (fun _ => rfl),
    htmlTexts, List.filterMap_flatMap, List.map_flatMap]
  apply List.flatMap_congr
  intro b hb
  exact rawPieces_blocksOutlined (Document.blocksTyped_numbered h b hb) (notesDecided_none _)

theorem notices_passing {d : Document} (h : d.isTyped = true) :
    (passing.renderDocument d).notices.filter Notice.isDroppedRaw
      = droppedAmong
          (blocksDisplayed false d.blocks ++ d.numbered.flatMap (blocksDisplayed true)) := by
  have hkeep : ∀ n : Notice, n.isAboutNotes = true → n.isDroppedRaw = false := by
    intro n hn
    cases n with
    | droppedRaw kind format => cases hn
    | _ => rfl
  rw [passing, Engine.filter_notices_renderDocument rfl h hkeep,
    noticesAmong_isDroppedRaw_blocksReported h (Document.notesDecided h), droppedAmong,
    droppedAmong, List.filterMap_append, List.filterMap_flatMap]
  congr 1
  apply List.flatMap_congr
  intro b hb
  exact noticesAmong_isDroppedRaw_blocksReported (Document.blocksTyped_numbered h b hb)
    (notesDecided_none _)

/-- Raw content in the renderings of a well-typed document.  Left out or shown as text, it leaves no
piece of raw content, whatever the limit is.  Passed through, and without a limit, the raw pieces of
the blocks are the texts of the displayed raw HTML in pre-order, and those of the section are the
same for the bodies in the order of their numbers, with footnotes in place.  Every other displayed
raw content gives nothing but a report of the lowest level. -/
theorem raw_content_is_contained (d : Document) (h : d.isTyped = true) :
    (∀ (mode : RawMode) (limit : Option Limit), mode = .drop ∨ mode = .escape →
      ∃ t : Outline, (((Config.plain mode limit).engine outline).renderDocument d).outcome = .ok t
        ∧ rawPieces t = [])
    ∧ ∃ (notes : Footnotes) (main listed : Outline),
      d.footnotes.outcome = .ok notes
      ∧ notes.bodies = d.numbered.map FootnoteBody.ofBlocks
      ∧ (passing.renderBlocks d.blocks ⟨notes, 0⟩).outcome = .ok main
      ∧ (passing.footnoteSection notes).outcome = .ok listed
      ∧ (passing.renderDocument d).outcome = .ok (main ++ listed)
      ∧ rawPieces main = (htmlTexts (blocksDisplayed false d.blocks)).map .raw
      ∧ rawPieces listed = (htmlTexts (d.numbered.flatMap (blocksDisplayed true))).map .raw
      ∧ (passing.renderDocument d).notices.filter Notice.isDroppedRaw
        = droppedAmong
          (blocksDisplayed false d.blocks ++ d.numbered.flatMap (blocksDisplayed true))
      ∧ ∀ n ∈ blocksDisplayed false d.blocks ++ d.numbered.flatMap (blocksDisplayed true),
        ∀ r : RawContent, n.raw? = some r → r.isForeign = true →
          r.dropped.level = .debug
          ∧ ∀ place : Place, passing.run place n.plan = ⟨[.notice r.dropped], .ok []⟩ := by
  refine ⟨?_, d.numbering, blocksOutlined .passThrough none d.numbering 0 d.blocks,
    d.numbering.outlined .passThrough none, Document.outcome_footnotes h, d.bodies_numbering,
    Engine.outline_renderBlocks _ _ h _, Engine.outline_footnoteSection _ _
      (Document.typed_numbering h), Engine.outline_renderDocument _ _ h,
    rawPieces_blocksOutlined h (Document.notesDecided h), rawPieces_numbering h,
    notices_passing h, ?_⟩
  · intro mode limit hmode
    refine ⟨_, Engine.outline_renderDocument mode limit h, Document.rawPieces_outlined h ?_ limit⟩
    rcases hmode with rfl | rfl <;> rfl
  · intro n hn r hr hforeign
    have ht : n.isTyped = true := by
      rw [List.mem_append, List.mem_flatMap] at hn
      rcases hn with hn | ⟨b, hb, hn⟩
      · exact isTyped_of_mem_blocksDisplayed h hn
      · exact isTyped_of_mem_blocksDisplayed (Document.blocksTyped_numbered h b hb) hn
    have hhtml : r.isHtml = false := by
      rw [RawContent.isForeign, Bool.not_eq_true'] at hforeign
      exact hforeign
    refine ⟨rfl, fun place => ?_⟩
    rw [passing, Node.run_raw ht hr, hhtml]
    rfl

def innerNote : List Block := [.plain [.raw (.str "html4") (.str "<u>")]]

def outerNote : List Block := [.plain [.raw (.str "html") (.str "<i>"), .note innerNote]]

/-- Raw content in HTML and in another format, and HTML in a footnote inside a footnote. -/
def mixedRaw : Document :=
  ⟨[], [.para [.raw (.str "HTML5") (.str "<b>"), .raw (.str "latex") (.str "x"), .note outerNote]]⟩

theorem raw_content_mixedRaw :
    mixedRaw.isTyped = true
    ∧ ∃ main listed : Outline,
      (passing.renderDocument mixedRaw).outcome = .ok (main ++ listed)
      ∧ rawPieces main = [.raw (.str "<b>")]
      ∧ rawPieces listed = [.raw (.str "<i>"), .raw (.str "<u>"), .raw (.str "<u>")]
      ∧ (passing.renderDocument mixedRaw).notices.filter Notice.isDroppedRaw
        = [.droppedRaw .inline (.str "latex")] := by
  have h : mixedRaw.isTyped = true := by decide
  have hshown : blocksDisplayed false mixedRaw.blocks
      = mixedRaw.blocks.map Node.block ++ [.inline (.raw (.str "HTML5") (.str "<b>")),
        .inline (.raw (.str "latex") (.str "x")), .inline (.note outerNote)] := by
    simp [mixedRaw, blocksDisplayed, nodesDisplayed, Node.displayed_eq, Node.shown, Block.shown,
      Inline.shown]
  have hlisted : mixedRaw.numbered.flatMap (blocksDisplayed true)
      = outerNote.map Node.block
        ++ [.inline (.raw (.str "html") (.str "<i>")), .inline (.note innerNote),
          .block (.plain [.raw (.str "html4") (.str "<u>")]),
          .inline (.raw (.str "html4") (.str "<u>")),
          .block (.plain [.raw (.str "html4") (.str "<u>")]),
          .inline (.raw (.str "html4") (.str "<u>"))] := by
    have hnumbered : mixedRaw.numbered = [outerNote, innerNote] := rfl
    simp [hnumbered, outerNote, innerNote, blocksDisplayed, nodesDisplayed, Node.displayed_eq,
      Node.shown, Block.shown, Inline.shown]
  obtain ⟨_, notes, main, listed, _, _, _, _, hwhole, hmain, hsection, hnotices, _⟩ :=
    raw_content_is_contained mixedRaw h
  rw [hshown] at hmain hnotices
  rw [hlisted] at hsection hnotices
  refine ⟨h, main, listed, hwhole, hmain.trans ?_, hsection.trans ?_, hnotices.trans ?_⟩
  · with_unfolding_all rfl
  · with_unfolding_all rfl
  · with_unfolding_all rfl

end PandocHtml
