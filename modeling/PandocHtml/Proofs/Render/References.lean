import PandocHtml.Proofs.Render.Decisions

/-!
# References to footnotes

Two passes look at the footnotes of a document: collecting walks over all nodes, rendering visits
the displayed ones.  Every footnote that rendering reaches has been numbered, so it becomes a
reference to its number, never an aside, and the references stand in the order of the displayed
footnotes.
-/

namespace PandocHtml

/-! ### References and asides in an outline -/

namespace OutlineNode

def isReference : OutlineNode → Bool
  | .element tag (some m) _ =>
    tag == "sup" && match m.get? "class" with
      | some (.str name) => name == "footnote-ref"
      | _ => false
  | _ => false

/-- A footnote that stands in place. -/
def isAside : OutlineNode → Bool
  | .leaf tag _ | .element tag _ _ => tag == "aside"
  | _ => false

end OutlineNode

theorem quiet_isReference : Quiet OutlineNode.isReference where
  text _ := rfl
  leaf _ _ _ := rfl
  element tag attrs children htag := by
    cases attrs with
    | none => rfl
    | some m =>
      by_cases hsup : tag = "sup"
      · subst hsup
        cases htag
      · simp [OutlineNode.isReference, hsup]

theorem quiet_isAside : Quiet OutlineNode.isAside where
  text _ := rfl
  leaf tag attrs htag := by
    simp only [leafTags, List.mem_cons, List.not_mem_nil, or_false] at htag
    rcases htag with rfl | rfl | rfl | rfl <;> rfl
  element tag attrs children htag := by
    rw [isContent, Bool.and_eq_true, List.contains_iff_mem] at htag
    by_cases haside : tag = "aside"
    · subst haside
      exact absurd htag.1 (by decide)
    · simp [OutlineNode.isAside, haside]

/-- A predicate that is false of diagnostics and raw content. -/
structure Inert (q : OutlineNode → Bool) : Prop where
  diagnostic : ∀ wording, (OutlineNode.diagnostic wording).preorder.filter q = []
  raw : ∀ (mode : RawMode) (kind : RawKind) (format content : Json),
    (outlinePreorder (rawOutline mode kind format content)).filter q = []

/-- A predicate that is false of the fixed vocabulary of plans, of diagnostics and raw content. -/
structure Stern (q : OutlineNode → Bool) : Prop extends Quiet q, Inert q

theorem filter_rawOutline {q : OutlineNode → Bool} (hraw : ∀ content, q (.raw content) = false)
    (hshown : ∀ kind format content,
      (OutlineNode.shownRaw kind format content).preorder.filter q = [])
    (mode : RawMode) (kind : RawKind) (format content : Json) :
    (outlinePreorder (rawOutline mode kind format content)).filter q = [] := by
  unfold rawOutline
  split
  · rfl
  · rw [outlinePreorder_singleton]
    exact hshown kind format content
  · split
    · rw [outlinePreorder_singleton, OutlineNode.preorder, List.filter_cons_of_neg (by simp [hraw])]
      rfl
    · rfl
  · rfl

theorem stern_isReference : Stern OutlineNode.isReference where
  toQuiet := quiet_isReference
  diagnostic _ := rfl
  raw := filter_rawOutline (fun _ => rfl) fun kind _ _ => by cases kind <;> rfl

theorem stern_isAside : Stern OutlineNode.isAside where
  toQuiet := quiet_isAside
  diagnostic _ := rfl
  raw := filter_rawOutline (fun _ => rfl) fun kind _ _ => by cases kind <;> rfl

/-! ### What displayed nodes show -/

/-- A link, a code block, raw content, a footnote or a citation, or a node that writes a number. -/
def Node.isOpen : Node → Bool
  | .block (.codeBlock ..) | .block (.raw ..) | .block (.orderedList ..) | .inline (.link ..)
  | .inline (.raw ..) | .inline (.math ..) | .inline (.note _) | .inline (.cite ..) => true
  | _ => false

theorem Node.isOpen_plan {n : Node} (hn : n.isOpen = false) : n.plan.isOpen = false := by
  have hvalue : ∀ {α : Type} (r : Except Fault α) {f : α → Plan},
      (∀ a, (f a).isOpen = false) → (Plan.withValue r f).isOpen = false :=
    fun r _ h => Plan.withValue_const r (fun _ => rfl) h
  cases n with
  | block b =>
    cases b with
    | plain content => exact isOpen_taskOr content _ rfl
    | para content => exact isOpen_taskOr content _ rfl
    | header level attr content => exact hvalue _ fun tag => hvalue _ fun m => rfl
    | table attr caption colSpecs head bodies foot =>
      show (Block.plan _).isOpen = false
      rw [Block.plan]
      cases attr.toMap <;> rfl
    | figure attr caption blocks => exact hvalue _ fun m => rfl
    | div attr blocks => exact hvalue _ fun m => rfl
    | codeBlock attr text => cases hn
    | raw format text => cases hn
    | orderedList attributes items => cases hn
    | _ => rfl
  | inline i =>
    cases i with
    | code attr text => exact hvalue _ fun m => rfl
    | span attr content => exact hvalue _ fun m => rfl
    | image attr content target => exact hvalue _ fun description => hvalue _ fun m => rfl
    | link attr content target => cases hn
    | raw format text => cases hn
    | math kind text => cases hn
    | note blocks => cases hn
    | cite citations content => cases hn
    | _ => rfl

/-- Something in whose place the rendering shows something else: raw content, a footnote or a
citation. -/
def Plan.isReplaced : Plan → Bool
  | .raw .. | .note .. | .cite _ => true
  | _ => false

def Node.isReplaced : Node → Bool
  | .block (.raw ..) | .inline (.raw ..) | .inline (.note _) | .inline (.cite ..) => true
  | _ => false

theorem Node.isReplaced_plan (n : Node) : n.plan.isReplaced = n.isReplaced := by
  have hclosed : n.isOpen = false → n.plan.isReplaced = false := by
    intro hn
    have hplan := Node.isOpen_plan hn
    cases hp : n.plan with
    | raw kind format content => rw [hp] at hplan; cases hplan
    | note body aside => rw [hp] at hplan; cases hplan
    | cite keys => rw [hp] at hplan; cases hplan
    | _ => rfl
  cases n with
  | block b =>
    cases b with
    | codeBlock attr text => rfl
    | raw format text => rfl
    | orderedList attributes items => rfl
    | _ => exact hclosed rfl
  | inline i =>
    cases i with
    | link attr content target => exact Plan.withValue_const _ (fun _ => rfl) fun own => rfl
    | raw format text => rfl
    | math kind text => rfl
    | note blocks => rfl
    | cite citations content => rfl
    | _ => exact hclosed rfl

/-- A function of plans with one value for all that is not replaced has it for the other nodes. -/
theorem Node.plan_const {γ : Type} {g : Plan → γ} {z : γ}
    (h : ∀ p : Plan, p.isReplaced = false → g p = z) {n : Node} (hn : n.isReplaced = false) :
    g n.plan = z :=
  h n.plan (n.isReplaced_plan.trans hn)

def Plan.isNote : Plan → Bool
  | .note .. => true
  | _ => false

theorem Node.isNote_plan (n : Node) : n.plan.isNote = n.noteBody?.isSome := by
  have hother : n.isReplaced = false → n.plan.isNote = false :=
    Node.plan_const fun p hp => by
      cases p with
      | note body aside => cases hp
      | _ => rfl
  cases n with
  | block b =>
    cases b with
    | raw format text => rfl
    | _ => exact hother rfl
  | inline i =>
    cases i with
    | raw format text => rfl
    | note blocks => rfl
    | cite citations content => rfl
    | _ => exact hother rfl

section Notes

variable {q : OutlineNode → Bool} {mode : RawMode} {limit : Option Limit} {notes : Footnotes}
  {level : Nat}

theorem Inert.filter_shows (hq : Inert q) {p : Plan} (hp : p.isNote = false) :
    (p.shows mode limit notes level).filter q = [] := by
  cases p with
  | nested ps => exact filter_shows_of_isNested (fun l => hq.diagnostic l.wording) rfl
  | raw kind format content => exact hq.raw mode kind format content
  | cite keys => exact hq.diagnostic citeWording
  | note body aside => cases hp
  | _ => rfl

def Node.number? (notes : Footnotes) (n : Node) : Option Nat :=
  n.noteBody?.bind fun b => notes.number? (FootnoteBody.ofBlocks b)

theorem Inert.filter_shows_plan (hq : Inert q) {n : Node}
    (hn : ∀ b, n.noteBody? = some b →
      (notes.number? (FootnoteBody.ofBlocks b)).isNone = false) :
    (n.plan.shows mode limit notes level).filter q
      = (n.number? notes).toList.flatMap
          fun number => (OutlineNode.reference number).preorder.filter q := by
  cases hb : n.noteBody? with
  | none =>
    have hplan : n.plan.isNote = false := by rw [Node.isNote_plan, hb, Option.isSome_none]
    rw [hq.filter_shows hplan, Node.number?, hb]
    rfl
  | some b =>
    obtain ⟨number, hnumber⟩ := Option.isSome_iff_exists.mp
      (by rw [← Option.not_isNone, hn b hb]; rfl)
    obtain ⟨aside, hplan⟩ : ∃ aside, n.plan = .note b aside := by
      cases n with
      | block c => cases hb
      | inline i =>
        cases i with
        | note blocks =>
          cases hb
          exact ⟨_, rfl⟩
        | _ => cases hb
    have hself : n.number? notes = some number := by
      rw [Node.number?, hb, Option.bind_some, hnumber]
    rw [hplan, Plan.shows, hnumber, hself, Option.toList_some, List.flatMap_singleton]

/-- What a predicate picks from blocks, if it only looks for what footnotes show: pieces of the
references to the footnotes that are reached. -/
theorem Inert.filter_blocksOutlined (hq : Inert q) {blocks : List Block}
    (hshown : ∀ p ∈ blocks.map Block.plan, ShownBy q mode limit notes level p)
    (ht : blocksTyped blocks = true) (hnotes : notesDecided notes false (blocksPreorder blocks))
    (hlevel : (beyond limit level).isNone = true) :
    (outlinePreorder (blocksOutlined mode limit notes level blocks)).filter q
      = ((nodesDisplayed false level (blocks.map Node.block)).filter (reached limit)).flatMap
          fun x => (x.2.number? notes).toList.flatMap
            fun number => (OutlineNode.reference number).preorder.filter q := by
  rw [PandocHtml.filter_blocksOutlined (fun l => hq.diagnostic l.wording) hshown ht hnotes hlevel]
  apply List.flatMap_congr
  intro x hx
  have hwalk := (nodesDisplayed_sublist false level (blocks.map Node.block)).subset
    (List.mem_map_of_mem (List.mem_filter.mp hx).1)
  rw [walk_eq_nodesPreorder, ← blocksPreorder_eq] at hwalk
  exact hq.filter_shows_plan fun b hb => hnotes b (mem_noteBodies hwalk hb)

end Notes

/-! ### References of a document -/

section Documents

variable {d : Document}

theorem Document.notesDecided (h : d.isTyped = true) :
    PandocHtml.notesDecided d.numbering false (blocksPreorder d.blocks) := by
  intro b hb
  obtain ⟨k, hk, _⟩ := Document.exists_number h hb
  rw [hk]
  rfl

def numbersAmong (notes : Footnotes) (ns : List Node) : List Nat :=
  ns.filterMap (Node.number? notes)

theorem mem_numbersAmong (h : d.isTyped = true) {ns : List Node}
    (hns : ∀ n ∈ ns, n ∈ blocksPreorder d.blocks) {k : Nat}
    (hk : k ∈ numbersAmong d.numbering ns) : 1 ≤ k ∧ k ≤ d.numbering.size := by
  rw [numbersAmong, List.mem_filterMap] at hk
  obtain ⟨n, hn, hnk⟩ := hk
  rw [Node.number?, Option.bind_eq_some_iff] at hnk
  obtain ⟨b, hb, hbk⟩ := hnk
  obtain ⟨j, hj, _, hrange⟩ := Document.exists_number h (mem_noteBodies (hns n hn) hb)
  rw [hj] at hbk
  obtain rfl := Option.some.inj hbk
  exact hrange

theorem map_lookup_noteBodies (h : d.isTyped = true) {ns : List Node}
    (hns : ∀ n ∈ ns, n ∈ blocksPreorder d.blocks) :
    (noteBodies ns).map (fun b => d.numbering.lookup (FootnoteBody.ofBlocks b))
      = (numbersAmong d.numbering ns).map fun k => .ok (some k) := by
  induction ns with
  | nil => rfl
  | cons n rest ih =>
    rw [List.forall_mem_cons] at hns
    have ih := ih hns.2
    rw [numbersAmong, noteBodies] at ih ⊢
    cases hb : n.noteBody? with
    | none =>
      have hnumber : n.number? d.numbering = none := by
        rw [Node.number?, hb]
        rfl
      rw [List.filterMap_cons_none hb, List.filterMap_cons_none hnumber, ih]
    | some b =>
      obtain ⟨k, hk, hlookup, _⟩ := Document.exists_number h (mem_noteBodies hns.1 hb)
      have hnumber : n.number? d.numbering = some k := by
        rw [Node.number?, hb, Option.bind_some, hk]
      rw [List.filterMap_cons_some hb, List.filterMap_cons_some hnumber, List.map_cons,
        List.map_cons, ih, hlookup]

def Document.reachedNodes (limit : Option Limit) (d : Document) : List Node :=
  (d.displayed.filter (reached limit)).map (·.2)

theorem Document.reachedNodes_none (d : Document) :
    d.reachedNodes none = d.displayed.map (·.2) := by
  rw [Document.reachedNodes, filter_reached_none]

theorem Document.reachedNodes_sublist (limit : Option Limit) (d : Document) :
    (d.reachedNodes limit).Sublist (d.displayed.map (·.2)) :=
  (List.filter_sublist ..).map _

theorem Document.mem_of_mem_displayed {n : Node} (hn : n ∈ d.displayed.map (·.2)) :
    n ∈ blocksPreorder d.blocks := by
  have hwalk := (nodesDisplayed_sublist false 0 (d.blocks.map Node.block)).subset hn
  rw [walk_eq_nodesPreorder, ← blocksPreorder_eq] at hwalk
  exact hwalk

/-- What a predicate picks from the blocks of a document, if it only looks for what footnotes show:
pieces of the references to the numbers of the displayed footnotes that are reached. -/
theorem Inert.filter_numbered {q : OutlineNode → Bool} (hq : Inert q) (h : d.isTyped = true)
    {mode : RawMode} {limit : Option Limit}
    (hshown : ∀ p ∈ d.blocks.map Block.plan, ShownBy q mode limit d.numbering 0 p) :
    (outlinePreorder (blocksOutlined mode limit d.numbering 0 d.blocks)).filter q
      = (numbersAmong d.numbering (d.reachedNodes limit)).flatMap
          fun k => (OutlineNode.reference k).preorder.filter q := by
  rw [hq.filter_blocksOutlined hshown h (Document.notesDecided h) (isNone_beyond_zero limit),
    numbersAmong, List.filterMap_eq_flatMap_toList, Document.reachedNodes, List.flatMap_map,
    List.flatMap_assoc]
  rfl

theorem filter_isReference_blocksOutlined (h : d.isTyped = true) (mode : RawMode)
    (limit : Option Limit) :
    (outlinePreorder (blocksOutlined mode limit d.numbering 0 d.blocks)).filter
        OutlineNode.isReference
      = (numbersAmong d.numbering (d.reachedNodes limit)).map .reference := by
  rw [stern_isReference.toInert.filter_numbered h (shownBy_of_blocksTyped quiet_isReference h 0),
    List.map_eq_flatMap]
  rfl

theorem filter_isAside_blocksOutlined (h : d.isTyped = true) (mode : RawMode)
    (limit : Option Limit) :
    (outlinePreorder (blocksOutlined mode limit d.numbering 0 d.blocks)).filter
        OutlineNode.isAside = [] := by
  rw [stern_isAside.toInert.filter_numbered h (shownBy_of_blocksTyped quiet_isAside h 0),
    List.flatMap_eq_nil_iff]
  intro k _
  rfl

end Documents

/-- Rendering a well-typed document numbers its footnotes, renders its blocks and puts the section
behind them.  The blocks hold no aside at any depth.  Their references are, in order, those of the
displayed footnotes that are reached, each under the number that looking up its body gives; without
a limit these are all displayed footnotes. -/
theorem references_agree_with_numbering (d : Document) (h : d.isTyped = true) (mode : RawMode)
    (limit : Option Limit) :
    ∃ (notes : Footnotes) (main listed : Outline) (shown numbers : List Nat),
      d.footnotes.outcome = .ok notes
      ∧ (((Config.plain mode limit).engine outline).renderBlocks d.blocks ⟨notes, 0⟩).outcome
        = .ok main
      ∧ (((Config.plain mode limit).engine outline).footnoteSection notes).outcome = .ok listed
      ∧ (((Config.plain mode limit).engine outline).renderDocument d).outcome
        = .ok (main ++ listed)
      ∧ (∀ n ∈ outlinePreorder main, n.isAside = false)
      ∧ (outlinePreorder main).filter OutlineNode.isReference = numbers.map .reference
      ∧ (noteBodies (d.reachedNodes limit)).map
          (fun b => notes.lookup (FootnoteBody.ofBlocks b)) = numbers.map (fun k => .ok (some k))
      ∧ (noteBodies (d.displayed.map (·.2))).map
          (fun b => notes.lookup (FootnoteBody.ofBlocks b)) = shown.map (fun k => .ok (some k))
      ∧ (∀ k ∈ shown, 1 ≤ k ∧ k ≤ notes.size)
      ∧ numbers.Sublist shown
      ∧ (limit = none → numbers = shown)
      ∧ (d.displayed.map (·.2)).Sublist d.walk := by
  have hdisplayed : ∀ n ∈ d.displayed.map (·.2), n ∈ blocksPreorder d.blocks :=
    fun n hn => Document.mem_of_mem_displayed hn
  have hreached : ∀ n ∈ d.reachedNodes limit, n ∈ blocksPreorder d.blocks :=
    fun n hn => hdisplayed n ((d.reachedNodes_sublist limit).subset hn)
  have hmain : (((Config.plain mode limit).engine outline).renderBlocks d.blocks
      ⟨d.numbering, 0⟩).outcome = .ok (blocksOutlined mode limit d.numbering 0 d.blocks) :=
    (Engine.outcome_renderBlocks outline_lawful rfl h _).trans (outline_build _)
  have hlisted : (((Config.plain mode limit).engine outline).footnoteSection d.numbering).outcome
      = .ok (d.numbering.outlined mode limit) :=
    (Engine.outcome_footnoteSection outline_lawful rfl (Document.typed_numbering h)).trans
      (outline_build _)
  have hwhole : (((Config.plain mode limit).engine outline).renderDocument d).outcome
      = .ok (d.outlined mode limit d.numbering) :=
    (Engine.outcome_renderDocument outline_lawful rfl h).trans (outline_build _)
  have hsublist : (numbersAmong d.numbering (d.reachedNodes limit)).Sublist
      (numbersAmong d.numbering (d.displayed.map (·.2))) :=
    (d.reachedNodes_sublist limit).filterMap (Node.number? d.numbering)
  refine ⟨d.numbering, blocksOutlined mode limit d.numbering 0 d.blocks,
    d.numbering.outlined mode limit, numbersAmong d.numbering (d.displayed.map (·.2)),
    numbersAmong d.numbering (d.reachedNodes limit), Document.outcome_footnotes h, hmain, hlisted,
    hwhole, ?_, filter_isReference_blocksOutlined h mode limit, map_lookup_noteBodies h hreached,
    map_lookup_noteBodies h hdisplayed, fun k hk => mem_numbersAmong h hdisplayed hk,
    hsublist, ?_, nodesDisplayed_sublist false 0 _⟩
  · intro n hn
    have hnone := List.filter_eq_nil_iff.mp (filter_isAside_blocksOutlined h mode limit) n hn
    exact Bool.not_eq_true _ ▸ hnone
  · rintro rfl
    rw [d.reachedNodes_none]

theorem references_nestedRepeat :
    (Document.mk [] nestedRepeat).isTyped = true
    ∧ ∃ (main : Outline) (numbers : List Nat),
      (outlinePreorder main).filter OutlineNode.isReference = numbers.map .reference
      ∧ (((Config.plain .drop (some (Limit.ofNat 1))).engine outline).renderBlocks nestedRepeat
        ⟨(Document.mk [] nestedRepeat).numbering, 0⟩).outcome = .ok main := by
  have h : (Document.mk [] nestedRepeat).isTyped = true := by decide
  obtain ⟨notes, main, _, _, numbers, hnotes, hmain, _, _, _, hreferences, _⟩ :=
    references_agree_with_numbering _ h .drop (some (Limit.ofNat 1))
  rw [Document.outcome_footnotes h] at hnotes
  obtain rfl := Except.ok.inj hnotes
  exact ⟨h, main, numbers, hreferences, hmain⟩

end PandocHtml
