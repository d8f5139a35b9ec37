import PandocHtml.Proofs.Document.AttributeOrder
import PandocHtml.Proofs.Markup.Printed
import PandocHtml.Proofs.Render.RawContent

/-!
# Calls of the hooks

Hooks that record their calls and give the standard rendering are called once for each displayed
link and code block: first those of the blocks of a document, then those of the numbered bodies,
each time in pre-order, so that a link comes before the links inside it.  What a call is given can
be read off the node, and the rendering is the one without hooks.
-/

namespace PandocHtml

/-! ### Mappings over a first entry -/

namespace AttrMap

variable {m n : AttrMap}

/-- The entries of a mapping set over another. -/
def overlay (m n : AttrMap) : AttrMap := n.foldl (fun m p => m.set p.1 p.2) m

theorem names_overlay (hn : (n.map (·.1)).Nodup) :
    (m.overlay n).map (·.1)
      = m.map (·.1) ++ (n.map (·.1)).filter fun name => name ∉ m.map (·.1) := by
  induction n generalizing m with
  | nil => exact (List.append_nil _).symm
  | cons p rest ih =>
    rw [List.map_cons, List.nodup_cons] at hn
    have hrest : (m.overlay (p :: rest)).map (·.1)
        = (m.set p.1 p.2).map (·.1)
          ++ (rest.map (·.1)).filter fun name => name ∉ (m.set p.1 p.2).map (·.1) := ih hn.2
    by_cases hp : p.1 ∈ m.map (·.1)
    · rw [hrest, names_set, if_pos hp, List.map_cons, List.filter_cons_of_neg (by simp [hp])]
    · have hkept : (rest.map (·.1)).filter (fun name => name ∉ m.map (·.1) ++ [p.1])
          = (rest.map (·.1)).filter fun name => name ∉ m.map (·.1) := by
        apply List.filter_congr
        intro name hname
        have hne : name ≠ p.1 := by
          rintro rfl
          exact hn.1 hname
        simp [hne]
      rw [hrest, names_set, if_neg hp, hkept, List.map_cons, List.filter_cons_of_pos (by simp [hp]),
        List.append_assoc, List.singleton_append]

theorem get?_overlay (hn : (n.map (·.1)).Nodup) (name : String) :
    (m.overlay n).get? name = (n.get? name).or (m.get? name) := by
  induction n generalizing m with
  | nil => rfl
  | cons p rest ih =>
    obtain ⟨k, v⟩ := p
    rw [List.map_cons, List.nodup_cons] at hn
    have hrest : (m.overlay ((k, v) :: rest)).get? name
        = (AttrMap.get? rest name).or ((m.set k v).get? name) := ih hn.2
    have hset : (m.set k v).get? name = if k = name then some v else m.get? name :=
      Json.lookup_insertField m k name v
    rw [hrest, hset]
    by_cases hk : k = name
    · subst hk
      have hnone : AttrMap.get? rest k = none := by
        rw [← under_eq_nil_iff, under, List.filter_eq_nil_iff]
        intro q hq heq
        have hqk : q.1 = k := beq_iff_eq.mp heq
        have hmem : q.1 ∈ rest.map (·.1) := List.mem_map_of_mem hq
        exact hn.1 (hqk ▸ hmem)
      rw [hnone]
      simp [get?, Json.lookup]
    · simp [hk, get?, Json.lookup]

end AttrMap

theorem Attr.nodup_toMap {a : Attr} (h : a.isTyped = true) {m : AttrMap} (hm : a.toMap = .ok m) :
    (m.map (·.1)).Nodup := by
  rw [Attr.toMap_eq h, Except.ok.injEq] at hm
  rw [← hm]
  exact AttrMap.nodup_dropEmpty (AttrMap.nodup_setPairs a.nodup_start a.pairs)

/-! ### Recorded calls -/

def Event.call? : Event → Option Event
  | .notice _ => none
  | e => some e

/-- The calls of hooks among some events. -/
def callsAmong (events : List Event) : List Event := events.filterMap Event.call?

theorem callsAmong_append (es fs : List Event) :
    callsAmong (es ++ fs) = callsAmong es ++ callsAmong fs := List.filterMap_append

theorem callsAmong_flatMap {α : Type} (f : α → List Event) (xs : List α) :
    callsAmong (xs.flatMap f) = xs.flatMap fun x => callsAmong (f x) := List.filterMap_flatMap

theorem Traced.calls_eq {α : Type} (x : Traced α) : x.calls = callsAmong x.events := by
  rw [Traced.calls, callsAmong]
  induction x.events with
  | nil => rfl
  | cons e rest ih =>
    cases e with
    | notice n => exact ih
    | linkCall url attrs inner => exact congrArg _ ih
    | codeCall attr text => exact congrArg _ ih

/-- A lawful output that reports nothing but notices of its own. -/
structure Output.Discreet {β : Type} (o : Output β) : Prop where
  lawful : o.Lawful
  reports : ∃ heard : Option AttrMap → List Event, o.Reports heard
    ∧ ∀ attrs, callsAmong (heard attrs) = []

theorem outline_discreet : outline.Discreet := ⟨outline_lawful, _, outline_reports, fun _ => rfl⟩

theorem callsAmong_heard (attrs : Option AttrMap) : callsAmong (Html.heard attrs) = [] := by
  rw [callsAmong, List.filterMap_eq_nil_iff]
  intro e he
  obtain ⟨p, _, rfl⟩ := List.mem_map.mp he
  rfl

theorem stringOutput_discreet : Html.stringOutput.Discreet :=
  ⟨Html.stringOutput_lawful, _, stringOutput_reports, callsAmong_heard⟩

theorem treeOutput_discreet : Markup.treeOutput.Discreet :=
  ⟨Markup.treeOutput_lawful, _, treeOutput_reports, callsAmong_heard⟩

/-! ### Calls in plans -/

section Plans

variable {c : Config} {heard : Option AttrMap → List Event} {notes : Footnotes}

theorem callsAmong_applyTo (mode : RawMode) (s : String) :
    callsAmong (mode.applyTo s).events = [] := by
  cases mode with
  | sanitize =>
    show callsAmong (Sanitize.clean s).events = []
    simp only [Sanitize.clean]
    split <;> rfl
  | _ => rfl

theorem callsAmong_rawReported (hheard : ∀ attrs, callsAmong (heard attrs) = [])
    (kind : RawKind) (format content : Json) :
    callsAmong (rawReported c heard kind format content) = [] := by
  unfold rawReported
  split
  · rfl
  · exact hheard _
  · split
    · exact callsAmong_applyTo _ _
    · rfl
  · rfl

theorem callsAmong_citeReported (hheard : ∀ attrs, callsAmong (heard attrs) = [])
    (keys : List Json) : callsAmong (citeReported heard keys) = [] := by
  unfold citeReported
  split
  · exact hheard none
  · rfl

theorem callsAmong_referenceReported (hheard : ∀ attrs, callsAmong (heard attrs) = [])
    (number : Nat) :
    callsAmong (referenceReported heard number) = [] := by
  rw [referenceReported, callsAmong_append, hheard, hheard]
  rfl

mutual

/-- What an output hears of attributes is no call, so the calls are those of a silent one. -/
theorem Plan.callsAmong_reported (hheard : ∀ attrs, callsAmong (heard attrs) = []) :
    ∀ (p : Plan) (level : Nat),
    callsAmong (p.reported c heard notes level) = callsAmong (p.reported c silent notes level)
  | .text _, _ | .fault _, _ => rfl
  | .parts ps, level => by
    rw [Plan.reported, Plan.reported]
    exact callsAmong_plansReported hheard ps level
  | .both p q, level => by
    rw [Plan.reported, Plan.reported, callsAmong_append, callsAmong_append,
      Plan.callsAmong_reported hheard p level, Plan.callsAmong_reported hheard q level]
  | .leaf _ attrs, level => hheard attrs
  | .element _ attrs children, level => by
    rw [Plan.reported, Plan.reported, callsAmong_append, callsAmong_append, hheard,
      Plan.callsAmong_reported hheard children level]
    rfl
  | .nested ps, level => by
    rw [Plan.reported, Plan.reported]
    cases beyond c.limit (level + 1) with
    | some l => exact hheard none
    | none => exact callsAmong_plansReported hheard ps (level + 1)
  | .written _ p, level => by
    rw [Plan.reported, Plan.reported]
    exact Plan.callsAmong_reported hheard p level
  | .link _ _ _ standard, level => by
    rw [Plan.reported, Plan.reported, callsAmong_append, callsAmong_append,
      Plan.callsAmong_reported hheard standard level]
  | .code _ _ standard, level => by
    rw [Plan.reported, Plan.reported, callsAmong_append, callsAmong_append,
      Plan.callsAmong_reported hheard standard level]
  | .raw kind format content, level => by
    rw [Plan.reported, Plan.reported, callsAmong_rawReported hheard,
      callsAmong_rawReported fun _ => rfl]
  | .note body aside, level => by
    rw [Plan.reported, Plan.reported]
    cases notes.number? (FootnoteBody.ofBlocks body) with
    | some number => exact callsAmong_referenceReported hheard number
    | none => exact Plan.callsAmong_reported hheard aside level
  | .cite keys, level => by
    rw [Plan.reported, Plan.reported, callsAmong_citeReported hheard,
      callsAmong_citeReported fun _ => rfl]

theorem callsAmong_plansReported (hheard : ∀ attrs, callsAmong (heard attrs) = []) :
    ∀ (ps : List Plan) (level : Nat),
    callsAmong (plansReported c heard notes level ps)
      = callsAmong (plansReported c silent notes level ps)
  | [], _ => rfl
  | p :: rest, level => by
    rw [plansReported, plansReported, callsAmong_append, callsAmong_append,
      Plan.callsAmong_reported hheard p level, callsAmong_plansReported hheard rest level]

end

theorem callsAmong_entryReported (hheard : ∀ attrs, callsAmong (heard attrs) = [])
    (number : Nat) (body : FootnoteBody) :
    callsAmong (entryReported c heard number body)
      = callsAmong (entryReported c silent number body) := by
  simp only [entryReported, callsAmong_append, hheard, callsAmong_plansReported hheard]
  rfl

theorem Footnotes.callsAmong_reported (hheard : ∀ attrs, callsAmong (heard attrs) = [])
    (notes : Footnotes) :
    callsAmong (notes.reported c heard) = callsAmong (notes.reported c silent) := by
  rw [Footnotes.reported, Footnotes.reported]
  split
  · rfl
  · simp only [callsAmong_append, callsAmong_flatMap, hheard, callsAmong_entryReported hheard]
    rfl

end Plans

/-! ### Calls due to nodes -/

/-- A link or a code block. -/
def Node.isCalled : Node → Bool
  | .block (.codeBlock ..) | .inline (.link ..) => true
  | _ => false

/-- The title first, then the own entries of a link, of which one for the title wins. -/
structure TitledBy (title : Json) (own attrs : AttrMap) : Prop where
  names : attrs.map (·.1) = "title" :: (own.map (·.1)).filter (· ≠ "title")
  values : ∀ name,
    attrs.get? name = (own.get? name).or (if name = "title" then some title else none)

/-- The call that is due to a link or a code block.  A link has no inner content if its content is
the one text that is its address. -/
inductive CallOf : Node → Event → Prop where
  | link {attr : Attr} {content : List Inline} {target : Target} {own attrs : AttrMap}
      {inner : Option (List Inline)} (hown : attr.toMap = .ok own)
      (hattrs : TitledBy target.title own attrs)
      (hinner : content = [.str target.url] ∧ inner = none
        ∨ content ≠ [.str target.url] ∧ inner = some content) :
      CallOf (.inline (.link attr content target)) (.linkCall target.url attrs inner)
  | code (attr : Attr) (text : Json) :
      CallOf (.block (.codeBlock attr text)) (.codeCall attr text)

theorem titledBy_overlay (title : Json) {own : AttrMap} (hown : (own.map (·.1)).Nodup) :
    TitledBy title own (AttrMap.overlay [("title", title)] own) where
  names := by
    rw [AttrMap.names_overlay hown]
    simp
  values name := by
    rw [AttrMap.get?_overlay hown]
    congr 1
    by_cases hname : name = "title"
    · rw [hname, if_pos rfl]
      rfl
    · rw [if_neg hname]
      exact if_neg fun h => hname h.symm

theorem showsAddress_iff {content : List Inline} {url : Json} (hurl : url.isText = true)
    (h : ∀ i ∈ content, (Node.inline i).isTyped = true) :
    showsAddress content url = true ↔ content = [.str url] := by
  constructor
  · intro hshows
    unfold showsAddress at hshows
    split at hshows
    · next text =>
      have htext := Node.hasTypedFields_of_isTyped (h (.str text) (List.mem_cons_self ..))
      rw [Json.eq_of_same_text htext hurl hshows]
    · cases hshows
  · rintro rfl
    obtain ⟨s, rfl⟩ := Json.eq_str_of_isText hurl
    exact beq_self_eq_true s

/-- The hooks record their calls and give the standard renderings. -/
def Config.tracing (mode : RawMode) : Config := ⟨.traced, .traced, mode, none⟩

section Nodes

variable {mode : RawMode} {notes : Footnotes} {level : Nat}

theorem callsAmong_tells_of_not_called {n : Node} (hn : n.isCalled = false) :
    callsAmong (n.plan.tells (.tracing mode) level) = [] := by
  have hclosed : n.isOpen = false → callsAmong (n.plan.tells (.tracing mode) level) = [] := by
    intro hopen
    have hplan := Node.isOpen_plan hopen
    cases hp : n.plan.isNested with
    | false => rw [Plan.tells_of_not_isOpen _ hplan hp, callsAmong, List.filterMap_nil]
    | true =>
      -- without a limit no level is cut off
      cases hq : n.plan with
      | nested ps => rfl
      | _ => rw [hq] at hp; cases hp
  cases n with
  | block b =>
    cases b with
    | codeBlock attr text => cases hn
    | raw format text => exact callsAmong_rawReported (fun _ => rfl) .block format text
    | orderedList attributes items => rfl
    | _ => exact hclosed rfl
  | inline i =>
    cases i with
    | link attr content target => cases hn
    | raw format text => exact callsAmong_rawReported (fun _ => rfl) .inline format text
    | math kind text => rfl
    | note blocks => rfl
    | cite citations content => exact callsAmong_citeReported (fun _ => rfl) _
    | _ => exact hclosed rfl

theorem Node.callOf_tells {n : Node} (ht : n.isTyped = true) :
    List.Forall₂ CallOf ([n].filter Node.isCalled)
      (callsAmong (n.plan.tells (.tracing mode) level)) := by
  have hf := Node.hasTypedFields_of_isTyped ht
  have hother : n.isCalled = false → List.Forall₂ CallOf ([n].filter Node.isCalled)
      (callsAmong (n.plan.tells (.tracing mode) level)) := by
    intro hn
    rw [callsAmong_tells_of_not_called hn, List.filter_cons_of_neg (by simp [hn])]
    exact .nil
  cases n with
  | block b =>
    cases b with
    | codeBlock attr text => exact .cons (.code attr text) .nil
    | _ => exact hother rfl
  | inline i =>
    cases i with
    | link attr content target =>
      simp only [Node.hasTypedFields, Bool.and_eq_true] at hf
      obtain ⟨own, m, _, hown, _, hplan⟩ :=
        exists_linkPlan hf.1 hf.2 content (inlinePlans content)
      have hurl : target.url.isText = true := by
        have htarget := hf.2
        rw [Target.isTyped, Bool.and_eq_true] at htarget
        exact htarget.1
      have haddress := showsAddress_iff hurl fun i hi =>
        Node.isTyped_of_mem_children ht (List.mem_map_of_mem hi)
      have hattrs := titledBy_overlay target.title (Attr.nodup_toMap hf.1 hown)
      show List.Forall₂ CallOf [_] (callsAmong ((linkPlan attr content target
        (inlinePlans content)).tells _ level))
      rw [hplan]
      refine .cons (.link hown hattrs ?_) .nil
      by_cases hshows : showsAddress content target.url = true
      · exact .inl ⟨haddress.mp hshows, if_pos hshows⟩
      · exact .inr ⟨fun hcontent => hshows (haddress.mpr hcontent), if_neg hshows⟩
    | _ => exact hother rfl

theorem callOf_blocksReported {inPlace : Bool} {blocks : List Block}
    (ht : blocksTyped blocks = true) (hnotes : notesDecided notes inPlace (blocksPreorder blocks)) :
    List.Forall₂ CallOf ((blocksDisplayed inPlace blocks).filter Node.isCalled)
      (callsAmong (blocksReported (.tracing mode) notes blocks)) := by
  have hsplit : (blocksDisplayed inPlace blocks).filter Node.isCalled
      = (nodesDisplayed inPlace 0 (blocks.map Node.block)).flatMap
          fun x => [x.2].filter Node.isCalled := by
    rw [← List.flatMap_singleton' (blocksDisplayed inPlace blocks), List.filter_flatMap,
      blocksDisplayed, List.flatMap_map]
  rw [hsplit, callsAmong, filterMap_blocksReported (fun _ => rfl) ht hnotes, Config.tracing,
    filter_reached_none]
  apply forall₂_flatMap
  rw [List.forall₂_same]
  intro x hx
  exact Node.callOf_tells (isTyped_of_mem_blocksDisplayed ht (List.mem_map_of_mem hx))

end Nodes

/-! ### Calls of a document -/

theorem callsAmong_events_footnotes {d : Document} (h : d.isTyped = true) :
    callsAmong d.footnotes.events = [] := by
  rw [callsAmong, List.filterMap_eq_nil_iff]
  intro e he
  obtain ⟨n, rfl, _⟩ := Document.events_footnotes h e he
  rfl

theorem Document.callsAmong_reported {c : Config} {heard : Option AttrMap → List Event}
    (hheard : ∀ attrs, callsAmong (heard attrs) = []) (d : Document) :
    callsAmong (d.reported c heard d.numbering)
      = callsAmong (blocksReported c d.numbering d.blocks)
        ++ d.numbered.flatMap fun b => callsAmong (blocksReported c Footnotes.none b) := by
  have hsection : d.numbering.reported c silent
      = d.numbered.flatMap (blocksReported c Footnotes.none) := reported_encountered c _
  rw [Document.reported, callsAmong_append, callsAmong_plansReported hheard,
    Footnotes.callsAmong_reported hheard, hsection, callsAmong_flatMap]
  rfl

theorem Document.callOf_reported {d : Document} (h : d.isTyped = true) {mode : RawMode}
    {heard : Option AttrMap → List Event} (hheard : ∀ attrs, callsAmong (heard attrs) = []) :
    List.Forall₂ CallOf
      ((blocksDisplayed false d.blocks ++ d.numbered.flatMap (blocksDisplayed true)).filter
        Node.isCalled)
      (callsAmong (d.reported (.tracing mode) heard d.numbering)) := by
  have hmain : List.Forall₂ CallOf ((blocksDisplayed false d.blocks).filter Node.isCalled)
      (callsAmong (blocksReported (.tracing mode) d.numbering d.blocks)) :=
    callOf_blocksReported h (Document.notesDecided h)
  have hbodies : List.Forall₂ CallOf
      (d.numbered.flatMap fun b => (blocksDisplayed true b).filter Node.isCalled)
      (d.numbered.flatMap fun b => callsAmong
        (blocksReported (.tracing mode) Footnotes.none b)) := by
    apply forall₂_flatMap
    rw [List.forall₂_same]
    exact fun b hb => callOf_blocksReported (Document.blocksTyped_numbered h b hb)
      (notesDecided_none _)
  rw [List.filter_append, List.filter_flatMap, Document.callsAmong_reported hheard]
  exact List.rel_append hmain hbodies

/-- Outlines, texts and trees of markup are discreet.  With hooks that record their calls, rendering
a well-typed document without a limit to a discreet output gives what the standard hooks give, and
the calls are due, one to each and in order, to the displayed links and code blocks of the document
and then to those of each numbered footnote body, in which footnotes stand in place. -/
theorem hooks_called_once_per_displayed_node :
    outline.Discreet ∧ Html.stringOutput.Discreet ∧ Markup.treeOutput.Discreet
    ∧ ∀ {β : Type} (o : Output β), o.Discreet → ∀ (d : Document), d.isTyped = true →
      ∀ mode : RawMode, ∃ rendering : β,
        d.footnotes.outcome = .ok ⟨d.numbered.map FootnoteBody.ofBlocks⟩
        ∧ List.Forall₂ CallOf
          ((blocksDisplayed false d.blocks ++ d.numbered.flatMap (blocksDisplayed true)).filter
            Node.isCalled)
          (((Config.tracing mode).engine o).renderDocument d).calls
        ∧ (((Config.tracing mode).engine o).renderDocument d).outcome = .ok rendering
        ∧ (((Config.plain mode none).engine o).renderDocument d).outcome = .ok rendering := by
  refine ⟨outline_discreet, stringOutput_discreet, treeOutput_discreet, ?_⟩
  intro β o ho d h mode
  obtain ⟨heard, hreports, hheard⟩ := ho.reports
  have hplain : (Config.tracing mode).isPlain = true := rfl
  obtain ⟨rendering, hrun⟩ := Engine.yields_renderDocument hreports hplain h
  have houtcome : (((Config.tracing mode).engine o).renderDocument d).outcome = .ok rendering := by
    rw [hrun]
  have hsame : (((Config.plain mode none).engine o).renderDocument d).outcome
      = (((Config.tracing mode).engine o).renderDocument d).outcome :=
    (Engine.outcome_renderDocument ho.lawful rfl h).trans
      (Engine.outcome_renderDocument ho.lawful hplain h).symm
  have hcalls : (((Config.tracing mode).engine o).renderDocument d).calls
      = callsAmong (d.reported (.tracing mode) heard d.numbering) := by
    rw [Traced.calls_eq, hrun, callsAmong_append, callsAmong_events_footnotes h, List.nil_append]
  refine ⟨rendering, Document.outcome_footnotes h, ?_, houtcome, hsame.trans houtcome⟩
  rw [hcalls]
  exact Document.callOf_reported h hheard

def listing : Block := .codeBlock ⟨.str "", [.str "lean"], []⟩ (.str "example")

def autolink : Inline := .link Attr.none [.str (.str "u")] ⟨.str "u", .str ""⟩

/-- A link with a title of its own around the autolink. -/
def titledLink : Inline :=
  .link ⟨.str "", [], [("title", "own")]⟩ [.str (.str "a"), autolink] ⟨.str "v", .str "given"⟩

/-- Two links in a paragraph, a hidden link in a caption, a footnote with a listing, and a footnote
that holds the first one again. -/
def hookedDocument : Document :=
  ⟨[], [.para [titledLink, .note [listing], .note [.para [.note [listing], autolink]]],
    .figure Attr.none ⟨none, [.plain [autolink]]⟩ [listing]]⟩

/-- The listing of the first footnote is met in its own entry and inside the second. -/
theorem calls_hookedDocument :
    Html.stringOutput.Discreet ∧ hookedDocument.isTyped = true
    ∧ ∃ rendering : String,
      (((Config.plain .drop none).engine Html.stringOutput).renderDocument hookedDocument).outcome
        = .ok rendering
      ∧ List.Forall₂ CallOf
        [.inline titledLink, .inline autolink, .block listing, .block listing, .block listing,
          .inline autolink]
        (((Config.tracing .drop).engine Html.stringOutput).renderDocument
          hookedDocument).calls := by
  have h : hookedDocument.isTyped = true := by decide
  have hnumbered : hookedDocument.numbered
      = [[listing], [.para [.note [listing], autolink]]] := rfl
  have hcalled : (blocksDisplayed false hookedDocument.blocks
      ++ hookedDocument.numbered.flatMap (blocksDisplayed true)).filter Node.isCalled
      = [.inline titledLink, .inline autolink, .block listing, .block listing, .block listing,
          .inline autolink] := by
    rw [hnumbered]
    simp [hookedDocument, titledLink, autolink, listing, blocksDisplayed, nodesDisplayed,
      Node.displayed_eq, Node.shown, Block.shown, Inline.shown]
    rfl
  obtain ⟨rendering, _, hcalls, _, hrendered⟩ := hooks_called_once_per_displayed_node.2.2.2
    Html.stringOutput stringOutput_discreet hookedDocument h .drop
  rw [hcalled] at hcalls
  exact ⟨stringOutput_discreet, h, rendering, hrendered, hcalls⟩

end PandocHtml
