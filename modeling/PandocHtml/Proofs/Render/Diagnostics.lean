import PandocHtml.Proofs.Render.DecisionReports
import PandocHtml.Proofs.Render.PreformattedText

/-!
# Diagnostics and warnings

What a rendering cannot show it replaces by a diagnostic, and it warns of it.  The diagnostics of an
outline and the warnings of its rendering are put together in different ways; both are what the same
decisions show and report, in the same order, so each diagnostic has its warning and each warning
its diagnostic.  Nothing else looks like a diagnostic: preformatted text without attributes and with
a single text inside stands for no node.
-/

namespace PandocHtml

/-! ### Shortfalls -/

/-- What a rendering leaves to a diagnostic: a group of citations, or what lies beyond a limit. -/
inductive Shortfall where
  | citation (keys : String)
  | depth (l : Limit)

namespace Shortfall

def diagnostic : Shortfall → OutlineNode
  | .citation _ => .diagnostic citeWording
  | .depth l => .diagnostic l.wording

def warning : Shortfall → Notice
  | .citation keys => .citations keys
  | .depth l => .tooDeep l.whole

end Shortfall

/-- What a decision leaves to a diagnostic. -/
def Plan.shortfall? (limit : Option Limit) (level : Nat) : Plan → Option Shortfall
  | .nested _ => (beyond limit (level + 1)).map .depth
  | .cite keys => (Engine.citationKeys keys).toOption.map .citation
  | _ => none

/-- What blocks leave to diagnostics, in order. -/
def blocksShortfalls (limit : Option Limit) (notes : Footnotes) (blocks : List Block) :
    List Shortfall :=
  (plansDecisions limit notes 0 (blocks.map Block.plan)).filterMap fun x => x.2.shortfall? limit x.1

/-! ### What shortfalls show -/

section Decisions

variable {mode : RawMode} {limit : Option Limit} {notes : Footnotes} {level : Nat}

theorem exists_citationKeys (keys : List String) :
    ∃ named, Engine.citationKeys (keys.map Json.str) = .ok named := by
  rw [Engine.citationKeys, texts?_map_str]
  exact ⟨_, rfl⟩

theorem Plan.Sound.filter_isBare_shows {p : Plan} (hp : p.Sound) :
    (p.shows mode limit notes level).filter OutlineNode.isBare
      = (p.shortfall? limit level).toList.map Shortfall.diagnostic := by
  cases hp with
  | nested _ =>
    rw [Plan.shows, Plan.shortfall?]
    cases beyond limit (level + 1) <;> rfl
  | raw kind format content =>
    exact filter_rawOutline (fun _ => rfl) (fun kind _ _ => by cases kind <;> rfl) mode kind _ _
  | @note body ps _ _ =>
    rw [Plan.shows]
    cases notes.number? (FootnoteBody.ofBlocks body) <;> rfl
  | cite keys =>
    obtain ⟨named, hnamed⟩ := exists_citationKeys keys
    rw [Plan.shows, Plan.shortfall?, hnamed]
    rfl
  | _ => rfl

/-- A warning of the part of the program that renders nodes. -/
def Notice.isEngineWarning (n : Notice) : Bool :=
  n.level == .warning && n.source == "docrender.renderers.engine"

theorem noticesAmong_isEngineWarning_applyTo (mode : RawMode) (s : String) :
    noticesAmong Notice.isEngineWarning (mode.applyTo s).events = [] := by
  cases mode with
  | sanitize =>
    show noticesAmong _ (Sanitize.clean s).events = []
    simp only [Sanitize.clean]
    split <;> rfl
  | _ => rfl

theorem noticesAmong_isEngineWarning_rawReported (c : Config) (kind : RawKind)
    (format content : Json) :
    noticesAmong Notice.isEngineWarning (rawReported c silent kind format content) = [] := by
  unfold rawReported
  split
  · rfl
  · rfl
  · split
    · exact noticesAmong_isEngineWarning_applyTo _ _
    · rfl
  · rfl

theorem Plan.Sound.noticesAmong_tells {p : Plan} (hp : p.Sound) :
    noticesAmong Notice.isEngineWarning (p.tells (.plain mode limit) level)
      = (p.shortfall? limit level).toList.map Shortfall.warning := by
  cases hp with
  | nested _ =>
    rw [Plan.tells, Plan.shortfall?, Config.plain]
    cases beyond limit (level + 1) <;> rfl
  | raw kind format content => exact noticesAmong_isEngineWarning_rawReported _ kind _ _
  | cite keys =>
    obtain ⟨named, hnamed⟩ := exists_citationKeys keys
    rw [Plan.tells, citeReported, Plan.shortfall?, hnamed]
    rfl
  | _ => rfl

end Decisions

/-! ### Diagnostics and warnings of blocks -/

section Blocks

variable {mode : RawMode} {limit : Option Limit} {notes : Footnotes} {blocks : List Block}

theorem sound_blocksDecisions (ht : blocksTyped blocks = true) :
    ∀ x ∈ plansDecisions limit notes 0 (blocks.map Block.plan), x.2.Sound :=
  sound_plansDecisions fun p hp => (sound_plans_of_blocksTyped ht p hp).decisions 0

theorem filter_isBare_blocksOutlined (ht : blocksTyped blocks = true) :
    (outlinePreorder (blocksOutlined mode limit notes 0 blocks)).filter OutlineNode.isBare
      = (blocksShortfalls limit notes blocks).map Shortfall.diagnostic := by
  rw [blocksOutlined, shownBy_plans (shownBy_of_blocksTyped quiet_isBare ht 0), blocksShortfalls,
    List.filterMap_eq_flatMap_toList, List.map_flatMap]
  apply List.flatMap_congr
  intro x hx
  exact (sound_blocksDecisions ht x hx).filter_isBare_shows

theorem noticesAmong_isEngineWarning_blocksReported (ht : blocksTyped blocks = true) :
    noticesAmong Notice.isEngineWarning (blocksReported (.plain mode limit) notes blocks)
      = (blocksShortfalls limit notes blocks).map Shortfall.warning := by
  rw [blocksReported, plansReported_eq_tells, noticesAmong_flatMap, blocksShortfalls,
    List.filterMap_eq_flatMap_toList, List.map_flatMap]
  apply List.flatMap_congr
  intro x hx
  exact (sound_blocksDecisions ht x hx).noticesAmong_tells

theorem mem_blocksShortfalls {l : Limit} (h : .depth l ∈ blocksShortfalls limit notes blocks) :
    limit = some l := by
  rw [blocksShortfalls, List.mem_filterMap] at h
  obtain ⟨⟨level, p⟩, _, hp⟩ := h
  cases p with
  | nested ps =>
    rw [Plan.shortfall?, Option.map_eq_some_iff] at hp
    obtain ⟨l', hl', heq⟩ := hp
    cases heq
    exact (Option.filter_eq_some_iff.mp hl').1
  | cite keys =>
    rw [Plan.shortfall?, Option.map_eq_some_iff] at hp
    obtain ⟨named, _, heq⟩ := hp
    cases heq
  | _ => cases hp

end Blocks

/-! ### Citations among the shortfalls -/

def Shortfall.keys? : Shortfall → Option String
  | .citation keys => some keys
  | .depth _ => none

def Plan.citedKeys? : Plan → Option String
  | .cite keys => (Engine.citationKeys keys).toOption
  | _ => none

/-- The keys of a group of citations. -/
def Node.citedKeys? : Node → Option String
  | .inline (.cite citations _) => (Engine.citationKeys (citations.map Citation.id)).toOption
  | _ => none

theorem Node.citedKeys?_plan (n : Node) : n.plan.citedKeys? = n.citedKeys? := by
  have hother : n.isReplaced = false → n.plan.citedKeys? = none :=
    Node.plan_const fun p hp => by
      cases p with
      | cite keys => cases hp
      | _ => rfl
  cases n with
  | block b =>
    cases b with
    | raw format text => rfl
    | _ => exact hother rfl
  | inline i =>
    cases i with
    | raw format text => rfl
    | note blocks => rfl
    | cite citations content => rfl
    | _ => exact hother rfl

theorem Plan.shortfall?_bind_keys? (limit : Option Limit) (level : Nat) (p : Plan) :
    (p.shortfall? limit level).bind Shortfall.keys? = p.citedKeys? := by
  cases p with
  | nested ps =>
    rw [Plan.shortfall?]
    cases beyond limit (level + 1) <;> rfl
  | cite keys =>
    rw [Plan.shortfall?, Plan.citedKeys?]
    cases (Engine.citationKeys keys).toOption <;> rfl
  | _ => rfl

theorem keys?_blocksShortfalls {limit : Option Limit} {notes : Footnotes} {inPlace : Bool}
    {blocks : List Block} (ht : blocksTyped blocks = true)
    (hnotes : notesDecided notes inPlace (blocksPreorder blocks)) :
    (blocksShortfalls limit notes blocks).filterMap Shortfall.keys?
      = (blocksReached limit inPlace blocks).filterMap Node.citedKeys? := by
  have hshut : ∀ p : Plan, p.isOpen = false → p.citedKeys?.toList = [] := by
    intro p hp
    cases p with
    | cite keys => cases hp
    | _ => rfl
  have hkeys : (fun x : Nat × Plan => (x.2.shortfall? limit x.1).bind Shortfall.keys?)
      = fun x => x.2.citedKeys? := by
    funext x
    exact Plan.shortfall?_bind_keys? limit x.1 x.2
  rw [blocksShortfalls, List.filterMap_filterMap, hkeys, List.filterMap_eq_flatMap_toList,
    flatMap_blocksReached hshut ht hnotes, List.filterMap_eq_flatMap_toList]
  simp only [Node.citedKeys?_plan]

/-! ### Diagnostics and warnings of documents -/

/-- What a rendering of a document leaves to diagnostics: what its blocks do, then what the numbered
bodies do in the section. -/
def Document.shortfalls (limit : Option Limit) (d : Document) : List Shortfall :=
  blocksShortfalls limit d.numbering d.blocks
    ++ d.numbered.flatMap (blocksShortfalls limit Footnotes.none)

section Documents

variable {d : Document}

theorem Document.filter_isBare_outlined (h : d.isTyped = true) (mode : RawMode)
    (limit : Option Limit) :
    (outlinePreorder (d.outlined mode limit d.numbering)).filter OutlineNode.isBare
      = (d.shortfalls limit).map Shortfall.diagnostic := by
  rw [Document.outlined, outlinePreorder_append, List.filter_append,
    filter_isBare_blocksOutlined h, Document.shortfalls, List.map_append, List.map_flatMap]
  congr 1
  rw [Document.numbering, filter_outlined_encountered quiet_isBare fun _ => rfl]
  apply List.flatMap_congr
  intro b hb
  exact filter_isBare_blocksOutlined (Document.blocksTyped_numbered h b hb)

theorem Document.filter_isEngineWarning_notices (h : d.isTyped = true) (mode : RawMode)
    (limit : Option Limit) :
    (((Config.plain mode limit).engine outline).renderDocument d).notices.filter
        Notice.isEngineWarning
      = (d.shortfalls limit).map Shortfall.warning := by
  have hkeep : ∀ n : Notice, n.isAboutNotes = true → n.isEngineWarning = false := by
    intro n hn
    cases n with
    | citations keys => cases hn
    | tooDeep l => cases hn
    | _ => rfl
  rw [Engine.filter_notices_renderDocument rfl h hkeep,
    noticesAmong_isEngineWarning_blocksReported h, Document.shortfalls, List.map_append,
    List.map_flatMap]
  congr 1
  apply List.flatMap_congr
  intro b hb
  exact noticesAmong_isEngineWarning_blocksReported (Document.blocksTyped_numbered h b hb)

theorem Document.eq_of_depth_mem_shortfalls {limit : Option Limit} {l : Limit}
    (h : .depth l ∈ d.shortfalls limit) : limit = some l := by
  rw [Document.shortfalls, List.mem_append, List.mem_flatMap] at h
  rcases h with h | ⟨b, _, h⟩
  · exact mem_blocksShortfalls h
  · exact mem_blocksShortfalls h

theorem Document.keys?_shortfalls (h : d.isTyped = true) (limit : Option Limit) :
    (d.shortfalls limit).filterMap Shortfall.keys?
      = (d.reachedNodes limit ++ d.numbered.flatMap (blocksReached limit true)).filterMap
          Node.citedKeys? := by
  rw [Document.shortfalls, List.filterMap_append, List.filterMap_append, List.filterMap_flatMap,
    List.filterMap_flatMap, keys?_blocksShortfalls h (Document.notesDecided h)]
  congr 1
  apply List.flatMap_congr
  intro b hb
  exact keys?_blocksShortfalls (Document.blocksTyped_numbered h b hb) (notesDecided_none _)

end Documents

/-- The diagnostics in the rendering of a well-typed document and the warnings of rendering it are
those of the same shortfalls in the same order; nothing else in the output looks like a diagnostic.
The shortfalls of citations are those of the displayed citations that are reached, first in the
blocks and then in the numbered bodies, and the others are of the limit. -/
theorem diagnostics_match_warnings (d : Document) (h : d.isTyped = true) (mode : RawMode)
    (limit : Option Limit) :
    ∃ (t : Outline) (shortfalls : List Shortfall),
      (((Config.plain mode limit).engine outline).renderDocument d).outcome = .ok t
      ∧ (outlinePreorder t).filter OutlineNode.isDiagnostic = shortfalls.map Shortfall.diagnostic
      ∧ (((Config.plain mode limit).engine outline).renderDocument d).notices.filter
          Notice.isEngineWarning = shortfalls.map Shortfall.warning
      ∧ shortfalls.filterMap Shortfall.keys?
        = (d.reachedNodes limit ++ d.numbered.flatMap (blocksReached limit true)).filterMap
            Node.citedKeys?
      ∧ ∀ l : Limit, .depth l ∈ shortfalls → limit = some l := by
  refine ⟨_, d.shortfalls limit, Engine.outline_renderDocument mode limit h, ?_,
    Document.filter_isEngineWarning_notices h mode limit, Document.keys?_shortfalls h limit,
    fun _ => Document.eq_of_depth_mem_shortfalls⟩
  rw [← Document.filter_isBare_outlined h mode limit]
  exact List.filter_congr fun n hn => d.unforged_outlined mode limit n hn

def citing (key : String) : Inline :=
  .cite [⟨.str key, [], [], .normal, .int 0, .int 0⟩] []

/-- Citations in a paragraph and in a footnote, a quotation inside a quotation, and a code block
that reads like a diagnostic. -/
def citingDocument : Document :=
  ⟨[], [.para [citing "a", .note [.plain [citing "b"]]],
    .codeBlock .none (.str ("error[docrender]: " ++ citeWording)),
    .blockQuote [.blockQuote [.para [.str (.str "x")]]]]⟩

theorem diagnostics_citingDocument :
    citingDocument.isTyped = true
    ∧ ∃ t : Outline,
      (((Config.plain .drop (some (Limit.ofNat 2))).engine outline).renderDocument
        citingDocument).outcome = .ok t
      ∧ ((outlinePreorder t).filter OutlineNode.isDiagnostic).length = 3
      ∧ (((Config.plain .drop (some (Limit.ofNat 2))).engine outline).renderDocument
          citingDocument).notices.filter Notice.isEngineWarning
        = [.citations "a", .tooDeep "2", .citations "b"] := by
  have h : citingDocument.isTyped = true := by decide
  have hwarnings : (((Config.plain .drop (some (Limit.ofNat 2))).engine outline).renderDocument
      citingDocument).notices.filter Notice.isEngineWarning
      = [.citations "a", .tooDeep "2", .citations "b"] := by with_unfolding_all rfl
  obtain ⟨t, shortfalls, ht, hdiagnostics, hshortfalls, _⟩ :=
    diagnostics_match_warnings citingDocument h .drop (some (Limit.ofNat 2))
  have hlength : shortfalls.length = 3 := by
    rw [← List.length_map, ← hshortfalls, hwarnings]
    rfl
  exact ⟨h, t, ht, by rw [hdiagnostics, List.length_map, hlength], hwarnings⟩

end PandocHtml
