import PandocHtml.Proofs.Render.Reported
import PandocHtml.Proofs.Render.Section

/-!
# What decisions report

An output that reports nothing of its own leaves a rendering with the reports of the decisions
alone: a cut and a citation warn, raw content may be reported as left out, and a rule for links or
code blocks may record a call.  The reports of a rendering are thus those of its decisions, in
order, as the pieces of its outline are what they show.  Decisions about raw content, footnotes and
citations are about displayed nodes.
-/

namespace PandocHtml

/-- An output that reports nothing reports this of the attributes of every element. -/
def silent : Option AttrMap → List Event := fun _ => []

/-! ### Reports of single decisions -/

section Tells

variable (c : Config) (notes : Footnotes)

/-- What a decision reports by itself. -/
def Plan.tells (level : Nat) : Plan → List Event
  | .nested _ =>
    match beyond c.limit (level + 1) with
    | some l => [.notice (.tooDeep l.whole)]
    | none => []
  | .link url attrs inner _ => c.link.reported url attrs inner
  | .code attr content _ => c.code.reported attr content
  | .raw kind format content => rawReported c silent kind format content
  | .cite keys => citeReported silent keys
  | _ => []

theorem Plan.tells_of_not_isOpen {p : Plan} {level : Nat} (h : p.isOpen = false)
    (hn : p.isNested = false) : p.tells c level = [] := by
  cases p with
  | nested ps => cases hn
  | link _ _ _ _ => cases h
  | code _ _ _ => cases h
  | raw _ _ _ => cases h
  | cite _ => cases h
  | _ => rfl

mutual

/-- What a plan reports to a silent output is what its decisions report. -/
theorem Plan.reported_eq_tells : ∀ (p : Plan) (level : Nat),
    p.reported c silent notes level
      = (p.decisions c.limit notes level).flatMap fun x => x.2.tells c x.1
  | .text _, _ | .leaf .., _ | .fault _, _ => rfl
  | .parts ps, level => by
    rw [Plan.reported, Plan.decisions]
    exact plansReported_eq_tells ps level
  | .both p q, level => by
    rw [Plan.reported, Plan.decisions, List.flatMap_append, Plan.reported_eq_tells p level,
      Plan.reported_eq_tells q level]
  | .element _ _ children, level => by
    rw [Plan.reported, Plan.decisions, Plan.reported_eq_tells children level]
    exact List.append_nil _
  | .nested ps, level => by
    rw [Plan.reported, Plan.decisions]
    cases hb : beyond c.limit (level + 1) with
    | some l =>
      simp only [List.flatMap_singleton, Plan.tells, hb]
      rfl
    | none => exact plansReported_eq_tells ps (level + 1)
  | .written _ p, level => by
    rw [Plan.reported, Plan.decisions, List.flatMap_cons, Plan.reported_eq_tells p level]
    rfl
  | .link _ _ _ standard, level => by
    rw [Plan.reported, Plan.decisions, List.flatMap_cons, Plan.reported_eq_tells standard level]
    rfl
  | .code _ _ standard, level => by
    rw [Plan.reported, Plan.decisions, List.flatMap_cons, Plan.reported_eq_tells standard level]
    rfl
  | .raw .., level => by
    rw [Plan.reported, Plan.decisions, List.flatMap_singleton]
    rfl
  | .note body aside, level => by
    rw [Plan.reported, Plan.decisions, List.flatMap_cons]
    cases notes.number? (FootnoteBody.ofBlocks body) with
    | some number => rfl
    | none => exact Plan.reported_eq_tells aside level
  | .cite _, level => by
    rw [Plan.reported, Plan.decisions, List.flatMap_singleton]
    rfl

theorem plansReported_eq_tells : ∀ (ps : List Plan) (level : Nat),
    plansReported c silent notes level ps
      = (plansDecisions c.limit notes level ps).flatMap fun x => x.2.tells c x.1
  | [], _ => rfl
  | p :: rest, level => by
    rw [plansReported, plansDecisions, List.flatMap_append, Plan.reported_eq_tells p level,
      plansReported_eq_tells rest level]

end

end Tells

/-! ### Decisions of sound plans -/

theorem sound_plansDecisions {limit : Option Limit} {notes : Footnotes} {level : Nat}
    {ps : List Plan} (h : ∀ p ∈ ps, ∀ x ∈ p.decisions limit notes level, x.2.Sound) :
    ∀ x ∈ plansDecisions limit notes level ps, x.2.Sound := by
  rw [plansDecisions_eq_flatMap]
  intro x hx
  obtain ⟨p, hp, hxp⟩ := List.mem_flatMap.mp hx
  exact h p hp x hxp

/-- The decisions of a sound plan are about sound plans. -/
theorem Plan.Sound.decisions {limit : Option Limit} {notes : Footnotes} {p : Plan} (hp : p.Sound)
    (level : Nat) : ∀ x ∈ p.decisions limit notes level, x.2.Sound := by
  have hcut : ∀ {ps : List Plan} {level : Nat}, (∀ p ∈ ps, p.Sound) →
      (∀ p ∈ ps, ∀ x ∈ p.decisions limit notes (level + 1), x.2.Sound) →
      ∀ x ∈ (Plan.nested ps).decisions limit notes level, x.2.Sound := by
    intro ps level hps h
    rw [Plan.decisions]
    cases beyond limit (level + 1) with
    | some l =>
      rw [List.forall_mem_singleton]
      exact .nested hps
    | none => exact sound_plansDecisions h
  induction hp generalizing level with
  | text s => exact fun _ hx => absurd hx List.not_mem_nil
  | parts _ ih => exact sound_plansDecisions fun p hp => ih p hp level
  | both _ _ ihp ihq =>
    rw [Plan.decisions, List.forall_mem_append]
    exact ⟨ihp level, ihq level⟩
  | leaf _ _ => exact fun _ hx => absurd hx List.not_mem_nil
  | element _ _ _ ih => exact ih level
  | nested hps ih => exact hcut hps fun p hp => ih p hp (level + 1)
  | written values hp ih =>
    rw [Plan.decisions, List.forall_mem_cons]
    exact ⟨.written values hp, ih level⟩
  | link hs ih =>
    rw [Plan.decisions, List.forall_mem_cons]
    exact ⟨.link hs, ih level⟩
  | code hs ih =>
    rw [Plan.decisions, List.forall_mem_cons]
    exact ⟨.code hs, ih level⟩
  | raw kind format content =>
    rw [Plan.decisions, List.forall_mem_singleton]
    exact .raw kind format content
  | @note body ps hbody hps ih =>
    rw [Plan.decisions, List.forall_mem_cons]
    refine ⟨.note hbody hps, ?_⟩
    cases notes.number? (FootnoteBody.ofBlocks body) with
    | some number => exact fun _ hx => absurd hx List.not_mem_nil
    | none => exact hcut hps fun p hp => ih p hp (level + 1)
  | cite keys =>
    rw [Plan.decisions, List.forall_mem_singleton]
    exact .cite keys

/-! ### Reports of documents -/

section Documents

variable (c : Config)

def blocksReported (notes : Footnotes) (blocks : List Block) : List Event :=
  plansReported c silent notes 0 (blocks.map Block.plan)

theorem entryReported_ofBlocks (number : Nat) (b : List Block) :
    entryReported c silent number (FootnoteBody.ofBlocks b)
      = blocksReported c Footnotes.none b := by
  simp only [entryReported, FootnoteBody.plans_ofBlocks, silent, List.nil_append, List.append_nil]
  rfl

theorem reported_encountered (met : List (List Block)) :
    (encountered met).reported c silent
      = (firstBodies met).flatMap (blocksReported c Footnotes.none) := by
  rw [Footnotes.reported, isEmpty_encountered]
  by_cases hnil : firstBodies met = []
  · rw [hnil]
    rfl
  · rw [List.isEmpty_eq_false_iff.mpr hnil, entries_encountered, List.flatMap_map]
    conv_rhs => rw [← List.zipIdx_map_fst 0 (firstBodies met), List.flatMap_map]
    simp only [Bool.false_eq_true, ite_false, entryReported_ofBlocks, silent, List.append_nil]

/-- The bodies of the footnotes of a document, each once, in the order of their numbers. -/
def Document.numbered (d : Document) : List (List Block) :=
  firstBodies (noteBodies (blocksPreorder d.blocks))

theorem Document.bodies_numbering (d : Document) :
    d.numbering.bodies = d.numbered.map FootnoteBody.ofBlocks := rfl

theorem Document.blocksTyped_numbered {d : Document} (h : d.isTyped = true) :
    ∀ b ∈ d.numbered, blocksTyped b = true :=
  fun b hb => blocksTyped_of_mem_preorder h b (mem_of_mem_bodiesMet hb)

/-- The notices about footnotes, which come before a rendering. -/
def Notice.isAboutNotes : Notice → Bool
  | .repeatedNote _ | .collected _ => true
  | _ => false

theorem Document.events_footnotes {d : Document} (h : d.isTyped = true) :
    ∀ e ∈ d.footnotes.events, ∃ n : Notice, e = .notice n ∧ n.isAboutNotes = true := by
  rw [Document.footnotes, collect_eq d.blocks (isBodyKey_of_mem_preorder h),
    List.forall_mem_append, repeatNotices, List.forall_mem_map, List.forall_mem_singleton]
  exact ⟨fun b _ => ⟨_, rfl, rfl⟩, ⟨_, rfl, rfl⟩⟩

end Documents

/-- The events of some blocks that a function picks, if it picks no warnings about cuts, are told by
the displayed nodes that are reached. -/
theorem filterMap_blocksReported {γ : Type} {pick : Event → Option γ} {c : Config}
    {notes : Footnotes} (hcut : ∀ l : String, pick (.notice (.tooDeep l)) = none) {inPlace : Bool}
    {blocks : List Block} (ht : blocksTyped blocks = true)
    (hnotes : notesDecided notes inPlace (blocksPreorder blocks)) :
    (blocksReported c notes blocks).filterMap pick
      = ((nodesDisplayed inPlace 0 (blocks.map Node.block)).filter (reached c.limit)).flatMap
          fun x => (x.2.plan.tells c x.1).filterMap pick := by
  have hnested : ∀ x : Nat × Plan, x.2.isNested = true →
      (x.2.tells c x.1).filterMap pick = [] := by
    rintro ⟨level, p⟩ hp
    cases p with
    | nested ps =>
      rw [Plan.tells]
      cases beyond c.limit (level + 1) with
      | some l => exact List.filterMap_cons_none (hcut l.whole)
      | none => rfl
    | _ => cases hp
  rw [blocksReported, plansReported_eq_tells, List.filterMap_flatMap,
    flatMap_blocksDecisions hnested ht hnotes (isNone_beyond_zero c.limit)]
  apply List.flatMap_congr
  rintro ⟨level, n⟩ _
  rw [Plan.here]
  split
  · exact List.flatMap_singleton ..
  · next hopen =>
    rw [Bool.not_eq_true] at hopen
    cases hp : n.plan.isNested with
    | true => exact (hnested (level, n.plan) hp).symm
    | false =>
      rw [Plan.tells_of_not_isOpen c hopen hp]
      rfl

/-! ### Notices picked from reports -/

def Event.notice? : Event → Option Notice
  | .notice n => some n
  | _ => none

/-- The notices among some events that a test picks. -/
def noticesAmong (keep : Notice → Bool) (events : List Event) : List Notice :=
  events.filterMap fun e => e.notice?.filter keep

section Picked

variable {keep : Notice → Bool}

theorem noticesAmong_append (es fs : List Event) :
    noticesAmong keep (es ++ fs) = noticesAmong keep es ++ noticesAmong keep fs :=
  List.filterMap_append

theorem noticesAmong_flatMap {α : Type} (f : α → List Event) (xs : List α) :
    noticesAmong keep (xs.flatMap f) = xs.flatMap fun x => noticesAmong keep (f x) :=
  List.filterMap_flatMap

theorem Traced.filter_notices {α : Type} (x : Traced α) :
    x.notices.filter keep = noticesAmong keep x.events := by
  have hnotices : x.notices = x.events.filterMap Event.notice? := rfl
  rw [hnotices, List.filter_filterMap, noticesAmong]

theorem noticesAmong_events_footnotes {d : Document} (h : d.isTyped = true)
    (hkeep : ∀ n : Notice, n.isAboutNotes = true → keep n = false) :
    noticesAmong keep d.footnotes.events = [] := by
  rw [noticesAmong, List.filterMap_eq_nil_iff]
  intro e he
  obtain ⟨n, rfl, hn⟩ := Document.events_footnotes h e he
  rw [Event.notice?, Option.filter_some_neg (hkeep n hn)]

theorem noticesAmong_blocksReported {c : Config} {notes : Footnotes}
    (hcut : ∀ l : String, keep (.tooDeep l) = false) {inPlace : Bool} {blocks : List Block}
    (ht : blocksTyped blocks = true) (hnotes : notesDecided notes inPlace (blocksPreorder blocks)) :
    noticesAmong keep (blocksReported c notes blocks)
      = ((nodesDisplayed inPlace 0 (blocks.map Node.block)).filter (reached c.limit)).flatMap
          fun x => noticesAmong keep (x.2.plan.tells c x.1) :=
  filterMap_blocksReported (fun l => Option.filter_some_neg (hcut l)) ht hnotes

/-- The notices of a rendering that a test picks, if it picks none about footnotes: those of the
blocks of the document, then those of the numbered bodies in order. -/
theorem Engine.filter_notices_renderDocument {c : Config} (hc : c.isPlain = true) {d : Document}
    (h : d.isTyped = true) (hkeep : ∀ n : Notice, n.isAboutNotes = true → keep n = false) :
    ((c.engine outline).renderDocument d).notices.filter keep
      = noticesAmong keep (blocksReported c d.numbering d.blocks)
        ++ d.numbered.flatMap fun b => noticesAmong keep (blocksReported c Footnotes.none b) := by
  obtain ⟨t, ht⟩ := Engine.yields_renderDocument outline_reports hc h
  have hsection : d.numbering.reported c silent
      = d.numbered.flatMap (blocksReported c Footnotes.none) := reported_encountered c _
  rw [Traced.filter_notices, ht, noticesAmong_append, noticesAmong_events_footnotes h hkeep,
    List.nil_append, ← noticesAmong_flatMap, ← hsection, ← noticesAmong_append]
  rfl

end Picked

end PandocHtml
