import PandocHtml.Proofs.Render.BackLinks
import PandocHtml.Proofs.Render.PlanShape

/-!
# Anchors

Where the nodes of a document give no names of their own, the names in its rendering are the
anchors: one `fnref` for every displayed footnote that is reached, in order, under the number of its
body, and then one `fn` for every entry of the section.  So the anchors of the entries are
different, and those of the references are exactly if no two of these footnotes have equal bodies.
-/

namespace PandocHtml

/-! ### Anchor names -/

theorem footnoteAnchor_inj {j k : Nat} : footnoteAnchor j = footnoteAnchor k ↔ j = k := by
  rw [footnoteAnchor, footnoteAnchor, String.append_right_inj]
  exact ⟨eq_of_toString_eq, congrArg toString⟩

theorem referenceAnchor_inj {j k : Nat} : referenceAnchor j = referenceAnchor k ↔ j = k := by
  rw [referenceAnchor, referenceAnchor, String.append_right_inj]
  exact ⟨eq_of_toString_eq, congrArg toString⟩

/-- A number begins with a digit, so no footnote has the anchor of a reference. -/
theorem footnoteAnchor_ne_referenceAnchor (j k : Nat) : footnoteAnchor j ≠ referenceAnchor k := by
  intro h
  have hstart : referenceAnchor k = "fn" ++ ("ref" ++ toString k) := by
    rw [referenceAnchor, ← String.append_assoc]
    rfl
  rw [hstart, footnoteAnchor, String.append_right_inj] at h
  have hchars := congrArg String.toList h
  rw [Nat.toString_eq_ofList_toDigits, String.toList_ofList, String.toList_append] at hchars
  have hmem : 'r' ∈ Nat.toDigits 10 j := by
    rw [hchars]
    exact List.mem_cons_self ..
  have hdigit := Nat.isDigit_of_mem_toDigits (by omega) (by omega) hmem
  exact absurd hdigit (by decide)

/-! ### Names in an outline -/

namespace OutlineNode

def name? : OutlineNode → Option Json
  | .leaf _ (some m) | .element _ (some m) _ => m.get? "name"
  | _ => none

def isNamed (n : OutlineNode) : Bool := n.name?.isSome

end OutlineNode

/-- The names on the elements of an outline, at any depth, in order. -/
def writtenNames (t : Outline) : List Json := (outlinePreorder t).filterMap OutlineNode.name?

theorem writtenNames_append (s t : Outline) :
    writtenNames (s ++ t) = writtenNames s ++ writtenNames t := by
  rw [writtenNames, outlinePreorder_append, List.filterMap_append]
  rfl

theorem writtenNames_eq (t : Outline) :
    writtenNames t
      = ((outlinePreorder t).filter OutlineNode.isNamed).filterMap OutlineNode.name? := by
  rw [List.filterMap_filter, writtenNames]
  apply List.filterMap_congr
  intro n _
  rw [OutlineNode.isNamed]
  cases n.name? <;> rfl

theorem inert_isNamed : Inert OutlineNode.isNamed where
  diagnostic _ := rfl
  raw := filter_rawOutline (fun _ => rfl) fun kind _ _ => by cases kind <;> rfl

/-! ### Names in plans -/

theorem AttrMap.get?_of_within {m : AttrMap} {name : String} (hm : m.Within (· ≠ name)) :
    m.get? name = none := by
  rw [← AttrMap.under_eq_nil_iff, AttrMap.under, List.filter_eq_nil_iff]
  intro p hp heq
  exact hm p hp (beq_iff_eq.mp heq)

theorem Plan.Fits.clear_isNamed {p : Plan} {room : Nat} (hp : p.Fits (· ≠ "name") room) :
    p.Clear OutlineNode.isNamed := by
  have hnone : ∀ attrs : Option AttrMap, attrsWithin (· ≠ "name") attrs →
      attrs.bind (·.get? "name") = none := by
    intro attrs hattrs
    cases attrs with
    | none => rfl
    | some m => exact AttrMap.get?_of_within hattrs
  induction hp with
  | text room content => exact .text rfl
  | parts _ ih => exact .parts ih
  | both _ _ ihp ihq => exact .both ihp ihq
  | @leaf room tag attrs hattrs =>
    have hname := hnone attrs hattrs
    cases attrs with
    | none => exact .leaf rfl
    | some m => exact .leaf (congrArg Option.isSome hname)
  | @element room tag attrs p hattrs _ ih =>
    have hname := hnone attrs hattrs
    cases attrs with
    | none => exact .element (fun _ => rfl) ih
    | some m => exact .element (fun _ => congrArg Option.isSome hname) ih
  | nested _ ih => exact .nested ih
  | written values _ ih => exact .written values ih
  | fault room f => exact .fault f
  | link _ ih => exact .link ih
  | code _ ih => exact .code ih
  | raw room kind format content => exact .raw kind format content
  | note _ ih => exact .note ih
  | cite room keys => exact .cite keys

/-- No node of some blocks gives a name in its own attributes. -/
def Nameless (ns : List Node) : Prop :=
  ∀ attr ∈ ns.filterMap Node.shownAttr?, ∀ p ∈ attr.pairs, p.1 ≠ "name"

instance (ns : List Node) : Decidable (Nameless ns) :=
  inferInstanceAs (Decidable (∀ attr ∈ ns.filterMap Node.shownAttr?, ∀ p ∈ attr.pairs,
    p.1 ≠ "name"))

theorem Nameless.shownBy {blocks : List Block} (h : Nameless (blocksPreorder blocks))
    {mode : RawMode} {limit : Option Limit} {notes : Footnotes} (level : Nat) :
    ∀ p ∈ blocks.map Block.plan, ShownBy OutlineNode.isNamed mode limit notes level p := by
  have hfits : ∀ p ∈ blocks.map Block.plan, p.Fits (· ≠ "name") 4 := fits_plans (by decide) h
  exact fun p hp => (hfits p hp).clear_isNamed.shownBy level

/-! ### Names in renderings -/

section Documents

variable {d : Document} {mode : RawMode} {limit : Option Limit}

theorem writtenNames_blocksOutlined (ht : d.isTyped = true)
    (h : Nameless (blocksPreorder d.blocks)) :
    writtenNames (blocksOutlined mode limit d.numbering 0 d.blocks)
      = ((numbersAmong d.numbering (d.reachedNodes limit)).map referenceAnchor).map .str := by
  rw [writtenNames_eq, inert_isNamed.filter_numbered ht (h.shownBy 0), List.filterMap_flatMap,
    List.map_map, List.map_eq_flatMap]
  rfl

theorem writtenNames_body {blocks : List Block} (ht : blocksTyped blocks = true)
    (h : Nameless (blocksPreorder blocks)) :
    writtenNames (blocksOutlined mode limit Footnotes.none 0 blocks) = [] := by
  have hcount := inert_isNamed.length_filter_blocksOutlined mode limit 0 (fun _ => rfl)
    (h.shownBy 0) ht
  rw [writtenNames_eq, List.eq_nil_of_length_eq_zero hcount]
  rfl

theorem writtenNames_listed (number : Nat) (content : Outline) :
    (OutlineNode.listed number content).preorder.filterMap OutlineNode.name?
      = .str (footnoteAnchor number) :: writtenNames content := by
  have hback : writtenNames [.element "a"
      (some (AttrMap.ofTexts [("href", "#" ++ referenceAnchor number)]))
      [.text (.str "↩︎")]] = [] := rfl
  have hinside : writtenNames (content ++ [.element "a"
      (some (AttrMap.ofTexts [("href", "#" ++ referenceAnchor number)]))
      [.text (.str "↩︎")]]) = writtenNames content := by
    rw [writtenNames_append, hback, List.append_nil]
  exact congrArg _ hinside

theorem writtenNames_section (items : List OutlineNode) :
    writtenNames [.section items] = writtenNames items := by
  have hlist : writtenNames [.element "ol" none items] = writtenNames items := by
    rw [writtenNames, outlinePreorder_singleton, OutlineNode.preorder,
      List.filterMap_cons_none rfl]
    rfl
  rw [writtenNames, outlinePreorder_singleton, OutlineNode.section, OutlineNode.preorder,
    List.filterMap_cons_none rfl]
  exact hlist

theorem writtenNames_outlined_encountered {met : List (List Block)}
    (ht : ∀ b ∈ firstBodies met, blocksTyped b = true)
    (h : ∀ b ∈ firstBodies met, Nameless (blocksPreorder b)) :
    writtenNames ((encountered met).outlined mode limit)
      = ((List.range' 1 (firstBodies met).length).map footnoteAnchor).map .str := by
  by_cases hnil : firstBodies met = []
  · rw [Footnotes.outlined, isEmpty_encountered, hnil]
    rfl
  · have hitems : writtenNames ((firstBodies met).zipIdx.map fun p => OutlineNode.listed
        (p.2 + 1) (blocksOutlined mode limit Footnotes.none 0 p.1))
        = ((List.range' 1 (firstBodies met).length).map footnoteAnchor).map .str := by
      have hentry : ∀ p ∈ (firstBodies met).zipIdx, (OutlineNode.listed (p.2 + 1)
          (blocksOutlined mode limit Footnotes.none 0 p.1)).preorder.filterMap OutlineNode.name?
          = [.str (footnoteAnchor (1 + p.2))] := by
        intro p hp
        have hmem := List.fst_mem_of_mem_zipIdx hp
        rw [writtenNames_listed, writtenNames_body (ht p.1 hmem) (h p.1 hmem), Nat.add_comm]
      have hnumbers : ((firstBodies met).zipIdx.map Prod.snd).map (1 + ·)
          = List.range' 1 (firstBodies met).length := by
        rw [List.zipIdx_map_snd, List.map_add_range']
      rw [writtenNames, outlinePreorder_eq_flatMap, List.filterMap_flatMap, List.flatMap_map,
        List.flatMap_congr hentry, ← hnumbers, List.map_map, List.map_map, List.map_map,
        List.map_eq_flatMap]
      rfl
    rw [outlined_encountered mode limit hnil, writtenNames_section, hitems]

theorem numbersAmong_eq_filterMap (notes : Footnotes) (ns : List Node) :
    numbersAmong notes ns
      = (noteBodies ns).filterMap fun b => notes.number? (FootnoteBody.ofBlocks b) := by
  rw [numbersAmong, noteBodies, List.filterMap_filterMap]
  rfl

theorem nodup_numbersAmong_iff (ht : d.isTyped = true) {ns : List Node}
    (hns : ∀ n ∈ ns, n ∈ blocksPreorder d.blocks) :
    (numbersAmong d.numbering ns).Nodup
      ↔ (noteBodies ns).Pairwise fun b c => sameBody b c = false := by
  have hmet := isBodyKey_of_mem_preorder ht
  have hbodies : ∀ b ∈ noteBodies ns, b ∈ noteBodies (blocksPreorder d.blocks) := by
    intro b hb
    obtain ⟨n, hn, hnb⟩ := List.mem_filterMap.mp hb
    exact mem_noteBodies (hns n hn) hnb
  have hinj : Function.Injective fun k : Nat => (Except.ok (some k) : Except Fault (Option Nat)) :=
    fun j k hjk => Option.some.inj (Except.ok.inj hjk)
  rw [← List.nodup_map_iff hinj, ← map_lookup_noteBodies ht hns, List.Nodup, List.pairwise_map]
  apply List.Pairwise.iff_of_mem
  intro b c hb hc
  have hsame := encountered_lookup_eq_iff hmet (hbodies b hb) (hbodies c hc)
  rw [ne_eq, Document.numbering, hsame, Bool.not_eq_true]

def anchorNames (d : Document) (limit : Option Limit) : List String :=
  (numbersAmong d.numbering (d.reachedNodes limit)).map referenceAnchor
    ++ (List.range' 1 d.numbering.size).map footnoteAnchor

theorem writtenNames_document (ht : d.isTyped = true) (h : Nameless (blocksPreorder d.blocks)) :
    writtenNames (d.outlined mode limit d.numbering) = (anchorNames d limit).map .str := by
  have hfirst : ∀ b ∈ firstBodies (noteBodies (blocksPreorder d.blocks)),
      b ∈ noteBodies (blocksPreorder d.blocks) := fun _ hb => mem_of_mem_bodiesMet hb
  have htyped : ∀ b ∈ firstBodies (noteBodies (blocksPreorder d.blocks)), blocksTyped b = true :=
    fun b hb => blocksTyped_of_mem_preorder ht b (hfirst b hb)
  have hnames : ∀ b ∈ firstBodies (noteBodies (blocksPreorder d.blocks)),
      Nameless (blocksPreorder b) := by
    intro b hb
    have hsub := blocksPreorder_sublist_of_mem_noteBodies (hfirst b hb)
    exact fun attr ha => h attr ((hsub.filterMap _).subset ha)
  have hsection : writtenNames (d.numbering.outlined mode limit)
      = ((List.range' 1 d.numbering.size).map footnoteAnchor).map .str := by
    rw [Document.numbering, size_encountered]
    exact writtenNames_outlined_encountered htyped hnames
  rw [Document.outlined, writtenNames_append, writtenNames_blocksOutlined ht h, hsection,
    anchorNames, List.map_append]

theorem count_footnoteAnchor (numbers : List Nat) (size k : Nat) :
    (numbers.map referenceAnchor ++ (List.range' 1 size).map footnoteAnchor).count
        (footnoteAnchor k) = if 1 ≤ k ∧ k ≤ size then 1 else 0 := by
  have hother : footnoteAnchor k ∉ numbers.map referenceAnchor := by
    rw [List.mem_map]
    rintro ⟨j, _, hj⟩
    exact footnoteAnchor_ne_referenceAnchor k j hj.symm
  have hinj : Function.Injective footnoteAnchor := fun _ _ => footnoteAnchor_inj.mp
  have hrange : k ∈ List.range' 1 size ↔ 1 ≤ k ∧ k ≤ size := by
    rw [List.mem_range'_1]
    omega
  rw [List.count_append, List.count_eq_zero_of_not_mem hother, Nat.zero_add,
    List.count_map_of_injective _ _ hinj, (List.nodup_range' 1).count]
  simp only [hrange]

theorem count_referenceAnchor (numbers : List Nat) (size k : Nat) :
    (numbers.map referenceAnchor ++ (List.range' 1 size).map footnoteAnchor).count
        (referenceAnchor k) = numbers.count k := by
  have hother : referenceAnchor k ∉ (List.range' 1 size).map footnoteAnchor := by
    rw [List.mem_map]
    rintro ⟨j, _, hj⟩
    exact footnoteAnchor_ne_referenceAnchor j k hj
  have hinj : Function.Injective referenceAnchor := fun _ _ => referenceAnchor_inj.mp
  rw [List.count_append, List.count_eq_zero_of_not_mem hother, Nat.add_zero,
    List.count_map_of_injective _ _ hinj]

end Documents

/-! ### Anchors of a document -/

/-- Rendering a well-typed document, none of whose nodes gives a name in its own attributes, writes
these names: for each displayed footnote that is reached the anchor of a reference to the number
that looking up its body gives, and then the anchor of each entry of the section.  The anchors of
the entries stand on one element each, and no reference has one of them.  The anchor of the
references to a number stands on as many elements as there are such footnotes with that number, so
on at most one each exactly if no two of them have equal bodies. -/
theorem anchors_follow_references (d : Document) (h : d.isTyped = true)
    (hnames : Nameless d.walk) (mode : RawMode) (limit : Option Limit) :
    ∃ (notes : Footnotes) (t : Outline) (names : List String),
      d.footnotes.outcome = .ok notes
      ∧ (((Config.plain mode limit).engine outline).renderDocument d).outcome = .ok t
      ∧ writtenNames t = names.map .str
      ∧ (∀ k, names.count (footnoteAnchor k) = if 1 ≤ k ∧ k ≤ notes.size then 1 else 0)
      ∧ (∀ k, names.count (referenceAnchor k)
        = (noteBodies (d.reachedNodes limit)).countP fun b =>
            notes.number? (FootnoteBody.ofBlocks b) == some k)
      ∧ ((∀ k, names.count (referenceAnchor k) ≤ 1)
        ↔ (noteBodies (d.reachedNodes limit)).Pairwise fun b c => sameBody b c = false) := by
  rw [Document.walk_eq] at hnames
  have hwritten : writtenNames (d.outlined mode limit d.numbering)
      = (anchorNames d limit).map .str := writtenNames_document h hnames
  have hreached : ∀ n ∈ d.reachedNodes limit, n ∈ blocksPreorder d.blocks :=
    fun n hn => Document.mem_of_mem_reachedNodes hn
  have hreferences : ∀ k, (anchorNames d limit).count (referenceAnchor k)
      = (numbersAmong d.numbering (d.reachedNodes limit)).count k := fun k =>
    count_referenceAnchor _ _ k
  refine ⟨d.numbering, d.outlined mode limit d.numbering, anchorNames d limit,
    Document.outcome_footnotes h, Engine.outline_renderDocument mode limit h, hwritten,
    fun k => count_footnoteAnchor _ _ k, ?_, ?_⟩
  · intro k
    rw [hreferences, numbersAmong_eq_filterMap, List.count_filterMap]
  · rw [← nodup_numbersAmong_iff h hreached, List.nodup_iff_count_le_one]
    simp only [hreferences]

/-- Two footnotes with the same body. -/
def repeatedNote : Document :=
  ⟨[], [.para [.note [.plain [.str (.str "a")]], .note [.plain [.str (.str "a")]]]]⟩

theorem repeatedNote_nameless : Nameless repeatedNote.walk := by
  rw [Document.walk_eq]
  decide

/-- A limit of one leaves both references to the footnote of `repeatedNote`. -/
theorem anchors_repeatedNote :
    repeatedNote.isTyped = true ∧ Nameless repeatedNote.walk
    ∧ ∃ (t : Outline) (names : List String),
      (((Config.plain .drop (some (Limit.ofNat 1))).engine outline).renderDocument
        repeatedNote).outcome = .ok t
      ∧ writtenNames t = names.map .str
      ∧ names.count (footnoteAnchor 1) = 1 ∧ names.count (referenceAnchor 1) = 2 := by
  have h : repeatedNote.isTyped = true := by decide
  have hshown : noteBodies (repeatedNote.reachedNodes (some (Limit.ofNat 1)))
      = [[.plain [.str (.str "a")]], [.plain [.str (.str "a")]]] := by
    simp [repeatedNote, Document.reachedNodes, Document.displayed, nodesDisplayed,
      Node.displayed_eq, Node.shown, Block.shown, Inline.shown, reached, beyond, Limit.excludes,
      Limit.ofNat, noteBodies, Node.noteBody?, List.filterMap_cons]
  obtain ⟨notes, t, names, hnotes, hrendered, hwritten, hentries, hreferences, _⟩ :=
    anchors_follow_references repeatedNote h repeatedNote_nameless .drop (some (Limit.ofNat 1))
  rw [Document.outcome_footnotes h, Except.ok.injEq] at hnotes
  subst hnotes
  refine ⟨h, repeatedNote_nameless, t, names, hrendered, hwritten, (hentries 1).trans (by decide),
    (hreferences 1).trans ?_⟩
  rw [hshown]
  decide

/-- Both markers of the footnote carry the anchor that the link back leads to. -/
theorem repeatedNote_markers_share_anchor :
    repeatedNote.isTyped = true ∧ Nameless repeatedNote.walk
    ∧ ∃ t : Outline,
      (((Config.plain .drop none).engine outline).renderDocument repeatedNote).outcome = .ok t
      ∧ (outlinePreorder t).countP (OutlineNode.isAnchor "name" "fnref1") = 2
      ∧ (outlinePreorder t).any (OutlineNode.isAnchor "href" "#fnref1") = true := by
  have h : repeatedNote.isTyped = true := by decide
  have hrendered := Engine.outline_renderDocument .drop none h
  exact ⟨h, repeatedNote_nameless, _, hrendered, by decide, by decide⟩

end PandocHtml
