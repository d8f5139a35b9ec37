import Mathlib.Data.Set.Card
import PandocHtml.Footnote.Collect
import PandocHtml.Proofs.Document.Equality

/-!
# Footnotes by first encounter

The bodies of all footnotes of a tree, in the order of the walk, fall into those that equal no
earlier one and those that repeat an earlier one.  Collecting numbers the first kind from one on and
reports each of the second kind under its number; numbering the collected bodies once more
changes nothing.
-/

namespace PandocHtml

/-! ### Bodies in order -/

def Node.noteBody? : Node → Option (List Block)
  | .inline (.note blocks) => some blocks
  | _ => none

def noteBodies (ns : List Node) : List (List Block) := ns.filterMap Node.noteBody?

/-- The bodies that equal an earlier one, or those that equal none. -/
def bodiesMet (again : Bool) (met : List (List Block)) : List (List Block) :=
  (met.zipIdx.filter fun p => (met.take p.2).any (sameBody p.1) == again).map (·.1)

abbrev firstBodies : List (List Block) → List (List Block) := bodiesMet false

abbrev repeatedBodies : List (List Block) → List (List Block) := bodiesMet true

theorem bodiesMet_concat (again : Bool) (met : List (List Block)) (b : List Block) :
    bodiesMet again (met ++ [b])
      = bodiesMet again met ++ if met.any (sameBody b) == again then [b] else [] := by
  have hold : (met.zipIdx.filter fun p =>
        ((met ++ [b]).take p.2).any (sameBody p.1) == again)
      = met.zipIdx.filter fun p => (met.take p.2).any (sameBody p.1) == again := by
    apply List.filter_congr
    intro p hp
    obtain ⟨_, hlt, _⟩ := List.mem_zipIdx hp
    rw [List.take_append_of_le_length (by omega)]
  have hnew : ((met ++ [b]).take met.length) = met := List.take_left
  rw [bodiesMet, List.zipIdx_append, List.filter_append, List.map_append, hold]
  simp only [List.zipIdx_singleton, List.filter_cons, List.filter_nil, Nat.zero_add, hnew]
  rw [bodiesMet]
  split <;> rfl

theorem mem_of_mem_bodiesMet {again : Bool} {met : List (List Block)} {b : List Block}
    (h : b ∈ bodiesMet again met) : b ∈ met := by
  simp only [bodiesMet, List.mem_map, List.mem_filter] at h
  obtain ⟨p, ⟨hp, _⟩, rfl⟩ := h
  exact List.fst_mem_of_mem_zipIdx hp

theorem any_firstBodies {met : List (List Block)} (hmet : ∀ a ∈ met, isBodyKey a = true)
    {b : List Block} (hb : isBodyKey b = true) :
    (firstBodies met).any (sameBody b) = met.any (sameBody b) := by
  induction met using List.reverseRecOn with
  | nil => rfl
  | append_singleton met c ih =>
    rw [List.forall_mem_append, List.forall_mem_singleton] at hmet
    have ih := ih hmet.1
    rw [firstBodies, bodiesMet_concat, List.any_append, List.any_append, ih]
    cases hc : met.any (sameBody c) with
    | false => rfl
    | true =>
      -- c equals an earlier body, which b then equals too
      cases hbc : sameBody b c with
      | false => simp [hbc]
      | true =>
        obtain ⟨a, ha, hca⟩ := List.any_eq_true.mp hc
        have hba := sameBody_trans hb hmet.2 (hmet.1 a ha) hbc hca
        have hany : met.any (sameBody b) = true := List.any_eq_true.mpr ⟨a, ha, hba⟩
        simp [hany]

theorem firstBodies_pairwise (met : List (List Block)) :
    (firstBodies met).Pairwise fun a b => sameBody b a = false := by
  induction met using List.reverseRecOn with
  | nil => exact List.Pairwise.nil
  | append_singleton met c ih =>
    rw [firstBodies, bodiesMet_concat]
    cases hc : met.any (sameBody c) with
    | true => simpa using ih
    | false =>
      rw [List.pairwise_append]
      refine ⟨ih, List.pairwise_singleton .., ?_⟩
      intro a ha b hb
      obtain rfl := List.mem_singleton.mp hb
      have hm := mem_of_mem_bodiesMet ha
      simpa using List.any_eq_false.mp hc a hm

theorem firstBodies_eq_self {met : List (List Block)}
    (h : met.Pairwise fun a b => sameBody b a = false) : firstBodies met = met := by
  induction met using List.reverseRecOn with
  | nil => rfl
  | append_singleton met c ih =>
    rw [List.pairwise_append] at h
    have hnew : met.any (sameBody c) = false := by
      rw [List.any_eq_false]
      intro a ha
      rw [h.2.2 a ha c (List.mem_singleton_self c)]
      exact Bool.false_ne_true
    rw [firstBodies, bodiesMet_concat, hnew]
    exact congrArg (· ++ [c]) (ih h.1)

/-! ### Numbers -/

def encountered (met : List (List Block)) : Footnotes :=
  ⟨(firstBodies met).map FootnoteBody.ofBlocks⟩

theorem size_encountered (met : List (List Block)) :
    (encountered met).size = (firstBodies met).length := by
  rw [Footnotes.size, encountered, List.length_map]

theorem encountered_concat (met : List (List Block)) (b : List Block) :
    encountered (met ++ [b])
      = ⟨(encountered met).bodies
        ++ (if met.any (sameBody b) == false then [b] else []).map FootnoteBody.ofBlocks⟩ := by
  rw [encountered, firstBodies, bodiesMet_concat, List.map_append]
  rfl

theorem number?_encountered (met : List (List Block)) (b : List Block) :
    (encountered met).number? (FootnoteBody.ofBlocks b)
      = ((firstBodies met).findIdx? (sameBody b)).map (· + 1) := by
  rw [Footnotes.number?, encountered, List.findIdx?_map]
  rfl

theorem lookup_encountered (met : List (List Block)) {b : List Block} (hb : isBodyKey b = true) :
    (encountered met).lookup (FootnoteBody.ofBlocks b)
      = .ok (((firstBodies met).findIdx? (sameBody b)).map (· + 1)) := by
  have hkey : (FootnoteBody.ofBlocks b).isKey = true := hb
  rw [Footnotes.lookup, if_pos hkey, number?_encountered]

theorem isSome_findIdx?_firstBodies {met : List (List Block)}
    (hmet : ∀ a ∈ met, isBodyKey a = true) {b : List Block} (hb : isBodyKey b = true) :
    ((firstBodies met).findIdx? (sameBody b)).isSome = met.any (sameBody b) := by
  rw [List.findIdx?_isSome, any_firstBodies hmet hb]

theorem exists_findIdx?_firstBodies {met : List (List Block)}
    (hmet : ∀ a ∈ met, isBodyKey a = true) {b : List Block} (hb : b ∈ met) :
    ∃ i, (firstBodies met).findIdx? (sameBody b) = some i := by
  rw [← Option.isSome_iff_exists, isSome_findIdx?_firstBodies hmet (hmet b hb), List.any_eq_true]
  exact ⟨b, hb, sameBody_refl (hmet b hb)⟩

theorem findIdx?_firstBodies_eq_some_iff {met : List (List Block)}
    (hmet : ∀ a ∈ met, isBodyKey a = true) {b : List Block} (hb : isBodyKey b = true) (i : Nat) :
    (firstBodies met).findIdx? (sameBody b) = some i
      ↔ ∃ r, (firstBodies met)[i]? = some r ∧ sameBody b r = true := by
  rw [List.findIdx?_eq_some_iff_getElem]
  constructor
  · rintro ⟨hi, hr, _⟩
    exact ⟨_, List.getElem?_eq_getElem hi, hr⟩
  · rintro ⟨r, hr, hbr⟩
    obtain ⟨hi, rfl⟩ := List.getElem?_eq_some_iff.mp hr
    refine ⟨hi, hbr, ?_⟩
    intro j hj hbj
    -- otherwise two of the first bodies would equal each other, over b
    have hkey : ∀ (k : Nat) (hk : k < (firstBodies met).length),
        isBodyKey (firstBodies met)[k] = true :=
      fun k hk => hmet _ (mem_of_mem_bodiesMet (List.getElem_mem hk))
    have hij := List.pairwise_iff_getElem.mp (firstBodies_pairwise met) j i (by omega) hi hj
    have hib : sameBody (firstBodies met)[i] b = true := by
      rw [sameBody_comm (hkey i hi) hb]
      exact hbr
    have hsame := sameBody_trans (hkey i hi) hb (hkey j (by omega)) hib hbj
    rw [hsame] at hij
    cases hij

theorem findIdx?_firstBodies_append {met : List (List Block)}
    (hmet : ∀ a ∈ met, isBodyKey a = true) {b : List Block} (hb : isBodyKey b = true)
    (hany : met.any (sameBody b) = true) (c : List Block) :
    (firstBodies (met ++ [c])).findIdx? (sameBody b) = (firstBodies met).findIdx? (sameBody b) := by
  have hsome := isSome_findIdx?_firstBodies hmet hb
  rw [hany] at hsome
  rw [firstBodies, bodiesMet_concat, List.findIdx?_append, Option.or_of_isSome hsome]

/-! ### Collecting -/

def repeatNotice (met : List (List Block)) (b : List Block) : Event :=
  .notice (.repeatedNote (((encountered met).number? (FootnoteBody.ofBlocks b)).getD 0))

/-- What is reported while bodies are met: those that were met before. -/
def repeatNotices (met : List (List Block)) : List Event :=
  (repeatedBodies met).map (repeatNotice met)

theorem any_of_mem_repeatedBodies {met : List (List Block)} {b : List Block}
    (h : b ∈ repeatedBodies met) : met.any (sameBody b) = true := by
  simp only [bodiesMet, List.mem_map, List.mem_filter, beq_true] at h
  obtain ⟨p, ⟨_, hp⟩, rfl⟩ := h
  obtain ⟨a, ha, hsame⟩ := List.any_eq_true.mp hp
  exact List.any_eq_true.mpr ⟨a, List.mem_of_mem_take ha, hsame⟩

theorem meet_note {met : List (List Block)} (hmet : ∀ a ∈ met, isBodyKey a = true)
    {b : List Block} (hb : isBodyKey b = true) :
    (encountered met).meet (.inline (.note b))
      = ⟨if met.any (sameBody b) then [repeatNotice met b] else [],
        .ok (encountered (met ++ [b]))⟩ := by
  have hsome := isSome_findIdx?_firstBodies hmet hb
  have hlookup := lookup_encountered met hb
  have hnumber := number?_encountered met b
  have hnext := encountered_concat met b
  cases hf : (firstBodies met).findIdx? (sameBody b) with
  | none =>
    rw [hf, Option.isSome_none] at hsome
    rw [hf] at hlookup
    simp only [Footnotes.meet, hlookup, hnext, ← hsome]
    rfl
  | some i =>
    rw [hf, Option.isSome_some] at hsome
    rw [hf] at hlookup hnumber
    simp only [Footnotes.meet, hlookup, hnext, ← hsome, repeatNotice, hnumber]
    simp only [Bool.true_eq_false, beq_iff_eq, ite_false, ite_true, List.map_nil, List.append_nil]
    rfl

theorem meet_of_noteBody?_eq_none (n : Footnotes) {node : Node} (h : node.noteBody? = none) :
    n.meet node = ⟨[], .ok n⟩ := by
  cases node with
  | block b => rfl
  | inline i =>
    cases i with
    | note blocks => cases h
    | _ => rfl

theorem repeatNotices_concat {met : List (List Block)} (hmet : ∀ a ∈ met, isBodyKey a = true)
    {b : List Block} (hb : isBodyKey b = true) :
    repeatNotices (met ++ [b])
      = repeatNotices met ++ if met.any (sameBody b) then [repeatNotice met b] else [] := by
  have hkeep : ∀ c, isBodyKey c = true → met.any (sameBody c) = true →
      repeatNotice (met ++ [b]) c = repeatNotice met c := by
    intro c hc hany
    rw [repeatNotice, repeatNotice, number?_encountered, number?_encountered,
      findIdx?_firstBodies_append hmet hc hany]
  have hold : (repeatedBodies met).map (repeatNotice (met ++ [b])) = repeatNotices met := by
    apply List.map_congr_left
    intro c hc
    exact hkeep c (hmet c (mem_of_mem_bodiesMet hc)) (any_of_mem_repeatedBodies hc)
  rw [repeatNotices, repeatedBodies, bodiesMet_concat, List.map_append, hold]
  cases hany : met.any (sameBody b) with
  | false => rfl
  | true => simp only [beq_self_eq_true, ite_true, List.map_cons, List.map_nil, hkeep b hb hany]

/-- The run over nodes: the numbering is that of the bodies among them, by first encounter. -/
theorem foldlM_meet (ns : List Node) (h : ∀ b ∈ noteBodies ns, isBodyKey b = true) :
    ns.foldlM Footnotes.meet Footnotes.none
      = ⟨repeatNotices (noteBodies ns), .ok (encountered (noteBodies ns))⟩ := by
  -- from the end, as the numbering before the last node is that of the bodies before it
  induction ns using List.reverseRecOn with
  | nil => rfl
  | append_singleton ns node ih =>
    have hsplit : noteBodies (ns ++ [node]) = noteBodies ns ++ (node.noteBody?).toList := by
      rw [noteBodies, List.filterMap_append]
      cases hn : node.noteBody? <;> simp [noteBodies, hn]
    rw [hsplit, List.forall_mem_append] at h
    rw [List.foldlM_append, ih h.1, hsplit]
    simp only [List.foldlM_cons, List.foldlM_nil, bind_pure]
    cases hn : node.noteBody? with
    | none =>
      rw [Traced.ok_bind, meet_of_noteBody?_eq_none _ hn, Option.toList_none, List.append_nil,
        List.append_nil]
    | some b =>
      have hb := h.2 b (by rw [hn]; exact List.mem_singleton_self b)
      obtain rfl : node = .inline (.note b) := by
        cases node with
        | block c => cases hn
        | inline i =>
          cases i with
          | note blocks =>
            cases hn
            rfl
          | _ => cases hn
      rw [Traced.ok_bind, meet_note h.1 hb, Option.toList_some, repeatNotices_concat h.1 hb]

theorem foldlM_meetUnder (blocks : List Block) (n : Footnotes) :
    (blocks.map Block.item).foldlM Footnotes.meetUnder n
      = (blocksPreorder blocks).foldlM Footnotes.meet n := by
  induction blocks generalizing n with
  | nil => rfl
  | cons b rest ih =>
    have hunder : n.meetUnder b.item = b.preorder.foldlM Footnotes.meet n := by
      rw [Block.item, Footnotes.meetUnder, walk_eq_nodesPreorder, nodesPreorder,
        List.flatMap_singleton]
      rfl
    rw [List.map_cons, List.foldlM_cons, blocksPreorder, List.foldlM_append, hunder]
    exact bind_congr ih

theorem add_encountered {met : List (List Block)} (hmet : ∀ a ∈ met, isBodyKey a = true)
    {b : List Block} (hb : isBodyKey b = true) :
    (encountered met).add (FootnoteBody.ofBlocks b) = encountered (met ++ [b]) := by
  have hsome := isSome_findIdx?_firstBodies hmet hb
  rw [Footnotes.add, number?_encountered, Option.isSome_map, hsome, encountered_concat]
  cases met.any (sameBody b) with
  | false => rfl
  | true => exact congrArg Footnotes.mk (List.append_nil _).symm

/-- Numbering bodies one after another, equal ones once. -/
theorem ofBodies_ofBlocks {met : List (List Block)} (hmet : ∀ a ∈ met, isBodyKey a = true) :
    Footnotes.ofBodies (met.map FootnoteBody.ofBlocks) = .ok (encountered met) := by
  induction met using List.reverseRecOn with
  | nil => rfl
  | append_singleton met b ih =>
    rw [List.forall_mem_append, List.forall_mem_singleton] at hmet
    have hold := ih hmet.1
    rw [Footnotes.ofBodies] at hold ⊢
    rw [List.map_append, List.foldlM_append, hold]
    simp only [List.map_cons, List.map_nil, List.foldlM_cons, List.foldlM_nil, bind_pure]
    show ((encountered met).lookup (FootnoteBody.ofBlocks b)).map _ = _
    rw [lookup_encountered met hmet.2, ← add_encountered hmet.1 hmet.2]
    rfl

theorem ofBodies_encountered {met : List (List Block)} (hmet : ∀ a ∈ met, isBodyKey a = true) :
    Footnotes.ofBodies (encountered met).bodies = .ok (encountered met) := by
  have hkeys : ∀ a ∈ firstBodies met, isBodyKey a = true :=
    fun a ha => hmet a (mem_of_mem_bodiesMet ha)
  have hfirst := ofBodies_ofBlocks hkeys
  rw [encountered, firstBodies_eq_self (firstBodies_pairwise met)] at hfirst
  exact hfirst

theorem collect_eq (blocks : List Block)
    (h : ∀ b ∈ noteBodies (blocksPreorder blocks), isBodyKey b = true) :
    Footnotes.collect (blocks.map Block.item)
      = ⟨repeatNotices (noteBodies (blocksPreorder blocks))
          ++ [.notice (.collected (encountered (noteBodies (blocksPreorder blocks))).size)],
        .ok (encountered (noteBodies (blocksPreorder blocks)))⟩ := by
  rw [Footnotes.collect, foldlM_meetUnder, foldlM_meet _ h, Traced.ok_bind,
    ofBodies_encountered h]
  rfl

/-! ### The numbering of a tree -/

/-- The nodes of a footnote's body are nodes of the tree it stands in. -/
theorem blocksPreorder_sublist_of_mem_noteBodies {blocks b : List Block}
    (hb : b ∈ noteBodies (blocksPreorder blocks)) :
    (blocksPreorder b).Sublist (blocksPreorder blocks) := by
  obtain ⟨n, hn, hnb⟩ := List.mem_filterMap.mp hb
  rw [blocksPreorder_eq] at hn
  have hsub := Node.preorder_sublist_of_mem_nodesPreorder hn
  rw [← blocksPreorder_eq] at hsub
  cases n with
  | block c => cases hnb
  | inline i =>
    cases i with
    | note body =>
      cases hnb
      exact (List.sublist_cons_self ..).trans hsub
    | _ => cases hnb

theorem blocksTyped_of_mem_preorder {blocks : List Block} (h : blocksTyped blocks = true) :
    ∀ b ∈ noteBodies (blocksPreorder blocks), blocksTyped b = true := by
  intro b hb
  have hall := List.all_eq_true.mp h
  have hsub := blocksPreorder_sublist_of_mem_noteBodies hb
  exact List.all_eq_true.mpr fun n hn => hall n (hsub.subset hn)

theorem isBodyKey_of_mem_preorder {blocks : List Block} (h : blocksTyped blocks = true) :
    ∀ b ∈ noteBodies (blocksPreorder blocks), isBodyKey b = true :=
  fun b hb => isBodyKey_of_blocksTyped (blocksTyped_of_mem_preorder h b hb)

def Document.numbering (d : Document) : Footnotes :=
  encountered (noteBodies (blocksPreorder d.blocks))

theorem Document.outcome_footnotes {d : Document} (h : d.isTyped = true) :
    d.footnotes.outcome = .ok d.numbering := by
  rw [Document.footnotes, collect_eq d.blocks (isBodyKey_of_mem_preorder h)]
  rfl

theorem Document.exists_number {d : Document} (h : d.isTyped = true) {b : List Block}
    (hb : b ∈ noteBodies (blocksPreorder d.blocks)) :
    ∃ k, d.numbering.number? (FootnoteBody.ofBlocks b) = some k
      ∧ d.numbering.lookup (FootnoteBody.ofBlocks b) = .ok (some k)
      ∧ 1 ≤ k ∧ k ≤ d.numbering.size := by
  have hmet := isBodyKey_of_mem_preorder h
  have hkey := hmet b hb
  obtain ⟨i, hi⟩ := exists_findIdx?_firstBodies hmet hb
  have hlt := (List.findIdx?_eq_some_iff_getElem.mp hi).1
  have hsize : d.numbering.size = (firstBodies (noteBodies (blocksPreorder d.blocks))).length :=
    size_encountered _
  refine ⟨i + 1, ?_, ?_, by omega, by omega⟩
  · rw [Document.numbering, number?_encountered, hi]
    rfl
  · rw [Document.numbering, lookup_encountered _ hkey, hi]
    rfl

/-- The bodies met that equal a body. -/
def bodyClass (met : List (List Block)) (b : List Block) : Set (List Block) :=
  {a | a ∈ met ∧ sameBody b a = true}

theorem bodyClass_eq_iff {met : List (List Block)} (hmet : ∀ a ∈ met, isBodyKey a = true)
    {a b : List Block} (ha : a ∈ met) (hb : b ∈ met) :
    bodyClass met a = bodyClass met b ↔ sameBody a b = true := by
  constructor
  · intro h
    have hself : b ∈ bodyClass met b := ⟨hb, sameBody_refl (hmet b hb)⟩
    rw [← h] at hself
    exact hself.2
  · intro h
    have hba : sameBody b a = true := by
      rw [sameBody_comm (hmet b hb) (hmet a ha)]
      exact h
    ext c
    constructor
    · rintro ⟨hc, hac⟩
      exact ⟨hc, sameBody_trans (hmet b hb) (hmet a ha) (hmet c hc) hba hac⟩
    · rintro ⟨hc, hbc⟩
      exact ⟨hc, sameBody_trans (hmet a ha) (hmet b hb) (hmet c hc) h hbc⟩

theorem ncard_classes {met : List (List Block)} (hmet : ∀ a ∈ met, isBodyKey a = true) :
    {c | ∃ b ∈ met, c = bodyClass met b}.ncard = (firstBodies met).length := by
  have hclasses : {c | ∃ b ∈ met, c = bodyClass met b}
      = {c | c ∈ (firstBodies met).map (bodyClass met)} := by
    ext c
    simp only [Set.mem_ofPred_eq, List.mem_map]
    constructor
    · rintro ⟨b, hb, rfl⟩
      have hany : (firstBodies met).any (sameBody b) = true := by
        rw [any_firstBodies hmet (hmet b hb)]
        exact List.any_eq_true.mpr ⟨b, hb, sameBody_refl (hmet b hb)⟩
      obtain ⟨r, hr, hbr⟩ := List.any_eq_true.mp hany
      exact ⟨r, hr, ((bodyClass_eq_iff hmet hb (mem_of_mem_bodiesMet hr)).mpr hbr).symm⟩
    · rintro ⟨r, hr, rfl⟩
      exact ⟨r, mem_of_mem_bodiesMet hr, rfl⟩
  have hnodup : ((firstBodies met).map (bodyClass met)).Nodup := by
    rw [List.Nodup, List.pairwise_map]
    refine List.Pairwise.imp_of_mem ?_ (firstBodies_pairwise met)
    intro a b ha hb hne heq
    have hsame := (bodyClass_eq_iff hmet (mem_of_mem_bodiesMet hb) (mem_of_mem_bodiesMet ha)).mp
      heq.symm
    rw [hsame] at hne
    cases hne
  classical
  rw [hclasses, ← List.coe_toFinset, Set.ncard_coe_finset, List.toFinset_card_of_nodup hnodup,
    List.length_map]

/-- A numbering of bodies by first encounter: one entry for each class of equal bodies, held by
the body met first, in the order of these, and every body that can serve as a key is looked up by
equality. -/
structure FirstEncounter (met : List (List Block)) (n : Footnotes) : Prop where
  entries : n.entries
    = ((firstBodies met).zipIdx 1).map fun p => (p.2, FootnoteBody.ofBlocks p.1)
  classes : n.size = {c | ∃ b ∈ met, c = bodyClass met b}.ncard
  lookup_some_iff : ∀ (b : List Block) (k : Nat), isBodyKey b = true →
    (n.lookup (FootnoteBody.ofBlocks b) = .ok (some k)
      ↔ ∃ r, (r, k) ∈ (firstBodies met).zipIdx 1 ∧ sameBody b r = true)
  lookup_none_iff : ∀ b : List Block, isBodyKey b = true →
    (n.lookup (FootnoteBody.ofBlocks b) = .ok none ↔ ∀ a ∈ met, sameBody b a = false)
  lookup_eq_iff : ∀ a ∈ met, ∀ b ∈ met,
    (n.lookup (FootnoteBody.ofBlocks a) = n.lookup (FootnoteBody.ofBlocks b)
      ↔ sameBody a b = true)

theorem encountered_lookup_some_iff {met : List (List Block)}
    (hmet : ∀ a ∈ met, isBodyKey a = true) {b : List Block} (hb : isBodyKey b = true) (k : Nat) :
    (encountered met).lookup (FootnoteBody.ofBlocks b) = .ok (some k)
      ↔ ∃ r, (r, k) ∈ (firstBodies met).zipIdx 1 ∧ sameBody b r = true := by
  rw [lookup_encountered met hb, Except.ok.injEq, Option.map_eq_some_iff]
  constructor
  · rintro ⟨i, hi, rfl⟩
    obtain ⟨r, hr, hbr⟩ := (findIdx?_firstBodies_eq_some_iff hmet hb i).mp hi
    refine ⟨r, ?_, hbr⟩
    rw [List.mem_zipIdx_iff_le_and_getElem?_sub]
    exact ⟨by omega, hr⟩
  · rintro ⟨r, hr, hbr⟩
    rw [List.mem_zipIdx_iff_le_and_getElem?_sub] at hr
    refine ⟨k - 1, (findIdx?_firstBodies_eq_some_iff hmet hb (k - 1)).mpr ⟨r, hr.2, hbr⟩, ?_⟩
    omega

theorem encountered_lookup_none_iff {met : List (List Block)}
    (hmet : ∀ a ∈ met, isBodyKey a = true) {b : List Block} (hb : isBodyKey b = true) :
    (encountered met).lookup (FootnoteBody.ofBlocks b) = .ok none
      ↔ ∀ a ∈ met, sameBody b a = false := by
  rw [lookup_encountered met hb, Except.ok.injEq, Option.map_eq_none_iff,
    ← Option.isNone_iff_eq_none, ← Option.not_isSome, isSome_findIdx?_firstBodies hmet hb,
    Bool.not_eq_true', List.any_eq_false]
  simp only [Bool.not_eq_true]

theorem encountered_lookup_eq_iff {met : List (List Block)}
    (hmet : ∀ a ∈ met, isBodyKey a = true) {a b : List Block} (ha : a ∈ met) (hb : b ∈ met) :
    (encountered met).lookup (FootnoteBody.ofBlocks a)
        = (encountered met).lookup (FootnoteBody.ofBlocks b)
      ↔ sameBody a b = true := by
  have hka := hmet a ha
  have hkb := hmet b hb
  -- a body that was met has a number
  have hnumber : ∃ k, (encountered met).lookup (FootnoteBody.ofBlocks a) = .ok (some k) := by
    obtain ⟨i, hi⟩ := exists_findIdx?_firstBodies hmet ha
    exact ⟨i + 1, by rw [lookup_encountered met hka, hi]; rfl⟩
  obtain ⟨k, hk⟩ := hnumber
  obtain ⟨r, hr, har⟩ := (encountered_lookup_some_iff hmet hka k).mp hk
  have hkr : isBodyKey r = true := hmet r (mem_of_mem_bodiesMet (List.fst_mem_of_mem_zipIdx hr))
  rw [hk, eq_comm, encountered_lookup_some_iff hmet hkb]
  constructor
  · rintro ⟨r', hr', hbr'⟩
    rw [List.mem_zipIdx_iff_le_and_getElem?_sub] at hr hr'
    obtain rfl : r' = r := Option.some.inj (hr'.2.symm.trans hr.2)
    have hrb : sameBody r' b = true := by
      rw [sameBody_comm hkr hkb]
      exact hbr'
    exact sameBody_trans hka hkr hkb har hrb
  · intro hab
    have hba : sameBody b a = true := by
      rw [sameBody_comm hkb hka]
      exact hab
    exact ⟨r, hr, sameBody_trans hkb hka hkr hba har⟩

theorem firstEncounter_encountered {met : List (List Block)}
    (hmet : ∀ a ∈ met, isBodyKey a = true) : FirstEncounter met (encountered met) where
  entries := by
    rw [Footnotes.entries, encountered, List.zipIdx_map, List.map_map, List.zipIdx_succ,
      List.map_map]
    rfl
  classes := by
    rw [ncard_classes hmet, size_encountered]
  lookup_some_iff b k hb := encountered_lookup_some_iff hmet hb k
  lookup_none_iff b hb := encountered_lookup_none_iff hmet hb
  lookup_eq_iff a ha b hb := encountered_lookup_eq_iff hmet ha hb

theorem exists_repeat_numbers {met : List (List Block)} (hmet : ∀ a ∈ met, isBodyKey a = true) :
    ∃ ks : List Nat,
      (repeatedBodies met).map (fun b => (encountered met).lookup (FootnoteBody.ofBlocks b))
          = ks.map (fun k => .ok (some k))
      ∧ repeatNotices met = ks.map fun k => .notice (.repeatedNote k) := by
  refine ⟨(repeatedBodies met).map fun b =>
    ((encountered met).number? (FootnoteBody.ofBlocks b)).getD 0, ?_, ?_⟩
  · rw [List.map_map]
    apply List.map_congr_left
    intro b hb
    have hkb := hmet b (mem_of_mem_bodiesMet hb)
    obtain ⟨i, hi⟩ := exists_findIdx?_firstBodies hmet (mem_of_mem_bodiesMet hb)
    simp only [lookup_encountered met hkb, number?_encountered, hi, Function.comp_apply,
      Option.map_some, Option.getD_some]
  · rw [repeatNotices, List.map_map]
    rfl

/-- Collecting the footnotes of well-typed blocks numbers the bodies of all footnotes under them by
first encounter.  It reports every body that repeats an earlier one, under its final number, and
then how many footnotes there are. -/
theorem collect_by_first_encounter (blocks : List Block) (h : blocksTyped blocks = true) :
    ∃ (notes : Footnotes) (again : List Nat),
      (Footnotes.collect (blocks.map Block.item)).outcome = .ok notes
      ∧ (∀ metadata, (Document.mk metadata blocks).footnotes
          = Footnotes.collect (blocks.map Block.item))
      ∧ FirstEncounter (noteBodies (blocksPreorder blocks)) notes
      ∧ (repeatedBodies (noteBodies (blocksPreorder blocks))).map
          (fun b => notes.lookup (FootnoteBody.ofBlocks b)) = again.map (fun k => .ok (some k))
      ∧ (Footnotes.collect (blocks.map Block.item)).calls = []
      ∧ (Footnotes.collect (blocks.map Block.item)).notices.map (fun n => (n.level, n.text))
        = again.map (fun k =>
            (Level.debug, "Footnote " ++ toString k ++ " is referenced more than once"))
          ++ [(Level.debug, "Collected " ++ toString notes.size ++ " distinct footnotes")] := by
  have hmet := isBodyKey_of_mem_preorder h
  obtain ⟨again, hagain, hnotices⟩ := exists_repeat_numbers hmet
  have hcollect := collect_eq blocks hmet
  refine ⟨encountered (noteBodies (blocksPreorder blocks)), again, ?_, fun _ => rfl,
    firstEncounter_encountered hmet, hagain, ?_, ?_⟩
  · rw [hcollect]
  · rw [hcollect, hnotices]
    simp [Traced.calls]
  · rw [hcollect, hnotices]
    simp only [Traced.notices, List.filterMap_append, List.filterMap_map, List.map_append]
    simp only [Function.comp_def, List.filterMap_eq_map', List.map_map]
    rfl

def nestedRepeat : List Block :=
  [.para [.note [.plain [.str (.str "a")]],
    .note [.para [.str (.str "b"), .note [.plain [.str (.str "a")]]]]]]

theorem collect_nestedRepeat :
    blocksTyped nestedRepeat = true
    ∧ ∃ notes : Footnotes,
      (Footnotes.collect (nestedRepeat.map Block.item)).outcome = .ok notes
      ∧ FirstEncounter (noteBodies (blocksPreorder nestedRepeat)) notes := by
  have h : blocksTyped nestedRepeat = true := by decide
  obtain ⟨notes, _, hnotes, _, hfirst, _⟩ := collect_by_first_encounter nestedRepeat h
  exact ⟨h, notes, hnotes, hfirst⟩

end PandocHtml
