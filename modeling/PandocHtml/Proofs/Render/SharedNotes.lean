import PandocHtml.Proofs.Render.EqualPlans
import PandocHtml.Proofs.Render.Section

/-!
# Footnotes that share an entry

Footnotes with equal bodies share one entry in the section, and the entry shows the body that was
met first.  The other bodies would be shown by the same pieces in the same places.  The attributes
on these agree up to order, unless a name is given two values: bodies are equal whichever of two
pairs comes last, and it is the last that is shown.
-/

namespace PandocHtml

/-- The body behind the number of another body, which it equals. -/
theorem exists_numbered {met : List (List Block)} (hmet : ∀ a ∈ met, blocksTyped a = true)
    {b : List Block} (hb : b ∈ met) :
    ∃ (i : Nat) (first : List Block),
      (encountered met).lookup (FootnoteBody.ofBlocks b) = .ok (some (i + 1))
      ∧ (firstBodies met)[i]? = some first ∧ BlocksBy Node.Equal b first := by
  have hkeys : ∀ a ∈ met, isBodyKey a = true := fun a ha => isBodyKey_of_blocksTyped (hmet a ha)
  obtain ⟨i, hi⟩ := exists_findIdx?_firstBodies hkeys hb
  obtain ⟨first, hfirst, hsame⟩ :=
    (findIdx?_firstBodies_eq_some_iff hkeys (hkeys b hb) i).mp hi
  have htyped := hmet first (mem_of_mem_bodiesMet (List.mem_of_getElem? hfirst))
  refine ⟨i, first, ?_, hfirst, blocksBy_of_sameBody (hmet b hb) htyped hsame⟩
  rw [lookup_encountered met (hkeys b hb), hi]
  rfl

/-- Every footnote of a well-typed document, wherever it stands, has an entry in the section.  What
the entry shows and what rendering the footnote's own body without numbers gives are alike: the same
pieces in the same places, with attributes that agree under every name but those that a node in
the body gives two values.  If there is no such name, the attributes agree up to order. -/
theorem listedEntry_alike_body (d : Document) (h : d.isTyped = true) (mode : RawMode)
    (limit : Option Limit) :
    ∃ (notes : Footnotes) (items : List OutlineNode),
      d.footnotes.outcome = .ok notes
      ∧ ∀ b ∈ noteBodies d.walk,
        (((Config.plain mode limit).engine outline).footnoteSection notes).outcome
          = .ok [.section items]
        ∧ ∃ (k : Nat) (listed own : Outline),
          notes.lookup (FootnoteBody.ofBlocks b) = .ok (some (k + 1))
          ∧ items[k]? = some (.listed (k + 1) listed)
          ∧ (((Config.plain mode limit).engine outline).renderBlocks b Place.start).outcome
            = .ok own
          ∧ Outline.AlikeBy (AttrMap.AgreeExcept (TwoValuedUnder (walk (b.map Node.block)))) own
            listed
          ∧ ((∀ name, ¬ TwoValuedUnder (walk (b.map Node.block)) name) →
            Outline.AlikeBy List.Perm own listed) := by
  have hmet := blocksTyped_of_mem_preorder h
  refine ⟨d.numbering,
    (firstBodies (noteBodies (blocksPreorder d.blocks))).zipIdx.map fun p =>
      .listed (p.2 + 1) (blocksOutlined mode limit Footnotes.none 0 p.1),
    Document.outcome_footnotes h, ?_⟩
  rw [Document.walk_eq]
  intro b hb
  obtain ⟨k, first, hlookup, hfirst, hequal⟩ := exists_numbered hmet hb
  have hne : firstBodies (noteBodies (blocksPreorder d.blocks)) ≠ [] :=
    List.ne_nil_of_mem (List.mem_of_getElem? hfirst)
  have hsection := Engine.outline_footnoteSection mode limit (Document.typed_numbering h)
  have hown := Engine.outline_renderBlocks mode limit (hmet b hb) Place.start
  rw [Document.numbering, outlined_encountered mode limit hne] at hsection
  have halike := blocksOutlined_alike (AttrMap.comparison_agreeExcept _) Footnotes.Agree.none mode
    limit 0 (blocksBy_equalBy_agreeExcept hequal)
  rw [blocksPreorder_eq, ← walk_eq_nodesPreorder] at halike
  refine ⟨hsection, k, blocksOutlined mode limit Footnotes.none 0 first, _, hlookup, ?_, hown, ?_,
    ?_⟩
  · rw [List.getElem?_map, List.getElem?_zipIdx, hfirst]
    simp only [Option.map_some, Nat.zero_add]
  · exact halike
  · intro hone
    exact halike.imp fun m n hmn => AttrMap.perm_of_under fun name => hmn name (hone name)

/-- A span with two pairs inside a footnote. -/
def pairedNote (first second : String × String) : List Block :=
  [.plain [.span ⟨.str "", [], [first, second]⟩ [.str (.str "x")]]]

/-- Two footnotes that differ in the order of two pairs. -/
def swappedNotes (first second : String × String) : Document :=
  ⟨[], [.para [.note (pairedNote first second), .note (pairedNote second first)]]⟩

theorem swappedNotes_share_entry :
    (swappedNotes ("a", "1") ("b", "2")).isTyped = true
    ∧ ∃ (notes : Footnotes) (own listed : Outline),
      (swappedNotes ("a", "1") ("b", "2")).footnotes.outcome = .ok notes
      ∧ (((Config.plain .drop none).engine outline).renderBlocks
        (pairedNote ("b", "2") ("a", "1")) Place.start).outcome = .ok own
      ∧ Outline.AlikeBy List.Perm own listed := by
  have h : (swappedNotes ("a", "1") ("b", "2")).isTyped = true := by decide
  have hmem : pairedNote ("b", "2") ("a", "1")
      ∈ noteBodies (swappedNotes ("a", "1") ("b", "2")).walk := by
    rw [Document.walk_eq]
    exact List.mem_cons_of_mem _ (List.mem_cons_self ..)
  have hone : ∀ name, ¬ TwoValuedUnder (walk ((pairedNote ("b", "2") ("a", "1")).map Node.block))
      name := by
    rw [walk_eq_nodesPreorder]
    rintro name ⟨attr, hattr, p, hp, q, hq, rfl, hqp, hne⟩
    obtain rfl : attr = ⟨.str "", [], [("b", "2"), ("a", "1")]⟩ := List.mem_singleton.mp hattr
    simp only [List.mem_cons, List.not_mem_nil, or_false] at hp hq
    rcases hp with rfl | rfl <;> rcases hq with rfl | rfl <;> simp at hqp hne
  obtain ⟨notes, items, hnotes, hentries⟩ := listedEntry_alike_body _ h .drop none
  obtain ⟨_, k, listed, own, _, _, hown, _, hperm⟩ := hentries _ hmem
  exact ⟨h, notes, own, listed, hnotes, hown, hperm hone⟩

/-- The second footnote shares the entry of the first, which shows another value than its own
body. -/
theorem swappedNotes_entry_shows_other_value :
    (swappedNotes ("k", "1") ("k", "2")).isTyped = true
    ∧ pairedNote ("k", "2") ("k", "1") ∈ noteBodies (swappedNotes ("k", "1") ("k", "2")).walk
    ∧ ∃ (notes : Footnotes) (own listed : Outline),
      (swappedNotes ("k", "1") ("k", "2")).footnotes.outcome = .ok notes
      ∧ notes.lookup (FootnoteBody.ofBlocks (pairedNote ("k", "2") ("k", "1"))) = .ok (some 1)
      ∧ (((Config.plain .drop none).engine outline).footnoteSection notes).outcome
        = .ok [.section [.listed 1 listed]]
      ∧ (((Config.plain .drop none).engine outline).renderBlocks
        (pairedNote ("k", "2") ("k", "1")) Place.start).outcome = .ok own
      ∧ ¬ Outline.AlikeBy List.Perm own listed := by
  have h : (swappedNotes ("k", "1") ("k", "2")).isTyped = true := by decide
  refine ⟨h, ?_, ⟨[FootnoteBody.ofBlocks (pairedNote ("k", "1") ("k", "2"))]⟩,
    [.element "span" (some [("k", .str "1")]) [.text (.str "x")]],
    [.element "span" (some [("k", .str "2")]) [.text (.str "x")]], ?_, rfl, rfl, rfl, ?_⟩
  · rw [Document.walk_eq]
    exact List.mem_cons_of_mem _ (List.mem_cons_self ..)
  · exact Document.outcome_footnotes h
  · intro halike
    cases halike with
    | cons hspan _ =>
      cases hspan with
      | element _ hattrs _ =>
        cases hattrs with
        | some hperm => exact absurd (List.singleton_perm_singleton.mp hperm) (by simp)

end PandocHtml
