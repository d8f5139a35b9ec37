import PandocHtml.Proofs.Markup.Printed
import PandocHtml.Proofs.Render.Written

/-!
# Renderings end in a value

A text that is no text cannot be escaped, a level that is no number cannot be compared, and a body
that is no key cannot be looked up.  In a well-typed document none of these occurs, so whatever it
holds besides is rendered, at worst as a diagnostic: citations, footnotes anywhere, names that
cannot be written, levels of any size, empty tables and lists, and what lies beyond the limit.  Only
a host that leaves whole numbers without a text stops a rendering, at the first number of a list or
at the limit.
-/

namespace PandocHtml

/-! ### Renderings off a host -/

section Engines

variable {β : Type} {o : Output β} {heard : Option AttrMap → List Event} {c : Config}

/-- Every rendering of well-typed nodes ends in a value. -/
structure Engine.Total (e : Engine β) : Prop where
  blocks : ∀ (bs : List Block) (place : Place), blocksTyped bs = true →
    (e.renderBlocks bs place).Succeeds
  inlines : ∀ (content : List Inline) (place : Place), inlinesTyped content = true →
    (e.renderInlines content place).Succeeds
  listed : ∀ notes : Footnotes, notes.Typed → (e.footnoteSection notes).Succeeds
  numbered : ∀ (d : Document) (notes : Footnotes), d.isTyped = true → notes.Typed →
    (e.renderNumbered d notes).Succeeds
  document : ∀ d : Document, d.isTyped = true → (e.renderDocument d).Succeeds

theorem Engine.total_of_reports (ho : o.Reports heard) (hc : c.isPlain = true) :
    (c.engine o).Total where
  blocks _ place h := (Engine.yields_renderBlocks ho hc h place).succeeds
  inlines _ place h := (Engine.yields_renderInlines ho hc h place).succeeds
  listed _ h := (Engine.yields_footnoteSection ho hc h).succeeds
  numbered _ _ hd hn := (Engine.yields_renderNumbered ho hc hd hn).succeeds
  document _ hd := (Engine.yields_renderDocument ho hc hd).succeeds

end Engines

/-! ### Renderings to text -/

/-- A rendering to text on the host under the standard rules for links and code blocks. -/
def textEngine [Host] (mode : RawMode) (limit : Option Limit) : Engine String :=
  ((Config.plain mode limit).engine Html.stringOutput).onHost

section Text

variable (mode : RawMode) (limit : Option Limit)

theorem total_stringOutput : ((Config.plain mode limit).engine Html.stringOutput).Total :=
  Engine.total_of_reports stringOutput_reports rfl

variable [Host]

theorem textEngine_renderBlocks {blocks : List Block} (h : blocksTyped blocks = true)
    (place : Place) :
    ((textEngine mode limit).renderBlocks blocks place).EndsOnHost
      ∧ (startsWritable (blocksPreorder blocks) → limitWritable limit →
        ((textEngine mode limit).renderBlocks blocks place).Succeeds) := by
  have hc : (Config.plain mode limit).isPlain = true := rfl
  have hfree := (total_stringOutput mode limit).blocks blocks place h
  have hheld := Engine.held_renderBlocks stringOutput_reports hc h place
  refine ⟨hheld.endsOnHost hfree, fun hstarts hlimit => (hheld.succeeds_iff hfree).mpr ?_⟩
  exact writable_blocksToWrite place.notes place.depth h hstarts hlimit

theorem textEngine_renderInlines {content : List Inline} (h : inlinesTyped content = true)
    (place : Place) :
    ((textEngine mode limit).renderInlines content place).EndsOnHost
      ∧ (startsWritable (inlinesPreorder content) → limitWritable limit →
        ((textEngine mode limit).renderInlines content place).Succeeds) := by
  have hc : (Config.plain mode limit).isPlain = true := rfl
  have hfree := (total_stringOutput mode limit).inlines content place h
  have hheld := Engine.held_renderInlines stringOutput_reports hc h place
  refine ⟨hheld.endsOnHost hfree, fun hstarts hlimit => (hheld.succeeds_iff hfree).mpr ?_⟩
  exact writable_inlinesToWrite place.notes place.depth h hstarts hlimit

theorem textEngine_footnoteSection {bodies : List (List Block)}
    (h : ∀ b ∈ bodies, blocksTyped b = true) :
    ((textEngine mode limit).footnoteSection (encountered bodies)).EndsOnHost
      ∧ (((textEngine mode limit).footnoteSection (encountered bodies)).Succeeds
        ↔ sectionWritable limit bodies) := by
  have hc : (Config.plain mode limit).isPlain = true := rfl
  have htyped := Footnotes.typed_encountered h
  have hfree := (total_stringOutput mode limit).listed _ htyped
  have hheld := Engine.held_footnoteSection stringOutput_reports hc htyped
  rw [← forall_sectionToWrite_iff limit h]
  exact ⟨hheld.endsOnHost hfree, hheld.succeeds_iff hfree⟩

theorem textEngine_renderNumbered {bodies : List (List Block)}
    (h : ∀ b ∈ bodies, blocksTyped b = true) {d : Document} (hd : d.isTyped = true) :
    ((textEngine mode limit).renderNumbered d (encountered bodies)).EndsOnHost
      ∧ (startsWritable (blocksPreorder d.blocks) → sectionWritable limit bodies →
        limitWritable limit →
        ((textEngine mode limit).renderNumbered d (encountered bodies)).Succeeds) := by
  have hc : (Config.plain mode limit).isPlain = true := rfl
  have htyped := Footnotes.typed_encountered h
  have hfree := (total_stringOutput mode limit).numbered d _ hd htyped
  have hheld := Engine.held_renderNumbered stringOutput_reports hc hd htyped
  refine ⟨hheld.endsOnHost hfree, fun hstarts hbodies hlimit => (hheld.succeeds_iff hfree).mpr ?_⟩
  rw [Document.toWrite, List.forall_mem_append]
  exact ⟨writable_blocksToWrite _ 0 hd hstarts hlimit,
    (forall_sectionToWrite_iff limit h).mpr hbodies⟩

theorem textEngine_renderDocument {d : Document} (hd : d.isTyped = true) :
    ((textEngine mode limit).renderDocument d).EndsOnHost
      ∧ (((textEngine mode limit).renderDocument d).Succeeds
        ↔ startsWritable (d.reachedNodes limit ++ d.numbered.flatMap (blocksReached limit true))
          ∧ (d.isCut limit = true → limitWritable limit)) := by
  have hc : (Config.plain mode limit).isPlain = true := rfl
  have hfree := (total_stringOutput mode limit).document d hd
  have hheld := Engine.held_renderDocument stringOutput_reports hc hd
  rw [← Document.forall_toWrite_iff hd]
  exact ⟨hheld.endsOnHost hfree, hheld.succeeds_iff hfree⟩

end Text

/-- Rendering to text under the standard rules for links and code blocks, any mode for raw content
and any limit: for every well-typed document, numbered by collecting its footnotes or by any
well-typed bodies, for the section of either numbering, and for well-typed blocks and inlines at any
place it ends in a value, or else in the fault of a whole number that has no text on the host.  It
ends in a value where the first numbers of all lists and the limit have a text; for documents and
sections it does so exactly where those have one that are reached, and the limit if there is a
cut. -/
theorem rendering_stops_only_at_long_numbers [Host] (mode : RawMode) (limit : Option Limit) :
    (∀ blocks : List Block, blocksTyped blocks = true →
      ∃ notes : Footnotes,
        (Footnotes.collect (blocks.map Block.item)).outcome = .ok notes
        ∧ ((textEngine mode limit).footnoteSection notes).EndsOnHost
        ∧ (((textEngine mode limit).footnoteSection notes).Succeeds
          ↔ sectionWritable limit (noteBodies (blocksPreorder blocks))))
    ∧ (∀ bodies : List (List Block), (∀ b ∈ bodies, blocksTyped b = true) →
      ∃ notes : Footnotes,
        Footnotes.ofBodies (bodies.map FootnoteBody.ofBlocks) = .ok notes
        ∧ ((textEngine mode limit).footnoteSection notes).EndsOnHost
        ∧ (((textEngine mode limit).footnoteSection notes).Succeeds ↔ sectionWritable limit bodies)
        ∧ ∀ d : Document, d.isTyped = true →
          ((textEngine mode limit).renderNumbered d notes).EndsOnHost
          ∧ (startsWritable (blocksPreorder d.blocks) → sectionWritable limit bodies →
            limitWritable limit → ((textEngine mode limit).renderNumbered d notes).Succeeds))
    ∧ (∀ d : Document, d.isTyped = true →
      d.footnotes.Succeeds
      ∧ ((textEngine mode limit).renderDocument d).EndsOnHost
      ∧ (((textEngine mode limit).renderDocument d).Succeeds
        ↔ startsWritable (d.reachedNodes limit ++ d.numbered.flatMap (blocksReached limit true))
          ∧ (d.isCut limit = true → limitWritable limit)))
    ∧ (∀ (blocks : List Block) (place : Place), blocksTyped blocks = true →
      ((textEngine mode limit).renderBlocks blocks place).EndsOnHost
      ∧ (startsWritable (blocksPreorder blocks) → limitWritable limit →
        ((textEngine mode limit).renderBlocks blocks place).Succeeds))
    ∧ (∀ (content : List Inline) (place : Place), inlinesTyped content = true →
      ((textEngine mode limit).renderInlines content place).EndsOnHost
      ∧ (startsWritable (inlinesPreorder content) → limitWritable limit →
        ((textEngine mode limit).renderInlines content place).Succeeds)) := by
  refine ⟨?_, ?_, ?_, ?_, ?_⟩
  · intro blocks h
    have hnotes : (Footnotes.collect (blocks.map Block.item)).outcome
        = .ok (Document.mk [] blocks).numbering := Document.outcome_footnotes (d := ⟨[], blocks⟩) h
    exact ⟨_, hnotes, textEngine_footnoteSection mode limit (blocksTyped_of_mem_preorder h)⟩
  · intro bodies h
    have hkeys : ∀ b ∈ bodies, isBodyKey b = true := fun b hb => isBodyKey_of_blocksTyped (h b hb)
    obtain ⟨hends, hsucceeds⟩ := textEngine_footnoteSection mode limit h
    exact ⟨_, ofBodies_ofBlocks hkeys, hends, hsucceeds,
      fun d hd => textEngine_renderNumbered mode limit h hd⟩
  · intro d hd
    exact ⟨⟨_, Document.outcome_footnotes hd⟩, textEngine_renderDocument mode limit hd⟩
  · exact fun blocks place h => textEngine_renderBlocks mode limit h place
  · exact fun content place h => textEngine_renderInlines mode limit h place

/-- A level out of range, names that cannot be written, an empty table, empty lists, a citation, and
footnotes inside footnotes, most of it beyond a limit of one. -/
def strayDocument : Document :=
  ⟨[], [.header (.int 1000000000000) ⟨.str "", [.str ""], [("on click=", "1"), ("", "2")]⟩
      [.cite [⟨.str "k", [.note []], [], .normal, .int 0, .int 0⟩] [.str (.str "[k]")]],
    .table Attr.none ⟨none, []⟩ [] ⟨Attr.none, []⟩ [] ⟨Attr.none, []⟩,
    .orderedList ⟨.int (-3), .lowerRoman, .period⟩ [], .bulletList [[]],
    .para [.note [.para [.note []]], .note [.para [.note []]]],
    .blockQuote [.blockQuote [.raw (.str "html") (.str "<hr>")]]]⟩

theorem strayDocument_renders :
    strayDocument.isTyped = true ∧ inlinesTyped [.note strayDocument.blocks] = true
    ∧ startsWritable (inlinesPreorder [.note strayDocument.blocks])
    ∧ limitWritable (some (Limit.ofNat 1))
    ∧ strayDocument.footnotes.Succeeds
    ∧ ((textEngine .escape (some (Limit.ofNat 1))).renderDocument strayDocument).Succeeds
    ∧ ((textEngine .escape (some (Limit.ofNat 1))).renderInlines [.note strayDocument.blocks]
      ⟨strayDocument.numbering, 1⟩).Succeeds := by
  have hd : strayDocument.isTyped = true := by decide
  have hi : inlinesTyped [.note strayDocument.blocks] = true := by decide
  have hone : (Json.int 1).isWritable Host.digits = true :=
    Json.isWritable_digit (by decide) (by decide)
  have hthree : (Json.int (-3)).isWritable Host.digits = true :=
    Json.isWritable_digit (by decide) (by decide)
  have hlimit : limitWritable (some (Limit.ofNat 1)) := by
    rintro l ⟨⟩
    exact hone
  have hinner : startsWritable (inlinesPreorder [.note strayDocument.blocks]) := by
    have hstarts : (inlinesPreorder [.note strayDocument.blocks]).flatMap Node.starts
        = [.int (-3)] := rfl
    rw [startsWritable, hstarts, List.forall_mem_singleton]
    exact hthree
  have houter : startsWritable (strayDocument.reachedNodes (some (Limit.ofNat 1))
      ++ strayDocument.numbered.flatMap (blocksReached (some (Limit.ofNat 1)) true)) := by
    have hstarts : (strayDocument.reachedNodes (some (Limit.ofNat 1))
        ++ strayDocument.numbered.flatMap (blocksReached (some (Limit.ofNat 1)) true)).flatMap
          Node.starts = [.int (-3)] := by with_unfolding_all rfl
    rw [startsWritable, hstarts, List.forall_mem_singleton]
    exact hthree
  obtain ⟨_, _, hdocument, _, hinlines⟩ :=
    rendering_stops_only_at_long_numbers .escape (some (Limit.ofNat 1))
  obtain ⟨hfootnotes, _, hsucceeds⟩ := hdocument _ hd
  exact ⟨hd, hi, hinner, hlimit, hfootnotes, hsucceeds.mpr ⟨houter, fun _ => hlimit⟩,
    (hinlines _ _ hi).2 hinner hlimit⟩

/-- An empty list that begins at a number. -/
def listFrom (start : Int) : Document := ⟨[], [.orderedList ⟨.int start, .decimal, .period⟩ []]⟩

theorem starts_listFrom {start : Int} (h : start ≠ 1) :
    ((listFrom start).reachedNodes none
      ++ (listFrom start).numbered.flatMap (blocksReached none true)).flatMap Node.starts
      = [.int start] := by
  have hreached : ((listFrom start).reachedNodes none
      ++ (listFrom start).numbered.flatMap (blocksReached none true))
      = [.block (.orderedList ⟨.int start, .decimal, .period⟩ [])] := by with_unfolding_all rfl
  have hsame : (Json.int start).same (.int 1) = false := beq_eq_false_iff_ne.mpr h
  rw [hreached, List.flatMap_singleton, Node.starts, ListAttributes.statedStart, hsame]
  rfl

/-- The least number that has no text on the usual host stops a rendering. -/
theorem longStart_stops_rendering :
    (listFrom (Json.leastLong 4300)).isTyped = true
    ∧ ((textEngine .drop none).renderDocument (listFrom (Json.leastLong 4300))).outcome
      = .error (.overlong (some 4300) none) := by
  have hlong := Json.isWritable_leastLong 4300
  have hne : Json.leastLong 4300 ≠ 1 := by
    intro h
    rw [h, Json.isWritable_digit (by decide) (by decide)] at hlong
    cases hlong
  have hd : (listFrom (Json.leastLong 4300)).isTyped = true := rfl
  obtain ⟨hends, hsucceeds⟩ := textEngine_renderDocument .drop none hd
  refine ⟨hd, hends.resolve_left fun h => ?_⟩
  have hstarts := (hsucceeds.mp h).1
  rw [startsWritable, starts_listFrom hne, List.forall_mem_singleton] at hstarts
  exact absurd hstarts (Bool.eq_false_iff.mp hlong)

-- a text that is no text is refused
example : ((textEngine .drop none).renderBlocks [.plain [.str .null]] Place.start).outcome
    = .error (.misuse .escaped) := rfl

end PandocHtml
