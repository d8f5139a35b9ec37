import Mathlib.Data.List.Forall2
import PandocHtml.Proofs.Html.Reader
import PandocHtml.Proofs.Render.SoundOutline

/-!
# Written markup is read back

A document rendered as HTML text, with raw content left out or shown as text, is read back as the
trees of its outline: without the attributes whose names cannot be written, with adjacent texts
merged and empty ones removed.  So no content can open, close or extend a tag.
-/

namespace PandocHtml

open Html (Tree Token Frame Dialect Scan)

/-! ### Trees of outlines -/

/-- The attributes of a mapping, all of which have to be texts. -/
def textAttrs : AttrMap → Option (List (String × String))
  | [] => some []
  | (name, .str value) :: rest => (textAttrs rest).map ((name, value) :: ·)
  | _ :: _ => none

/-- The attributes whose names can be written; all of these have to be texts. -/
def keptAttrs (attrs : Option AttrMap) : Option (List (String × String)) :=
  textAttrs ((attrs.getD []).filter fun p => Html.isName p.1)

mutual

/-- The tree of a piece of an outline behind the trees before it, latest first; raw content and
values that are no texts have none. -/
def OutlineNode.addTree (done : List Tree) : OutlineNode → Option (List Tree)
  | .text (.str s) => some (Html.addText done s)
  | .text _ => none
  | .raw _ => none
  | .leaf tag attrs => (keptAttrs attrs).map fun kept => .element tag kept [] :: done
  | .element tag attrs children => do
    let kept ← keptAttrs attrs
    let inside ← addTrees [] children
    return .element tag kept inside.reverse :: done

/-- The trees of an outline behind the trees before it, latest first. -/
def addTrees (done : List Tree) : List OutlineNode → Option (List Tree)
  | [] => some done
  | n :: rest => do
    let more ← n.addTree done
    addTrees more rest

end

def outlineTrees (t : Outline) : Option (List Tree) := (addTrees [] t).map List.reverse

theorem addTrees_append (done : List Tree) (t u : Outline) :
    addTrees done (t ++ u) = (addTrees done t).bind fun more => addTrees more u := by
  induction t generalizing done with
  | nil => rfl
  | cons n rest ih =>
    rw [List.cons_append, addTrees, addTrees]
    cases n.addTree done with
    | none => rfl
    | some more => exact ih more

theorem addTrees_singleton (done : List Tree) (n : OutlineNode) :
    addTrees done [n] = n.addTree done := by
  rw [addTrees]
  exact bind_pure _

/-- An element that has no children and one that has none inside it are one tree. -/
theorem addTrees_leaf (done : List Tree) (tag : String) (attrs : Option AttrMap) :
    addTrees done [.leaf tag attrs] = addTrees done [.element tag attrs []] := by
  rw [addTrees_singleton, addTrees_singleton, OutlineNode.addTree, OutlineNode.addTree]
  cases keptAttrs attrs <;> rfl

/-! ### Attributes -/

theorem exists_ofTexts {m : AttrMap} (h : m.isTyped = true) :
    ∃ pairs : List (String × String), m = AttrMap.ofTexts pairs := by
  induction m with
  | nil => exact ⟨[], rfl⟩
  | cons p rest ih =>
    obtain ⟨name, value⟩ := p
    rw [AttrMap.isTyped, List.all_cons, Bool.and_eq_true] at h
    obtain ⟨s, rfl⟩ := Json.eq_str_of_isText h.1
    obtain ⟨pairs, rfl⟩ := ih h.2
    exact ⟨(name, s) :: pairs, rfl⟩

theorem textAttrs_ofTexts (pairs : List (String × String)) :
    textAttrs (AttrMap.ofTexts pairs) = some pairs := by
  induction pairs with
  | nil => rfl
  | cons p rest ih =>
    rw [AttrMap.ofTexts] at ih
    rw [AttrMap.ofTexts, List.map_cons, textAttrs, ih]
    rfl

theorem writeAttrs_ofTexts (pairs : List (String × String)) :
    ∃ w : String, Html.writeAttrs (AttrMap.ofTexts pairs) = .ok w
      ∧ w.toList = Html.writtenAttrs pairs := by
  induction pairs with
  | nil => exact ⟨"", rfl, rfl⟩
  | cons p rest ih =>
    obtain ⟨name, value⟩ := p
    obtain ⟨w, hw, hlist⟩ := ih
    refine ⟨" " ++ name ++ "=\"" ++ Html.escape value ++ "\"" ++ w, ?_, ?_⟩
    · rw [AttrMap.ofTexts] at hw
      rw [AttrMap.ofTexts, List.map_cons, Html.writeAttrs, hw]
      rfl
    · simp [Html.writtenAttrs, Html.writtenAttr, Html.escape, hlist]

/-- What is reported about the attributes of an element: those whose names cannot be written. -/
def Html.heard (attrs : Option AttrMap) : List Event := (Html.writable (attrs.getD [])).events

theorem exists_writable {attrs : Option AttrMap} (h : attrsTyped attrs = true) :
    ∃ kept : List (String × String), keptAttrs attrs = some kept
      ∧ Html.writable (attrs.getD []) = ⟨Html.heard attrs, .ok (AttrMap.ofTexts kept)⟩
      ∧ ∀ p ∈ kept, Html.isWord p.1.toList = true := by
  obtain ⟨pairs, hpairs⟩ := exists_ofTexts h
  have hfilter : (AttrMap.ofTexts pairs).filter (fun p => Html.isName p.1)
      = AttrMap.ofTexts (pairs.filter fun p => Html.isName p.1) := List.filter_map ..
  refine ⟨pairs.filter fun p => Html.isName p.1, ?_, ?_, ?_⟩
  · rw [keptAttrs, hpairs, hfilter, textAttrs_ofTexts]
  · rw [Html.heard, hpairs, Html.writable, hfilter]
  · intro p hp
    exact Html.isWord_of_isName (List.mem_filter.mp hp).2

theorem exists_keptAttrs {attrs : Option AttrMap} (h : attrsTyped attrs = true) :
    ∃ (kept : List (String × String)) (w : String), keptAttrs attrs = some kept
      ∧ Html.renderAttrs attrs = ⟨Html.heard attrs, .ok w⟩ ∧ w.toList = Html.writtenAttrs kept
      ∧ ∀ p ∈ kept, Html.isWord p.1.toList = true := by
  obtain ⟨kept, hkept, hwritable, hwords⟩ := exists_writable h
  obtain ⟨w, hw, hlist⟩ := writeAttrs_ofTexts kept
  refine ⟨kept, w, hkept, ?_, hlist, hwords⟩
  rw [Html.renderAttrs, hwritable, Traced.ok_bind, hw]
  exact congrArg (Traced.mk · _) (List.append_nil _)

/-! ### Reading outlines back -/

/-- An outline is built as an output that is scanned as the given tokens, and these are read as
trees that are alike to the trees of the outline. -/
structure ReadAs {β : Type} (o : Output β) (d : Dialect) (shown : β → List Char)
    (alike : Tree → Tree → Prop) (t : Outline) (b : β) (tokens : List Token) : Prop where
  built : o.build t = .ok b
  scanned : ∀ rest : List Char, Html.scan d .inText (shown b ++ rest)
    = (Html.scan d .inText rest).map (tokens ++ ·)
  grown : ∀ done found : List Tree, List.Forall₂ alike done found →
    ∃ trees others : List Tree, addTrees done t = some trees ∧ List.Forall₂ alike trees others
      ∧ ∀ (frames : List Frame) (more : List Token),
        Html.grow frames found (tokens ++ more) = Html.grow frames others more

/-- What an output has to show so that whatever is built with it is read back: its pieces one after
another, texts as their characters, and the elements of outlines as tags around what is shown of
their children, with attributes that make alike trees. -/
structure Output.Readable {β : Type} (o : Output β) (d : Dialect) (shown : β → List Char)
    (alike : Tree → Tree → Prop) : Prop where
  lawful : o.Lawful
  shown_empty : shown o.empty = []
  shown_combine : ∀ a b : β, shown (o.combine a b) = shown a ++ shown b
  childless : ∀ (tag : String) (attrs : Option AttrMap),
    o.element tag attrs none = o.element tag attrs (some o.empty)
  addText : ∀ {done found : List Tree}, List.Forall₂ alike done found →
    ∀ s : String, List.Forall₂ alike (Html.addText done s) (Html.addText found s)
  text : ∀ s : String, ∃ b : β, (o.text (.str s)).outcome = .ok b
    ∧ ∀ rest : List Char, Html.scan d .inText (shown b ++ rest)
      = (Html.scan d .inText rest).map (s.toList.map Token.char ++ ·)
  void : ∀ {tag : String} {attrs : Option AttrMap}, tag ∈ emptyTags →
    Html.voidTags.contains tag = true → attrsTyped attrs = true →
    ∃ (kept pairs : List (String × String)) (b : β), keptAttrs attrs = some kept
      ∧ alike (.element tag kept []) (.element tag pairs [])
      ∧ (o.element tag attrs none).outcome = .ok b
      ∧ ∀ rest : List Char, Html.scan d .inText (shown b ++ rest)
        = (Html.scan d .inText rest).map (.opening tag pairs :: ·)
  element : ∀ {tag : String} {attrs : Option AttrMap}, tag ∈ emptyTags ++ nestingTags →
    Html.voidTags.contains tag = false → attrsTyped attrs = true →
    ∃ kept pairs : List (String × String), keptAttrs attrs = some kept
      ∧ (∀ {children found : List Tree}, List.Forall₂ alike children found →
        alike (.element tag kept children) (.element tag pairs found))
      ∧ ∀ inside : β, ∃ b : β, (o.element tag attrs (some inside)).outcome = .ok b
        ∧ ∀ rest : List Char, Html.scan d .inText (shown b ++ rest)
          = (Html.scan d .inText
              (shown inside ++ '<' :: '/' :: (tag.toList ++ '>' :: rest))).map
                (.opening tag pairs :: ·)

namespace ReadAs

theorem isWord_of_mem_tags : ∀ tag ∈ emptyTags ++ nestingTags, Html.isWord tag.toList = true := by
  decide

theorem voidTags_of_mem_nestingTags : ∀ tag ∈ nestingTags, Html.voidTags.contains tag = false := by
  decide

variable {β : Type} {o : Output β} {d : Dialect} {shown : β → List Char}
  {alike : Tree → Tree → Prop} (hr : o.Readable d shown alike)
include hr

theorem nil : ReadAs o d shown alike [] o.empty [] where
  built := Output.build_nil hr.lawful
  scanned _ := by
    rw [hr.shown_empty]
    exact Option.map_id'.symm
  grown done found h := ⟨done, found, rfl, h, fun _ _ => rfl⟩

theorem append {t u : Outline} {x y : β} {a b : List Token} (h : ReadAs o d shown alike t x a)
    (k : ReadAs o d shown alike u y b) :
    ReadAs o d shown alike (t ++ u) (o.combine x y) (a ++ b) where
  built := by
    rw [Output.build_append hr.lawful, h.built, k.built]
    rfl
  scanned rest := by
    rw [hr.shown_combine, List.append_assoc, h.scanned, k.scanned, Option.map_map]
    congr 1
    funext tokens
    exact (List.append_assoc ..).symm
  grown done found hdone := by
    obtain ⟨trees, others, htrees, hothers, hgrow⟩ := h.grown done found hdone
    obtain ⟨all, allOthers, hall, hallOthers, hmore⟩ := k.grown trees others hothers
    refine ⟨all, allOthers, ?_, hallOthers, ?_⟩
    · rw [addTrees_append, htrees]
      exact hall
    · intro frames more
      rw [List.append_assoc, hgrow, hmore]

theorem text (s : String) :
    ∃ b : β, ReadAs o d shown alike [.text (.str s)] b (s.toList.map Token.char) := by
  obtain ⟨b, hb, hscan⟩ := hr.text s
  refine ⟨b, ?_, hscan, ?_⟩
  · rw [Output.build_singleton hr.lawful, Output.piece, hb]
  · intro done found h
    refine ⟨Html.addText done s, Html.addText found s, addTrees_singleton done _,
      hr.addText h s, ?_⟩
    intro frames more
    rw [Html.grow_chars, String.ofList_toList]

theorem void {tag : String} {attrs : Option AttrMap} (htag : tag ∈ emptyTags)
    (hvoid : Html.voidTags.contains tag = true) (hattrs : attrsTyped attrs = true) :
    ∃ (b : β) (a : List Token), ReadAs o d shown alike [.leaf tag attrs] b a := by
  obtain ⟨kept, pairs, b, hkept, halike, hb, hscan⟩ := hr.void htag hvoid hattrs
  refine ⟨b, [.opening tag pairs], ?_, hscan, ?_⟩
  · rw [Output.build_singleton hr.lawful, Output.piece, hb]
  · intro done found h
    refine ⟨.element tag kept [] :: done, .element tag pairs [] :: found, ?_, .cons halike h, ?_⟩
    · rw [addTrees_singleton, OutlineNode.addTree, hkept]
      rfl
    · intro frames more
      exact Html.grow_leaf frames found hvoid pairs more

theorem element {tag : String} {attrs : Option AttrMap} (htag : tag ∈ emptyTags ++ nestingTags)
    (hvoid : Html.voidTags.contains tag = false) (hattrs : attrsTyped attrs = true)
    {children : Outline} {inside : β} {a : List Token}
    (h : ReadAs o d shown alike children inside a) :
    ∃ (b : β) (a : List Token), ReadAs o d shown alike [.element tag attrs children] b a := by
  obtain ⟨kept, pairs, hkept, halike, helement⟩ := hr.element htag hvoid hattrs
  obtain ⟨b, hb, hscan⟩ := helement inside
  refine ⟨b, .opening tag pairs :: (a ++ [.closing tag]), ?_, ?_, ?_⟩
  · rw [Output.build_singleton hr.lawful, Output.piece_element, h.built]
    exact hb
  · intro rest
    rw [hscan, h.scanned, Html.scan_closing (isWord_of_mem_tags tag htag), Option.map_map,
      Option.map_map]
    congr 1
    funext tokens
    simp
  · intro done found hdone
    obtain ⟨trees, others, htrees, hothers, hgrow⟩ := h.grown [] [] .nil
    refine ⟨.element tag kept trees.reverse :: done, .element tag pairs others.reverse :: found, ?_,
      .cons (halike (List.rel_reverse hothers)) hdone, ?_⟩
    · rw [addTrees_singleton, OutlineNode.addTree, hkept, htrees]
      rfl
    · intro frames more
      rw [List.cons_append, List.append_assoc, List.singleton_append]
      exact Html.grow_element frames found hvoid pairs hgrow more

theorem leaf_of_element {tag : String} {attrs : Option AttrMap} {b : β} {a : List Token}
    (h : ReadAs o d shown alike [.element tag attrs []] b a) :
    ReadAs o d shown alike [.leaf tag attrs] b a where
  built := by
    rw [← h.built, Output.build_singleton hr.lawful, Output.piece,
      Output.build_singleton hr.lawful, Output.piece_element, Output.build_nil hr.lawful,
      hr.childless]
    rfl
  scanned := h.scanned
  grown done found hdone := by
    rw [addTrees_leaf]
    exact h.grown done found hdone

theorem of_pieces {t : Outline}
    (h : ∀ n ∈ t, ∃ (b : β) (a : List Token), ReadAs o d shown alike [n] b a) :
    ∃ (b : β) (a : List Token), ReadAs o d shown alike t b a := by
  induction t with
  | nil => exact ⟨o.empty, [], nil hr⟩
  | cons n rest ih =>
    rw [List.forall_mem_cons] at h
    obtain ⟨x, a, hn⟩ := h.1
    obtain ⟨y, b, hrest⟩ := ih h.2
    exact ⟨o.combine x y, a ++ b, append hr hn hrest⟩

/-- Every sound piece without raw content is read back. -/
theorem of_sound {n : OutlineNode} (hn : n.Sound false) :
    ∃ (b : β) (a : List Token), ReadAs o d shown alike [n] b a := by
  induction hn with
  | text s =>
    obtain ⟨b, h⟩ := text hr s
    exact ⟨b, _, h⟩
  | raw hraws s => cases hraws
  | @leaf tag attrs htag hattrs =>
    cases hvoid : Html.voidTags.contains tag with
    | true => exact void hr htag hvoid hattrs
    | false =>
      -- written with an end tag, as an element without children is
      obtain ⟨b, a, h⟩ := element hr (List.mem_append_left _ htag) hvoid hattrs (nil hr)
      exact ⟨b, a, leaf_of_element hr h⟩
  | element htag hattrs _ ih =>
    have hvoid := voidTags_of_mem_nestingTags _ htag
    obtain ⟨inside, a, h⟩ := of_pieces hr ih
    exact element hr (List.mem_append_right _ htag) hvoid hattrs h

end ReadAs

/-- What a readable output shows of a sound outline without raw content is read as trees alike to
those of the outline. -/
theorem Output.Readable.exists_read {β : Type} {o : Output β} {d : Dialect} {shown : β → List Char}
    {alike : Tree → Tree → Prop} (hr : o.Readable d shown alike) {t : Outline}
    (h : ∀ n ∈ t, n.Sound false) :
    ∃ (b : β) (trees found : List Tree), o.build t = .ok b ∧ outlineTrees t = some trees
      ∧ (Html.scan d .inText (shown b)).bind (Html.grow [] []) = some found
      ∧ List.Forall₂ alike trees found := by
  obtain ⟨b, tokens, hread⟩ := ReadAs.of_pieces hr fun n hn => ReadAs.of_sound hr (h n hn)
  obtain ⟨done, others, hdone, halike, hgrow⟩ := hread.grown [] [] .nil
  refine ⟨b, done.reverse, others.reverse, hread.built, ?_, ?_, List.rel_reverse halike⟩
  · rw [outlineTrees, hdone]
    rfl
  · have hscan := hread.scanned []
    have htrees := hgrow [] []
    rw [List.append_nil] at hscan htrees
    rw [hscan]
    show Html.grow [] [] (tokens ++ []) = some others.reverse
    rw [List.append_nil, htrees, Html.grow]

/-! ### HTML text -/

theorem Html.stringOutput_readable {d : Dialect} (hd : d.quotes.contains '"' = true) :
    Html.stringOutput.Readable d String.toList Eq where
  lawful := Html.stringOutput_lawful
  shown_empty := rfl
  shown_combine _ _ := String.toList_append
  childless _ _ := rfl
  addText := by
    intro done found h s
    rw [List.forall₂_eq_eq_eq] at h ⊢
    rw [h]
  text s := by
    refine ⟨Html.escape s, rfl, ?_⟩
    intro rest
    rw [Html.escape, String.toList_ofList]
    exact Html.scan_escape s.toList rest
  void := by
    intro tag attrs htag hvoid hattrs
    obtain ⟨kept, w, hkept, hw, hlist, hwords⟩ := exists_keptAttrs hattrs
    refine ⟨kept, kept, "<" ++ tag ++ w ++ ">", hkept, rfl, ?_, ?_⟩
    · show (Html.writeElement tag attrs none).outcome = _
      rw [Html.writeElement, hw, hvoid]
      rfl
    · intro rest
      have hchars : ("<" ++ tag ++ w ++ ">").toList ++ rest
          = '<' :: (tag.toList ++ (Html.writtenAttrs kept ++ '>' :: rest)) := by
        simp [hlist]
      have hword := ReadAs.isWord_of_mem_tags tag (List.mem_append_left _ htag)
      rw [hchars]
      exact Html.scan_opening (Html.readsAttrs_writtenAttr hd) hword hwords rest
  element := by
    intro tag attrs htag hvoid hattrs
    obtain ⟨kept, w, hkept, hw, hlist, hwords⟩ := exists_keptAttrs hattrs
    refine ⟨kept, kept, hkept, ?_, fun s => ⟨"<" ++ tag ++ w ++ ">" ++ s ++ "</" ++ tag ++ ">", ?_,
      ?_⟩⟩
    · intro children found h
      rw [List.forall₂_eq_eq_eq] at h
      rw [h]
    · show (Html.writeElement tag attrs (some s)).outcome = _
      rw [Html.writeElement, hw, hvoid]
      rfl
    · intro rest
      have hchars : ("<" ++ tag ++ w ++ ">" ++ s ++ "</" ++ tag ++ ">").toList ++ rest
          = '<' :: (tag.toList ++ (Html.writtenAttrs kept
            ++ '>' :: (s.toList ++ '<' :: '/' :: (tag.toList ++ '>' :: rest)))) := by
        simp [hlist]
      have hword := ReadAs.isWord_of_mem_tags tag htag
      rw [hchars]
      exact Html.scan_opening (Html.readsAttrs_writtenAttr hd) hword hwords _

/-- A sound outline without raw content is written as markup that is read back as its trees. -/
theorem exists_read_text {d : Dialect} (hd : d.quotes.contains '"' = true) {t : Outline}
    (h : ∀ n ∈ t, n.Sound false) :
    ∃ (markup : String) (trees : List Tree), Html.stringOutput.build t = .ok markup
      ∧ outlineTrees t = some trees ∧ Html.read d markup = some trees := by
  obtain ⟨markup, trees, found, hbuilt, htrees, hfound, hsame⟩ :=
    (Html.stringOutput_readable hd).exists_read h
  rw [List.forall₂_eq_eq_eq] at hsame
  rw [← hsame] at hfound
  exact ⟨markup, trees, hbuilt, htrees, hfound⟩

/-! ### Documents -/

/-- A well-typed document is written, with raw content left out or shown as text, as markup that is
read back as the trees of its outline; elements around children are never void. -/
theorem read_rendered_document (d : Document) (h : d.isTyped = true) (mode : RawMode)
    (hmode : mode = .drop ∨ mode = .escape) (limit : Option Limit) :
    ∃ (t : Outline) (markup : String) (trees : List Tree),
      (((Config.plain mode limit).engine outline).renderDocument d).outcome = .ok t
      ∧ (((Config.plain mode limit).engine Html.stringOutput).renderDocument d).outcome = .ok markup
      ∧ outlineTrees t = some trees
      ∧ Html.read .strict markup = some trees
      ∧ ∀ (tag : String) (attrs : Option AttrMap) (children : Outline),
        OutlineNode.element tag attrs children ∈ outlinePreorder t →
        Html.voidTags.contains tag = false := by
  have hkept : mode.keepsRaw = false := by
    rcases hmode with rfl | rfl <;> rfl
  have hsound := Document.sound_outlined h (Document.typed_numbering h) mode limit
  rw [hkept] at hsound
  obtain ⟨markup, trees, hwritten, htrees, hmarkup⟩ := exists_read_text (d := .strict) rfl hsound
  refine ⟨d.outlined mode limit d.numbering, markup, trees, ?_, ?_, htrees, hmarkup, ?_⟩
  · exact (Engine.outcome_renderDocument outline_lawful rfl h).trans (outline_build _)
  · exact (Engine.outcome_renderDocument Html.stringOutput_lawful rfl h).trans hwritten
  · intro tag attrs children hmem
    have hpiece := sound_outlinePreorder (fun n hn => (hsound n hn).preorder) _ hmem
    cases hpiece with
    | element htag _ _ => exact ReadAs.voidTags_of_mem_nestingTags tag htag

/-- Content that tries to end its attribute, its tag and its element. -/
def hostileDocument : Document :=
  ⟨[], [.para
    [.link ⟨.str "x\" onload=\"y", [.str "a>b"], [("on\"click", "1"), ("data-<", "'&'")]⟩
      [.str (.str "</a><b>&amp;")] ⟨.str "\"><b>", .str ""⟩,
    .raw (.str "html") (.str "</p>")]]⟩

theorem read_hostileDocument :
    hostileDocument.isTyped = true
    ∧ ∃ (t : Outline) (markup : String) (trees : List Tree),
      (((Config.plain .escape none).engine outline).renderDocument hostileDocument).outcome = .ok t
      ∧ (((Config.plain .escape none).engine Html.stringOutput).renderDocument
        hostileDocument).outcome = .ok markup
      ∧ outlineTrees t = some trees ∧ Html.read .strict markup = some trees := by
  have h : hostileDocument.isTyped = true := by decide
  obtain ⟨t, markup, trees, ht, hmarkup, htrees, hread, _⟩ :=
    read_rendered_document hostileDocument h .escape (.inr rfl) none
  exact ⟨h, t, markup, trees, ht, hmarkup, htrees, hread⟩

end PandocHtml
