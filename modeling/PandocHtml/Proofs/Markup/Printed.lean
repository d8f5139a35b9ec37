import PandocHtml.Proofs.Html.RoundTrip
import PandocHtml.Proofs.Markup.Alike
import PandocHtml.Proofs.Render.Reported

/-!
# Printed trees are read back

A document rendered as a tree of markup and printed, and the same document rendered as HTML text,
are read as trees that say the same, though attributes are sorted, quoted and escaped in different
ways and void elements end differently.  Both renderings report the same.
-/

namespace PandocHtml

open Html (Tree Token Frame Dialect Scan)

/-- Either quote stands around values, and a slash may end the tag of a void element. -/
def Html.Dialect.lenient : Dialect := ⟨['"', '\''], true⟩

/-! ### Printed characters -/

section Characters

variable {d : Dialect}

theorem scan_escapeMarkupChar (c : Char) (rest : List Char) :
    Html.scan d .inText (Html.escapeMarkupChar c ++ rest)
      = (Html.scan d .inText rest).map (.char c :: ·) := by
  unfold Html.escapeMarkupChar
  split
  · exact Html.scan_reference ['a', 'm', 'p'] (by decide) rfl rest
  · exact Html.scan_reference ['l', 't'] (by decide) rfl rest
  · exact Html.scan_reference ['g', 't'] (by decide) rfl rest
  · next hamp hlt _ => exact Html.scan_plain hlt hamp rest

theorem scan_value_escapeMarkupChar {tag : String} {attrs : List (String × String)} {name : String}
    {quote c : Char} (hquote : '&' ≠ quote) (hc : c ≠ quote) (value rest : List Char) :
    Html.scan d (.attrValue tag attrs name quote value) (Html.escapeMarkupChar c ++ rest)
      = Html.scan d (.attrValue tag attrs name quote (value ++ [c])) rest := by
  unfold Html.escapeMarkupChar
  split
  · exact Html.scan_value_reference hquote value ['a', 'm', 'p'] (by decide) rfl rest
  · exact Html.scan_value_reference hquote value ['l', 't'] (by decide) rfl rest
  · exact Html.scan_value_reference hquote value ['g', 't'] (by decide) rfl rest
  · next hamp _ _ => exact Html.scan_value_plain hc hamp value rest

theorem scan_value_escapeQuotedChar {tag : String} {attrs : List (String × String)} {name : String}
    (c : Char) (value rest : List Char) :
    Html.scan d (.attrValue tag attrs name '"' value) (Markup.Node.escapeQuotedChar c ++ rest)
      = Html.scan d (.attrValue tag attrs name '"' (value ++ [c])) rest := by
  rw [Markup.Node.escapeQuotedChar]
  split
  · next hc =>
    subst hc
    exact Html.scan_value_reference (by decide) value ['q', 'u', 'o', 't'] (by decide) rfl rest
  · next hc => exact scan_value_escapeMarkupChar (by decide) hc value rest

end Characters

/-! ### Printed attributes -/

/-- An attribute with its value between the quotes that need the least escaping. -/
def printedAttr (p : String × String) : List Char :=
  p.1.toList ++ '=' :: (Markup.Node.quotedValue p.2).toList

theorem ne_of_contains_eq_false {s : String} {quote : Char} (h : s.contains quote = false) :
    ∀ c ∈ s.toList, c ≠ quote := by
  rw [String.contains_char_eq, decide_eq_false_iff_not] at h
  rintro c hc rfl
  exact h hc

theorem readsAttrs_printedAttr : Html.ReadsAttrs .lenient printedAttr := by
  intro tag attrs p rest h
  have hquoted : ∀ (quote : Char) (write : Char → List Char),
      Dialect.lenient.quotes.contains quote = true →
      (Markup.Node.quotedValue p.2).toList = quote :: (p.2.toList.flatMap write ++ [quote]) →
      (∀ c ∈ p.2.toList, ∀ value rest : List Char,
        Html.scan .lenient (.attrValue tag attrs p.1 quote value) (write c ++ rest)
          = Html.scan .lenient (.attrValue tag attrs p.1 quote (value ++ [c])) rest) →
      Html.scan .lenient (.attrEnd tag attrs) (' ' :: (printedAttr p ++ rest))
        = Html.scan .lenient (.attrEnd tag (attrs ++ [p])) rest := by
    intro quote write hquote hwritten hscan
    have hvalue := Html.scan_value_of hscan [] rest
    rw [List.nil_append, String.ofList_toList] at hvalue
    rw [printedAttr, hwritten, List.append_assoc, List.cons_append, List.cons_append,
      List.append_assoc]
    exact Html.scan_attr h hquote hvalue
  cases hdouble : p.2.contains '"' with
  | false =>
    refine hquoted '"' Html.escapeMarkupChar rfl ?_ fun c hc => ?_
    · rw [Markup.Node.quotedValue, hdouble]
      simp [Html.escapeMarkup]
    · exact scan_value_escapeMarkupChar (by decide) (ne_of_contains_eq_false hdouble c hc)
  | true =>
    cases hsingle : p.2.contains '\'' with
    | false =>
      refine hquoted '\'' Html.escapeMarkupChar rfl ?_ fun c hc => ?_
      · rw [Markup.Node.quotedValue, hdouble, hsingle]
        simp [Html.escapeMarkup]
      · exact scan_value_escapeMarkupChar (by decide) (ne_of_contains_eq_false hsingle c hc)
    | true =>
      refine hquoted '"' Markup.Node.escapeQuotedChar rfl ?_ fun c _ => ?_
      · rw [Markup.Node.quotedValue, hdouble, hsingle]
        simp
      · exact scan_value_escapeQuotedChar c

/-- The attributes of a tree that keeps given ones. -/
def treePairs (tag : String) (attrs : List (String × String)) : List (String × Option String) :=
  attrs.map fun p => (p.1, some (Markup.keepValue tag p.1 p.2))

theorem toList_printAttrs (tag : String) (attrs : List (String × String)) :
    (Markup.Node.printAttrs (treePairs tag attrs)).toList
      = (Html.printedPairs tag attrs).flatMap fun p => ' ' :: printedAttr p := by
  have hsort : Markup.Node.sortAttrs (treePairs tag attrs)
      = (Html.printedPairs tag attrs).map fun p => (p.1, some p.2) := by
    have hpairs : treePairs tag attrs
        = (attrs.map fun p => (p.1, Markup.keepValue tag p.1 p.2)).map
            fun p => (p.1, some p.2) := by
      rw [treePairs, List.map_map]
      rfl
    rw [Markup.Node.sortAttrs, hpairs, Html.printedPairs]
    refine (List.map_mergeSort ?_).symm
    intro a _ b _
    rfl
  rw [Markup.Node.printAttrs, hsort, String.toList_join, List.map_map, List.flatMap_map]
  apply List.flatMap_congr
  intro p _
  simp [Markup.Node.printAttr, printedAttr]

theorem mem_names_printedPairs {tag : String} {attrs : List (String × String)}
    (h : ∀ p ∈ attrs, Html.isWord p.1.toList = true) :
    ∀ p ∈ Html.printedPairs tag attrs, Html.isWord p.1.toList = true := by
  intro p hp
  rw [Html.printedPairs, List.mem_mergeSort, List.mem_map] at hp
  obtain ⟨q, hq, rfl⟩ := hp
  exact h q hq

theorem attrTexts_ofTexts (tag : String) (pairs : List (String × String)) :
    Markup.attrTexts tag (AttrMap.ofTexts pairs) = .ok (treePairs tag pairs) := by
  induction pairs with
  | nil => rfl
  | cons p rest ih =>
    rw [Markup.attrTexts, AttrMap.ofTexts] at ih
    rw [Markup.attrTexts, AttrMap.ofTexts, List.map_cons, List.mapM_cons, ih]
    rfl

theorem exists_treeElement {attrs : Option AttrMap} (h : attrsTyped attrs = true) :
    ∃ kept : List (String × String), keptAttrs attrs = some kept
      ∧ (∀ p ∈ kept, Html.isWord p.1.toList = true)
      ∧ ∀ (tag : String) (children : Option (List Markup.Node)),
        Markup.treeOutput.element tag attrs children
          = ⟨Html.heard attrs, .ok [.element tag (treePairs tag kept) (children.getD [])]⟩ := by
  obtain ⟨kept, hkept, hwritable, hwords⟩ := exists_writable h
  refine ⟨kept, hkept, hwords, ?_⟩
  intro tag children
  show (do
    let attrs ← Markup.attrTexts tag (← Html.writable (attrs.getD []))
    return [Markup.Node.element tag attrs (children.getD [])]) = _
  rw [hwritable, Traced.ok_bind, attrTexts_ofTexts]
  exact congrArg (Traced.mk · _) (List.append_nil _)

/-! ### Reports -/

theorem treeOutput_reports : Markup.treeOutput.Reports Html.heard where
  text _ := ⟨_, rfl⟩
  raw _ := ⟨_, rfl⟩
  element tag attrs children h := by
    obtain ⟨kept, _, _, helement⟩ := exists_treeElement h
    exact ⟨_, helement tag children⟩

theorem stringOutput_reports : Html.stringOutput.Reports Html.heard where
  text _ := ⟨_, rfl⟩
  raw _ := ⟨_, rfl⟩
  element tag attrs children h := by
    obtain ⟨_, w, _, hw, _⟩ := exists_keptAttrs h
    have hattrs : (Html.renderAttrs attrs).Yields (Html.heard attrs) := ⟨w, hw⟩
    show (Html.writeElement tag attrs children).Yields _
    rw [Html.writeElement]
    cases Html.voidTags.contains tag with
    | true => exact hattrs.map fun w => "<" ++ tag ++ w ++ ">"
    | false => exact hattrs.map fun w =>
        "<" ++ tag ++ w ++ ">" ++ children.getD "" ++ "</" ++ tag ++ ">"

/-! ### Printed trees -/

theorem printAll_append (verbatim : Bool) (nodes more : List Markup.Node) :
    Markup.Node.printAll verbatim (nodes ++ more)
      = Markup.Node.printAll verbatim nodes ++ Markup.Node.printAll verbatim more := by
  induction nodes with
  | nil => exact String.empty_append.symm
  | cons n rest ih =>
    rw [List.cons_append, Markup.Node.printAll, Markup.Node.printAll, ih, String.append_assoc]

theorem print_append (nodes more : List Markup.Node) :
    Markup.print (nodes ++ more) = Markup.print nodes ++ Markup.print more :=
  printAll_append false nodes more

theorem print_singleton (n : Markup.Node) : Markup.print [n] = n.print false := by
  rw [Markup.print, Markup.Node.printAll, Markup.Node.printAll, String.append_empty]

theorem voidTags_of_mem_tags : ∀ tag ∈ emptyTags ++ nestingTags,
    Markup.Node.voidTags.contains tag = Html.voidTags.contains tag
      ∧ Markup.isVerbatimTag tag = false := by decide

theorem treeOutput_readable :
    Markup.treeOutput.Readable .lenient (fun nodes => (Markup.print nodes).toList) Tree.Alike where
  lawful := Markup.treeOutput_lawful
  shown_empty := rfl
  shown_combine nodes more := by
    rw [← String.toList_append, ← print_append]
    rfl
  childless _ _ := rfl
  addText := Html.forall₂_addText
  text s := by
    refine ⟨[.text s], rfl, ?_⟩
    intro rest
    have hprint : (Markup.print [.text s]).toList = s.toList.flatMap Html.escapeMarkupChar := by
      rw [print_singleton]
      exact String.toList_ofList
    rw [hprint]
    exact Html.scan_text_of scan_escapeMarkupChar s.toList rest
  void := by
    intro tag attrs htag hvoid hattrs
    obtain ⟨kept, hkept, hwords, helement⟩ := exists_treeElement hattrs
    have hmem : tag ∈ emptyTags ++ nestingTags := List.mem_append_left _ htag
    refine ⟨kept, Html.printedPairs tag kept, [.element tag (treePairs tag kept) []], hkept,
      .element (Html.sameAttrs_printedPairs tag kept) .nil, ?_, ?_⟩
    · rw [helement]
      rfl
    · intro rest
      have hchars : (Markup.print [.element tag (treePairs tag kept) []]).toList ++ rest
          = '<' :: (tag.toList ++ ((Html.printedPairs tag kept).flatMap
            (fun p => ' ' :: printedAttr p) ++ '/' :: '>' :: rest)) := by
        rw [print_singleton, Markup.Node.print, (voidTags_of_mem_tags tag hmem).1, hvoid]
        simp [toList_printAttrs]
      rw [hchars]
      exact Html.scan_closed rfl readsAttrs_printedAttr (ReadAs.isWord_of_mem_tags tag hmem)
        (mem_names_printedPairs hwords) rest
  element := by
    intro tag attrs htag hvoid hattrs
    obtain ⟨kept, hkept, hwords, helement⟩ := exists_treeElement hattrs
    obtain ⟨hprinted, hverbatim⟩ := voidTags_of_mem_tags tag htag
    refine ⟨kept, Html.printedPairs tag kept, hkept,
      .element (Html.sameAttrs_printedPairs tag kept),
      fun nodes => ⟨[.element tag (treePairs tag kept) nodes], by rw [helement]; rfl, ?_⟩⟩
    intro rest
    have hchars : (Markup.print [.element tag (treePairs tag kept) nodes]).toList ++ rest
        = '<' :: (tag.toList ++ ((Html.printedPairs tag kept).flatMap
          (fun p => ' ' :: printedAttr p) ++ '>' :: ((Markup.print nodes).toList
            ++ '<' :: '/' :: (tag.toList ++ '>' :: rest)))) := by
      rw [print_singleton, Markup.Node.print, hprinted, hvoid, hverbatim, Bool.and_false,
        Markup.print]
      simp [toList_printAttrs]
    rw [hchars]
    exact Html.scan_opening readsAttrs_printedAttr (ReadAs.isWord_of_mem_tags tag htag)
      (mem_names_printedPairs hwords) _

/-! ### Documents -/

/-- Rendering a well-typed document as HTML text and as a tree of markup, with raw content left out
or shown as text, reports the same.  The text and the printed tree are read, by one lenient reader,
as trees that differ at most in the order of attributes and in the white space between words. -/
theorem outputs_are_alike (d : Document) (h : d.isTyped = true) (mode : RawMode)
    (hmode : mode = .drop ∨ mode = .escape) (limit : Option Limit) :
    ∃ (markup : String) (nodes : List Markup.Node) (events : List Event) (trees alike : List Tree),
      ((Config.plain mode limit).engine Html.stringOutput).renderDocument d = ⟨events, .ok markup⟩
      ∧ ((Config.plain mode limit).engine Markup.treeOutput).renderDocument d = ⟨events, .ok nodes⟩
      ∧ Html.read .lenient markup = some trees
      ∧ Html.read .lenient (Markup.print nodes) = some alike
      ∧ List.Forall₂ Tree.Alike trees alike := by
  have hkept : mode.keepsRaw = false := by
    rcases hmode with rfl | rfl <;> rfl
  have hsound := Document.sound_outlined h (Document.typed_numbering h) mode limit
  rw [hkept] at hsound
  obtain ⟨markup, trees, hwritten, htrees, hmarkup⟩ := exists_read_text (d := .lenient) rfl hsound
  obtain ⟨nodes, same, alike, hbuilt, hsame, hnodes, halike⟩ :=
    treeOutput_readable.exists_read hsound
  obtain rfl : trees = same := Option.some.inj (htrees.symm.trans hsame)
  have hstring := (Engine.outcome_renderDocument (c := Config.plain mode limit)
    Html.stringOutput_lawful rfl h).trans hwritten
  have htree := (Engine.outcome_renderDocument (c := Config.plain mode limit)
    Markup.treeOutput_lawful rfl h).trans hbuilt
  refine ⟨markup, nodes, d.footnotes.events
    ++ d.reported (Config.plain mode limit) Html.heard d.numbering, trees, alike, ?_, ?_, hmarkup,
    hnodes, halike⟩
  · exact (Engine.yields_renderDocument stringOutput_reports rfl h).eq hstring
  · exact (Engine.yields_renderDocument treeOutput_reports rfl h).eq htree

/-- Values with either quote and with both, classes with blanks in them, a name that cannot be
written and a void element. -/
def quotingDocument : Document :=
  ⟨[], [.div ⟨.str "both \" and '", [.str "two  words", .str " "],
      [("title", "only \""), ("lang", "it's & <>"), ("a=b", "1")]⟩
    [.para [.str (.str "x < y & \"z\""), .lineBreak, .note [.plain [.str (.str "'")]]]]]⟩

theorem quotingDocument_outputs_are_alike :
    quotingDocument.isTyped = true
    ∧ ∃ (markup : String) (nodes : List Markup.Node) (trees alike : List Tree),
      (((Config.plain .drop none).engine Html.stringOutput).renderDocument
        quotingDocument).outcome = .ok markup
      ∧ (((Config.plain .drop none).engine Markup.treeOutput).renderDocument
        quotingDocument).outcome = .ok nodes
      ∧ Html.read .lenient markup = some trees
      ∧ Html.read .lenient (Markup.print nodes) = some alike
      ∧ List.Forall₂ Tree.Alike trees alike := by
  have h : quotingDocument.isTyped = true := by decide
  obtain ⟨markup, nodes, events, trees, alike, hmarkup, hnodes, hread, hprinted, halike⟩ :=
    outputs_are_alike quotingDocument h .drop (.inl rfl) none
  exact ⟨h, markup, nodes, trees, alike, by rw [hmarkup], by rw [hnodes], hread, hprinted, halike⟩

end PandocHtml
