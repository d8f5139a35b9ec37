import PandocHtml.Pandoc.Load
import PandocHtml.Proofs.Document.Displayed
import PandocHtml.Proofs.Pandoc.Levels

/-!
# Encoded documents

The encoded form of nodes, metadata and documents.  An element is an object with its tag and its
contents, and contents have a fixed order: attributes first, head rows before body rows.  Reading
an encoded node, a part of one or an encoded document gives exactly what was encoded.
-/

namespace PandocHtml

/-! ### Encoding -/

namespace Pandoc

def tagged (tag : String) (contents : Json) : Json := .obj [("t", .str tag), ("c", contents)]

/-- A tag without contents. -/
def bare (tag : String) : Json := .obj [("t", .str tag)]

end Pandoc

open Pandoc

def Attr.encode (a : Attr) : Json :=
  .arr [a.identifier, .arr a.classes, .arr (a.pairs.map fun p => .arr [.str p.1, .str p.2])]

def Target.encode (t : Target) : Json := .arr [t.url, t.title]

def ListAttributes.encode (a : ListAttributes) : Json :=
  .arr [a.start, bare a.style.name, bare a.delimiter.name]

/-- The alignment of a column and its width, for which `null` stands for the default. -/
def ColSpec.encode (c : ColSpec) : Json :=
  .arr [bare c.alignment.name,
    match c.width with
    | .null => bare "ColWidthDefault"
    | width => tagged "ColWidth" width]

mutual

def Inline.encode : Inline → Json
  | .str text => tagged "Str" text
  | .styled style content => tagged style.name (.arr (encodeInlines content))
  | .quoted kind content => tagged "Quoted" (.arr [bare kind.name, .arr (encodeInlines content)])
  | .cite citations content =>
    tagged "Cite" (.arr [.arr (encodeCitations citations), .arr (encodeInlines content)])
  | .code attr text => tagged "Code" (.arr [attr.encode, text])
  | .space => bare "Space"
  | .softBreak => bare "SoftBreak"
  | .lineBreak => bare "LineBreak"
  | .math kind text => tagged "Math" (.arr [bare kind.name, text])
  | .raw format text => tagged "RawInline" (.arr [format, text])
  | .link attr content target =>
    tagged "Link" (.arr [attr.encode, .arr (encodeInlines content), target.encode])
  | .image attr content target =>
    tagged "Image" (.arr [attr.encode, .arr (encodeInlines content), target.encode])
  | .note blocks => tagged "Note" (.arr (encodeBlocks blocks))
  | .span attr content => tagged "Span" (.arr [attr.encode, .arr (encodeInlines content)])

def Block.encode : Block → Json
  | .plain content => tagged "Plain" (.arr (encodeInlines content))
  | .para content => tagged "Para" (.arr (encodeInlines content))
  | .lineBlock lines => tagged "LineBlock" (.arr (encodeLines lines))
  | .codeBlock attr text => tagged "CodeBlock" (.arr [attr.encode, text])
  | .raw format text => tagged "RawBlock" (.arr [format, text])
  | .blockQuote blocks => tagged "BlockQuote" (.arr (encodeBlocks blocks))
  | .orderedList attributes items =>
    tagged "OrderedList" (.arr [attributes.encode, .arr (encodeItems items)])
  | .bulletList items => tagged "BulletList" (.arr (encodeItems items))
  | .definitionList items => tagged "DefinitionList" (.arr (encodeDefinitions items))
  | .header level attr content =>
    tagged "Header" (.arr [level, attr.encode, .arr (encodeInlines content)])
  | .horizontalRule => bare "HorizontalRule"
  | .table attr caption colSpecs head bodies foot =>
    tagged "Table" (.arr [attr.encode, caption.encode, .arr (colSpecs.map ColSpec.encode),
      head.encode, .arr (encodeBodies bodies), foot.encode])
  | .figure attr caption blocks =>
    tagged "Figure" (.arr [attr.encode, caption.encode, .arr (encodeBlocks blocks)])
  | .div attr blocks => tagged "Div" (.arr [attr.encode, .arr (encodeBlocks blocks)])

def Citation.encode : Citation → Json
  | ⟨id, before, after, mode, noteNumber, hash⟩ =>
    .obj [("citationId", id), ("citationPrefix", .arr (encodeInlines before)),
      ("citationSuffix", .arr (encodeInlines after)), ("citationMode", bare mode.name),
      ("citationNoteNum", noteNumber), ("citationHash", hash)]

def Definition.encode : Definition → Json
  | ⟨term, meanings⟩ => .arr [.arr (encodeInlines term), .arr (encodeItems meanings)]

/-- A caption; an absent short form is `null`. -/
def Caption.encode : Caption → Json
  | ⟨none, blocks⟩ => .arr [.null, .arr (encodeBlocks blocks)]
  | ⟨some short, blocks⟩ => .arr [.arr (encodeInlines short), .arr (encodeBlocks blocks)]

def RowGroup.encode : RowGroup → Json
  | ⟨attr, rows⟩ => .arr [attr.encode, .arr (encodeRows rows)]

def TableBody.encode : TableBody → Json
  | ⟨attr, headColumns, headRows, rows⟩ =>
    .arr [attr.encode, headColumns, .arr (encodeRows headRows), .arr (encodeRows rows)]

def Row.encode : Row → Json
  | ⟨attr, cells⟩ => .arr [attr.encode, .arr (encodeCells cells)]

def Cell.encode : Cell → Json
  | ⟨attr, alignment, rowSpan, colSpan, blocks⟩ =>
    .arr [attr.encode, bare alignment.name, rowSpan, colSpan, .arr (encodeBlocks blocks)]

def encodeInlines : List Inline → List Json
  | [] => []
  | i :: rest => i.encode :: encodeInlines rest

def encodeBlocks : List Block → List Json
  | [] => []
  | b :: rest => b.encode :: encodeBlocks rest

def encodeLines : List (List Inline) → List Json
  | [] => []
  | line :: rest => .arr (encodeInlines line) :: encodeLines rest

def encodeItems : List (List Block) → List Json
  | [] => []
  | item :: rest => .arr (encodeBlocks item) :: encodeItems rest

def encodeDefinitions : List Definition → List Json
  | [] => []
  | d :: rest => d.encode :: encodeDefinitions rest

def encodeCitations : List Citation → List Json
  | [] => []
  | c :: rest => c.encode :: encodeCitations rest

def encodeBodies : List TableBody → List Json
  | [] => []
  | b :: rest => b.encode :: encodeBodies rest

def encodeRows : List Row → List Json
  | [] => []
  | r :: rest => r.encode :: encodeRows rest

def encodeCells : List Cell → List Json
  | [] => []
  | c :: rest => c.encode :: encodeCells rest

end

/-! ### Encoded metadata -/

mutual

/-- Maps, lists, texts and truth values in one another. -/
def Json.isMetadata : Json → Bool
  | .obj fields => fieldsAreMetadata fields
  | .arr items => itemsAreMetadata items
  | .str _ | .bool _ => true
  | _ => false

def itemsAreMetadata : List Json → Bool
  | [] => true
  | v :: rest => v.isMetadata && itemsAreMetadata rest

def fieldsAreMetadata : List (String × Json) → Bool
  | [] => true
  | (_, v) :: rest => v.isMetadata && fieldsAreMetadata rest

end

mutual

def Json.encodeMetadata : Json → Json
  | .obj fields => tagged "MetaMap" (.obj (encodeMetadataFields fields))
  | .arr items => tagged "MetaList" (.arr (encodeMetadataItems items))
  | .bool b => tagged "MetaBool" (.bool b)
  | v => tagged "MetaString" v

def encodeMetadataItems : List Json → List Json
  | [] => []
  | v :: rest => v.encodeMetadata :: encodeMetadataItems rest

def encodeMetadataFields : List (String × Json) → List (String × Json)
  | [] => []
  | (name, v) :: rest => (name, v.encodeMetadata) :: encodeMetadataFields rest

end

def Document.encode (d : Document) : Json :=
  .obj [("pandoc-api-version", .arr knownVersion), ("meta", .obj (encodeMetadataFields d.metadata)),
    ("blocks", .arr (encodeBlocks d.blocks))]

namespace Pandoc

/-! ### Reading what was encoded -/

theorem bind_of_ok {ε α β : Type} {x : Except ε α} {a : α} {f : α → Except ε β} {b : β}
    (hx : x = .ok a) (hf : f a = .ok b) : x >>= f = .ok b := by
  rw [hx]
  exact hf

theorem mapM_map_eq_ok {ε α β : Type} {f : β → Except ε α} {g : α → β} {xs : List α}
    (h : ∀ x ∈ xs, f (g x) = .ok x) : (xs.map g).mapM f = .ok xs := by
  induction xs with
  | nil => rfl
  | cons x rest ih =>
    rw [List.forall_mem_cons] at h
    rw [List.map_cons, List.mapM_cons, h.1, ih h.2]
    rfl

theorem attr_encode [Host] (a : Attr) : attr a.encode = .ok a := by
  have hpairs : (a.pairs.map fun p => Json.arr [.str p.1, .str p.2]).mapM textPair = .ok a.pairs :=
    mapM_map_eq_ok fun p _ => rfl
  exact bind_of_ok rfl (bind_of_ok rfl (bind_of_ok hpairs rfl))

theorem target_encode (t : Target) : Readers.target t.encode = .ok t := rfl

theorem colSpec_encode [Host] (c : ColSpec) : Readers.colSpec c.encode = .ok c := by
  obtain ⟨alignment, width⟩ := c
  cases alignment <;> cases width <;> rfl

theorem taggedChoice_alignment [Host] (a : Alignment) :
    taggedChoice "Alignment" Alignment.names (bare a.name) = .ok a := by
  cases a <;> rfl

theorem taggedChoice_quoteKind [Host] (k : QuoteKind) :
    taggedChoice "QuoteType" QuoteKind.names (bare k.name) = .ok k := by
  cases k <;> rfl

theorem taggedChoice_mathKind [Host] (k : MathKind) :
    taggedChoice "MathType" MathKind.names (bare k.name) = .ok k := by
  cases k <;> rfl

theorem taggedChoice_citationMode [Host] (m : CitationMode) :
    taggedChoice "CitationMode" CitationMode.names (bare m.name) = .ok m := by
  cases m <;> rfl

theorem taggedChoice_numberStyle [Host] (s : NumberStyle) :
    taggedChoice "ListNumberStyle" NumberStyle.names (bare s.name) = .ok s := by
  cases s <;> rfl

theorem taggedChoice_numberDelimiter [Host] (d : NumberDelimiter) :
    taggedChoice "ListNumberDelim" NumberDelimiter.names (bare d.name) = .ok d := by
  cases d <;> rfl

/-- An encoded node is read back. -/
def Readers.ReadsBack (r : Readers) : Node → Prop
  | .inline i => r.inline i.encode = .ok i
  | .block b => r.block b.encode = .ok b

namespace Readers

variable {r : Readers}

/-! ### Sequences -/

theorem encodeInlines_eq_map (content : List Inline) :
    encodeInlines content = content.map Inline.encode := by
  induction content with
  | nil => rfl
  | cons i rest ih => rw [encodeInlines, ih, List.map_cons]

theorem encodeBlocks_eq_map (blocks : List Block) :
    encodeBlocks blocks = blocks.map Block.encode := by
  induction blocks with
  | nil => rfl
  | cons b rest ih => rw [encodeBlocks, ih, List.map_cons]

theorem encodeLines_eq_map (lines : List (List Inline)) :
    encodeLines lines = lines.map fun line => .arr (encodeInlines line) := by
  induction lines with
  | nil => rfl
  | cons line rest ih => rw [encodeLines, ih, List.map_cons]

theorem encodeItems_eq_map (items : List (List Block)) :
    encodeItems items = items.map fun item => .arr (encodeBlocks item) := by
  induction items with
  | nil => rfl
  | cons item rest ih => rw [encodeItems, ih, List.map_cons]

theorem encodeDefinitions_eq_map (items : List Definition) :
    encodeDefinitions items = items.map Definition.encode := by
  induction items with
  | nil => rfl
  | cons d rest ih => rw [encodeDefinitions, ih, List.map_cons]

theorem encodeCitations_eq_map (citations : List Citation) :
    encodeCitations citations = citations.map Citation.encode := by
  induction citations with
  | nil => rfl
  | cons c rest ih => rw [encodeCitations, ih, List.map_cons]

theorem encodeBodies_eq_map (bodies : List TableBody) :
    encodeBodies bodies = bodies.map TableBody.encode := by
  induction bodies with
  | nil => rfl
  | cons b rest ih => rw [encodeBodies, ih, List.map_cons]

theorem encodeRows_eq_map (rows : List Row) : encodeRows rows = rows.map Row.encode := by
  induction rows with
  | nil => rfl
  | cons r rest ih => rw [encodeRows, ih, List.map_cons]

theorem encodeCells_eq_map (cells : List Cell) : encodeCells cells = cells.map Cell.encode := by
  induction cells with
  | nil => rfl
  | cons c rest ih => rw [encodeCells, ih, List.map_cons]

theorem inlines_encode {content : List Inline}
    (h : ∀ c ∈ content.map Node.inline, r.ReadsBack c) :
    r.inlines (.arr (encodeInlines content)) = .ok content := by
  rw [List.forall_mem_map] at h
  rw [encodeInlines_eq_map]
  refine bind_of_ok rfl (mapM_map_eq_ok fun i hi => ?_)
  have hread : r.inline i.encode = .ok i := h i hi
  rw [hread]
  rfl

theorem blocks_encode {blocks : List Block} (h : ∀ c ∈ blocks.map Node.block, r.ReadsBack c) :
    r.blocks (.arr (encodeBlocks blocks)) = .ok blocks := by
  rw [List.forall_mem_map] at h
  rw [encodeBlocks_eq_map]
  refine bind_of_ok rfl (mapM_map_eq_ok fun b hb => ?_)
  have hread : r.block b.encode = .ok b := h b hb
  rw [hread]
  rfl

theorem lines_encode {lines : List (List Inline)}
    (h : ∀ c ∈ lines.flatMap (fun line => line.map Node.inline), r.ReadsBack c) :
    (encodeLines lines).mapM r.inlines = .ok lines := by
  rw [encodeLines_eq_map]
  refine mapM_map_eq_ok fun line hline => inlines_encode fun c hc => h c ?_
  exact List.mem_flatMap.mpr ⟨line, hline, hc⟩

theorem blockLists_encode {items : List (List Block)}
    (h : ∀ c ∈ items.flatMap (fun item => item.map Node.block), r.ReadsBack c) :
    r.blockLists (.arr (encodeItems items)) = .ok items := by
  rw [encodeItems_eq_map]
  refine bind_of_ok rfl (mapM_map_eq_ok fun item hitem => blocks_encode fun c hc => h c ?_)
  exact List.mem_flatMap.mpr ⟨item, hitem, hc⟩

/-! ### Records -/

theorem definition_encode (d : Definition)
    (h : ∀ c ∈ d.term.map Node.inline ++ d.meanings.flatMap (fun m => m.map Node.block),
      r.ReadsBack c) :
    r.definition d.encode = .ok d := by
  obtain ⟨term, meanings⟩ := d
  rw [List.forall_mem_append] at h
  exact bind_of_ok rfl (bind_of_ok (inlines_encode h.1) (bind_of_ok (blockLists_encode h.2) rfl))

theorem definitions_encode {items : List Definition}
    (h : ∀ c ∈ items.flatMap (fun d =>
      d.term.map Node.inline ++ d.meanings.flatMap fun m => m.map Node.block), r.ReadsBack c) :
    (encodeDefinitions items).mapM r.definition = .ok items := by
  rw [encodeDefinitions_eq_map]
  refine mapM_map_eq_ok fun d hd => definition_encode d fun c hc => h c ?_
  exact List.mem_flatMap.mpr ⟨d, hd, hc⟩

theorem citation_encode [Host] (c : Citation)
    (h : ∀ n ∈ c.before.map Node.inline ++ c.after.map Node.inline, r.ReadsBack n) :
    r.citation c.encode = .ok c := by
  obtain ⟨id, before, after, mode, noteNumber, hash⟩ := c
  rw [List.forall_mem_append] at h
  refine bind_of_ok rfl (bind_of_ok rfl (bind_of_ok (inlines_encode h.1) ?_))
  refine bind_of_ok rfl (bind_of_ok (inlines_encode h.2) ?_)
  exact bind_of_ok rfl (bind_of_ok (taggedChoice_citationMode mode) rfl)

theorem citations_encode [Host] {citations : List Citation}
    (h : ∀ n ∈ citations.flatMap (fun c => c.before.map Node.inline ++ c.after.map Node.inline),
      r.ReadsBack n) :
    (encodeCitations citations).mapM r.citation = .ok citations := by
  rw [encodeCitations_eq_map]
  refine mapM_map_eq_ok fun c hc => citation_encode c fun n hn => h n ?_
  exact List.mem_flatMap.mpr ⟨c, hc, hn⟩

theorem caption_encode (c : Caption) (h : ∀ n ∈ c.nodes, r.ReadsBack n) :
    r.caption c.encode = .ok c := by
  obtain ⟨short, blocks⟩ := c
  rw [Caption.nodes, List.forall_mem_append] at h
  cases short with
  | none => exact bind_of_ok rfl (bind_of_ok rfl (bind_of_ok (blocks_encode h.2) rfl))
  | some short =>
    have hread : r.inlines (.arr (encodeInlines short)) = .ok short := inlines_encode h.1
    have hshort : some <$> r.inlines (.arr (encodeInlines short)) = .ok (some short) := by
      rw [hread]
      rfl
    exact bind_of_ok rfl (bind_of_ok hshort (bind_of_ok (blocks_encode h.2) rfl))

theorem cell_encode [Host] (c : Cell) (h : ∀ n ∈ c.blocks.map Node.block, r.ReadsBack n) :
    r.cell c.encode = .ok c := by
  obtain ⟨attribs, alignment, rowSpan, colSpan, blocks⟩ := c
  refine bind_of_ok rfl (bind_of_ok (blocks_encode h) (bind_of_ok (attr_encode attribs) ?_))
  exact bind_of_ok (taggedChoice_alignment alignment) rfl

theorem row_encode [Host] (w : Row) (h : ∀ n ∈ w.cells.flatMap (fun c => c.blocks.map Node.block),
    r.ReadsBack n) : r.row w.encode = .ok w := by
  obtain ⟨attribs, cells⟩ := w
  have hcells : (encodeCells cells).mapM r.cell = .ok cells := by
    rw [encodeCells_eq_map]
    refine mapM_map_eq_ok fun c hc => cell_encode c fun n hn => h n ?_
    exact List.mem_flatMap.mpr ⟨c, hc, hn⟩
  exact bind_of_ok rfl (bind_of_ok rfl (bind_of_ok hcells (bind_of_ok (attr_encode attribs) rfl)))

theorem rows_encode [Host] {rows : List Row} (h : ∀ n ∈ rowNodes rows, r.ReadsBack n) :
    r.rows (.arr (encodeRows rows)) = .ok rows := by
  rw [encodeRows_eq_map]
  refine bind_of_ok rfl (mapM_map_eq_ok fun w hw => row_encode w fun n hn => h n ?_)
  exact List.mem_flatMap.mpr ⟨w, hw, hn⟩

theorem tableBody_encode [Host] (b : TableBody)
    (h : ∀ n ∈ rowNodes b.headRows ++ rowNodes b.rows, r.ReadsBack n) :
    r.tableBody b.encode = .ok b := by
  obtain ⟨attribs, headColumns, headRows, rows⟩ := b
  rw [List.forall_mem_append] at h
  refine bind_of_ok rfl (bind_of_ok (rows_encode h.2) (bind_of_ok (rows_encode h.1) ?_))
  exact bind_of_ok (attr_encode attribs) rfl

theorem tableBodies_encode [Host] {bodies : List TableBody}
    (h : ∀ n ∈ bodies.flatMap (fun b => rowNodes b.headRows ++ rowNodes b.rows), r.ReadsBack n) :
    (encodeBodies bodies).mapM r.tableBody = .ok bodies := by
  rw [encodeBodies_eq_map]
  refine mapM_map_eq_ok fun b hb => tableBody_encode b fun n hn => h n ?_
  exact List.mem_flatMap.mpr ⟨b, hb, hn⟩

theorem orderedList_encode [Host] (attributes : ListAttributes) {items : List (List Block)}
    (h : ∀ c ∈ items.flatMap (fun item => item.map Node.block), r.ReadsBack c) :
    r.orderedList (.arr [attributes.encode, .arr (encodeItems items)])
      = .ok (.orderedList attributes items) := by
  obtain ⟨start, style, delimiter⟩ := attributes
  refine bind_of_ok rfl (bind_of_ok rfl (bind_of_ok (taggedChoice_numberStyle style) ?_))
  refine bind_of_ok (taggedChoice_numberDelimiter delimiter) ?_
  exact bind_of_ok (blockLists_encode h) rfl

theorem table_encode [Host] (attribs : Attr) (caption : Caption) (colSpecs : List ColSpec)
    (head : RowGroup) (bodies : List TableBody) (foot : RowGroup)
    (h : ∀ n ∈ (Block.table attribs caption colSpecs head bodies foot).children, r.ReadsBack n) :
    r.table (.arr [attribs.encode, caption.encode, .arr (colSpecs.map ColSpec.encode), head.encode,
        .arr (encodeBodies bodies), foot.encode])
      = .ok (.table attribs caption colSpecs head bodies foot) := by
  obtain ⟨headAttr, headRows⟩ := head
  obtain ⟨footAttr, footRows⟩ := foot
  simp only [Block.children, List.forall_mem_append] at h
  obtain ⟨⟨⟨hcaption, hhead⟩, hbodies⟩, hfoot⟩ := h
  have hcolSpecs : (colSpecs.map ColSpec.encode).mapM colSpec = .ok colSpecs :=
    mapM_map_eq_ok fun c _ => colSpec_encode c
  refine bind_of_ok rfl (bind_of_ok rfl (bind_of_ok rfl ?_))
  refine bind_of_ok (rows_encode hhead) (bind_of_ok (attr_encode headAttr) ?_)
  refine bind_of_ok rfl (bind_of_ok (tableBodies_encode hbodies) ?_)
  refine bind_of_ok (attr_encode attribs) (bind_of_ok (caption_encode caption hcaption) ?_)
  refine bind_of_ok rfl (bind_of_ok hcolSpecs ?_)
  exact bind_of_ok (rows_encode hfoot) (bind_of_ok (attr_encode footAttr) rfl)

end Readers

/-! ### Elements -/

theorem element_tagged [Host] {α : Type} {stage : String}
    {rule : String → Option (Json → Reading α)}
    {tag : String} {read : Json → Reading α} (h : rule tag = some read) {contents : Json} {a : α}
    (hread : read contents = .ok a) : element stage rule (tagged tag contents) = .ok a := by
  have htag : ((tagged tag contents).field? "t").getD .null = .str tag := rfl
  have hcontents : ((tagged tag contents).field? "c").getD .null = contents := rfl
  simp only [element, htag, h, hcontents, hread]
  rfl

section Elements

variable [Host] {r : Readers}

theorem element_encode_inline (i : Inline) (h : ∀ c ∈ i.children, r.ReadsBack c) :
    element "inline" r.inlineRule i.encode = .ok i := by
  cases i with
  | str text => rfl
  | styled style content =>
    have hrule : r.inlineRule style.name
        = some fun c => do return .styled style (← r.inlines c) := by
      cases style <;> rfl
    refine element_tagged hrule ?_
    exact bind_of_ok (Readers.inlines_encode h) rfl
  | quoted kind content =>
    refine element_tagged rfl ?_
    refine bind_of_ok rfl (bind_of_ok (taggedChoice_quoteKind kind) ?_)
    exact bind_of_ok rfl (bind_of_ok (Readers.inlines_encode h) rfl)
  | cite citations content =>
    rw [Inline.children, List.forall_mem_append] at h
    refine element_tagged rfl ?_
    refine bind_of_ok rfl (bind_of_ok rfl (bind_of_ok (Readers.citations_encode h.1) ?_))
    exact bind_of_ok rfl (bind_of_ok (Readers.inlines_encode h.2) rfl)
  | code attribs text =>
    refine element_tagged rfl ?_
    exact bind_of_ok rfl (bind_of_ok rfl (bind_of_ok (attr_encode attribs) rfl))
  | space => rfl
  | softBreak => rfl
  | lineBreak => rfl
  | math kind text =>
    refine element_tagged rfl ?_
    exact bind_of_ok rfl (bind_of_ok (taggedChoice_mathKind kind) rfl)
  | raw format text => rfl
  | link attribs content target =>
    refine element_tagged rfl ?_
    refine bind_of_ok rfl (bind_of_ok (Readers.inlines_encode h) ?_)
    refine bind_of_ok rfl (bind_of_ok (target_encode target) ?_)
    exact bind_of_ok rfl (bind_of_ok (attr_encode attribs) rfl)
  | image attribs content target =>
    refine element_tagged rfl ?_
    refine bind_of_ok rfl (bind_of_ok (Readers.inlines_encode h) ?_)
    refine bind_of_ok rfl (bind_of_ok (target_encode target) ?_)
    exact bind_of_ok rfl (bind_of_ok (attr_encode attribs) rfl)
  | note blocks =>
    refine element_tagged rfl ?_
    exact bind_of_ok (Readers.blocks_encode h) rfl
  | span attribs content =>
    refine element_tagged rfl ?_
    refine bind_of_ok rfl (bind_of_ok (Readers.inlines_encode h) ?_)
    exact bind_of_ok rfl (bind_of_ok (attr_encode attribs) rfl)

theorem element_encode_block (b : Block) (h : ∀ c ∈ b.children, r.ReadsBack c) :
    element "block" r.blockRule b.encode = .ok b := by
  cases b with
  | plain content =>
    refine element_tagged rfl ?_
    exact bind_of_ok (Readers.inlines_encode h) rfl
  | para content =>
    refine element_tagged rfl ?_
    exact bind_of_ok (Readers.inlines_encode h) rfl
  | lineBlock lines =>
    refine element_tagged rfl ?_
    exact bind_of_ok rfl (bind_of_ok (Readers.lines_encode h) rfl)
  | codeBlock attribs text =>
    refine element_tagged rfl ?_
    exact bind_of_ok rfl (bind_of_ok rfl (bind_of_ok (attr_encode attribs) rfl))
  | raw format text => rfl
  | blockQuote blocks =>
    refine element_tagged rfl ?_
    exact bind_of_ok (Readers.blocks_encode h) rfl
  | orderedList attributes items =>
    refine element_tagged rfl ?_
    exact Readers.orderedList_encode attributes h
  | bulletList items =>
    refine element_tagged rfl ?_
    exact bind_of_ok (Readers.blockLists_encode h) rfl
  | definitionList items =>
    refine element_tagged rfl ?_
    exact bind_of_ok rfl (bind_of_ok (Readers.definitions_encode h) rfl)
  | header level attribs content =>
    refine element_tagged rfl ?_
    refine bind_of_ok rfl (bind_of_ok rfl (bind_of_ok (Readers.inlines_encode h) ?_))
    exact bind_of_ok rfl (bind_of_ok (attr_encode attribs) rfl)
  | horizontalRule => rfl
  | table attribs caption colSpecs head bodies foot =>
    refine element_tagged rfl ?_
    exact Readers.table_encode attribs caption colSpecs head bodies foot h
  | figure attribs caption blocks =>
    rw [Block.children, List.forall_mem_append] at h
    refine element_tagged rfl ?_
    refine bind_of_ok rfl (bind_of_ok (Readers.blocks_encode h.2) ?_)
    refine bind_of_ok rfl (bind_of_ok (Readers.caption_encode caption h.1) ?_)
    exact bind_of_ok rfl (bind_of_ok (attr_encode attribs) rfl)
  | div attribs blocks =>
    refine element_tagged rfl ?_
    refine bind_of_ok rfl (bind_of_ok (Readers.blocks_encode h) ?_)
    exact bind_of_ok rfl (bind_of_ok (attr_encode attribs) rfl)

end Elements

variable [Host]

/-- Every encoded node is read back: its element by the rule for its tag, and what is inside it
because it is smaller. -/
theorem readsBack (n : Node) : ownReaders.ReadsBack n := by
  induction n using Node.induction with
  | step n ih =>
    cases n with
    | block b => exact (Block.ofJson_eq b.encode).trans (element_encode_block b ih)
    | inline i => exact (Inline.ofJson_eq i.encode).trans (element_encode_inline i ih)

/-! ### Metadata -/

mutual

theorem metadataWithin_encode : ∀ (v : Json) (levels : Nat), v.isMetadata = true →
    v.encodeMetadata.size ≤ levels → metadataWithin levels v.encodeMetadata = .ok v
  | .obj fields, levels, h, hsize => by
    simp only [Json.encodeMetadata, tagged, Json.size, Json.sizeFields] at hsize
    obtain ⟨n, rfl⟩ := Nat.exists_eq_add_one.mpr (show 0 < levels by omega)
    show (encodeMetadataFields fields).mapM _ >>= _ = _
    rw [mapM_metadataWithin_fields fields n h (by omega)]
    rfl
  | .arr items, levels, h, hsize => by
    simp only [Json.encodeMetadata, tagged, Json.size, Json.sizeFields] at hsize
    obtain ⟨n, rfl⟩ := Nat.exists_eq_add_one.mpr (show 0 < levels by omega)
    refine bind_of_ok rfl ?_
    exact bind_of_ok (mapM_metadataWithin_items items n h (by omega)) rfl
  | .str s, levels, _, hsize => by
    obtain ⟨n, rfl⟩ := Nat.exists_eq_add_one.mpr (Nat.lt_of_lt_of_le (Json.size_pos _) hsize)
    rfl
  | .bool b, levels, _, hsize => by
    obtain ⟨n, rfl⟩ := Nat.exists_eq_add_one.mpr (Nat.lt_of_lt_of_le (Json.size_pos _) hsize)
    rfl

theorem mapM_metadataWithin_items : ∀ (items : List Json) (levels : Nat),
    itemsAreMetadata items = true → Json.sizeItems (encodeMetadataItems items) ≤ levels →
    (encodeMetadataItems items).mapM (metadataWithin levels) = .ok items
  | [], _, _, _ => rfl
  | v :: rest, levels, h, hsize => by
    rw [itemsAreMetadata, Bool.and_eq_true] at h
    rw [encodeMetadataItems, Json.sizeItems] at hsize
    rw [encodeMetadataItems, List.mapM_cons, metadataWithin_encode v levels h.1 (by omega),
      mapM_metadataWithin_items rest levels h.2 (by omega)]
    rfl

theorem mapM_metadataWithin_fields : ∀ (fields : List (String × Json)) (levels : Nat),
    fieldsAreMetadata fields = true → Json.sizeFields (encodeMetadataFields fields) ≤ levels →
    (encodeMetadataFields fields).mapM (fun e => do return (e.1, ← metadataWithin levels e.2))
      = .ok fields
  | [], _, _, _ => rfl
  | (name, v) :: rest, levels, h, hsize => by
    rw [fieldsAreMetadata, Bool.and_eq_true] at h
    rw [encodeMetadataFields, Json.sizeFields] at hsize
    rw [encodeMetadataFields, List.mapM_cons, metadataWithin_encode v levels h.1 (by omega),
      mapM_metadataWithin_fields rest levels h.2 (by omega)]
    rfl

end

theorem metadataFieldsOfJson_encode {fields : List (String × Json)}
    (h : fieldsAreMetadata fields = true) :
    metadataFieldsOfJson (.obj (encodeMetadataFields fields)) = .ok fields := by
  show (encodeMetadataFields fields).mapM (fun f => do return (f.1, ← metadataOfJson f.2)) = _
  induction fields with
  | nil => rfl
  | cons f rest ih =>
    obtain ⟨name, v⟩ := f
    rw [fieldsAreMetadata, Bool.and_eq_true] at h
    have hv : metadataOfJson v.encodeMetadata = .ok v :=
      metadataWithin_encode v _ h.1 (Nat.le_refl _)
    rw [encodeMetadataFields, List.mapM_cons, ih h.2, hv]
    rfl

/-! ### Documents -/

theorem topLevelBlocks_encode (blocks : List Block) :
    topLevelBlocks (.arr (encodeBlocks blocks)) = .ok blocks := by
  rw [Readers.encodeBlocks_eq_map]
  exact bind_of_ok rfl (mapM_map_eq_ok fun b _ => readsBack (.block b))

end Pandoc

/-- The metadata of a document consists of maps, lists, texts and truth values. -/
def Document.hasPlainMetadata (d : Document) : Bool := fieldsAreMetadata d.metadata

/-- Reading undoes encoding.  Every encoded inline and every encoded block is read as exactly the
node that was encoded, and so is every encoded document whose metadata is encodable; nothing but
the number of its blocks is reported. -/
theorem ofJson_encode [Host] :
    (∀ i : Inline, Inline.ofJson i.encode = .ok i)
    ∧ (∀ b : Block, Block.ofJson b.encode = .ok b)
    ∧ ∀ d : Document, d.hasPlainMetadata = true →
      Document.ofJson d.encode = ⟨[.notice (.decoded d.blocks.length)], .ok d⟩ := by
  refine ⟨fun i => readsBack (.inline i), fun b => readsBack (.block b), ?_⟩
  intro d hd
  have hmetadata := metadataFieldsOfJson_encode hd
  have hblocks := topLevelBlocks_encode d.blocks
  show (do
    Pandoc.checkVersion (.arr knownVersion)
    let metadata ← metadataFieldsOfJson (.obj (encodeMetadataFields d.metadata))
    let blocks ← topLevelBlocks (.arr (encodeBlocks d.blocks))
    Traced.note (.decoded blocks.length)
    return ⟨metadata, blocks⟩ : Traced Document) = _
  rw [hmetadata, hblocks]
  rfl

/-- A table with all its parts, a citation and a footnote in it, under nested metadata. -/
def citedTable : Document :=
  ⟨[("title", .str "t"), ("tags", .arr [.bool false, .obj [("k", .arr []), ("l", .str "")]])],
    [.table ⟨.str "id", [.str "c", .str "c"], [("k", "v"), ("k", "w")]⟩
      ⟨some [.str (.str "short")], [.plain [.note [.horizontalRule]]]⟩
      [⟨.right, .null⟩, ⟨.left, .int 1⟩]
      ⟨.none, [⟨.none, [⟨.none, .center, .int 1, .int 2, []⟩]⟩]⟩
      [⟨.none, .int 1, [⟨.none, []⟩], []⟩]
      ⟨.none, []⟩,
    .para [.cite [⟨.str "key", [.space], [], .authorInText, .int 3, .int 4⟩] [.str (.str "[1]")]]]⟩

theorem ofJson_encode_citedTable :
    citedTable.hasPlainMetadata = true
    ∧ Document.ofJson citedTable.encode = ⟨[.notice (.decoded 2)], .ok citedTable⟩ :=
  ⟨by decide, ofJson_encode.2.2 citedTable (by decide)⟩

end PandocHtml
