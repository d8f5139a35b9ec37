import PandocHtml.Document.Datum
import PandocHtml.Document.PlainText
import PandocHtml.Footnote.Numbering
import PandocHtml.Proofs.Document.Displayed

/-!
# Well-typed documents

Fields may hold any value, but a document as Pandoc writes it has texts for texts and whole
numbers for levels, starts and spans.  A node is well-typed when its own fields are, and those of
all nodes under it.  A well-typed node can serve as a key, and its plain text exists.
-/

namespace PandocHtml

/-! ### Kinds of values -/

namespace Json

def isText : Json → Bool
  | .str _ => true
  | _ => false

def isInteger : Json → Bool
  | .int _ => true
  | _ => false

/-- A relative width: any number, or none. -/
def isWidth : Json → Bool
  | .null | .int _ | .float _ => true
  | _ => false

theorem eq_str_of_isText {v : Json} (h : v.isText = true) : ∃ s, v = .str s := by
  cases v with
  | str s => exact ⟨s, rfl⟩
  | _ => cases h

theorem eq_int_of_isInteger {v : Json} (h : v.isInteger = true) : ∃ n, v = .int n := by
  cases v with
  | int n => exact ⟨n, rfl⟩
  | _ => cases h

theorem isScalar_of_isText {v : Json} (h : v.isText = true) : v.isScalar = true := by
  obtain ⟨s, rfl⟩ := eq_str_of_isText h
  rfl

theorem isScalar_of_isInteger {v : Json} (h : v.isInteger = true) : v.isScalar = true := by
  obtain ⟨n, rfl⟩ := eq_int_of_isInteger h
  rfl

theorem isScalar_of_isWidth {v : Json} (h : v.isWidth = true) : v.isScalar = true := by
  cases v with
  | arr items => cases h
  | obj fields => cases h
  | _ => rfl

end Json

/-! ### Own fields -/

def Attr.isTyped (a : Attr) : Bool := a.identifier.isText && a.classes.all Json.isText

def Target.isTyped (t : Target) : Bool := t.url.isText && t.title.isText

/-- The spans of a cell are whole numbers. -/
def Cell.isTyped (c : Cell) : Bool :=
  c.attr.isTyped && c.rowSpan.isInteger && c.colSpan.isInteger

def Row.isTyped (r : Row) : Bool := r.attr.isTyped && r.cells.all Cell.isTyped

def RowGroup.isTyped (g : RowGroup) : Bool := g.attr.isTyped && g.rows.all Row.isTyped

/-- A body group with well-typed rows; its row heads are counted by a whole number. -/
def TableBody.isTyped (b : TableBody) : Bool :=
  b.attr.isTyped && b.headColumns.isInteger && b.headRows.all Row.isTyped && b.rows.all Row.isTyped

/-- The key of a citation is a text, its numbers are whole. -/
def Citation.isTyped (c : Citation) : Bool :=
  c.id.isText && c.noteNumber.isInteger && c.hash.isInteger

/-- The fields of a node itself are well-typed; nodes inside it are not looked at. -/
def Node.hasTypedFields : Node → Bool
  | .block b =>
    match b with
    | .codeBlock attr text => attr.isTyped && text.isText
    | .raw format text => format.isText && text.isText
    | .orderedList attributes _ => attributes.start.isInteger
    | .header level attr _ => level.isInteger && attr.isTyped
    | .table attr _ colSpecs head bodies foot =>
      attr.isTyped && colSpecs.all (fun c => c.width.isWidth) && head.isTyped
        && bodies.all TableBody.isTyped && foot.isTyped
    | .figure attr _ _ | .div attr _ => attr.isTyped
    | _ => true
  | .inline i =>
    match i with
    | .str text | .math _ text => text.isText
    | .cite citations _ => citations.all Citation.isTyped
    | .code attr text => attr.isTyped && text.isText
    | .raw format text => format.isText && text.isText
    | .link attr _ target | .image attr _ target => attr.isTyped && target.isTyped
    | .span attr _ => attr.isTyped
    | _ => true

def Node.isTyped (n : Node) : Bool := n.preorder.all Node.hasTypedFields

def blocksTyped (blocks : List Block) : Bool := (blocksPreorder blocks).all Node.hasTypedFields

def inlinesTyped (content : List Inline) : Bool :=
  (inlinesPreorder content).all Node.hasTypedFields

def Document.isTyped (d : Document) : Bool := blocksTyped d.blocks

theorem Node.isTyped_of_mem_preorder {n m : Node} (h : n.isTyped = true) (hm : m ∈ n.preorder) :
    m.hasTypedFields = true :=
  List.all_eq_true.mp h m hm

theorem Node.hasTypedFields_of_isTyped {n : Node} (h : n.isTyped = true) :
    n.hasTypedFields = true :=
  Node.isTyped_of_mem_preorder h n.mem_preorder_self

theorem nodesTyped_iff (ns : List Node) :
    (nodesPreorder ns).all Node.hasTypedFields = true ↔ ∀ n ∈ ns, n.isTyped = true := by
  rw [nodesPreorder, List.all_flatMap, List.all_eq_true]
  rfl

theorem Node.isTyped_of_mem_children {n c : Node} (h : n.isTyped = true) (hc : c ∈ n.children) :
    c.isTyped = true := by
  rw [Node.isTyped, Node.preorder_eq, List.all_cons, Bool.and_eq_true] at h
  exact (nodesTyped_iff n.children).mp h.2 c hc

theorem blocksTyped_iff (blocks : List Block) :
    blocksTyped blocks = true ↔ ∀ b ∈ blocks, (Node.block b).isTyped = true := by
  rw [blocksTyped, blocksPreorder_eq, nodesTyped_iff]
  exact List.forall_mem_map

theorem inlinesTyped_iff (content : List Inline) :
    inlinesTyped content = true ↔ ∀ i ∈ content, (Node.inline i).isTyped = true := by
  rw [inlinesTyped, inlinesPreorder_eq, nodesTyped_iff]
  exact List.forall_mem_map

theorem isTyped_of_mem_nodesPreorder {ns : List Node} (h : ∀ n ∈ ns, n.isTyped = true) {m : Node}
    (hm : m ∈ nodesPreorder ns) : m.isTyped = true := by
  have hall := List.all_eq_true.mp ((nodesTyped_iff ns).mpr h)
  have hsub := Node.preorder_sublist_of_mem_nodesPreorder hm
  exact List.all_eq_true.mpr fun c hc => hall c (hsub.subset hc)

/-! ### Keys -/

namespace Datum

theorem isKeyAll_eq_all (items : List Datum) : isKeyAll items = items.all isKey := by
  induction items with
  | nil => rfl
  | cons x rest ih => simp only [isKeyAll, ih, List.all_cons]

theorem isKeyAll_iff (items : List Datum) :
    isKeyAll items = true ↔ ∀ x ∈ items, x.isKey = true := by
  rw [isKeyAll_eq_all, List.all_eq_true]

end Datum

theorem Attr.isKey_of_isTyped {a : Attr} (h : a.isTyped = true) : a.isKey = true := by
  simp only [Attr.isTyped, Bool.and_eq_true, List.all_eq_true] at h
  simp only [Attr.isKey, Bool.and_eq_true, List.all_eq_true]
  exact ⟨Json.isScalar_of_isText h.1, fun v hv => Json.isScalar_of_isText (h.2 v hv)⟩

theorem Target.isKey_of_isTyped {t : Target} (h : t.isTyped = true) :
    t.url.isScalar = true ∧ t.title.isScalar = true := by
  simp only [Target.isTyped, Bool.and_eq_true] at h
  exact ⟨Json.isScalar_of_isText h.1, Json.isScalar_of_isText h.2⟩

theorem isKeyAll_inlineData (content : List Inline)
    (h : ∀ c ∈ content.map Node.inline, c.datum.isKey = true) :
    Datum.isKeyAll (inlineData content) = true := by
  rw [inlineData_eq_map, Datum.isKeyAll_iff, List.forall_mem_map]
  exact fun i hi => h (.inline i) (List.mem_map_of_mem hi)

theorem isKeyAll_blockData (blocks : List Block)
    (h : ∀ c ∈ blocks.map Node.block, c.datum.isKey = true) :
    Datum.isKeyAll (blockData blocks) = true := by
  rw [blockData_eq_map, Datum.isKeyAll_iff, List.forall_mem_map]
  exact fun b hb => h (.block b) (List.mem_map_of_mem hb)

theorem isKeyAll_lineData (lines : List (List Inline))
    (h : ∀ c ∈ lines.flatMap (fun line => line.map Node.inline), c.datum.isKey = true) :
    Datum.isKeyAll (lineData lines) = true := by
  induction lines with
  | nil => rfl
  | cons line rest ih =>
    rw [List.flatMap_cons, List.forall_mem_append] at h
    simp only [lineData, Datum.isKeyAll, Datum.isKey, isKeyAll_inlineData line h.1, ih h.2,
      Bool.and_self]

theorem isKeyAll_itemData (items : List (List Block))
    (h : ∀ c ∈ items.flatMap (fun item => item.map Node.block), c.datum.isKey = true) :
    Datum.isKeyAll (itemData items) = true := by
  induction items with
  | nil => rfl
  | cons item rest ih =>
    rw [List.flatMap_cons, List.forall_mem_append] at h
    simp only [itemData, Datum.isKeyAll, Datum.isKey, isKeyAll_blockData item h.1, ih h.2,
      Bool.and_self]

theorem isKeyAll_definitionData (items : List Definition)
    (h : ∀ c ∈ items.flatMap (fun d =>
      d.term.map Node.inline ++ d.meanings.flatMap fun m => m.map Node.block),
      c.datum.isKey = true) :
    Datum.isKeyAll (definitionData items) = true := by
  induction items with
  | nil => rfl
  | cons d rest ih =>
    obtain ⟨term, meanings⟩ := d
    rw [List.flatMap_cons, List.forall_mem_append, List.forall_mem_append] at h
    simp only [definitionData, Datum.isKeyAll, Datum.isKey, isKeyAll_inlineData term h.1.1,
      isKeyAll_itemData meanings h.1.2, ih h.2, Bool.and_self]

theorem isKeyAll_citationData (citations : List Citation)
    (ht : ∀ c ∈ citations, c.isTyped = true)
    (h : ∀ c ∈ citations.flatMap (fun c => c.before.map Node.inline ++ c.after.map Node.inline),
      c.datum.isKey = true) :
    Datum.isKeyAll (citationData citations) = true := by
  induction citations with
  | nil => rfl
  | cons c rest ih =>
    obtain ⟨id, before, after, mode, noteNumber, hash⟩ := c
    rw [List.flatMap_cons, List.forall_mem_append, List.forall_mem_append] at h
    rw [List.forall_mem_cons] at ht
    have hc := ht.1
    simp only [Citation.isTyped, Bool.and_eq_true] at hc
    simp only [citationData, Citation.datum, CitationMode.datum, choiceDatum, Datum.isKeyAll,
      Datum.isKey, Datum.isKeyFields, Json.isScalar_of_isText hc.1.1,
      Json.isScalar_of_isInteger hc.1.2, Json.isScalar_of_isInteger hc.2,
      isKeyAll_inlineData before h.1.1, isKeyAll_inlineData after h.1.2, ih ht.2 h.2,
      Bool.and_self]

theorem isKeyAll_cellData (cells : List Cell) (ht : ∀ c ∈ cells, c.isTyped = true)
    (h : ∀ c ∈ cells.flatMap (fun c => c.blocks.map Node.block), c.datum.isKey = true) :
    Datum.isKeyAll (cellData cells) = true := by
  induction cells with
  | nil => rfl
  | cons c rest ih =>
    obtain ⟨attr, alignment, rowSpan, colSpan, blocks⟩ := c
    rw [List.flatMap_cons, List.forall_mem_append] at h
    rw [List.forall_mem_cons] at ht
    have hc := ht.1
    simp only [Cell.isTyped, Bool.and_eq_true] at hc
    simp only [cellData, Cell.datum, Alignment.datum, choiceDatum, Datum.isKeyAll, Datum.isKey,
      Datum.isKeyFields, Attr.isKey_of_isTyped hc.1.1, Json.isScalar_of_isInteger hc.1.2,
      Json.isScalar_of_isInteger hc.2, isKeyAll_blockData blocks h.1, ih ht.2 h.2, Bool.and_self]

theorem isKeyAll_rowData (rows : List Row) (ht : ∀ r ∈ rows, r.isTyped = true)
    (h : ∀ c ∈ rowNodes rows, c.datum.isKey = true) :
    Datum.isKeyAll (rowData rows) = true := by
  induction rows with
  | nil => rfl
  | cons r rest ih =>
    obtain ⟨attr, cells⟩ := r
    rw [rowNodes, List.flatMap_cons, List.forall_mem_append] at h
    rw [List.forall_mem_cons] at ht
    have hr := ht.1
    simp only [Row.isTyped, Bool.and_eq_true, List.all_eq_true] at hr
    simp only [rowData, Row.datum, Datum.isKeyAll, Datum.isKey, Datum.isKeyFields,
      Attr.isKey_of_isTyped hr.1, isKeyAll_cellData cells hr.2 h.1, ih ht.2 h.2, Bool.and_self]

theorem RowGroup.isKey_datum (name : String) (g : RowGroup) (ht : g.isTyped = true)
    (h : ∀ c ∈ rowNodes g.rows, c.datum.isKey = true) : (g.datum name).isKey = true := by
  obtain ⟨attr, rows⟩ := g
  simp only [RowGroup.isTyped, Bool.and_eq_true, List.all_eq_true] at ht
  simp only [RowGroup.datum, Datum.isKey, Datum.isKeyFields, Attr.isKey_of_isTyped ht.1,
    isKeyAll_rowData rows ht.2 h, Bool.and_self]

theorem isKeyAll_bodyData (bodies : List TableBody) (ht : ∀ b ∈ bodies, b.isTyped = true)
    (h : ∀ c ∈ bodies.flatMap (fun b => rowNodes b.headRows ++ rowNodes b.rows),
      c.datum.isKey = true) :
    Datum.isKeyAll (bodyData bodies) = true := by
  induction bodies with
  | nil => rfl
  | cons b rest ih =>
    obtain ⟨attr, headColumns, headRows, rows⟩ := b
    rw [List.flatMap_cons, List.forall_mem_append, List.forall_mem_append] at h
    rw [List.forall_mem_cons] at ht
    have hb := ht.1
    simp only [TableBody.isTyped, Bool.and_eq_true, List.all_eq_true] at hb
    simp only [bodyData, TableBody.datum, Datum.isKeyAll, Datum.isKey, Datum.isKeyFields,
      Attr.isKey_of_isTyped hb.1.1.1, Json.isScalar_of_isInteger hb.1.1.2,
      isKeyAll_rowData headRows hb.1.2 h.1.1, isKeyAll_rowData rows hb.2 h.1.2, ih ht.2 h.2,
      Bool.and_self]

theorem Caption.isKey_datum (c : Caption) (h : ∀ n ∈ c.nodes, n.datum.isKey = true) :
    c.datum.isKey = true := by
  obtain ⟨short, blocks⟩ := c
  rw [Caption.nodes, List.forall_mem_append] at h
  have hblocks := isKeyAll_blockData blocks h.2
  cases short with
  | none => simp only [Caption.datum, Datum.isKey, Datum.isKeyFields, Json.isScalar, hblocks,
      Bool.and_self]
  | some short =>
    have hshort := isKeyAll_inlineData short h.1
    simp only [Caption.datum, Datum.isKey, Datum.isKeyFields, hshort, hblocks, Bool.and_self]

theorem Inline.isKey_of_children (i : Inline) (hf : (Node.inline i).hasTypedFields = true)
    (h : ∀ c ∈ i.children, c.datum.isKey = true) : i.datum.isKey = true := by
  cases i with
  | str text =>
    simp only [Inline.datum, Datum.isKey, Datum.isKeyFields, Json.isScalar_of_isText hf,
      Bool.and_self]
  | math kind text =>
    simp only [Inline.datum, MathKind.datum, choiceDatum, Datum.isKey, Datum.isKeyFields,
      Json.isScalar_of_isText hf, Bool.and_self]
  | cite citations content =>
    have hcs := List.all_eq_true.mp hf
    rw [Inline.children, List.forall_mem_append] at h
    simp only [Inline.datum, Datum.isKey, Datum.isKeyFields,
      isKeyAll_citationData citations hcs h.1, isKeyAll_inlineData content h.2, Bool.and_self]
  | code attr text =>
    simp only [Node.hasTypedFields, Bool.and_eq_true] at hf
    simp only [Inline.datum, Datum.isKey, Datum.isKeyFields, Attr.isKey_of_isTyped hf.1,
      Json.isScalar_of_isText hf.2, Bool.and_self]
  | raw format text =>
    simp only [Node.hasTypedFields, Bool.and_eq_true] at hf
    simp only [Inline.datum, Datum.isKey, Datum.isKeyFields, Json.isScalar_of_isText hf.1,
      Json.isScalar_of_isText hf.2, Bool.and_self]
  | link attr content target | image attr content target =>
    simp only [Node.hasTypedFields, Bool.and_eq_true] at hf
    have ht := Target.isKey_of_isTyped hf.2
    simp only [Inline.datum, Datum.isKey, Datum.isKeyFields, Attr.isKey_of_isTyped hf.1, ht.1,
      ht.2, isKeyAll_inlineData content h, Bool.and_self]
  | span attr content =>
    simp only [Inline.datum, Datum.isKey, Datum.isKeyFields, Attr.isKey_of_isTyped hf,
      isKeyAll_inlineData content h, Bool.and_self]
  | note blocks =>
    simp only [Inline.datum, Datum.isKey, Datum.isKeyFields, isKeyAll_blockData blocks h,
      Bool.and_self]
  | styled style content =>
    simp only [Inline.datum, Datum.isKey, Datum.isKeyFields, isKeyAll_inlineData content h,
      Bool.and_self]
  | quoted kind content =>
    simp only [Inline.datum, QuoteKind.datum, choiceDatum, Datum.isKey, Datum.isKeyFields,
      isKeyAll_inlineData content h, Bool.and_self]
  | space | softBreak | lineBreak => rfl

theorem isKeyAll_colSpecs (colSpecs : List ColSpec)
    (h : ∀ c ∈ colSpecs, c.width.isWidth = true) :
    Datum.isKeyAll (colSpecs.map ColSpec.datum) = true := by
  rw [Datum.isKeyAll_iff, List.forall_mem_map]
  intro c hc
  simp only [ColSpec.datum, Alignment.datum, choiceDatum, Datum.isKey, Datum.isKeyFields,
    Json.isScalar_of_isWidth (h c hc), Bool.and_self]

theorem Block.isKey_of_children (b : Block) (hf : (Node.block b).hasTypedFields = true)
    (h : ∀ c ∈ b.children, c.datum.isKey = true) : b.datum.isKey = true := by
  cases b with
  | plain content | para content =>
    simp only [Block.datum, Datum.isKey, Datum.isKeyFields, isKeyAll_inlineData content h,
      Bool.and_self]
  | lineBlock lines =>
    simp only [Block.datum, Datum.isKey, Datum.isKeyFields, isKeyAll_lineData lines h,
      Bool.and_self]
  | codeBlock attr text =>
    simp only [Node.hasTypedFields, Bool.and_eq_true] at hf
    simp only [Block.datum, Datum.isKey, Datum.isKeyFields, Attr.isKey_of_isTyped hf.1,
      Json.isScalar_of_isText hf.2, Bool.and_self]
  | raw format text =>
    simp only [Node.hasTypedFields, Bool.and_eq_true] at hf
    simp only [Block.datum, Datum.isKey, Datum.isKeyFields, Json.isScalar_of_isText hf.1,
      Json.isScalar_of_isText hf.2, Bool.and_self]
  | blockQuote blocks =>
    simp only [Block.datum, Datum.isKey, Datum.isKeyFields, isKeyAll_blockData blocks h,
      Bool.and_self]
  | orderedList attributes items =>
    simp only [Block.datum, ListAttributes.datum, NumberStyle.datum, NumberDelimiter.datum,
      choiceDatum, Datum.isKey, Datum.isKeyFields, Json.isScalar_of_isInteger hf,
      isKeyAll_itemData items h, Bool.and_self]
  | bulletList items =>
    simp only [Block.datum, Datum.isKey, Datum.isKeyFields, isKeyAll_itemData items h,
      Bool.and_self]
  | definitionList items =>
    simp only [Block.datum, Datum.isKey, Datum.isKeyFields, isKeyAll_definitionData items h,
      Bool.and_self]
  | header level attr content =>
    simp only [Node.hasTypedFields, Bool.and_eq_true] at hf
    simp only [Block.datum, Datum.isKey, Datum.isKeyFields, Json.isScalar_of_isInteger hf.1,
      Attr.isKey_of_isTyped hf.2, isKeyAll_inlineData content h, Bool.and_self]
  | horizontalRule => rfl
  | table attr caption colSpecs head bodies foot =>
    simp only [Node.hasTypedFields, Bool.and_eq_true, List.all_eq_true] at hf
    obtain ⟨⟨⟨⟨hattr, hcols⟩, hhead⟩, hbodies⟩, hfoot⟩ := hf
    simp only [Block.children, List.forall_mem_append] at h
    obtain ⟨⟨⟨hc, hh⟩, hb⟩, hft⟩ := h
    simp only [Block.datum, Datum.isKey, Datum.isKeyFields, Attr.isKey_of_isTyped hattr,
      isKeyAll_colSpecs colSpecs hcols, RowGroup.isKey_datum _ head hhead hh,
      isKeyAll_bodyData bodies hbodies hb, RowGroup.isKey_datum _ foot hfoot hft,
      Caption.isKey_datum caption hc, Bool.and_self]
  | figure attr caption blocks =>
    rw [Block.children, List.forall_mem_append] at h
    simp only [Block.datum, Datum.isKey, Datum.isKeyFields, Attr.isKey_of_isTyped hf,
      Caption.isKey_datum caption h.1, isKeyAll_blockData blocks h.2, Bool.and_self]
  | div attr blocks =>
    simp only [Block.datum, Datum.isKey, Datum.isKeyFields, Attr.isKey_of_isTyped hf,
      isKeyAll_blockData blocks h, Bool.and_self]

/-- Every value in a well-typed node can serve as a key. -/
theorem Node.isKey_of_isTyped (n : Node) (h : n.isTyped = true) : n.datum.isKey = true := by
  induction n using Node.induction with
  | step n ih =>
    have hf := Node.hasTypedFields_of_isTyped h
    have hc : ∀ c ∈ n.children, c.datum.isKey = true :=
      fun c hc => ih c hc (Node.isTyped_of_mem_children h hc)
    cases n with
    | block b => exact b.isKey_of_children hf hc
    | inline i => exact i.isKey_of_children hf hc

def isBodyKey (blocks : List Block) : Bool := (FootnoteBody.ofBlocks blocks).isKey

theorem isBodyKey_of_blocksTyped {blocks : List Block} (h : blocksTyped blocks = true) :
    isBodyKey blocks = true := by
  rw [isBodyKey, FootnoteBody.isKey, FootnoteBody.data, FootnoteBody.ofBlocks, List.map_map,
    Datum.isKeyAll_iff, List.forall_mem_map]
  intro b hb
  exact Node.isKey_of_isTyped (.block b) ((blocksTyped_iff blocks).mp h b hb)

/-! ### Plain text -/

theorem texts?_map_str (texts : List String) : Attr.texts? (texts.map Json.str) = some texts := by
  induction texts with
  | nil => rfl
  | cons s rest ih => simp only [List.map_cons, Attr.texts?, ih, Option.map_some]

theorem exists_map_str {values : List Json} (h : values.all Json.isText = true) :
    ∃ texts : List String, values = texts.map Json.str := by
  induction values with
  | nil => exact ⟨[], rfl⟩
  | cons v rest ih =>
    rw [List.all_cons, Bool.and_eq_true] at h
    obtain ⟨s, rfl⟩ := Json.eq_str_of_isText h.1
    obtain ⟨texts, rfl⟩ := ih h.2
    exact ⟨s :: texts, rfl⟩

theorem exists_inlineValues {content : List Inline}
    (h : ∀ i ∈ content, ∃ s, i.plainValue = .ok (.str s)) :
    ∃ texts : List String, inlineValues content = .ok (texts.map Json.str) := by
  induction content with
  | nil => exact ⟨[], rfl⟩
  | cons i rest ih =>
    obtain ⟨s, hs⟩ := h i (List.mem_cons_self ..)
    obtain ⟨texts, ht⟩ := ih fun j hj => h j (List.mem_cons_of_mem _ hj)
    refine ⟨s :: texts, ?_⟩
    simp only [inlineValues, hs, ht, List.map_cons]
    rfl

theorem joinTexts_map_str (texts : List String) :
    joinTexts (texts.map Json.str) = .ok (String.join texts) := by
  rw [joinTexts, texts?_map_str]

theorem Inline.exists_plainValue (i : Inline) (h : (Node.inline i).isTyped = true) :
    ∃ s, i.plainValue = .ok (.str s) := by
  have key : ∀ n : Node, n.isTyped = true → ∀ i, n = .inline i →
      ∃ s, i.plainValue = .ok (.str s) := by
    intro n
    induction n using Node.induction with
    | step n ih =>
      rintro h i rfl
      have hf := Node.hasTypedFields_of_isTyped h
      have inside : ∀ content : List Inline,
          (∀ c ∈ content.map Node.inline, c ∈ (Node.inline i).children) →
          ∃ texts : List String, inlineValues content = .ok (texts.map Json.str) := by
        intro content hsub
        apply exists_inlineValues
        intro j hj
        have hm := hsub (.inline j) (List.mem_map_of_mem hj)
        exact ih _ hm (Node.isTyped_of_mem_children h hm) j rfl
      cases i with
      | str text => exact (Json.eq_str_of_isText hf).imp fun s hs => by rw [hs]; rfl
      | math kind text => exact (Json.eq_str_of_isText hf).imp fun s hs => by rw [hs]; rfl
      | code attr text =>
        simp only [Node.hasTypedFields, Bool.and_eq_true] at hf
        exact (Json.eq_str_of_isText hf.2).imp fun s hs => by rw [hs]; rfl
      | space => exact ⟨" ", rfl⟩
      | softBreak => exact ⟨" ", rfl⟩
      | lineBreak => exact ⟨" ", rfl⟩
      | raw format text => exact ⟨"", rfl⟩
      | note blocks => exact ⟨"", rfl⟩
      | quoted kind content =>
        obtain ⟨texts, ht⟩ := inside content fun c hc => hc
        refine ⟨kind.opening ++ String.join texts ++ kind.closing, ?_⟩
        simp only [Inline.plainValue, ht, joinTexts_map_str]
        rfl
      | cite citations content =>
        obtain ⟨texts, ht⟩ := inside content fun c hc => List.mem_append_right _ hc
        refine ⟨String.join texts, ?_⟩
        simp only [Inline.plainValue, ht, joinTexts_map_str]
        rfl
      | styled _ content | link _ content _ | image _ content _ | span _ content =>
        obtain ⟨texts, ht⟩ := inside content fun c hc => hc
        refine ⟨String.join texts, ?_⟩
        simp only [Inline.plainValue, ht, joinTexts_map_str]
        rfl
  exact key (.inline i) h i rfl

theorem exists_plainText {content : List Inline}
    (h : ∀ i ∈ content, (Node.inline i).isTyped = true) : ∃ s, plainText content = .ok s := by
  obtain ⟨texts, ht⟩ := exists_inlineValues fun i hi => i.exists_plainValue (h i hi)
  refine ⟨String.join texts, ?_⟩
  simp only [plainText, ht, joinTexts_map_str]

end PandocHtml
