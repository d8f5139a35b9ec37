import Mathlib.Data.List.Forall2
import Mathlib.Data.List.Nodup
import PandocHtml.Document.Datum

/-!
# Equality field by field

Nodes are compared through their records.  On the nodes themselves the comparison says this: two
nodes are equal exactly when one constructor made both, from equal arguments.  Sequences are equal
entry by entry, choices when they are the same choice, values as values, and attributes by their
identifier, their classes and the set of their pairs.
-/

namespace PandocHtml

/-! ### Sequences of records -/

theorem Datum.sameAll_map_iff {α : Type} {f : α → Datum} {xs ys : List α} :
    Datum.sameAll (xs.map f) (ys.map f) = true
      ↔ List.Forall₂ (fun x y => (f x).same (f y) = true) xs ys := by
  induction xs generalizing ys with
  | nil =>
    cases ys with
    | nil => exact ⟨fun _ => .nil, fun _ => rfl⟩
    | cons y ys => exact iff_of_false (fun h => nomatch h) (fun h => nomatch h)
  | cons x xs ih =>
    cases ys with
    | nil => exact iff_of_false (fun h => nomatch h) (fun h => nomatch h)
    | cons y ys =>
      rw [List.map_cons, List.map_cons, Datum.sameAll, Bool.and_eq_true, ih, List.forall₂_cons]

theorem Datum.same_map_iff {α : Type} {f : α → Datum} {xs ys : List α} :
    (Datum.seq (xs.map f)).same (.seq (ys.map f)) = true
      ↔ List.Forall₂ (fun x y => (f x).same (f y) = true) xs ys := Datum.sameAll_map_iff

theorem lineData_eq_map (lines : List (List Inline)) :
    lineData lines = lines.map fun line => .seq (inlineData line) := by
  induction lines with
  | nil => rfl
  | cons line rest ih => rw [lineData, ih, List.map_cons]

theorem itemData_eq_map (items : List (List Block)) :
    itemData items = items.map fun item => .seq (blockData item) := by
  induction items with
  | nil => rfl
  | cons item rest ih => rw [itemData, ih, List.map_cons]

theorem definitionData_eq_map (items : List Definition) :
    definitionData items
      = items.map fun d => .seq [.seq (inlineData d.term), .seq (itemData d.meanings)] := by
  induction items with
  | nil => rfl
  | cons d rest ih =>
    obtain ⟨term, meanings⟩ := d
    rw [definitionData, ih, List.map_cons]

theorem citationData_eq_map (citations : List Citation) :
    citationData citations = citations.map Citation.datum := by
  induction citations with
  | nil => rfl
  | cons c rest ih => rw [citationData, ih, List.map_cons]

theorem cellData_eq_map (cells : List Cell) : cellData cells = cells.map Cell.datum := by
  induction cells with
  | nil => rfl
  | cons c rest ih => rw [cellData, ih, List.map_cons]

theorem rowData_eq_map (rows : List Row) : rowData rows = rows.map Row.datum := by
  induction rows with
  | nil => rfl
  | cons r rest ih => rw [rowData, ih, List.map_cons]

theorem bodyData_eq_map (bodies : List TableBody) :
    bodyData bodies = bodies.map TableBody.datum := by
  induction bodies with
  | nil => rfl
  | cons b rest ih => rw [bodyData, ih, List.map_cons]

/-! ### Choices -/

theorem QuoteKind.same_iff {a b : QuoteKind} : a.datum.same b.datum = true ↔ a = b := by
  cases a <;> cases b <;> decide

theorem MathKind.same_iff {a b : MathKind} : a.datum.same b.datum = true ↔ a = b := by
  cases a <;> cases b <;> decide

theorem CitationMode.same_iff {a b : CitationMode} : a.datum.same b.datum = true ↔ a = b := by
  cases a <;> cases b <;> decide

theorem Alignment.same_iff {a b : Alignment} : a.datum.same b.datum = true ↔ a = b := by
  cases a <;> cases b <;> decide

theorem NumberStyle.same_iff {a b : NumberStyle} : a.datum.same b.datum = true ↔ a = b := by
  cases a <;> cases b <;> decide

theorem NumberDelimiter.same_iff {a b : NumberDelimiter} :
    a.datum.same b.datum = true ↔ a = b := by
  cases a <;> cases b <;> decide

/-! ### Equal parts -/

abbrev SameInlines (xs ys : List Inline) : Prop := List.Forall₂ (fun i j => i.same j = true) xs ys

abbrev SameBlocks (xs ys : List Block) : Prop := List.Forall₂ (fun b c => b.same c = true) xs ys

/-- Attributes with equal identifiers, classes that are equal one by one, and the same pairs, in
whatever order and however often. -/
structure Attr.SameFields (a b : Attr) : Prop where
  identifier : a.identifier.same b.identifier = true
  classes : List.Forall₂ (fun v w => v.same w = true) a.classes b.classes
  pairs : ∀ p, p ∈ a.pairs ↔ p ∈ b.pairs

structure Target.SameFields (s t : Target) : Prop where
  url : s.url.same t.url = true
  title : s.title.same t.title = true

structure ListAttributes.SameFields (a b : ListAttributes) : Prop where
  start : a.start.same b.start = true
  style : a.style = b.style
  delimiter : a.delimiter = b.delimiter

structure ColSpec.SameFields (c d : ColSpec) : Prop where
  alignment : c.alignment = d.alignment
  width : c.width.same d.width = true

structure Citation.SameFields (c d : Citation) : Prop where
  id : c.id.same d.id = true
  before : SameInlines c.before d.before
  after : SameInlines c.after d.after
  mode : c.mode = d.mode
  noteNumber : c.noteNumber.same d.noteNumber = true
  hash : c.hash.same d.hash = true

structure Definition.SameFields (d e : Definition) : Prop where
  term : SameInlines d.term e.term
  meanings : List.Forall₂ SameBlocks d.meanings e.meanings

/-- Captions with equal blocks, and with equal short forms or none on either side. -/
structure Caption.SameFields (c d : Caption) : Prop where
  short : Option.Rel SameInlines c.short d.short
  blocks : SameBlocks c.blocks d.blocks

structure Cell.SameFields (c d : Cell) : Prop where
  attr : c.attr.SameFields d.attr
  alignment : c.alignment = d.alignment
  rowSpan : c.rowSpan.same d.rowSpan = true
  colSpan : c.colSpan.same d.colSpan = true
  blocks : SameBlocks c.blocks d.blocks

structure Row.SameFields (r s : Row) : Prop where
  attr : r.attr.SameFields s.attr
  cells : List.Forall₂ Cell.SameFields r.cells s.cells

structure RowGroup.SameFields (g h : RowGroup) : Prop where
  attr : g.attr.SameFields h.attr
  rows : List.Forall₂ Row.SameFields g.rows h.rows

structure TableBody.SameFields (b c : TableBody) : Prop where
  attr : b.attr.SameFields c.attr
  headColumns : b.headColumns.same c.headColumns = true
  headRows : List.Forall₂ Row.SameFields b.headRows c.headRows
  rows : List.Forall₂ Row.SameFields b.rows c.rows

/-! ### Equal nodes -/

/-- Inlines made by one constructor from equal arguments. -/
inductive Inline.SameFields : Inline → Inline → Prop where
  | str {s t : Json} (text : s.same t = true) : SameFields (.str s) (.str t)
  | styled (style : Style) {xs ys : List Inline} (content : SameInlines xs ys) :
      SameFields (.styled style xs) (.styled style ys)
  | quoted (kind : QuoteKind) {xs ys : List Inline} (content : SameInlines xs ys) :
      SameFields (.quoted kind xs) (.quoted kind ys)
  | cite {cs ds : List Citation} {xs ys : List Inline}
      (citations : List.Forall₂ Citation.SameFields cs ds) (content : SameInlines xs ys) :
      SameFields (.cite cs xs) (.cite ds ys)
  | code {a b : Attr} {s t : Json} (attr : a.SameFields b) (text : s.same t = true) :
      SameFields (.code a s) (.code b t)
  | space : SameFields .space .space
  | softBreak : SameFields .softBreak .softBreak
  | lineBreak : SameFields .lineBreak .lineBreak
  | math (kind : MathKind) {s t : Json} (text : s.same t = true) :
      SameFields (.math kind s) (.math kind t)
  | raw {f g s t : Json} (format : f.same g = true) (text : s.same t = true) :
      SameFields (.raw f s) (.raw g t)
  | link {a b : Attr} {xs ys : List Inline} {s t : Target} (attr : a.SameFields b)
      (content : SameInlines xs ys) (target : s.SameFields t) :
      SameFields (.link a xs s) (.link b ys t)
  | image {a b : Attr} {xs ys : List Inline} {s t : Target} (attr : a.SameFields b)
      (content : SameInlines xs ys) (target : s.SameFields t) :
      SameFields (.image a xs s) (.image b ys t)
  | note {xs ys : List Block} (blocks : SameBlocks xs ys) : SameFields (.note xs) (.note ys)
  | span {a b : Attr} {xs ys : List Inline} (attr : a.SameFields b)
      (content : SameInlines xs ys) : SameFields (.span a xs) (.span b ys)

/-- Blocks made by one constructor from equal arguments. -/
inductive Block.SameFields : Block → Block → Prop where
  | plain {xs ys : List Inline} (content : SameInlines xs ys) : SameFields (.plain xs) (.plain ys)
  | para {xs ys : List Inline} (content : SameInlines xs ys) : SameFields (.para xs) (.para ys)
  | lineBlock {xs ys : List (List Inline)} (lines : List.Forall₂ SameInlines xs ys) :
      SameFields (.lineBlock xs) (.lineBlock ys)
  | codeBlock {a b : Attr} {s t : Json} (attr : a.SameFields b) (text : s.same t = true) :
      SameFields (.codeBlock a s) (.codeBlock b t)
  | raw {f g s t : Json} (format : f.same g = true) (text : s.same t = true) :
      SameFields (.raw f s) (.raw g t)
  | blockQuote {xs ys : List Block} (blocks : SameBlocks xs ys) :
      SameFields (.blockQuote xs) (.blockQuote ys)
  | orderedList {a b : ListAttributes} {xs ys : List (List Block)} (attributes : a.SameFields b)
      (items : List.Forall₂ SameBlocks xs ys) :
      SameFields (.orderedList a xs) (.orderedList b ys)
  | bulletList {xs ys : List (List Block)} (items : List.Forall₂ SameBlocks xs ys) :
      SameFields (.bulletList xs) (.bulletList ys)
  | definitionList {xs ys : List Definition} (items : List.Forall₂ Definition.SameFields xs ys) :
      SameFields (.definitionList xs) (.definitionList ys)
  | header {l m : Json} {a b : Attr} {xs ys : List Inline} (level : l.same m = true)
      (attr : a.SameFields b) (content : SameInlines xs ys) :
      SameFields (.header l a xs) (.header m b ys)
  | horizontalRule : SameFields .horizontalRule .horizontalRule
  | table {a b : Attr} {c d : Caption} {cs ds : List ColSpec} {g g' f f' : RowGroup}
      {xs ys : List TableBody} (attr : a.SameFields b) (caption : c.SameFields d)
      (colSpecs : List.Forall₂ ColSpec.SameFields cs ds) (head : g.SameFields g')
      (bodies : List.Forall₂ TableBody.SameFields xs ys) (foot : f.SameFields f') :
      SameFields (.table a c cs g xs f) (.table b d ds g' ys f')
  | figure {a b : Attr} {c d : Caption} {xs ys : List Block} (attr : a.SameFields b)
      (caption : c.SameFields d) (blocks : SameBlocks xs ys) :
      SameFields (.figure a c xs) (.figure b d ys)
  | div {a b : Attr} {xs ys : List Block} (attr : a.SameFields b) (blocks : SameBlocks xs ys) :
      SameFields (.div a xs) (.div b ys)

/-- Two blocks or two inlines, made by one constructor from equal arguments. -/
inductive Node.SameFields : Node → Node → Prop where
  | block {b c : Block} (h : b.SameFields c) : SameFields (.block b) (.block c)
  | inline {i j : Inline} (h : i.SameFields j) : SameFields (.inline i) (.inline j)

/-! ### Kinds -/

/-- The kinds of blocks and of inlines; each style of text is a kind of its own. -/
inductive NodeKind where
  | plain | para | lineBlock | codeBlock | rawBlock | blockQuote | orderedList | bulletList
  | definitionList | header | horizontalRule | table | figure | div
  | str | styled (style : Style) | quoted | cite | code | space | softBreak | lineBreak | math
  | rawInline | link | image | note | span
deriving DecidableEq

def Block.kind : Block → NodeKind
  | .plain _ => .plain
  | .para _ => .para
  | .lineBlock _ => .lineBlock
  | .codeBlock .. => .codeBlock
  | .raw .. => .rawBlock
  | .blockQuote _ => .blockQuote
  | .orderedList .. => .orderedList
  | .bulletList _ => .bulletList
  | .definitionList _ => .definitionList
  | .header .. => .header
  | .horizontalRule => .horizontalRule
  | .table .. => .table
  | .figure .. => .figure
  | .div .. => .div

def Inline.kind : Inline → NodeKind
  | .str _ => .str
  | .styled style _ => .styled style
  | .quoted .. => .quoted
  | .cite .. => .cite
  | .code .. => .code
  | .space => .space
  | .softBreak => .softBreak
  | .lineBreak => .lineBreak
  | .math .. => .math
  | .raw .. => .rawInline
  | .link .. => .link
  | .image .. => .image
  | .note _ => .note
  | .span .. => .span

def Node.kind : Node → NodeKind
  | .block b => b.kind
  | .inline i => i.kind

/-- The name of the records of the nodes of a kind. -/
def NodeKind.name : NodeKind → String
  | .plain => "Plain"
  | .para => "Para"
  | .lineBlock => "LineBlock"
  | .codeBlock => "CodeBlock"
  | .rawBlock => "RawBlock"
  | .blockQuote => "BlockQuote"
  | .orderedList => "OrderedList"
  | .bulletList => "BulletList"
  | .definitionList => "DefinitionList"
  | .header => "Header"
  | .horizontalRule => "HorizontalRule"
  | .table => "Table"
  | .figure => "Figure"
  | .div => "Div"
  | .str => "Str"
  | .styled style => style.name
  | .quoted => "Quoted"
  | .cite => "Cite"
  | .code => "Code"
  | .space => "Space"
  | .softBreak => "SoftBreak"
  | .lineBreak => "LineBreak"
  | .math => "Math"
  | .rawInline => "RawInline"
  | .link => "Link"
  | .image => "Image"
  | .note => "Note"
  | .span => "Span"

def NodeKind.all : List NodeKind :=
  [.plain, .para, .lineBlock, .codeBlock, .rawBlock, .blockQuote, .orderedList, .bulletList,
   .definitionList, .header, .horizontalRule, .table, .figure, .div, .str, .quoted, .cite, .code,
   .space, .softBreak, .lineBreak, .math, .rawInline, .link, .image, .note, .span,
   .styled .emph, .styled .underline, .styled .strong, .styled .strikeout, .styled .superscript,
   .styled .subscript, .styled .smallCaps]

theorem NodeKind.mem_all (k : NodeKind) : k ∈ NodeKind.all := by
  cases k with
  | styled style => cases style <;> decide
  | _ => decide

theorem NodeKind.nodup_names : (NodeKind.all.map NodeKind.name).Nodup := by decide +kernel

theorem NodeKind.name_injective : Function.Injective NodeKind.name := fun k l h =>
  List.inj_on_of_nodup_map NodeKind.nodup_names k.mem_all l.mem_all h

/-- The record of a node is named for its kind. -/
theorem Node.name?_datum (n : Node) : n.datum.name? = some n.kind.name := by
  cases n with
  | block b => cases b <;> rfl
  | inline i => cases i <;> rfl

/-! ### Records of equal parts -/

namespace Datum

theorem same_records_iff {name other : String} {fs gs : List (String × Datum)} :
    (record name fs).same (record other gs) = true ↔ name = other ∧ sameFields fs gs = true := by
  rw [same, Bool.and_eq_true, beq_iff_eq]

theorem same_record_iff {name : String} {fs gs : List (String × Datum)} :
    (record name fs).same (record name gs) = true ↔ sameFields fs gs = true := by
  rw [same_records_iff, and_iff_right rfl]

theorem sameFields_cons_iff {name : String} {x y : Datum} {fs gs : List (String × Datum)} :
    sameFields ((name, x) :: fs) ((name, y) :: gs) = true
      ↔ x.same y = true ∧ sameFields fs gs = true := by
  simp only [sameFields, beq_self_eq_true, Bool.true_and, Bool.and_eq_true]

theorem sameFields_nil_iff : sameFields [] [] = true ↔ True := iff_of_true rfl trivial

theorem same_pair_iff {x y x' y' : Datum} :
    (seq [x, y]).same (.seq [x', y']) = true ↔ x.same x' = true ∧ y.same y' = true := by
  change (x.same x' && (y.same y' && true)) = true ↔ _
  rw [Bool.and_true, Bool.and_eq_true]

theorem same_value_iff {v w : Json} : (value v).same (value w) = true ↔ v.same w = true := Iff.rfl

end Datum

theorem Json.sameItems_iff {vs ws : List Json} :
    Json.sameItems vs ws = true ↔ List.Forall₂ (fun v w => v.same w = true) vs ws := by
  induction vs generalizing ws with
  | nil =>
    cases ws with
    | nil => exact ⟨fun _ => .nil, fun _ => rfl⟩
    | cons w ws => exact iff_of_false (fun h => nomatch h) (fun h => nomatch h)
  | cons v vs ih =>
    cases ws with
    | nil => exact iff_of_false (fun h => nomatch h) (fun h => nomatch h)
    | cons w ws => rw [Json.sameItems, Bool.and_eq_true, ih, List.forall₂_cons]

theorem Attr.sameFields_iff {a b : Attr} : a.same b = true ↔ a.SameFields b := by
  simp only [Attr.same, Bool.and_eq_true, List.all_eq_true, List.contains_iff_mem,
    Json.sameItems_iff]
  constructor
  · rintro ⟨⟨⟨hidentifier, hclasses⟩, hab⟩, hba⟩
    exact ⟨hidentifier, hclasses, fun p => ⟨hab p, hba p⟩⟩
  · rintro ⟨hidentifier, hclasses, hpairs⟩
    exact ⟨⟨⟨hidentifier, hclasses⟩, fun p => (hpairs p).mp⟩, fun p => (hpairs p).mpr⟩

theorem sameAttr_iff {a b : Attr} :
    (Datum.attr a).same (.attr b) = true ↔ a.SameFields b := Attr.sameFields_iff

theorem sameInlines_iff {xs ys : List Inline} :
    (Datum.seq (inlineData xs)).same (.seq (inlineData ys)) = true ↔ SameInlines xs ys := by
  rw [inlineData_eq_map, inlineData_eq_map, Datum.same_map_iff]
  rfl

theorem sameBlocks_iff {xs ys : List Block} :
    (Datum.seq (blockData xs)).same (.seq (blockData ys)) = true ↔ SameBlocks xs ys := by
  rw [blockData_eq_map, blockData_eq_map, Datum.same_map_iff]
  rfl

theorem sameLines_iff {xs ys : List (List Inline)} :
    (Datum.seq (lineData xs)).same (.seq (lineData ys)) = true
      ↔ List.Forall₂ SameInlines xs ys := by
  rw [lineData_eq_map, lineData_eq_map, Datum.same_map_iff]
  simp only [sameInlines_iff]

theorem sameItems_iff {xs ys : List (List Block)} :
    (Datum.seq (itemData xs)).same (.seq (itemData ys)) = true
      ↔ List.Forall₂ SameBlocks xs ys := by
  rw [itemData_eq_map, itemData_eq_map, Datum.same_map_iff]
  simp only [sameBlocks_iff]

theorem sameDefinitions_iff {xs ys : List Definition} :
    (Datum.seq (definitionData xs)).same (.seq (definitionData ys)) = true
      ↔ List.Forall₂ Definition.SameFields xs ys := by
  have hentry : ∀ d e : Definition,
      (Datum.seq [.seq (inlineData d.term), .seq (itemData d.meanings)]).same
        (.seq [.seq (inlineData e.term), .seq (itemData e.meanings)]) = true
        ↔ d.SameFields e := by
    intro d e
    rw [Datum.same_pair_iff, sameInlines_iff, sameItems_iff]
    exact ⟨fun ⟨hterm, hmeanings⟩ => ⟨hterm, hmeanings⟩, fun h => ⟨h.term, h.meanings⟩⟩
  rw [definitionData_eq_map, definitionData_eq_map, Datum.same_map_iff]
  simp only [hentry]

theorem Target.sameFields_iff {s t : Target} :
    (Datum.target s).same (.target t) = true ↔ s.SameFields t := by
  change (s.url.same t.url && s.title.same t.title) = true ↔ _
  rw [Bool.and_eq_true]
  exact ⟨fun ⟨hurl, htitle⟩ => ⟨hurl, htitle⟩, fun h => ⟨h.url, h.title⟩⟩

theorem ListAttributes.sameFields_iff {a b : ListAttributes} :
    a.datum.same b.datum = true ↔ a.SameFields b := by
  simp only [ListAttributes.datum, Datum.same_record_iff, Datum.sameFields_cons_iff,
    Datum.sameFields_nil_iff, and_true, Datum.same_value_iff, NumberStyle.same_iff,
    NumberDelimiter.same_iff]
  exact ⟨fun ⟨hstart, hstyle, hdelimiter⟩ => ⟨hstart, hstyle, hdelimiter⟩,
    fun h => ⟨h.start, h.style, h.delimiter⟩⟩

theorem sameColSpecs_iff {cs ds : List ColSpec} :
    (Datum.seq (cs.map ColSpec.datum)).same (.seq (ds.map ColSpec.datum)) = true
      ↔ List.Forall₂ ColSpec.SameFields cs ds := by
  have hentry : ∀ c d : ColSpec, c.datum.same d.datum = true ↔ c.SameFields d := by
    intro c d
    simp only [ColSpec.datum, Datum.same_record_iff, Datum.sameFields_cons_iff,
      Datum.sameFields_nil_iff, and_true, Datum.same_value_iff, Alignment.same_iff]
    exact ⟨fun ⟨halignment, hwidth⟩ => ⟨halignment, hwidth⟩, fun h => ⟨h.alignment, h.width⟩⟩
  rw [Datum.same_map_iff]
  simp only [hentry]

theorem Citation.sameFields_iff {c d : Citation} :
    c.datum.same d.datum = true ↔ c.SameFields d := by
  obtain ⟨id, before, after, mode, noteNumber, hash⟩ := c
  obtain ⟨id', before', after', mode', noteNumber', hash'⟩ := d
  simp only [Citation.datum, Datum.same_record_iff, Datum.sameFields_cons_iff,
    Datum.sameFields_nil_iff, and_true, Datum.same_value_iff, sameInlines_iff,
    CitationMode.same_iff]
  exact ⟨fun ⟨hid, hbefore, hafter, hmode, hnumber, hhash⟩ =>
      ⟨hid, hbefore, hafter, hmode, hnumber, hhash⟩,
    fun h => ⟨h.id, h.before, h.after, h.mode, h.noteNumber, h.hash⟩⟩

theorem sameCitations_iff {cs ds : List Citation} :
    (Datum.seq (citationData cs)).same (.seq (citationData ds)) = true
      ↔ List.Forall₂ Citation.SameFields cs ds := by
  rw [citationData_eq_map, citationData_eq_map, Datum.same_map_iff]
  simp only [Citation.sameFields_iff]

theorem Caption.sameFields_iff {c d : Caption} : c.datum.same d.datum = true ↔ c.SameFields d := by
  obtain ⟨short, blocks⟩ := c
  obtain ⟨short', blocks'⟩ := d
  cases short with
  | none =>
    cases short' with
    | none =>
      simp only [Caption.datum, Datum.same_record_iff, Datum.sameFields_cons_iff,
        Datum.sameFields_nil_iff, and_true, Datum.same_value_iff, Json.same, true_and,
        sameBlocks_iff]
      exact ⟨fun hblocks => ⟨.none, hblocks⟩, fun h => h.blocks⟩
    | some inlines' =>
      refine iff_of_false (fun h => ?_) (fun h => nomatch h.short)
      rw [Caption.datum, Caption.datum, Datum.same_record_iff, Datum.sameFields_cons_iff] at h
      exact Bool.false_ne_true h.1
  | some inlines =>
    cases short' with
    | none =>
      refine iff_of_false (fun h => ?_) (fun h => nomatch h.short)
      rw [Caption.datum, Caption.datum, Datum.same_record_iff, Datum.sameFields_cons_iff] at h
      exact Bool.false_ne_true h.1
    | some inlines' =>
      simp only [Caption.datum, Datum.same_record_iff, Datum.sameFields_cons_iff,
        Datum.sameFields_nil_iff, and_true, sameInlines_iff, sameBlocks_iff]
      exact ⟨fun ⟨hshort, hblocks⟩ => ⟨.some hshort, hblocks⟩,
        fun | ⟨.some hshort, hblocks⟩ => ⟨hshort, hblocks⟩⟩

theorem Cell.sameFields_iff {c d : Cell} : c.datum.same d.datum = true ↔ c.SameFields d := by
  obtain ⟨attr, alignment, rowSpan, colSpan, blocks⟩ := c
  obtain ⟨attr', alignment', rowSpan', colSpan', blocks'⟩ := d
  simp only [Cell.datum, Datum.same_record_iff, Datum.sameFields_cons_iff,
    Datum.sameFields_nil_iff, and_true, Datum.same_value_iff, sameBlocks_iff, sameAttr_iff,
    Alignment.same_iff]
  exact ⟨fun ⟨hblocks, hattr, halignment, hrow, hcol⟩ => ⟨hattr, halignment, hrow, hcol, hblocks⟩,
    fun h => ⟨h.blocks, h.attr, h.alignment, h.rowSpan, h.colSpan⟩⟩

theorem sameCells_iff {cs ds : List Cell} :
    (Datum.seq (cellData cs)).same (.seq (cellData ds)) = true
      ↔ List.Forall₂ Cell.SameFields cs ds := by
  rw [cellData_eq_map, cellData_eq_map, Datum.same_map_iff]
  simp only [Cell.sameFields_iff]

theorem Row.sameFields_iff {r s : Row} : r.datum.same s.datum = true ↔ r.SameFields s := by
  obtain ⟨attr, cells⟩ := r
  obtain ⟨attr', cells'⟩ := s
  simp only [Row.datum, Datum.same_record_iff, Datum.sameFields_cons_iff,
    Datum.sameFields_nil_iff, and_true, sameCells_iff, sameAttr_iff]
  exact ⟨fun ⟨hcells, hattr⟩ => ⟨hattr, hcells⟩, fun h => ⟨h.cells, h.attr⟩⟩

theorem sameRows_iff {rs ss : List Row} :
    (Datum.seq (rowData rs)).same (.seq (rowData ss)) = true
      ↔ List.Forall₂ Row.SameFields rs ss := by
  rw [rowData_eq_map, rowData_eq_map, Datum.same_map_iff]
  simp only [Row.sameFields_iff]

theorem RowGroup.sameFields_iff {name : String} {g h : RowGroup} :
    (g.datum name).same (h.datum name) = true ↔ g.SameFields h := by
  obtain ⟨attr, rows⟩ := g
  obtain ⟨attr', rows'⟩ := h
  simp only [RowGroup.datum, Datum.same_record_iff, Datum.sameFields_cons_iff,
    Datum.sameFields_nil_iff, and_true, sameRows_iff, sameAttr_iff]
  exact ⟨fun ⟨hrows, hattr⟩ => ⟨hattr, hrows⟩, fun h => ⟨h.rows, h.attr⟩⟩

theorem TableBody.sameFields_iff {b c : TableBody} :
    b.datum.same c.datum = true ↔ b.SameFields c := by
  obtain ⟨attr, headColumns, headRows, rows⟩ := b
  obtain ⟨attr', headColumns', headRows', rows'⟩ := c
  simp only [TableBody.datum, Datum.same_record_iff, Datum.sameFields_cons_iff,
    Datum.sameFields_nil_iff, and_true, Datum.same_value_iff, sameRows_iff, sameAttr_iff]
  exact ⟨fun ⟨hrows, hhead, hcolumns, hattr⟩ => ⟨hattr, hcolumns, hhead, hrows⟩,
    fun h => ⟨h.rows, h.headRows, h.headColumns, h.attr⟩⟩

theorem sameBodies_iff {bs cs : List TableBody} :
    (Datum.seq (bodyData bs)).same (.seq (bodyData cs)) = true
      ↔ List.Forall₂ TableBody.SameFields bs cs := by
  rw [bodyData_eq_map, bodyData_eq_map, Datum.same_map_iff]
  simp only [TableBody.sameFields_iff]

/-! ### Records of nodes -/

theorem Datum.name?_eq_of_same {d e : Datum} (h : d.same e = true) : d.name? = e.name? := by
  cases d <;> cases e <;> first | rfl | cases h | skip
  next name fields other more =>
    rw [Datum.name?, Datum.name?, (Datum.same_records_iff.mp h).1]

def Node.same (n m : Node) : Bool := n.datum.same m.datum

theorem Node.kind_eq_of_same {n m : Node} (h : n.same m = true) : n.kind = m.kind := by
  have hname := Datum.name?_eq_of_same h
  rw [Node.name?_datum, Node.name?_datum] at hname
  exact NodeKind.name_injective (Option.some.inj hname)

theorem Inline.SameFields.kind_eq {i j : Inline} (h : i.SameFields j) : i.kind = j.kind := by
  cases h <;> rfl

theorem Block.SameFields.kind_eq {b c : Block} (h : b.SameFields c) : b.kind = c.kind := by
  cases h <;> rfl

theorem Inline.sameFields_iff {i j : Inline} : i.same j = true ↔ i.SameFields j := by
  -- between two kinds both sides fail, which leaves one pair of constructors for each case
  by_cases hkind : i.kind = j.kind
  · rw [Inline.same]
    cases i with
    | str text =>
      cases j with
      | str text' =>
        simp only [Inline.datum, Datum.same_record_iff, Datum.sameFields_cons_iff,
          Datum.sameFields_nil_iff, and_true, Datum.same_value_iff]
        exact ⟨fun htext => .str htext, fun | .str htext => htext⟩
      | _ => cases hkind
    | styled style content =>
      cases j with
      | styled style' content' =>
        obtain rfl : style = style' := NodeKind.styled.inj hkind
        simp only [Inline.datum, Datum.same_record_iff, Datum.sameFields_cons_iff,
          Datum.sameFields_nil_iff, and_true, sameInlines_iff]
        exact ⟨fun hcontent => .styled style hcontent, fun | .styled _ hcontent => hcontent⟩
      | _ => cases hkind
    | quoted kind content =>
      cases j with
      | quoted kind' content' =>
        simp only [Inline.datum, Datum.same_record_iff, Datum.sameFields_cons_iff,
          Datum.sameFields_nil_iff, and_true, QuoteKind.same_iff, sameInlines_iff]
        exact ⟨fun | ⟨rfl, hcontent⟩ => .quoted kind hcontent,
          fun | .quoted _ hcontent => ⟨rfl, hcontent⟩⟩
      | _ => cases hkind
    | cite citations content =>
      cases j with
      | cite citations' content' =>
        simp only [Inline.datum, Datum.same_record_iff, Datum.sameFields_cons_iff,
          Datum.sameFields_nil_iff, and_true, sameCitations_iff, sameInlines_iff]
        exact ⟨fun ⟨hcitations, hcontent⟩ => .cite hcitations hcontent,
          fun | .cite hcitations hcontent => ⟨hcitations, hcontent⟩⟩
      | _ => cases hkind
    | code attr text =>
      cases j with
      | code attr' text' =>
        simp only [Inline.datum, Datum.same_record_iff, Datum.sameFields_cons_iff,
          Datum.sameFields_nil_iff, and_true, Datum.same_value_iff, sameAttr_iff]
        exact ⟨fun ⟨htext, hattr⟩ => .code hattr htext, fun | .code hattr htext => ⟨htext, hattr⟩⟩
      | _ => cases hkind
    | space =>
      cases j with
      | space => exact iff_of_true rfl .space
      | _ => cases hkind
    | softBreak =>
      cases j with
      | softBreak => exact iff_of_true rfl .softBreak
      | _ => cases hkind
    | lineBreak =>
      cases j with
      | lineBreak => exact iff_of_true rfl .lineBreak
      | _ => cases hkind
    | math kind text =>
      cases j with
      | math kind' text' =>
        simp only [Inline.datum, Datum.same_record_iff, Datum.sameFields_cons_iff,
          Datum.sameFields_nil_iff, and_true, MathKind.same_iff, Datum.same_value_iff]
        exact ⟨fun | ⟨rfl, htext⟩ => .math kind htext, fun | .math _ htext => ⟨rfl, htext⟩⟩
      | _ => cases hkind
    | raw format text =>
      cases j with
      | raw format' text' =>
        simp only [Inline.datum, Datum.same_record_iff, Datum.sameFields_cons_iff,
          Datum.sameFields_nil_iff, and_true, Datum.same_value_iff]
        exact ⟨fun ⟨hformat, htext⟩ => .raw hformat htext,
          fun | .raw hformat htext => ⟨hformat, htext⟩⟩
      | _ => cases hkind
    | link attr content target =>
      cases j with
      | link attr' content' target' =>
        simp only [Inline.datum, Datum.same_record_iff, Datum.sameFields_cons_iff,
          Datum.sameFields_nil_iff, and_true, sameInlines_iff, Target.sameFields_iff,
          sameAttr_iff]
        exact ⟨fun ⟨hcontent, htarget, hattr⟩ => .link hattr hcontent htarget,
          fun | .link hattr hcontent htarget => ⟨hcontent, htarget, hattr⟩⟩
      | _ => cases hkind
    | image attr content target =>
      cases j with
      | image attr' content' target' =>
        simp only [Inline.datum, Datum.same_record_iff, Datum.sameFields_cons_iff,
          Datum.sameFields_nil_iff, and_true, sameInlines_iff, Target.sameFields_iff,
          sameAttr_iff]
        exact ⟨fun ⟨hcontent, htarget, hattr⟩ => .image hattr hcontent htarget,
          fun | .image hattr hcontent htarget => ⟨hcontent, htarget, hattr⟩⟩
      | _ => cases hkind
    | note blocks =>
      cases j with
      | note blocks' =>
        simp only [Inline.datum, Datum.same_record_iff, Datum.sameFields_cons_iff,
          Datum.sameFields_nil_iff, and_true, sameBlocks_iff]
        exact ⟨fun hblocks => .note hblocks, fun | .note hblocks => hblocks⟩
      | _ => cases hkind
    | span attr content =>
      cases j with
      | span attr' content' =>
        simp only [Inline.datum, Datum.same_record_iff, Datum.sameFields_cons_iff,
          Datum.sameFields_nil_iff, and_true, sameInlines_iff, sameAttr_iff]
        exact ⟨fun ⟨hcontent, hattr⟩ => .span hattr hcontent,
          fun | .span hattr hcontent => ⟨hcontent, hattr⟩⟩
      | _ => cases hkind
  · exact iff_of_false (fun h => hkind (Node.kind_eq_of_same (n := .inline i) (m := .inline j) h))
      (fun h => hkind h.kind_eq)

theorem Block.sameFields_iff {b c : Block} : b.same c = true ↔ b.SameFields c := by
  by_cases hkind : b.kind = c.kind
  · rw [Block.same]
    cases b with
    | plain content =>
      cases c with
      | plain content' =>
        simp only [Block.datum, Datum.same_record_iff, Datum.sameFields_cons_iff,
          Datum.sameFields_nil_iff, and_true, sameInlines_iff]
        exact ⟨fun hcontent => .plain hcontent, fun | .plain hcontent => hcontent⟩
      | _ => cases hkind
    | para content =>
      cases c with
      | para content' =>
        simp only [Block.datum, Datum.same_record_iff, Datum.sameFields_cons_iff,
          Datum.sameFields_nil_iff, and_true, sameInlines_iff]
        exact ⟨fun hcontent => .para hcontent, fun | .para hcontent => hcontent⟩
      | _ => cases hkind
    | lineBlock lines =>
      cases c with
      | lineBlock lines' =>
        simp only [Block.datum, Datum.same_record_iff, Datum.sameFields_cons_iff,
          Datum.sameFields_nil_iff, and_true, sameLines_iff]
        exact ⟨fun hlines => .lineBlock hlines, fun | .lineBlock hlines => hlines⟩
      | _ => cases hkind
    | codeBlock attr text =>
      cases c with
      | codeBlock attr' text' =>
        simp only [Block.datum, Datum.same_record_iff, Datum.sameFields_cons_iff,
          Datum.sameFields_nil_iff, and_true, Datum.same_value_iff, sameAttr_iff]
        exact ⟨fun ⟨htext, hattr⟩ => .codeBlock hattr htext,
          fun | .codeBlock hattr htext => ⟨htext, hattr⟩⟩
      | _ => cases hkind
    | raw format text =>
      cases c with
      | raw format' text' =>
        simp only [Block.datum, Datum.same_record_iff, Datum.sameFields_cons_iff,
          Datum.sameFields_nil_iff, and_true, Datum.same_value_iff]
        exact ⟨fun ⟨hformat, htext⟩ => .raw hformat htext,
          fun | .raw hformat htext => ⟨hformat, htext⟩⟩
      | _ => cases hkind
    | blockQuote blocks =>
      cases c with
      | blockQuote blocks' =>
        simp only [Block.datum, Datum.same_record_iff, Datum.sameFields_cons_iff,
          Datum.sameFields_nil_iff, and_true, sameBlocks_iff]
        exact ⟨fun hblocks => .blockQuote hblocks, fun | .blockQuote hblocks => hblocks⟩
      | _ => cases hkind
    | orderedList attributes items =>
      cases c with
      | orderedList attributes' items' =>
        simp only [Block.datum, Datum.same_record_iff, Datum.sameFields_cons_iff,
          Datum.sameFields_nil_iff, and_true, sameItems_iff, ListAttributes.sameFields_iff]
        exact ⟨fun ⟨hitems, hattributes⟩ => .orderedList hattributes hitems,
          fun | .orderedList hattributes hitems => ⟨hitems, hattributes⟩⟩
      | _ => cases hkind
    | bulletList items =>
      cases c with
      | bulletList items' =>
        simp only [Block.datum, Datum.same_record_iff, Datum.sameFields_cons_iff,
          Datum.sameFields_nil_iff, and_true, sameItems_iff]
        exact ⟨fun hitems => .bulletList hitems, fun | .bulletList hitems => hitems⟩
      | _ => cases hkind
    | definitionList items =>
      cases c with
      | definitionList items' =>
        simp only [Block.datum, Datum.same_record_iff, Datum.sameFields_cons_iff,
          Datum.sameFields_nil_iff, and_true, sameDefinitions_iff]
        exact ⟨fun hitems => .definitionList hitems, fun | .definitionList hitems => hitems⟩
      | _ => cases hkind
    | header level attr content =>
      cases c with
      | header level' attr' content' =>
        simp only [Block.datum, Datum.same_record_iff, Datum.sameFields_cons_iff,
          Datum.sameFields_nil_iff, and_true, Datum.same_value_iff, sameInlines_iff, sameAttr_iff]
        exact ⟨fun ⟨hlevel, hcontent, hattr⟩ => .header hlevel hattr hcontent,
          fun | .header hlevel hattr hcontent => ⟨hlevel, hcontent, hattr⟩⟩
      | _ => cases hkind
    | horizontalRule =>
      cases c with
      | horizontalRule => exact iff_of_true rfl .horizontalRule
      | _ => cases hkind
    | table attr caption colSpecs head bodies foot =>
      cases c with
      | table attr' caption' colSpecs' head' bodies' foot' =>
        simp only [Block.datum, Datum.same_record_iff, Datum.sameFields_cons_iff,
          Datum.sameFields_nil_iff, and_true, RowGroup.sameFields_iff, sameBodies_iff,
          sameAttr_iff, Caption.sameFields_iff, sameColSpecs_iff]
        constructor
        · rintro ⟨hhead, hbodies, hattr, hcaption, hspecs, hfoot⟩
          exact .table hattr hcaption hspecs hhead hbodies hfoot
        · intro h
          cases h with
          | table hattr hcaption hspecs hhead hbodies hfoot =>
            exact ⟨hhead, hbodies, hattr, hcaption, hspecs, hfoot⟩
      | _ => cases hkind
    | figure attr caption blocks =>
      cases c with
      | figure attr' caption' blocks' =>
        simp only [Block.datum, Datum.same_record_iff, Datum.sameFields_cons_iff,
          Datum.sameFields_nil_iff, and_true, sameBlocks_iff, Caption.sameFields_iff,
          sameAttr_iff]
        exact ⟨fun ⟨hblocks, hcaption, hattr⟩ => .figure hattr hcaption hblocks,
          fun | .figure hattr hcaption hblocks => ⟨hblocks, hcaption, hattr⟩⟩
      | _ => cases hkind
    | div attr blocks =>
      cases c with
      | div attr' blocks' =>
        simp only [Block.datum, Datum.same_record_iff, Datum.sameFields_cons_iff,
          Datum.sameFields_nil_iff, and_true, sameBlocks_iff, sameAttr_iff]
        exact ⟨fun ⟨hblocks, hattr⟩ => .div hattr hblocks,
          fun | .div hattr hblocks => ⟨hblocks, hattr⟩⟩
      | _ => cases hkind
  · exact iff_of_false (fun h => hkind (Node.kind_eq_of_same (n := .block b) (m := .block c) h))
      (fun h => hkind h.kind_eq)

/-! ### Blocks and inlines together -/

theorem Block.kind_ne_inline (b : Block) (i : Inline) : b.kind ≠ i.kind := by
  intro h
  cases b <;> cases i <;> cases h

theorem Node.sameFields_iff {n m : Node} : n.same m = true ↔ n.SameFields m := by
  cases n with
  | block b =>
    cases m with
    | block c => exact Block.sameFields_iff.trans ⟨.block, fun | .block h => h⟩
    | inline j =>
      refine iff_of_false (fun h => ?_) (fun h => nomatch h)
      exact b.kind_ne_inline j (Node.kind_eq_of_same (n := .block b) (m := .inline j) h)
  | inline i =>
    cases m with
    | block c =>
      refine iff_of_false (fun h => ?_) (fun h => nomatch h)
      exact c.kind_ne_inline i (Node.kind_eq_of_same (n := .inline i) (m := .block c) h).symm
    | inline j => exact Inline.sameFields_iff.trans ⟨.inline, fun | .inline h => h⟩

theorem Node.SameFields.kind_eq {n m : Node} (h : n.SameFields m) : n.kind = m.kind := by
  cases h with
  | block h => exact h.kind_eq
  | inline h => exact h.kind_eq

end PandocHtml
