import Mathlib.Data.List.Perm.Basic
import Mathlib.Logic.Function.Iterate
import PandocHtml.Document.Datum
import PandocHtml.Proofs.Document.Typed

/-!
# The walk is complete

The walk as a loop: the pending nodes lie on a stack whose last node is next, and a turn yields that
node and leaves its children on the stack, last child first.  What was yielded, followed by the
pre-orders of the pending nodes from the last one back, is the same before and after every turn, so
after some turns the loop has yielded as much of the pre-order, and it ends after as many turns as
there are nodes.

That the pre-order misses no field is checked against the records of nodes, which hold every field:
the nodes that are yielded are, up to order, the node records found anywhere inside them.
-/

namespace PandocHtml

/-! ### The loop -/

/-- The loop between two turns. -/
structure WalkState where
  /-- The stack of nodes that are still to come, the next one last. -/
  pending : List Node
  yielded : List Node

namespace WalkState

def start (roots : List Node) : WalkState := ⟨roots.reverse, []⟩

def turn (s : WalkState) : WalkState :=
  match s.pending.getLast? with
  | some n => ⟨s.pending.dropLast ++ n.children.reverse, s.yielded ++ [n]⟩
  | none => s

/-- All that pending nodes will yield. -/
def ahead (s : WalkState) : List Node := nodesPreorder s.pending.reverse

variable {s : WalkState}

theorem ahead_start (roots : List Node) : (start roots).ahead = nodesPreorder roots := by
  rw [ahead, start, List.reverse_reverse]

theorem ahead_eq_nil_iff : s.ahead = [] ↔ s.pending = [] := by
  constructor
  · intro h
    rw [← List.reverse_eq_nil_iff]
    cases hp : s.pending.reverse with
    | nil => rfl
    | cons n rest =>
      rw [ahead, hp, nodesPreorder, List.flatMap_cons, Node.preorder_eq] at h
      cases h
  · intro h
    rw [ahead, h]
    rfl

theorem turn_of_pending_eq_nil (h : s.pending = []) : s.turn = s := by
  rw [turn, h]
  rfl

/-- One turn: the first node ahead is yielded, and the others stay ahead. -/
theorem exists_turn (h : s.pending ≠ []) :
    ∃ n, s.ahead = n :: s.turn.ahead ∧ s.turn.yielded = s.yielded ++ [n] := by
  obtain ⟨rest, n, hp⟩ := (List.eq_nil_or_concat' s.pending).resolve_left h
  have hturn : s.turn = ⟨rest ++ n.children.reverse, s.yielded ++ [n]⟩ := by
    rw [turn, hp, List.getLast?_concat, List.dropLast_concat]
  refine ⟨n, ?_, ?_⟩
  · have hpre := Node.preorder_eq n
    rw [hturn, ahead, ahead, hp, List.reverse_concat, List.reverse_append, List.reverse_reverse,
      nodesPreorder_append, nodesPreorder, List.flatMap_cons, hpre]
    rfl
  · rw [hturn]

/-- What was yielded and what is ahead stay the same list. -/
theorem yielded_append_ahead_turn (s : WalkState) :
    s.turn.yielded ++ s.turn.ahead = s.yielded ++ s.ahead := by
  by_cases h : s.pending = []
  · rw [turn_of_pending_eq_nil h]
  · obtain ⟨n, hahead, hyielded⟩ := exists_turn h
    rw [hahead, hyielded, List.append_assoc, List.singleton_append]

theorem ahead_turn (s : WalkState) : s.turn.ahead = s.ahead.tail := by
  by_cases h : s.pending = []
  · rw [turn_of_pending_eq_nil h, ahead_eq_nil_iff.mpr h, List.tail_nil]
  · obtain ⟨n, hahead, _⟩ := exists_turn h
    rw [hahead, List.tail_cons]

theorem ahead_iterate (roots : List Node) (k : Nat) :
    (turn^[k] (start roots)).ahead = (nodesPreorder roots).drop k := by
  induction k with
  | zero => rw [Function.iterate_zero, id_eq, ahead_start, List.drop_zero]
  | succ k ih => rw [Function.iterate_succ_apply', ahead_turn, ih, List.tail_drop]

theorem yielded_append_ahead_iterate (roots : List Node) (k : Nat) :
    (turn^[k] (start roots)).yielded ++ (turn^[k] (start roots)).ahead = nodesPreorder roots := by
  induction k with
  | zero => exact ahead_start roots
  | succ k ih => rw [Function.iterate_succ_apply', yielded_append_ahead_turn, ih]

/-- The run: after some turns, that many nodes of the pre-order. -/
theorem yielded_iterate (roots : List Node) (k : Nat) :
    (turn^[k] (start roots)).yielded = (nodesPreorder roots).take k := by
  have hall := yielded_append_ahead_iterate roots k
  rw [ahead_iterate] at hall
  exact List.append_cancel_right (hall.trans (List.take_append_drop k _).symm)

theorem pending_iterate_eq_nil_iff (roots : List Node) (k : Nat) :
    (turn^[k] (start roots)).pending = [] ↔ (nodesPreorder roots).length ≤ k := by
  rw [← ahead_eq_nil_iff, ahead_iterate, List.drop_eq_nil_iff]

end WalkState

/-! ### Node records -/

/-- The names of the records that are nodes; the others are parts of nodes. -/
def nodeNames : List String :=
  ["Plain", "Para", "LineBlock", "CodeBlock", "RawBlock", "BlockQuote", "OrderedList", "BulletList",
    "DefinitionList", "Header", "HorizontalRule", "Table", "Figure", "Div", "Str", "Emph",
    "Underline", "Strong", "Strikeout", "Superscript", "Subscript", "SmallCaps", "Quoted", "Cite",
    "Code", "Space", "SoftBreak", "LineBreak", "RawInline", "Math", "Link", "Image", "Note", "Span"]

namespace Datum

mutual

/-- The records of nodes inside a datum, itself among them if it is one, field by field. -/
def nodeRecords : Datum → List Datum
  | .seq items => nodeRecordsAll items
  | .record name fields =>
    (if name ∈ nodeNames then [.record name fields] else []) ++ nodeRecordsFields fields
  | .value _ | .choice .. | .attr _ | .target _ => []

def nodeRecordsAll : List Datum → List Datum
  | [] => []
  | x :: rest => x.nodeRecords ++ nodeRecordsAll rest

def nodeRecordsFields : List (String × Datum) → List Datum
  | [] => []
  | (_, x) :: rest => x.nodeRecords ++ nodeRecordsFields rest

end

theorem nodeRecords_of_mem {name : String} (h : name ∈ nodeNames)
    (fields : List (String × Datum)) :
    (record name fields).nodeRecords = .record name fields :: nodeRecordsFields fields := by
  rw [nodeRecords, if_pos h, List.singleton_append]

theorem nodeRecords_of_notMem {name : String} (h : name ∉ nodeNames)
    (fields : List (String × Datum)) :
    (record name fields).nodeRecords = nodeRecordsFields fields := by
  rw [nodeRecords, if_neg h, List.nil_append]

end Datum

/-- The records of the nodes under some nodes, node by node. -/
def nodesRecords (ns : List Node) : List Datum := ns.flatMap fun n => n.datum.nodeRecords

theorem nodesRecords_append (ns ms : List Node) :
    nodesRecords (ns ++ ms) = nodesRecords ns ++ nodesRecords ms :=
  List.flatMap_append

open Datum (nodeRecords nodeRecordsAll nodeRecordsFields nodeRecords_of_mem nodeRecords_of_notMem)

/-! ### Records of sequences -/

theorem nodeRecords_inlines (content : List Inline) :
    nodeRecordsAll (inlineData content) = nodesRecords (content.map Node.inline) := by
  induction content with
  | nil => rfl
  | cons i rest ih =>
    rw [inlineData, nodeRecordsAll, ih]
    rfl

theorem nodeRecords_blocks (blocks : List Block) :
    nodeRecordsAll (blockData blocks) = nodesRecords (blocks.map Node.block) := by
  induction blocks with
  | nil => rfl
  | cons b rest ih =>
    rw [blockData, nodeRecordsAll, ih]
    rfl

theorem nodeRecords_lines (lines : List (List Inline)) :
    nodeRecordsAll (lineData lines)
      = nodesRecords (lines.flatMap fun line => line.map Node.inline) := by
  induction lines with
  | nil => rfl
  | cons line rest ih =>
    rw [lineData, nodeRecordsAll, nodeRecords, nodeRecords_inlines, ih, List.flatMap_cons,
      nodesRecords_append]

theorem nodeRecords_items (items : List (List Block)) :
    nodeRecordsAll (itemData items)
      = nodesRecords (items.flatMap fun item => item.map Node.block) := by
  induction items with
  | nil => rfl
  | cons item rest ih =>
    rw [itemData, nodeRecordsAll, nodeRecords, nodeRecords_blocks, ih, List.flatMap_cons,
      nodesRecords_append]

theorem nodeRecords_definitions (items : List Definition) :
    nodeRecordsAll (definitionData items) = nodesRecords (items.flatMap fun d =>
      d.term.map Node.inline ++ d.meanings.flatMap fun m => m.map Node.block) := by
  induction items with
  | nil => rfl
  | cons d rest ih =>
    obtain ⟨term, meanings⟩ := d
    simp only [definitionData, nodeRecordsAll, nodeRecords, nodeRecords_inlines, nodeRecords_items,
      ih, List.flatMap_cons, nodesRecords_append, List.append_nil]

theorem nodeRecords_citations (citations : List Citation) :
    nodeRecordsAll (citationData citations) = nodesRecords (citations.flatMap fun c =>
      c.before.map Node.inline ++ c.after.map Node.inline) := by
  induction citations with
  | nil => rfl
  | cons c rest ih =>
    obtain ⟨id, before, after, mode, noteNumber, hash⟩ := c
    have hname : "Citation" ∉ nodeNames := by decide
    rw [citationData, nodeRecordsAll, Citation.datum, nodeRecords_of_notMem hname]
    simp only [CitationMode.datum, choiceDatum, nodeRecordsFields, nodeRecords,
      nodeRecords_inlines, ih, List.flatMap_cons, nodesRecords_append, List.append_nil,
      List.nil_append]

theorem nodeRecords_cells (cells : List Cell) :
    nodeRecordsAll (cellData cells)
      = nodesRecords (cells.flatMap fun c => c.blocks.map Node.block) := by
  induction cells with
  | nil => rfl
  | cons c rest ih =>
    obtain ⟨attr, alignment, rowSpan, colSpan, blocks⟩ := c
    have hname : "Cell" ∉ nodeNames := by decide
    rw [cellData, nodeRecordsAll, Cell.datum, nodeRecords_of_notMem hname]
    simp only [Alignment.datum, choiceDatum, nodeRecordsFields, nodeRecords, nodeRecords_blocks, ih,
      List.flatMap_cons, nodesRecords_append, List.append_nil]

theorem nodeRecords_rows (rows : List Row) :
    nodeRecordsAll (rowData rows) = nodesRecords (rowNodes rows) := by
  induction rows with
  | nil => rfl
  | cons r rest ih =>
    obtain ⟨attr, cells⟩ := r
    have hname : "Row" ∉ nodeNames := by decide
    rw [rowNodes] at ih
    rw [rowData, nodeRecordsAll, Row.datum, nodeRecords_of_notMem hname]
    simp only [nodeRecordsFields, nodeRecords, nodeRecords_cells, ih, rowNodes, List.flatMap_cons,
      nodesRecords_append, List.append_nil]

theorem nodeRecords_rowGroup {name : String} (hname : name ∉ nodeNames) (g : RowGroup) :
    (g.datum name).nodeRecords = nodesRecords (rowNodes g.rows) := by
  obtain ⟨attr, rows⟩ := g
  simp only [RowGroup.datum, nodeRecords_of_notMem hname, nodeRecordsFields, nodeRecords,
    nodeRecords_rows, List.append_nil]

theorem nodeRecords_caption (c : Caption) : c.datum.nodeRecords = nodesRecords c.nodes := by
  obtain ⟨short, blocks⟩ := c
  have hname : "Caption" ∉ nodeNames := by decide
  cases short with
  | none =>
    simp only [Caption.datum, Caption.nodes, nodeRecords_of_notMem hname, nodeRecordsFields,
      nodeRecords, nodeRecords_blocks, Option.getD_none, List.map_nil, List.nil_append,
      List.append_nil]
  | some short =>
    simp only [Caption.datum, Caption.nodes, nodeRecords_of_notMem hname, nodeRecordsFields,
      nodeRecords, nodeRecords_inlines, nodeRecords_blocks, Option.getD_some, nodesRecords_append,
      List.append_nil]

/-- A body group keeps its head rows behind its rows, the walk comes to them first. -/
theorem nodeRecords_bodies (bodies : List TableBody) :
    (nodeRecordsAll (bodyData bodies)).Perm
      (nodesRecords (bodies.flatMap fun b => rowNodes b.headRows ++ rowNodes b.rows)) := by
  induction bodies with
  | nil => exact .refl _
  | cons b rest ih =>
    obtain ⟨attr, headColumns, headRows, rows⟩ := b
    have hname : "TableBody" ∉ nodeNames := by decide
    rw [bodyData, nodeRecordsAll, TableBody.datum, nodeRecords_of_notMem hname]
    simp only [nodeRecordsFields, nodeRecords, nodeRecords_rows, List.flatMap_cons,
      nodesRecords_append, List.append_nil]
    exact List.perm_append_comm.append ih

/-! ### Records of nodes -/

theorem Inline.nodeRecords_datum (i : Inline) :
    i.datum.nodeRecords = i.datum :: nodesRecords i.children := by
  cases i with
  | styled style content =>
    have hname : style.name ∈ nodeNames := by cases style <;> decide
    simp only [Inline.datum, Inline.children, nodeRecords_of_mem hname, nodeRecordsFields,
      nodeRecords, nodeRecords_inlines, List.append_nil]
  | cite citations content =>
    have hname : "Cite" ∈ nodeNames := by decide
    simp only [Inline.datum, Inline.children, nodeRecords_of_mem hname, nodeRecordsFields,
      nodeRecords, nodeRecords_citations, nodeRecords_inlines, nodesRecords_append,
      List.append_nil]
  | quoted kind content | link attr content target | image attr content target
  | span attr content =>
    rw [Inline.datum, nodeRecords_of_mem (by decide)]
    simp only [Inline.children, QuoteKind.datum, choiceDatum, nodeRecordsFields, nodeRecords,
      nodeRecords_inlines, List.append_nil, List.nil_append]
  | note blocks =>
    have hname : "Note" ∈ nodeNames := by decide
    simp only [Inline.datum, Inline.children, nodeRecords_of_mem hname, nodeRecordsFields,
      nodeRecords, nodeRecords_blocks, List.append_nil]
  | str | code | space | softBreak | lineBreak | math | raw =>
    rw [Inline.datum, nodeRecords_of_mem (by decide)]
    rfl

theorem Block.nodeRecords_datum (b : Block) :
    b.datum.nodeRecords.Perm (b.datum :: nodesRecords b.children) := by
  cases b with
  | plain content | para content | header level attr content =>
    rw [Block.datum, nodeRecords_of_mem (by decide)]
    simp only [Block.children, nodeRecordsFields, nodeRecords, nodeRecords_inlines,
      List.append_nil, List.nil_append, List.Perm.refl]
  | lineBlock lines =>
    rw [Block.datum, nodeRecords_of_mem (by decide)]
    simp only [Block.children, nodeRecordsFields, nodeRecords, nodeRecords_lines, List.append_nil,
      List.Perm.refl]
  | blockQuote blocks | div attr blocks =>
    rw [Block.datum, nodeRecords_of_mem (by decide)]
    simp only [Block.children, nodeRecordsFields, nodeRecords, nodeRecords_blocks, List.append_nil,
      List.Perm.refl]
  | orderedList attributes items =>
    have hname : "ListAttributes" ∉ nodeNames := by decide
    rw [Block.datum, nodeRecords_of_mem (by decide)]
    simp only [Block.children, ListAttributes.datum, NumberStyle.datum, NumberDelimiter.datum,
      choiceDatum, nodeRecords_of_notMem hname, nodeRecordsFields, nodeRecords, nodeRecords_items,
      List.append_nil, List.Perm.refl]
  | bulletList items =>
    rw [Block.datum, nodeRecords_of_mem (by decide)]
    simp only [Block.children, nodeRecordsFields, nodeRecords, nodeRecords_items, List.append_nil,
      List.Perm.refl]
  | definitionList items =>
    rw [Block.datum, nodeRecords_of_mem (by decide)]
    simp only [Block.children, nodeRecordsFields, nodeRecords, nodeRecords_definitions,
      List.append_nil, List.Perm.refl]
  | table attr caption colSpecs head bodies foot =>
    have hhead : "TableHead" ∉ nodeNames := by decide
    have hfoot : "TableFoot" ∉ nodeNames := by decide
    have hcolSpecs : nodeRecordsAll (colSpecs.map ColSpec.datum) = [] := by
      induction colSpecs with
      | nil => rfl
      | cons c rest ih =>
        have hname : "ColSpec" ∉ nodeNames := by decide
        rw [List.map_cons, nodeRecordsAll, ih, ColSpec.datum, nodeRecords_of_notMem hname]
        rfl
    have hbodies := nodeRecords_bodies bodies
    rw [Block.datum, nodeRecords_of_mem (by decide)]
    simp only [Block.children, nodeRecordsFields, nodeRecords, nodeRecords_rowGroup hhead,
      nodeRecords_rowGroup hfoot, nodeRecords_caption, hcolSpecs, nodesRecords_append,
      List.append_nil, List.nil_append]
    refine .cons _ ?_
    -- the caption comes last but for the foot among the fields, and first in the walk
    have hfront := (hbodies.append_left (nodesRecords (rowNodes head.rows))).append_right
      (nodesRecords caption.nodes)
    have hmoved := hfront.trans List.perm_append_comm
    have hall := hmoved.append_right (nodesRecords (rowNodes foot.rows))
    simpa only [List.append_assoc] using hall
  | figure attr caption blocks =>
    rw [Block.datum, nodeRecords_of_mem (by decide)]
    simp only [Block.children, nodeRecordsFields, nodeRecords, nodeRecords_caption,
      nodeRecords_blocks, nodesRecords_append, List.append_nil]
    exact .cons _ List.perm_append_comm
  | codeBlock | raw | horizontalRule =>
    rw [Block.datum, nodeRecords_of_mem (by decide)]
    exact .refl _

theorem Node.nodeRecords_datum (n : Node) :
    n.datum.nodeRecords.Perm (n.datum :: nodesRecords n.children) := by
  cases n with
  | block b => exact b.nodeRecords_datum
  | inline i => exact .of_eq i.nodeRecords_datum

/-- The pre-order holds the node records inside a node, each as often as it occurs. -/
theorem Node.preorder_perm_nodeRecords (n : Node) :
    (n.preorder.map Node.datum).Perm n.datum.nodeRecords := by
  induction n using Node.induction with
  | step n ih =>
    have hbelow : ((nodesPreorder n.children).map Node.datum).Perm (nodesRecords n.children) := by
      rw [nodesPreorder, List.map_flatMap]
      exact List.Perm.flatMap_left _ ih
    rw [Node.preorder_eq, List.map_cons]
    exact (hbelow.cons _).trans n.nodeRecords_datum.symm

theorem walk_perm_nodesRecords (roots : List Node) :
    ((walk roots).map Node.datum).Perm (nodesRecords roots) := by
  rw [walk_eq_nodesPreorder, nodesPreorder, List.map_flatMap]
  exact List.Perm.flatMap_left _ fun n _ => n.preorder_perm_nodeRecords

theorem Document.nodeRecords_datum (d : Document) :
    d.datum.nodeRecords = nodesRecords (d.blocks.map Node.block) := by
  have hname : "Document" ∉ nodeNames := by decide
  simp only [Document.datum, nodeRecords_of_notMem hname, nodeRecordsFields, nodeRecords,
    nodeRecords_blocks, List.append_nil]

/-- The walk over any nodes ends and yields their pre-order, which goes through every field that
holds nodes.  The loop has yielded the first `k` nodes of it after `k` turns, and nothing is pending
just when these are all.  A node comes right before the walks of its children in order, and the
nodes that are yielded are the node records found anywhere inside the roots, each as often as it
occurs there.  For one node and for a document this is the walk of their pre-order. -/
theorem walk_yields_every_node_once :
    (∀ roots : List Node,
      walk roots = nodesPreorder roots
      ∧ (∀ k, (WalkState.turn^[k] (.start roots)).yielded = (walk roots).take k
        ∧ ((WalkState.turn^[k] (.start roots)).pending = [] ↔ (walk roots).length ≤ k))
      ∧ ((walk roots).map Node.datum).Perm (nodesRecords roots)
      ∧ (walk roots).length = (nodesRecords roots).length)
    ∧ (∀ n : Node,
      walk [n] = n.preorder
      ∧ walk [n] = n :: n.children.flatMap (fun c => walk [c])
      ∧ ((walk [n]).map Node.datum).Perm n.datum.nodeRecords)
    ∧ ∀ d : Document,
      d.walk = blocksPreorder d.blocks
      ∧ (d.walk.map Node.datum).Perm d.datum.nodeRecords
      ∧ d.walk.length = d.datum.nodeRecords.length := by
  have hone : ∀ n : Node, walk [n] = n.preorder := by
    intro n
    rw [walk_eq_nodesPreorder, nodesPreorder, List.flatMap_singleton]
  refine ⟨?_, ?_, ?_⟩
  · intro roots
    have hrecords := walk_perm_nodesRecords roots
    have hlength := hrecords.length_eq
    rw [List.length_map] at hlength
    refine ⟨walk_eq_nodesPreorder roots, fun k => ?_, hrecords, hlength⟩
    rw [walk_eq_nodesPreorder]
    exact ⟨WalkState.yielded_iterate roots k, WalkState.pending_iterate_eq_nil_iff roots k⟩
  · intro n
    refine ⟨hone n, ?_, ?_⟩
    · simp only [hone]
      exact n.preorder_eq
    · rw [hone]
      exact n.preorder_perm_nodeRecords
  · intro d
    have hrecords : (d.walk.map Node.datum).Perm d.datum.nodeRecords := by
      rw [Document.nodeRecords_datum]
      exact walk_perm_nodesRecords _
    have hlength := hrecords.length_eq
    rw [List.length_map] at hlength
    exact ⟨d.walk_eq, hrecords, hlength⟩

end PandocHtml
