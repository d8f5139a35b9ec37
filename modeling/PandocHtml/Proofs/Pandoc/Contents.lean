import PandocHtml.Proofs.Document.Matching
import PandocHtml.Proofs.Document.Typed
import PandocHtml.Proofs.Pandoc.Levels

/-!
# What is read from contents

The contents of an element hold values of the element itself and the encodings of the elements
inside it.  Both are described here on the encoded side, without reading anything.  Every reader
then gives one of three things: a record that is as well-typed as its encoding and whose nodes were
read, in order, from the elements inside it; a problem of its own; or the fault of an element
inside it.
-/

namespace PandocHtml.Pandoc

/-! ### Parts of an encoding -/

/-- The items of a value; a value without items has none. -/
def itemsOf (v : Json) : List Json := (items? v).getD []

def itemAt (v : Json) (place : Nat) : Json := (itemsOf v)[place]?.getD .null

def fieldOr (v : Json) (name : String) (default : Json) : Json := (v.field? name).getD default

theorem itemAt_eq {v : Json} {parts : List Json} (h : itemsOf v = parts) (place : Nat) :
    itemAt v place = parts[place]?.getD .null := by
  rw [itemAt, h]

/-! ### Values of an element itself -/

def isTypedAttr (v : Json) : Bool :=
  (itemAt v 0).isText && (itemsOf (itemAt v 1)).all Json.isText

def isTypedTarget (v : Json) : Bool := (itemAt v 0).isText && (itemAt v 1).isText

/-- The encoding of a column, whose width is a number where one is given. -/
def isTypedColSpec (v : Json) : Bool :=
  match fieldOr (itemAt v 1) "t" .null with
  | .str "ColWidth" => (fieldOr (itemAt v 1) "c" .null).isWidth
  | _ => true

def isTypedCell (v : Json) : Bool :=
  isTypedAttr (itemAt v 0) && (itemAt v 2).isInteger && (itemAt v 3).isInteger

def isTypedRow (v : Json) : Bool :=
  isTypedAttr (itemAt v 0) && (itemsOf (itemAt v 1)).all isTypedCell

def isTypedGroup (v : Json) : Bool :=
  isTypedAttr (itemAt v 0) && (itemsOf (itemAt v 1)).all isTypedRow

def isTypedBody (v : Json) : Bool :=
  isTypedAttr (itemAt v 0) && (itemAt v 1).isInteger && (itemsOf (itemAt v 2)).all isTypedRow
    && (itemsOf (itemAt v 3)).all isTypedRow

/-- The encoding of a citation; its numbers may be left out, and are zero then. -/
def isTypedCitation (v : Json) : Bool :=
  (fieldOr v "citationId" .null).isText && (fieldOr v "citationNoteNum" (.int 0)).isInteger
    && (fieldOr v "citationHash" (.int 0)).isInteger

/-- The values that an element with this tag takes from its contents for itself are texts and whole
numbers where they have to be; the elements inside are not looked at. -/
def hasTypedValues (tag : String) (contents : Json) : Bool :=
  match tag with
  | "Str" => contents.isText
  | "Math" => (itemAt contents 1).isText
  | "RawBlock" | "RawInline" => (itemAt contents 0).isText && (itemAt contents 1).isText
  | "CodeBlock" | "Code" => isTypedAttr (itemAt contents 0) && (itemAt contents 1).isText
  | "OrderedList" => (itemAt (itemAt contents 0) 0).isInteger
  | "Header" => (itemAt contents 0).isInteger && isTypedAttr (itemAt contents 1)
  | "Table" =>
    isTypedAttr (itemAt contents 0) && (itemsOf (itemAt contents 2)).all isTypedColSpec
      && isTypedGroup (itemAt contents 3) && (itemsOf (itemAt contents 4)).all isTypedBody
      && isTypedGroup (itemAt contents 5)
  | "Cite" => (itemsOf (itemAt contents 0)).all isTypedCitation
  | "Link" | "Image" => isTypedAttr (itemAt contents 0) && isTypedTarget (itemAt contents 2)
  | "Figure" | "Div" | "Span" => isTypedAttr (itemAt contents 0)
  | _ => true

/-! ### Elements inside an element -/

def elementsInItems (v : Json) : List Json := (itemsOf v).flatMap itemsOf

/-- The elements of a caption: those of its short form, then its blocks. -/
def elementsInCaption (v : Json) : List Json := itemsOf (itemAt v 0) ++ itemsOf (itemAt v 1)

def elementsInDefinition (v : Json) : List Json :=
  itemsOf (itemAt v 0) ++ elementsInItems (itemAt v 1)

def elementsInCitation (v : Json) : List Json :=
  itemsOf (fieldOr v "citationPrefix" (.arr [])) ++ itemsOf (fieldOr v "citationSuffix" (.arr []))

def elementsInRow (v : Json) : List Json :=
  (itemsOf (itemAt v 1)).flatMap fun cell => itemsOf (itemAt cell 4)

def elementsInRows (v : Json) : List Json := (itemsOf v).flatMap elementsInRow

/-- The elements of a body group: those of its head rows, then those of its body rows. -/
def elementsInBody (v : Json) : List Json :=
  elementsInRows (itemAt v 2) ++ elementsInRows (itemAt v 3)

/-- The encodings of the nodes directly inside an element, in the order of its children. -/
def elementsIn (tag : String) (contents : Json) : List Json :=
  match tag with
  | "Plain" | "Para" | "BlockQuote" | "Note" => itemsOf contents
  | "LineBlock" | "BulletList" => elementsInItems contents
  | "OrderedList" => elementsInItems (itemAt contents 1)
  | "DefinitionList" => (itemsOf contents).flatMap elementsInDefinition
  | "Header" => itemsOf (itemAt contents 2)
  | "Table" =>
    elementsInCaption (itemAt contents 1) ++ elementsInRows (itemAt (itemAt contents 3) 1)
      ++ (itemsOf (itemAt contents 4)).flatMap elementsInBody
      ++ elementsInRows (itemAt (itemAt contents 5) 1)
  | "Figure" => elementsInCaption (itemAt contents 1) ++ itemsOf (itemAt contents 2)
  | "Div" | "Quoted" | "Link" | "Image" | "Span" => itemsOf (itemAt contents 1)
  | "Cite" =>
    (itemsOf (itemAt contents 0)).flatMap elementsInCitation ++ itemsOf (itemAt contents 1)
  | tag => if (choiceOf Style.names tag).isSome then itemsOf contents else []

/-! ### What came of a reading -/

/-- A node was read from this value. -/
def Readers.Reads (r : Readers) (w : Json) : Node → Prop
  | .inline i => r.inline w = .ok i
  | .block b => r.block w = .ok b

/-- A record was read from an encoding: it is as well-typed as the encoding, and its nodes were read
from the elements of the encoding. -/
structure Readers.Agrees (r : Readers) (typed : Bool) (elements : List Json) (isTyped : Bool)
    (nodes : List Node) : Prop where
  typed : typed = isTyped
  inside : List.Forall₂ r.Reads elements nodes

/-- A reading gives what was wanted, has a problem of its own, or has the fault of one of the
elements it may read.  It misuses nothing. -/
def Readers.Gives {α : Type} (r : Readers) (elements : List Json) (x : Reading α)
    (wanted : α → Prop) : Prop :=
  match x with
  | .ok a => wanted a
  | .error (.inside f) => ∃ w ∈ elements, r.inline w = .error f ∨ r.block w = .error f
  | .error (.misuse _) => False
  | .error _ => True

namespace Readers

variable {r : Readers} {α β : Type} {es : List Json} {x : Reading α} {P : α → Prop} {Q : β → Prop}

theorem gives_pure {a : α} (h : P a) : r.Gives es (pure a) P := h

theorem Gives.bind {f : α → Reading β} (hx : r.Gives es x P)
    (hf : ∀ a, P a → r.Gives es (f a) Q) : r.Gives es (x >>= f) Q := by
  cases x with
  | ok a => exact hf a hx
  | error p =>
    cases p with
    | inside f => exact hx
    | misuse how => exact hx
    | shape | notAMember | unwritable => trivial

theorem Gives.map (hx : r.Gives es x P) (F : α → β) (h : ∀ a, P a → Q (F a)) :
    r.Gives es (F <$> x) Q := by
  rw [map_eq_pure_bind]
  exact hx.bind fun a ha => gives_pure (h a ha)

theorem Gives.imp {P' : α → Prop} (hx : r.Gives es x P) (h : ∀ a, P a → P' a) :
    r.Gives es x P' := by
  cases x with
  | ok a => exact h a hx
  | error p => cases p <;> exact hx

theorem Gives.mono {es' : List Json} (hx : r.Gives es x P) (h : es ⊆ es') :
    r.Gives es' x P := by
  cases x with
  | ok a => exact hx
  | error p =>
    cases p with
    | inside f =>
      obtain ⟨w, hw, hf⟩ := hx
      exact ⟨w, h hw, hf⟩
    | misuse how => exact hx
    | shape | notAMember | unwritable => trivial

/-! ### Shapes -/

theorem gives_items (v : Json) : r.Gives es (items v) fun parts => parts = itemsOf v := by
  unfold items itemsOf
  cases items? v with
  | none => trivial
  | some parts => rfl

theorem gives_two (v : Json) : r.Gives es (two v) fun p => itemsOf v = [p.1, p.2] := by
  unfold two itemsOf
  split
  · next h => rw [h]; rfl
  · trivial

theorem gives_three (v : Json) : r.Gives es (three v) fun p => itemsOf v = [p.1, p.2.1, p.2.2] := by
  unfold three itemsOf
  split
  · next h => rw [h]; rfl
  · trivial

theorem gives_four (v : Json) :
    r.Gives es (four v) fun p => itemsOf v = [p.1, p.2.1, p.2.2.1, p.2.2.2] := by
  unfold four itemsOf
  split
  · next h => rw [h]; rfl
  · trivial

theorem gives_five (v : Json) :
    r.Gives es (five v) fun p => itemsOf v = [p.1, p.2.1, p.2.2.1, p.2.2.2.1, p.2.2.2.2] := by
  unfold five itemsOf
  split
  · next h => rw [h]; rfl
  · trivial

theorem gives_six (v : Json) :
    r.Gives es (six v) fun p =>
      itemsOf v = [p.1, p.2.1, p.2.2.1, p.2.2.2.1, p.2.2.2.2.1, p.2.2.2.2.2] := by
  unfold six itemsOf
  split
  · next h => rw [h]; rfl
  · trivial

theorem gives_part (v : Json) (place : Nat) :
    r.Gives es (part v place) fun w => w = itemAt v place := by
  unfold part itemAt itemsOf
  split
  · trivial
  · split
    · next h =>
      obtain ⟨parts, hparts, hget⟩ := Option.bind_eq_some_iff.mp h
      rw [hparts, Option.getD_some, hget]
      rfl
    · trivial

theorem gives_need (v : Json) (name : String) :
    r.Gives es (need v name) fun w => v.field? name = some w := by
  unfold need
  split
  · next h => exact h
  · trivial

/-- What has one of its fields is an object, and can be asked for the others. -/
theorem gives_optional {v w : Json} {needed : String} (hw : v.field? needed = some w)
    (name : String) (default : Json) :
    r.Gives es (optional v name default) fun u => u = fieldOr v name default := by
  cases v with
  | obj fields => rfl
  | _ => cases hw

theorem gives_taggedChoice [Host] {γ : Type} (family : String) (names : List (String × γ))
    (v : Json) :
    r.Gives es (taggedChoice family names v) fun _ => True := by
  refine (gives_need v "t").bind fun tag _ => ?_
  unfold choice
  split <;> split <;> trivial

/-! ### Sequences -/

theorem gives_mapM {f : Json → Reading α} {R : Json → α → Prop} {ws : List Json}
    (h : ∀ w ∈ ws, r.Gives es (f w) (R w)) :
    r.Gives es (ws.mapM f) fun as => List.Forall₂ R ws as := by
  induction ws with
  | nil => exact gives_pure .nil
  | cons w rest ih =>
    rw [List.forall_mem_cons] at h
    rw [List.mapM_cons]
    refine h.1.bind fun a ha => (ih h.2).bind fun as has => ?_
    exact gives_pure (.cons ha has)

theorem gives_mapM_items {f : Json → Reading α} {elements : Json → List Json}
    {R : Json → α → Prop} (h : ∀ w, r.Gives (elements w) (f w) (R w)) (v : Json) :
    r.Gives ((itemsOf v).flatMap elements) (do (← items v).mapM f) fun as =>
      List.Forall₂ R (itemsOf v) as := by
  refine (gives_items v).bind fun parts hparts => ?_
  subst hparts
  refine gives_mapM fun w hw => (h w).mono fun e he => ?_
  exact List.mem_flatMap.mpr ⟨w, hw, he⟩

theorem all_eq_all_of_forall₂ {γ δ : Type} {p : γ → Bool} {q : δ → Bool} {xs : List γ}
    {ys : List δ} (h : List.Forall₂ (fun x y => p x = q y) xs ys) : xs.all p = ys.all q := by
  induction h with
  | nil => rfl
  | cons hxy _ ih => rw [List.all_cons, List.all_cons, hxy, ih]

/-- The records of a sequence agree with the items they were read from, one by one. -/
theorem gives_sequence {f : Json → Reading α} {typed : Json → Bool} {elements : Json → List Json}
    {isTyped : α → Bool} {nodes : α → List Node}
    (h : ∀ w, r.Gives (elements w) (f w) fun a =>
      r.Agrees (typed w) (elements w) (isTyped a) (nodes a)) (v : Json) :
    r.Gives ((itemsOf v).flatMap elements) (do (← items v).mapM f) fun as =>
      r.Agrees ((itemsOf v).all typed) ((itemsOf v).flatMap elements) (as.all isTyped)
        (as.flatMap nodes) := by
  refine (gives_mapM_items h v).imp fun as has => ?_
  exact ⟨all_eq_all_of_forall₂ (has.imp fun _ _ hwa => hwa.typed),
    forall₂_flatMap (has.imp fun _ _ hwa => hwa.inside)⟩

theorem gives_inlines (v : Json) : r.Gives (itemsOf v) (r.inlines v) fun content =>
    List.Forall₂ r.Reads (itemsOf v) (content.map Node.inline) := by
  have hone : ∀ w, r.Gives [w] (inside (r.inline w)) fun i => r.Reads w (.inline i) := by
    intro w
    unfold inside Gives
    cases hw : r.inline w with
    | ok i => exact hw
    | error f => exact ⟨w, List.mem_singleton_self w, .inl hw⟩
  have hall := gives_mapM_items hone v
  rw [List.flatMap_singleton'] at hall
  exact hall.imp fun content hcontent => (List.forall₂_map_right_iff).mpr hcontent

theorem gives_blocks (v : Json) : r.Gives (itemsOf v) (r.blocks v) fun blocks =>
    List.Forall₂ r.Reads (itemsOf v) (blocks.map Node.block) := by
  have hone : ∀ w, r.Gives [w] (inside (r.block w)) fun b => r.Reads w (.block b) := by
    intro w
    unfold inside Gives
    cases hw : r.block w with
    | ok b => exact hw
    | error f => exact ⟨w, List.mem_singleton_self w, .inr hw⟩
  have hall := gives_mapM_items hone v
  rw [List.flatMap_singleton'] at hall
  exact hall.imp fun blocks hblocks => (List.forall₂_map_right_iff).mpr hblocks

theorem gives_lines (v : Json) :
    r.Gives (elementsInItems v) (do (← items v).mapM r.inlines) fun lines =>
      List.Forall₂ r.Reads (elementsInItems v) (lines.flatMap fun line => line.map Node.inline) :=
  (gives_mapM_items gives_inlines v).imp fun _ hlines => forall₂_flatMap hlines

theorem gives_blockLists (v : Json) :
    r.Gives (elementsInItems v) (r.blockLists v) fun items =>
      List.Forall₂ r.Reads (elementsInItems v) (items.flatMap fun item => item.map Node.block) :=
  (gives_mapM_items gives_blocks v).imp fun _ hitems => forall₂_flatMap hitems

/-! ### Records -/

theorem gives_plainForm [Host] (v : Json) : r.Gives es (plainForm v) fun _ => True := by
  unfold plainForm
  split <;> trivial

theorem gives_attr [Host] (v : Json) : r.Gives es (attr v) fun a => isTypedAttr v = a.isTyped := by
  refine (gives_three v).bind fun ⟨identifier, classes, pairs⟩ hv => ?_
  refine (gives_items pairs).bind fun entries _ => ?_
  have hpair : ∀ w ∈ entries, r.Gives es (textPair w) fun _ => True :=
    fun w _ => (gives_two w).bind fun pair _ => (gives_plainForm pair.1).bind fun _ _ =>
      (gives_plainForm pair.2).bind fun _ _ => gives_pure trivial
  refine (gives_mapM hpair).bind fun _ _ => ?_
  refine (gives_items classes).bind fun names hnames => ?_
  subst hnames
  apply gives_pure
  rw [isTypedAttr, itemAt_eq hv, itemAt_eq hv]
  rfl

theorem gives_target (v : Json) : r.Gives es (target v) fun t => isTypedTarget v = t.isTyped := by
  refine (gives_two v).bind fun ⟨url, title⟩ hv => ?_
  apply gives_pure
  rw [isTypedTarget, itemAt_eq hv, itemAt_eq hv]
  rfl

theorem gives_colSpec [Host] (v : Json) :
    r.Gives es (colSpec v) fun c => isTypedColSpec v = c.width.isWidth := by
  refine (gives_two v).bind fun ⟨alignment, width⟩ hv => ?_
  refine (gives_taggedChoice ..).bind fun alignment _ => ?_
  refine (gives_need width "t").bind fun tag htag => ?_
  have hwidth : itemAt v 1 = width := itemAt_eq hv 1
  rw [isTypedColSpec, hwidth, fieldOr, htag, Option.getD_some]
  dsimp only
  split
  · refine (gives_optional htag "c" .null).bind fun c hc => ?_
    subst hc
    exact gives_pure rfl
  · apply gives_pure
    simp [Json.isWidth]

theorem gives_caption (v : Json) :
    r.Gives (elementsInCaption v) (r.caption v) fun c =>
      List.Forall₂ r.Reads (elementsInCaption v) c.nodes := by
  refine (gives_two v).bind fun ⟨short, blocks⟩ hv => ?_
  have helements : elementsInCaption v = itemsOf short ++ itemsOf blocks := by
    rw [elementsInCaption, itemAt_eq hv, itemAt_eq hv]
    rfl
  rw [helements]
  have hrest : ∀ s : Option (List Inline),
      List.Forall₂ r.Reads (itemsOf short) ((s.getD []).map Node.inline) →
      r.Gives (itemsOf short ++ itemsOf blocks)
        (do return (⟨s, ← r.blocks blocks⟩ : Caption)) fun c =>
        List.Forall₂ r.Reads (itemsOf short ++ itemsOf blocks) c.nodes := by
    intro s hs
    refine ((gives_blocks blocks).mono (List.subset_append_right ..)).bind fun bs hbs => ?_
    exact gives_pure (List.rel_append hs hbs)
  dsimp only
  split
  · exact hrest none .nil
  · rw [map_eq_pure_bind, bind_assoc]
    refine ((gives_inlines short).mono (List.subset_append_left ..)).bind fun content hcontent => ?_
    exact hrest (some content) hcontent

theorem gives_cell [Host] (v : Json) :
    r.Gives (itemsOf (itemAt v 4)) (r.cell v) fun c =>
      r.Agrees (isTypedCell v) (itemsOf (itemAt v 4)) c.isTyped (c.blocks.map Node.block) := by
  refine (gives_five v).bind fun ⟨attribs, alignment, rowSpan, colSpan, blocks⟩ hv => ?_
  have hblocks : itemAt v 4 = blocks := itemAt_eq hv 4
  rw [hblocks]
  refine (gives_blocks blocks).bind fun read hread => ?_
  refine (gives_attr attribs).bind fun a ha => ?_
  refine (gives_taggedChoice ..).bind fun alignment _ => ?_
  refine gives_pure ⟨?_, hread⟩
  rw [isTypedCell, itemAt_eq hv, itemAt_eq hv, itemAt_eq hv, Cell.isTyped, ← ha]
  rfl

theorem gives_row [Host] (v : Json) :
    r.Gives (elementsInRow v) (r.row v) fun w =>
      r.Agrees (isTypedRow v) (elementsInRow v) w.isTyped
        (w.cells.flatMap fun c => c.blocks.map Node.block) := by
  refine (gives_two v).bind fun ⟨attribs, cells⟩ hv => ?_
  have hcells : itemAt v 1 = cells := itemAt_eq hv 1
  rw [elementsInRow, hcells]
  dsimp only
  rw [← bind_assoc]
  refine (gives_sequence gives_cell cells).bind fun read hread => ?_
  refine (gives_attr attribs).bind fun a ha => ?_
  refine gives_pure ⟨?_, hread.inside⟩
  rw [isTypedRow, itemAt_eq hv, hcells, Row.isTyped, ← ha, ← hread.typed]
  rfl

theorem gives_rows [Host] (v : Json) :
    r.Gives (elementsInRows v) (r.rows v) fun rows =>
      r.Agrees ((itemsOf v).all isTypedRow) (elementsInRows v) (rows.all Row.isTyped)
        (rowNodes rows) :=
  gives_sequence gives_row v

theorem gives_tableBody [Host] (v : Json) :
    r.Gives (elementsInBody v) (r.tableBody v) fun b =>
      r.Agrees (isTypedBody v) (elementsInBody v) b.isTyped
        (rowNodes b.headRows ++ rowNodes b.rows) := by
  refine (gives_four v).bind fun ⟨attribs, headColumns, headRows, bodyRows⟩ hv => ?_
  have helements : elementsInBody v = elementsInRows headRows ++ elementsInRows bodyRows := by
    rw [elementsInBody, itemAt_eq hv, itemAt_eq hv]
    rfl
  rw [helements]
  refine ((gives_rows bodyRows).mono (List.subset_append_right ..)).bind fun rows hrows => ?_
  refine ((gives_rows headRows).mono (List.subset_append_left ..)).bind fun heads hheads => ?_
  refine (gives_attr attribs).bind fun a ha => ?_
  refine gives_pure ⟨?_, List.rel_append hheads.inside hrows.inside⟩
  rw [isTypedBody, itemAt_eq hv, itemAt_eq hv, itemAt_eq hv, itemAt_eq hv, TableBody.isTyped, ← ha,
    ← hheads.typed, ← hrows.typed]
  rfl

theorem gives_definition (v : Json) :
    r.Gives (elementsInDefinition v) (r.definition v) fun d =>
      List.Forall₂ r.Reads (elementsInDefinition v)
        (d.term.map Node.inline ++ d.meanings.flatMap fun m => m.map Node.block) := by
  refine (gives_two v).bind fun ⟨term, meanings⟩ hv => ?_
  have helements : elementsInDefinition v = itemsOf term ++ elementsInItems meanings := by
    rw [elementsInDefinition, itemAt_eq hv, itemAt_eq hv]
    rfl
  rw [helements]
  refine ((gives_inlines term).mono (List.subset_append_left ..)).bind fun term hterm => ?_
  refine ((gives_blockLists meanings).mono (List.subset_append_right ..)).bind fun ms hms => ?_
  exact gives_pure (List.rel_append hterm hms)

theorem gives_citation [Host] (v : Json) :
    r.Gives (elementsInCitation v) (r.citation v) fun c =>
      r.Agrees (isTypedCitation v) (elementsInCitation v) c.isTyped
        (c.before.map Node.inline ++ c.after.map Node.inline) := by
  refine (gives_need v "citationId").bind fun id hid => ?_
  refine (gives_optional hid "citationPrefix" _).bind fun w hw => ?_
  subst hw
  refine ((gives_inlines _).mono (List.subset_append_left ..)).bind fun before hbefore => ?_
  refine (gives_optional hid "citationSuffix" _).bind fun w hw => ?_
  subst hw
  refine ((gives_inlines _).mono (List.subset_append_right ..)).bind fun after hafter => ?_
  refine (gives_need v "citationMode").bind fun mode _ => ?_
  refine (gives_taggedChoice ..).bind fun mode _ => ?_
  refine (gives_optional hid "citationNoteNum" _).bind fun noteNumber hnoteNumber => ?_
  refine (gives_optional hid "citationHash" _).bind fun hash hhash => ?_
  subst hnoteNumber hhash
  refine gives_pure ⟨?_, List.rel_append hbefore hafter⟩
  rw [isTypedCitation, fieldOr, hid]
  rfl

/-! ### Elements by tag -/

theorem gives_orderedList [Host] (v : Json) :
    r.Gives (elementsIn "OrderedList" v) (r.orderedList v) fun b =>
      r.Agrees (hasTypedValues "OrderedList" v) (elementsIn "OrderedList" v)
        (Node.block b).hasTypedFields b.children := by
  refine (gives_two v).bind fun ⟨attributes, listed⟩ hv => ?_
  have helements : elementsIn "OrderedList" v = elementsInItems listed := by
    rw [elementsIn, itemAt_eq hv]
    rfl
  rw [helements]
  refine (gives_three attributes).bind fun ⟨start, style, delimiter⟩ hattributes => ?_
  refine (gives_taggedChoice ..).bind fun style _ => ?_
  refine (gives_taggedChoice ..).bind fun delimiter _ => ?_
  refine (gives_blockLists listed).bind fun items hitems => ?_
  refine gives_pure ⟨?_, hitems⟩
  have hfirst : itemAt v 0 = attributes := itemAt_eq hv 0
  rw [hasTypedValues, hfirst, itemAt_eq hattributes]
  rfl

theorem isTypedGroup_eq {v attribs rows : Json} (hv : itemsOf v = [attribs, rows]) {a : Attr}
    {ws : List Row} (ha : isTypedAttr attribs = a.isTyped)
    (hws : (itemsOf rows).all isTypedRow = ws.all Row.isTyped) :
    isTypedGroup v = RowGroup.isTyped ⟨a, ws⟩ := by
  rw [isTypedGroup, itemAt_eq hv, itemAt_eq hv, RowGroup.isTyped, ← ha, ← hws]
  rfl

theorem gives_table [Host] (v : Json) :
    r.Gives (elementsIn "Table" v) (r.table v) fun b =>
      r.Agrees (hasTypedValues "Table" v) (elementsIn "Table" v) (Node.block b).hasTypedFields
        b.children := by
  refine (gives_six v).bind fun ⟨attribs, caption, colSpecs, head, bodies, foot⟩ hv => ?_
  refine (gives_two head).bind fun ⟨headAttr, headRows⟩ hhead => ?_
  refine (gives_two foot).bind fun ⟨footAttr, footRows⟩ hfoot => ?_
  have helements : elementsIn "Table" v = elementsInCaption caption ++ elementsInRows headRows
      ++ (itemsOf bodies).flatMap elementsInBody ++ elementsInRows footRows := by
    have hheadAt : itemAt v 3 = head := itemAt_eq hv 3
    have hfootAt : itemAt v 5 = foot := itemAt_eq hv 5
    rw [elementsIn, hheadAt, hfootAt, itemAt_eq hv, itemAt_eq hv, itemAt_eq hhead, itemAt_eq hfoot]
    rfl
  have hin : ∀ e, (e ∈ elementsInCaption caption ∨ e ∈ elementsInRows headRows ∨
      e ∈ (itemsOf bodies).flatMap elementsInBody ∨ e ∈ elementsInRows footRows) →
      e ∈ elementsIn "Table" v := by
    intro e he
    rw [helements, List.append_assoc, List.append_assoc]
    simpa only [List.mem_append] using he
  have hcaptionIn : elementsInCaption caption ⊆ elementsIn "Table" v :=
    fun e he => hin e (.inl he)
  have hheadIn : elementsInRows headRows ⊆ elementsIn "Table" v :=
    fun e he => hin e (.inr (.inl he))
  have hbodiesIn : (itemsOf bodies).flatMap elementsInBody ⊆ elementsIn "Table" v :=
    fun e he => hin e (.inr (.inr (.inl he)))
  have hfootIn : elementsInRows footRows ⊆ elementsIn "Table" v :=
    fun e he => hin e (.inr (.inr (.inr he)))
  refine ((gives_rows headRows).mono hheadIn).bind fun headRead hheadRead => ?_
  refine (gives_attr headAttr).bind fun headA hheadA => ?_
  rw [← bind_assoc]
  refine ((gives_sequence gives_tableBody bodies).mono hbodiesIn).bind fun bodiesRead hbodies => ?_
  refine (gives_attr attribs).bind fun a ha => ?_
  refine ((gives_caption caption).mono hcaptionIn).bind fun captionRead hcaption => ?_
  refine (gives_items colSpecs).bind fun specs hspecs => ?_
  refine (gives_mapM fun w _ => gives_colSpec w).bind fun specsRead hspecsRead => ?_
  refine ((gives_rows footRows).mono hfootIn).bind fun footRead hfootRead => ?_
  refine (gives_attr footAttr).bind fun footA hfootA => ?_
  refine gives_pure ⟨?_, ?_⟩
  · have hcols := all_eq_all_of_forall₂ hspecsRead
    have hheadTyped := isTypedGroup_eq hhead hheadA hheadRead.typed
    have hfootTyped := isTypedGroup_eq hfoot hfootA hfootRead.typed
    simp only [hasTypedValues, Node.hasTypedFields, itemAt_eq hv]
    simp only [List.getElem?_cons_zero, List.getElem?_cons_succ, Option.getD_some]
    rw [← ha, ← hcols, ← hspecs, ← hheadTyped, ← hbodies.typed, ← hfootTyped]
  · rw [helements]
    have hfront := List.rel_append hcaption hheadRead.inside
    exact List.rel_append (List.rel_append hfront hbodies.inside) hfootRead.inside

theorem gives_blockRule [Host] {tag : String} {read : Json → Reading Block}
    (h : r.blockRule tag = some read) (v : Json) :
    r.Gives (elementsIn tag v) (read v) fun b =>
      r.Agrees (hasTypedValues tag v) (elementsIn tag v) (Node.block b).hasTypedFields
        b.children := by
  unfold blockRule at h
  split at h <;> cases h
  · exact (gives_inlines v).bind fun content hcontent => gives_pure ⟨rfl, hcontent⟩
  · exact (gives_inlines v).bind fun content hcontent => gives_pure ⟨rfl, hcontent⟩
  · dsimp only
    rw [← bind_assoc]
    exact (gives_lines v).bind fun lines hlines => gives_pure ⟨rfl, hlines⟩
  · refine (gives_part v 1).bind fun text htext => ?_
    refine (gives_part v 0).bind fun attribs hattribs => (gives_attr attribs).bind fun a ha => ?_
    subst htext hattribs
    refine gives_pure ⟨?_, .nil⟩
    simp only [hasTypedValues, Node.hasTypedFields, ha]
  · refine (gives_part v 0).bind fun format hformat => (gives_part v 1).bind fun text htext => ?_
    subst hformat htext
    exact gives_pure ⟨rfl, .nil⟩
  · exact (gives_blocks v).bind fun blocks hblocks => gives_pure ⟨rfl, hblocks⟩
  · exact gives_orderedList v
  · exact (gives_blockLists v).bind fun items hitems => gives_pure ⟨rfl, hitems⟩
  · dsimp only
    rw [← bind_assoc]
    refine (gives_mapM_items gives_definition v).bind fun items hitems => ?_
    exact gives_pure ⟨rfl, forall₂_flatMap hitems⟩
  · refine (gives_part v 0).bind fun level hlevel => (gives_part v 2).bind fun c hc => ?_
    subst hlevel hc
    refine (gives_inlines _).bind fun content hcontent => ?_
    refine (gives_part v 1).bind fun attribs hattribs => (gives_attr attribs).bind fun a ha => ?_
    subst hattribs
    refine gives_pure ⟨?_, hcontent⟩
    simp only [hasTypedValues, Node.hasTypedFields, ha]
  · exact gives_pure ⟨rfl, .nil⟩
  · exact gives_table v
  · refine (gives_part v 2).bind fun c hc => ?_
    subst hc
    refine ((gives_blocks _).mono (List.subset_append_right ..)).bind fun blocks hblocks => ?_
    refine (gives_part v 1).bind fun c hc => ?_
    subst hc
    refine ((gives_caption _).mono (List.subset_append_left ..)).bind fun caption hcaption => ?_
    refine (gives_part v 0).bind fun attribs hattribs => (gives_attr attribs).bind fun a ha => ?_
    subst hattribs
    exact gives_pure ⟨ha, List.rel_append hcaption hblocks⟩
  · refine (gives_part v 1).bind fun c hc => ?_
    subst hc
    refine (gives_blocks _).bind fun blocks hblocks => ?_
    refine (gives_part v 0).bind fun attribs hattribs => (gives_attr attribs).bind fun a ha => ?_
    subst hattribs
    exact gives_pure ⟨ha, hblocks⟩

/-- The contents of a link and of an image are read alike. -/
theorem gives_linked [Host] {make : Attr → List Inline → Target → Inline}
    (hmake : ∀ attribs content target,
      (Node.inline (make attribs content target)).hasTypedFields
          = (attribs.isTyped && target.isTyped)
        ∧ (make attribs content target).children = content.map Node.inline) (v : Json) :
    r.Gives (itemsOf (itemAt v 1))
      (do
        let content ← r.inlines (← part v 1)
        let target ← target (← part v 2)
        return make (← attr (← part v 0)) content target)
      fun i => r.Agrees (isTypedAttr (itemAt v 0) && isTypedTarget (itemAt v 2))
        (itemsOf (itemAt v 1)) (Node.inline i).hasTypedFields i.children := by
  refine (gives_part v 1).bind fun c hc => ?_
  subst hc
  refine (gives_inlines _).bind fun content hcontent => ?_
  refine (gives_part v 2).bind fun c hc => (gives_target c).bind fun t ht => ?_
  refine (gives_part v 0).bind fun attribs hattribs => (gives_attr attribs).bind fun a ha => ?_
  subst hc hattribs
  obtain ⟨htyped, hchildren⟩ := hmake a content t
  refine gives_pure ⟨?_, ?_⟩
  · rw [htyped, ha, ht]
  · rw [hchildren]
    exact hcontent

theorem mem_styleNames {tag : String} {style : Style} (h : choiceOf Style.names tag = some style) :
    tag ∈ Style.names.map (·.1) := by
  rw [choiceOf, Option.map_eq_some_iff] at h
  obtain ⟨entry, hentry, _⟩ := h
  have htag := List.find?_some hentry
  rw [beq_iff_eq] at htag
  exact htag ▸ List.mem_map_of_mem (List.mem_of_find?_eq_some hentry)

theorem gives_inlineRule [Host] {tag : String} {read : Json → Reading Inline}
    (h : r.inlineRule tag = some read) (v : Json) :
    r.Gives (elementsIn tag v) (read v) fun i =>
      r.Agrees (hasTypedValues tag v) (elementsIn tag v) (Node.inline i).hasTypedFields
        i.children := by
  unfold inlineRule at h
  split at h
  case h_14 =>
    obtain ⟨style, hstyle, rfl⟩ := Option.map_eq_some_iff.mp h
    have hread : r.Gives (itemsOf v) (do return Inline.styled style (← r.inlines v)) fun i =>
        r.Agrees true (itemsOf v) (Node.inline i).hasTypedFields i.children :=
      (gives_inlines v).bind fun content hcontent => gives_pure ⟨rfl, hcontent⟩
    have hname := mem_styleNames hstyle
    simp only [Style.names, List.map_cons, List.map_nil, List.mem_cons, List.not_mem_nil,
      or_false] at hname
    rcases hname with rfl | rfl | rfl | rfl | rfl | rfl | rfl <;> exact hread
  all_goals cases h
  · exact gives_pure ⟨rfl, .nil⟩
  · refine (gives_part v 0).bind fun kind _ => (gives_taggedChoice ..).bind fun kind _ => ?_
    refine (gives_part v 1).bind fun c hc => ?_
    subst hc
    exact (gives_inlines _).bind fun content hcontent => gives_pure ⟨rfl, hcontent⟩
  · refine (gives_part v 0).bind fun c hc => ?_
    subst hc
    rw [← bind_assoc]
    refine ((gives_sequence gives_citation _).mono (List.subset_append_left ..)).bind
      fun citations hcitations => ?_
    refine (gives_part v 1).bind fun c hc => ?_
    subst hc
    refine ((gives_inlines _).mono (List.subset_append_right ..)).bind fun content hcontent => ?_
    exact gives_pure ⟨hcitations.typed, List.rel_append hcitations.inside hcontent⟩
  · refine (gives_part v 1).bind fun text htext => ?_
    refine (gives_part v 0).bind fun attribs hattribs => (gives_attr attribs).bind fun a ha => ?_
    subst htext hattribs
    refine gives_pure ⟨?_, .nil⟩
    simp only [hasTypedValues, Node.hasTypedFields, ha]
  · exact gives_pure ⟨rfl, .nil⟩
  · exact gives_pure ⟨rfl, .nil⟩
  · exact gives_pure ⟨rfl, .nil⟩
  · refine (gives_part v 0).bind fun format hformat => (gives_part v 1).bind fun text htext => ?_
    subst hformat htext
    exact gives_pure ⟨rfl, .nil⟩
  · refine (gives_part v 0).bind fun kind _ => (gives_taggedChoice ..).bind fun kind _ => ?_
    refine (gives_part v 1).bind fun text htext => ?_
    subst htext
    exact gives_pure ⟨rfl, .nil⟩
  · exact gives_linked (fun _ _ _ => ⟨rfl, rfl⟩) v
  · exact gives_linked (fun _ _ _ => ⟨rfl, rfl⟩) v
  · exact (gives_blocks v).bind fun blocks hblocks => gives_pure ⟨rfl, hblocks⟩
  · refine (gives_part v 1).bind fun c hc => ?_
    subst hc
    refine (gives_inlines _).bind fun content hcontent => ?_
    refine (gives_part v 0).bind fun attribs hattribs => (gives_attr attribs).bind fun a ha => ?_
    subst hattribs
    exact gives_pure ⟨ha, hcontent⟩

theorem gives_rule [Host] {kind : RawKind} {tag : String} {read : Json → Reading Node}
    (h : r.rule kind tag = some read) (v : Json) :
    r.Gives (elementsIn tag v) (read v) fun n =>
      r.Agrees (hasTypedValues tag v) (elementsIn tag v) n.hasTypedFields n.children := by
  cases kind with
  | block =>
    obtain ⟨read, hread, rfl⟩ := Option.map_eq_some_iff.mp h
    exact (gives_blockRule hread v).map Node.block fun b hb => hb
  | inline =>
    obtain ⟨read, hread, rfl⟩ := Option.map_eq_some_iff.mp h
    exact (gives_inlineRule hread v).map Node.inline fun i hi => hi

end Readers

end PandocHtml.Pandoc
