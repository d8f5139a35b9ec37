import PandocHtml.Pandoc.Element

/-!
# Related readings

What an element is read to depends on the readers of the elements inside it, and on them only for
the parts of its contents.  So a relation of readings that readings keep when they go on carries
over from the readers of all parts of a value to every record that is read from it, and to the rules
for the tags.
-/

namespace PandocHtml.Pandoc

/-! ### Parts of a value -/

/-- What can be reached from a value by taking items and fields, the value itself included.  Where
something is absent, `null` or an empty sequence stands for it. -/
inductive HasPart (v : Json) : Json → Prop where
  | whole : HasPart v v
  | item {u w : Json} {ws : List Json} (h : HasPart v u) (hws : items? u = some ws)
      (hw : w ∈ ws) : HasPart v w
  | field {u w : Json} {name : String} (h : HasPart v u) (hw : u.field? name = some w) :
      HasPart v w
  | absent : HasPart v .null
  | absentItems : HasPart v (.arr [])

namespace HasPart

variable {u v w : Json}

theorem trans (hvu : HasPart v u) (huw : HasPart u w) : HasPart v w := by
  induction huw with
  | whole => exact hvu
  | item _ hws hw ih => exact .item ih hws hw
  | field _ hw ih => exact .field ih hw
  | absent => exact .absent
  | absentItems => exact .absentItems

theorem size_le_of_items? {ws : List Json} (h : items? v = some ws) (hw : w ∈ ws) :
    w.size ≤ v.size := by
  cases v with
  | arr vs =>
    obtain rfl := Option.some.inj h
    have hle := Json.size_le_sizeItems hw
    simp only [Json.size]
    omega
  | str s =>
    obtain rfl := Option.some.inj h
    obtain ⟨c, _, rfl⟩ := List.mem_map.mp hw
    exact Nat.le_refl _
  | obj fields =>
    obtain rfl := Option.some.inj h
    obtain ⟨f, _, rfl⟩ := List.mem_map.mp hw
    exact Json.size_pos _
  | _ => cases h

theorem size_le (h : HasPart v w) : w.size ≤ v.size := by
  induction h with
  | whole => exact Nat.le_refl _
  | item _ hws hw ih => exact Nat.le_trans (size_le_of_items? hws hw) ih
  | field _ hw ih => exact Nat.le_trans (Nat.le_of_lt (Json.size_lt_of_field? hw)) ih
  | absent => exact v.size_pos
  | absentItems => exact v.size_pos

theorem field_getD (name : String) {default : Json} (hdefault : HasPart v default) :
    HasPart v ((v.field? name).getD default) := by
  cases h : v.field? name with
  | none => exact hdefault
  | some w => exact .field .whole h

end HasPart

/-! ### What the shapes give -/

def AllParts (v : Json) (ws : List Json) : Prop := ∀ w ∈ ws, HasPart v w

theorem allParts_of_items? {v : Json} {ws : List Json} (h : items? v = some ws) : AllParts v ws :=
  fun _ hw => .item .whole h hw

theorem allParts_of_items {v : Json} {ws : List Json} (h : items v = .ok ws) : AllParts v ws := by
  unfold items at h
  split at h
  · next hws =>
    obtain rfl := Except.ok.inj h
    exact allParts_of_items? hws
  · cases h

theorem allParts_of_two {v a b : Json} (h : two v = .ok (a, b)) : AllParts v [a, b] := by
  unfold two at h
  split at h
  · next hws =>
    cases h
    exact allParts_of_items? hws
  · cases h

theorem allParts_of_four {v a b c d : Json} (h : four v = .ok (a, b, c, d)) :
    AllParts v [a, b, c, d] := by
  unfold four at h
  split at h
  · next hws =>
    cases h
    exact allParts_of_items? hws
  · cases h

theorem allParts_of_five {v a b c d e : Json} (h : five v = .ok (a, b, c, d, e)) :
    AllParts v [a, b, c, d, e] := by
  unfold five at h
  split at h
  · next hws =>
    cases h
    exact allParts_of_items? hws
  · cases h

theorem allParts_of_six {v a b c d e f : Json} (h : six v = .ok (a, b, c, d, e, f)) :
    AllParts v [a, b, c, d, e, f] := by
  unfold six at h
  split at h
  · next hws =>
    cases h
    exact allParts_of_items? hws
  · cases h

theorem hasPart_of_part {v w : Json} {place : Nat} (h : part v place = .ok w) : HasPart v w := by
  unfold part at h
  split at h
  · cases h
  · split at h
    · next hw =>
      obtain rfl := Except.ok.inj h
      obtain ⟨ws, hws, hget⟩ := Option.bind_eq_some_iff.mp hw
      exact allParts_of_items? hws _ (List.mem_of_getElem? hget)
    · cases h

theorem hasPart_of_optional {v w : Json} {name : String} (h : optional v name (.arr []) = .ok w) :
    HasPart v w := by
  unfold optional at h
  split at h
  · obtain rfl := Except.ok.inj h
    exact .field_getD name .absentItems
  · cases h

/-! ### Relations that readings keep -/

/-- A relation of readings that holds of a reading and itself, and that is kept when related
readings go on in related ways. -/
structure Congruence (R : ∀ {α : Type}, Reading α → Reading α → Prop) : Prop where
  refl {α : Type} (x : Reading α) : R x x
  bind {α β : Type} {x y : Reading α} {f g : α → Reading β} (hx : R x y)
    (hf : ∀ a, x = .ok a → R (f a) (g a)) : R (x >>= f) (y >>= g)

namespace Congruence

variable {R : ∀ {α : Type}, Reading α → Reading α → Prop} (C : Congruence R)
  {α β : Type} {v : Json}
include C

/-- What comes first is the same. -/
theorem after {x : Reading α} {f g : α → Reading β} (hf : ∀ a, x = .ok a → R (f a) (g a)) :
    R (x >>= f) (x >>= g) :=
  C.bind (C.refl x) hf

/-- What follows is the same. -/
theorem before {x y : Reading α} (hx : R x y) (f : α → Reading β) : R (x >>= f) (y >>= f) :=
  C.bind hx fun a _ => C.refl (f a)

theorem map {x y : Reading α} (hx : R x y) (F : α → β) : R (F <$> x) (F <$> y) := by
  rw [map_eq_pure_bind, map_eq_pure_bind]
  exact C.before hx _

theorem mapM {f g : Json → Reading α} {ws : List Json} (h : ∀ w ∈ ws, R (f w) (g w)) :
    R (ws.mapM f) (ws.mapM g) := by
  induction ws with
  | nil => exact C.refl _
  | cons w rest ih =>
    rw [List.forall_mem_cons] at h
    rw [List.mapM_cons, List.mapM_cons]
    exact C.bind h.1 fun a _ => C.before (ih h.2) _

theorem sequence {f g : Json → Reading α} (h : ∀ w, HasPart v w → R (f w) (g w))
    {next next' : List α → Reading β} (hnext : ∀ as, R (next as) (next' as)) :
    R (do next (← (← items v).mapM f)) (do next' (← (← items v).mapM g)) := by
  refine C.after fun ws hws => C.bind (C.mapM fun w hw => h w ?_) fun as _ => hnext as
  exact allParts_of_items hws w hw

theorem part {f g : Json → Reading α} (h : ∀ w, HasPart v w → R (f w) (g w)) (place : Nat) :
    R (part v place >>= f) (part v place >>= g) :=
  C.after fun w hw => h w (hasPart_of_part hw)

end Congruence

/-! ### Readers related on all parts of a value -/

/-- Readers that read every part of a value in related ways. -/
structure Related (R : ∀ {α : Type}, Reading α → Reading α → Prop) (v : Json) (r s : Readers) :
    Prop where
  inline : ∀ w, HasPart v w → R (inside (r.inline w)) (inside (s.inline w))
  block : ∀ w, HasPart v w → R (inside (r.block w)) (inside (s.block w))

namespace Related

variable {R : ∀ {α : Type}, Reading α → Reading α → Prop} {r s : Readers} {u v w : Json}

theorem of_part (h : Related R v r s) (hw : HasPart v w) : Related R w r s where
  inline u hu := h.inline u (hw.trans hu)
  block u hu := h.block u (hw.trans hu)

variable (h : Related R v r s) (C : Congruence R)
include h C

theorem inlines : R (r.inlines v) (s.inlines v) := by
  refine C.after fun ws hws => C.mapM fun w hw => h.inline w ?_
  exact allParts_of_items hws w hw

theorem blocks : R (r.blocks v) (s.blocks v) := by
  refine C.after fun ws hws => C.mapM fun w hw => h.block w ?_
  exact allParts_of_items hws w hw

theorem blockLists : R (r.blockLists v) (s.blockLists v) := by
  refine C.after fun ws hws => C.mapM fun w hw => (h.of_part ?_).blocks C
  exact allParts_of_items hws w hw

theorem caption : R (r.caption v) (s.caption v) := by
  refine C.after fun ⟨short, shown⟩ hparts => ?_
  have hin := allParts_of_two hparts
  simp only [AllParts, List.forall_mem_cons] at hin
  have hshort := (h.of_part hin.1).inlines C
  have hblocks := (h.of_part hin.2.1).blocks C
  dsimp only
  split
  · exact C.before hblocks _
  · exact C.bind (C.map hshort some) fun short _ => C.before hblocks _

theorem cell [Host] : R (r.cell v) (s.cell v) := by
  refine C.after fun ⟨attribs, alignment, rowSpan, colSpan, shown⟩ hparts => ?_
  have hin := allParts_of_five hparts
  simp only [AllParts, List.forall_mem_cons] at hin
  exact C.before ((h.of_part hin.2.2.2.2.1).blocks C) _

theorem row [Host] : R (r.row v) (s.row v) := by
  refine C.after fun ⟨attribs, cells⟩ hparts => ?_
  have hin := allParts_of_two hparts
  simp only [AllParts, List.forall_mem_cons] at hin
  have hcells := h.of_part hin.2.1
  exact C.sequence (fun w hw => (hcells.of_part hw).cell C) fun _ => C.refl _

theorem rows [Host] : R (r.rows v) (s.rows v) := by
  refine C.after fun ws hws => C.mapM fun w hw => (h.of_part ?_).row C
  exact allParts_of_items hws w hw

theorem tableBody [Host] : R (r.tableBody v) (s.tableBody v) := by
  refine C.after fun ⟨attribs, headColumns, headRows, bodyRows⟩ hparts => ?_
  have hin := allParts_of_four hparts
  simp only [AllParts, List.forall_mem_cons] at hin
  have hhead := (h.of_part hin.2.2.1).rows C
  have hbody := (h.of_part hin.2.2.2.1).rows C
  exact C.bind hbody fun _ _ => C.before hhead _

theorem table [Host] : R (r.table v) (s.table v) := by
  refine C.after fun ⟨attribs, caption, colSpecs, head, bodies, foot⟩ hparts => ?_
  refine C.after fun ⟨headAttr, headRows⟩ hheadParts => ?_
  refine C.after fun ⟨footAttr, footRows⟩ hfootParts => ?_
  have hin := allParts_of_six hparts
  have hheadIn := allParts_of_two hheadParts
  have hfootIn := allParts_of_two hfootParts
  simp only [AllParts, List.forall_mem_cons] at hin hheadIn hfootIn
  obtain ⟨_, hcaption, _, hhead, hbodies, hfoot, _⟩ := hin
  have hheadRows := (h.of_part (hhead.trans hheadIn.2.1)).rows C
  have hfootRows := (h.of_part (hfoot.trans hfootIn.2.1)).rows C
  have hcaption := (h.of_part hcaption).caption C
  have hbodies := h.of_part hbodies
  -- in the order in which the parts are read
  refine C.bind hheadRows fun headRows _ => C.after fun headAttr _ => ?_
  refine C.sequence (fun w hw => (hbodies.of_part hw).tableBody C) fun bodies => ?_
  refine C.after fun attribs _ => C.bind hcaption fun caption _ => ?_
  exact C.after fun ws _ => C.after fun colSpecs _ => C.before hfootRows _

theorem orderedList [Host] : R (r.orderedList v) (s.orderedList v) := by
  refine C.after fun ⟨attributes, listed⟩ hparts => ?_
  have hin := allParts_of_two hparts
  simp only [AllParts, List.forall_mem_cons] at hin
  have hlisted := (h.of_part hin.2.1).blockLists C
  refine C.after fun ⟨start, style, delimiter⟩ _ => ?_
  exact C.after fun style _ => C.after fun delimiter _ => C.before hlisted _

theorem definition : R (r.definition v) (s.definition v) := by
  refine C.after fun ⟨term, meanings⟩ hparts => ?_
  have hin := allParts_of_two hparts
  simp only [AllParts, List.forall_mem_cons] at hin
  have hterm := (h.of_part hin.1).inlines C
  have hmeanings := (h.of_part hin.2.1).blockLists C
  exact C.bind hterm fun _ _ => C.before hmeanings _

theorem citation [Host] : R (r.citation v) (s.citation v) := by
  refine C.after fun id _ => C.after fun before hbefore => ?_
  have hbefore := (h.of_part (hasPart_of_optional hbefore)).inlines C
  refine C.bind hbefore fun _ _ => C.after fun after hafter => ?_
  have hafter := (h.of_part (hasPart_of_optional hafter)).inlines C
  exact C.before hafter _

/-! ### Rules -/

theorem blockRule [Host] (tag : String) :
    Option.Rel (fun read read' => R (read v) (read' v)) (r.blockRule tag) (s.blockRule tag) := by
  have hblocks : ∀ w, HasPart v w → R (r.blocks w) (s.blocks w) :=
    fun w hw => (h.of_part hw).blocks C
  unfold Readers.blockRule
  split
  · exact .some (C.before (h.inlines C) _)
  · exact .some (C.before (h.inlines C) _)
  · exact .some (C.sequence (fun w hw => (h.of_part hw).inlines C) fun _ => C.refl _)
  · exact .some (C.refl _)
  · exact .some (C.refl _)
  · exact .some (C.before (h.blocks C) _)
  · exact .some (h.orderedList C)
  · exact .some (C.before (h.blockLists C) _)
  · exact .some (C.sequence (fun w hw => (h.of_part hw).definition C) fun _ => C.refl _)
  · refine .some (C.after fun level _ => C.part (fun w hw => ?_) 2)
    exact C.before ((h.of_part hw).inlines C) _
  · exact .some (C.refl _)
  · exact .some (h.table C)
  · refine .some (C.part (fun w hw => C.bind (hblocks w hw) fun _ _ => ?_) 2)
    exact C.part (fun u hu => C.before ((h.of_part hu).caption C) _) 1
  · exact .some (C.part (fun w hw => C.before (hblocks w hw) _) 1)
  · exact .none

theorem inlineRule [Host] (tag : String) :
    Option.Rel (fun read read' => R (read v) (read' v)) (r.inlineRule tag) (s.inlineRule tag) := by
  have hinlines : ∀ w, HasPart v w → R (r.inlines w) (s.inlines w) :=
    fun w hw => (h.of_part hw).inlines C
  unfold Readers.inlineRule
  split
  · exact .some (C.refl _)
  · refine .some (C.after fun kind _ => C.after fun kind _ => ?_)
    exact C.part (fun w hw => C.before (hinlines w hw) _) 1
  · refine .some (C.part (fun w hw => ?_) 0)
    refine C.sequence (fun u hu => (h.of_part (hw.trans hu)).citation C) fun _ => ?_
    exact C.part (fun u hu => C.before (hinlines u hu) _) 1
  · exact .some (C.refl _)
  · exact .some (C.refl _)
  · exact .some (C.refl _)
  · exact .some (C.refl _)
  · exact .some (C.refl _)
  · exact .some (C.refl _)
  · exact .some (C.part (fun w hw => C.before (hinlines w hw) _) 1)
  · exact .some (C.part (fun w hw => C.before (hinlines w hw) _) 1)
  · exact .some (C.before (h.blocks C) _)
  · exact .some (C.part (fun w hw => C.before (hinlines w hw) _) 1)
  · cases choiceOf Style.names tag with
    | none => exact .none
    | some style => exact .some (C.before (h.inlines C) _)

end Related

end PandocHtml.Pandoc
