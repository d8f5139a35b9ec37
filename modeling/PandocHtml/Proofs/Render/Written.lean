import PandocHtml.Proofs.Render.DecisionReports
import PandocHtml.Proofs.Render.Limits

/-!
# Values to be written

A host may leave whole numbers without a text.  A rendering of well-typed nodes has to write few
values: the formulas that it reaches, the first numbers of the lists, and the limit where it cuts
something off.  Where all of them have a text the host makes no difference to the rendering, and
where one has none the rendering ends in the fault for that.
-/

namespace PandocHtml

/-! ### Computations on a host -/

namespace Traced

variable [Host] {α β : Type} {x y : Traced α} {f g : α → Traced β} {values more : List Json}

/-- A computation off a host and on it: the same where all values that it has to write have a text,
and stopped on the host where one has none. -/
def Held (free held : Traced α) (values : List Json) : Prop :=
  if Json.areWritable Host.digits values then held = free
  else held.outcome = .error (.overlong Host.digits none)

theorem held_iff_of_writable (h : Json.areWritable Host.digits values = true) :
    x.Held y values ↔ y = x := by
  rw [Held, if_pos h]

theorem held_iff_of_unwritable (h : Json.areWritable Host.digits values = false) :
    x.Held y values ↔ y.outcome = .error (.overlong Host.digits none) := by
  rw [Held, h]
  exact Iff.rfl

theorem Held.refl (x : Traced α) : x.Held x [] := (held_iff_of_writable rfl).mpr rfl

/-- What stops a computation stops whatever follows on it. -/
theorem Held.bind (h : x.Held y values) (hx : x.Succeeds)
    (hf : ∀ a, x.outcome = .ok a → (f a).Held (g a) more) :
    (x >>= f).Held (y >>= g) (values ++ more) := by
  obtain ⟨events, _⟩ := x
  obtain ⟨a, rfl⟩ := hx
  have hf := hf a rfl
  cases hvalues : Json.areWritable Host.digits values with
  | false =>
    have hall : Json.areWritable Host.digits (values ++ more) = false := by
      rw [Json.areWritable_append, hvalues, Bool.false_and]
    rw [held_iff_of_unwritable hvalues] at h
    rw [held_iff_of_unwritable hall, outcome_bind, h]
    rfl
  | true =>
    rw [held_iff_of_writable hvalues] at h
    rw [Held, Json.areWritable_append, hvalues, Bool.true_and, h, ok_bind, ok_bind]
    cases hmore : Json.areWritable Host.digits more with
    | true =>
      rw [held_iff_of_writable hmore] at hf
      rw [hf]
      rfl
    | false =>
      rw [held_iff_of_unwritable hmore] at hf
      exact hf

/-- What follows without writing anything changes nothing. -/
theorem Held.before (h : x.Held y values) (f : α → Traced β) : (x >>= f).Held (y >>= f) values := by
  cases hvalues : Json.areWritable Host.digits values with
  | false =>
    rw [held_iff_of_unwritable hvalues] at h ⊢
    rw [outcome_bind, h]
    rfl
  | true =>
    rw [held_iff_of_writable hvalues] at h ⊢
    rw [h]

/-- Nor does what comes before and ends in a value. -/
theorem Held.after (hx : x.Succeeds) (hf : ∀ a, x.outcome = .ok a → (f a).Held (g a) values) :
    (x >>= f).Held (x >>= g) values :=
  (Held.refl x).bind hx hf

/-- Values are written first, or else nothing is done. -/
theorem Held.guard (h : x.Held y values) (written : List Json) :
    x.Held (if Json.areWritable Host.digits written then y else fail (.overlong Host.digits none))
      (written ++ values) := by
  cases hwritten : Json.areWritable Host.digits written with
  | true =>
    rw [Held, Json.areWritable_append, hwritten, Bool.true_and]
    exact h
  | false =>
    have hall : Json.areWritable Host.digits (written ++ values) = false := by
      rw [Json.areWritable_append, hwritten, Bool.false_and]
    rw [held_iff_of_unwritable hall]
    rfl

/-- On the host it ends in a value, or in the fault of a number without a text. -/
def EndsOnHost (x : Traced α) : Prop :=
  x.Succeeds ∨ x.outcome = .error (.overlong Host.digits none)

theorem Held.endsOnHost (h : x.Held y values) (hx : x.Succeeds) : y.EndsOnHost := by
  cases hvalues : Json.areWritable Host.digits values with
  | true =>
    rw [held_iff_of_writable hvalues] at h
    rw [h]
    exact .inl hx
  | false => exact .inr ((held_iff_of_unwritable hvalues).mp h)

theorem Held.succeeds_iff (h : x.Held y values) (hx : x.Succeeds) :
    y.Succeeds ↔ ∀ v ∈ values, v.isWritable Host.digits = true := by
  rw [← Json.areWritable_iff]
  cases hvalues : Json.areWritable Host.digits values with
  | true =>
    rw [held_iff_of_writable hvalues] at h
    rw [h]
    exact iff_of_true hx rfl
  | false =>
    rw [held_iff_of_unwritable hvalues] at h
    refine iff_of_false ?_ Bool.false_ne_true
    rintro ⟨a, ha⟩
    rw [h] at ha
    cases ha

end Traced

open Traced (Held)

/-! ### Values that plans write -/

/-- The values of a plan that are written before anything else is done. -/
def Plan.values : Plan → List Json
  | .written values _ => values
  | _ => []

/-- The values that a decision has to write; for a cut, the limit. -/
def Plan.writes (limit : Option Limit) : Plan → List Json
  | .nested _ => limit.toList.map Limit.given
  | p => p.values

/-- The values that carrying out a plan has to write, in order. -/
def Plan.toWrite (limit : Option Limit) (notes : Footnotes) (level : Nat) (p : Plan) : List Json :=
  (p.decisions limit notes level).flatMap fun x => x.2.writes limit

def plansToWrite (limit : Option Limit) (notes : Footnotes) (level : Nat) (ps : List Plan) :
    List Json :=
  ps.flatMap (Plan.toWrite limit notes level)

theorem flatMap_writes_plansDecisions (limit : Option Limit) (notes : Footnotes) (level : Nat)
    (ps : List Plan) :
    ((plansDecisions limit notes level ps).flatMap fun x => x.2.writes limit)
      = plansToWrite limit notes level ps := by
  rw [plansDecisions_eq_flatMap, List.flatMap_assoc]
  rfl

/-- The values that the section of some footnotes has to write. -/
def Footnotes.toWrite (limit : Option Limit) (notes : Footnotes) : List Json :=
  notes.bodies.flatMap fun body =>
    plansToWrite limit Footnotes.none 0 (body.map (Item.plan .block))

/-- The values that rendering a document under numbered footnotes has to write. -/
def Document.toWrite (limit : Option Limit) (notes : Footnotes) (d : Document) : List Json :=
  plansToWrite limit notes 0 (d.blocks.map Block.plan) ++ notes.toWrite limit

/-! ### Renderings on a host -/

section Engines

variable [Host] {β : Type} {o : Output β} {heard : Option AttrMap → List Event} {c : Config}

theorem Engine.held_runAll {e e' : Engine β} {place : Place} {values : Plan → List Json}
    {ps : List Plan} (hs : ∀ p ∈ ps, (e.run place p).Succeeds)
    (h : ∀ p ∈ ps, (e.run place p).Held (e'.run place p) (values p)) :
    (e.runAll place ps).Held (e'.runAll place ps) (ps.flatMap values) := by
  induction ps with
  | nil => exact .refl _
  | cons p rest ih =>
    rw [List.forall_mem_cons] at hs h
    rw [List.flatMap_cons, Engine.runAll, Engine.runAll]
    exact h.1.bind hs.1 fun first _ => (ih hs.2 h.2).before _

theorem Engine.held_tooDeep (c : Config) (o : Output β) (l : Limit) :
    ((c.engine o).tooDeep l).Held ((c.engine o).onHost.tooDeep l) [l.given] := by
  have hgiven : l.given.isWritable Host.digits = Json.areWritable Host.digits [l.given] :=
    (Bool.and_true _).symm
  have hhost : (c.engine o).onHost.tooDeep l = Traced.note (.tooDeep l.whole) >>= fun _ =>
      if Json.areWritable Host.digits [l.given] then (c.engine o).diagnostic l.wording
      else Traced.fail (.overlong Host.digits none) := by
    rw [← hgiven]
    rfl
  rw [Engine.tooDeep_eq, hhost]
  exact Held.after ⟨_, rfl⟩ fun _ _ => (Held.refl _).guard [l.given]

theorem Engine.held_written {place : Place} {p : Plan} {values : List Json}
    (h : ((c.engine o).run place p).Held ((c.engine o).onHost.run place p) values)
    (written : List Json) :
    ((c.engine o).run place (.written written p)).Held
      ((c.engine o).onHost.run place (.written written p)) (written ++ values) := by
  rw [Engine.run_written, Engine.run]
  exact h.guard written

theorem Config.held_linkHook (hc : c.isPlain = true) (url : Json) (attrs : AttrMap)
    (inner : Option (List Inline)) {x y : Traced β} {values : List Json} (h : x.Held y values) :
    (Config.linkHook c.link o url attrs inner x).Held (Config.linkHook c.link o url attrs inner y)
      values := by
  obtain ⟨link, code, mode, limit⟩ := c
  cases link with
  | standard => exact h
  | traced => exact Held.after ⟨_, rfl⟩ fun _ _ => h
  | wrapped => cases hc

theorem Config.held_codeHook (hc : c.isPlain = true) (attr : Attr) (text : Json) {x y : Traced β}
    {values : List Json} (h : x.Held y values) :
    (Config.codeHook c.code o attr text x).Held (Config.codeHook c.code o attr text y) values := by
  obtain ⟨link, code, mode, limit⟩ := c
  rw [Config.isPlain, Bool.and_eq_true] at hc
  cases code with
  | standard => exact h
  | traced => exact Held.after ⟨_, rfl⟩ fun _ _ => h
  | replaced => cases hc.2
  | highlighted settings => cases hc.2

variable (ho : o.Reports heard)
include ho

theorem Engine.held_run_nested (hc : c.isPlain = true) {place : Place} {ps : List Plan}
    (hps : ∀ p ∈ ps, p.Sound)
    (h : ∀ p ∈ ps, ((c.engine o).run place.descend p).Held ((c.engine o).onHost.run place.descend p)
      (p.toWrite c.limit place.notes (place.depth + 1))) :
    ((c.engine o).run place (.nested ps)).Held ((c.engine o).onHost.run place (.nested ps))
      ((Plan.nested ps).toWrite c.limit place.notes place.depth) := by
  rw [Plan.toWrite, Plan.decisions]
  cases hb : beyond c.limit (place.depth + 1) with
  | some l =>
    have hlimit : c.limit = some l := (Option.filter_eq_some_iff.mp hb).1
    have hhost : (c.engine o).onHost.run place (.nested ps) = (c.engine o).onHost.tooDeep l :=
      Engine.run_nested_of_some ps hb
    rw [Engine.run_nested_of_some ps hb, hhost, List.flatMap_singleton, Plan.writes, hlimit]
    exact Engine.held_tooDeep c o l
  | none =>
    have hhost : (c.engine o).onHost.run place (.nested ps)
        = (c.engine o).onHost.runAll place.descend ps >>= fun parts => pure (o.concat parts) :=
      Engine.run_nested_of_none ps hb
    rw [Engine.run_nested_of_none ps hb, hhost, flatMap_writes_plansDecisions]
    refine (Engine.held_runAll ?_ h).before _
    exact fun p hp => Engine.succeeds_run ho hc (hps p hp) place.descend

/-- On a host, carrying out a sound plan is stopped by the values that it has to write alone. -/
theorem Engine.held_run (hc : c.isPlain = true) {p : Plan} (hp : p.Sound) (place : Place) :
    ((c.engine o).run place p).Held ((c.engine o).onHost.run place p)
      (p.toWrite c.limit place.notes place.depth) := by
  induction hp generalizing place with
  | text s => exact .refl _
  | parts hps ih =>
    rw [Plan.toWrite, Plan.decisions, flatMap_writes_plansDecisions, Engine.run, Engine.run]
    refine (Engine.held_runAll ?_ fun p hp => ih p hp place).before _
    exact fun p hp => Engine.succeeds_run ho hc (hps p hp) place
  | both hp hq ihp ihq =>
    rw [Plan.toWrite, Plan.decisions, List.flatMap_append, Engine.run, Engine.run]
    exact (ihp place).bind (Engine.succeeds_run ho hc hp place) fun left _ =>
      (ihq place).before fun right => pure (o.combine left right)
  | leaf htag hattrs => exact .refl _
  | element htag hattrs hp ih =>
    rw [Plan.toWrite, Plan.decisions, Engine.run, Engine.run]
    exact (ih place).before _
  | nested hps ih => exact Engine.held_run_nested ho hc hps fun p hp => ih p hp place.descend
  | written values _ ih =>
    rw [Plan.toWrite, Plan.decisions, List.flatMap_cons]
    exact Engine.held_written (ih place) values
  | link _ ih =>
    rw [Plan.toWrite, Plan.decisions, List.flatMap_cons, Engine.run, Engine.run]
    exact Config.held_linkHook hc _ _ _ (ih place)
  | code _ ih =>
    rw [Plan.toWrite, Plan.decisions, List.flatMap_cons, Engine.run, Engine.run]
    exact Config.held_codeHook hc _ _ (ih place)
  | raw kind format content => exact .refl _
  | @note body ps hbody hps ih =>
    rw [Engine.run_note _ place hbody, Engine.run_note _ place hbody, Plan.toWrite, Plan.decisions,
      List.flatMap_cons]
    cases place.notes.number? (FootnoteBody.ofBlocks body) with
    | some number => exact .refl _
    | none =>
      -- the body stands in place, one level deeper
      have hnested := Engine.held_run_nested ho hc hps fun p hp => ih p hp place.descend
      exact hnested.before _
  | cite keys => exact .refl _

/-! ### Documents on a host -/

theorem Engine.held_renderItems (hc : c.isPlain = true) {wanted : RawKind} {items : List Item}
    (h : ∀ p ∈ items.map (Item.plan wanted), p.Sound) (place : Place) :
    ((c.engine o).renderItems wanted items place).Held
      ((c.engine o).onHost.renderItems wanted items place)
      (plansToWrite c.limit place.notes place.depth (items.map (Item.plan wanted))) := by
  refine (Engine.held_runAll ?_ fun p hp => Engine.held_run ho hc (h p hp) place).before _
  exact fun p hp => Engine.succeeds_run ho hc (h p hp) place

theorem Engine.held_renderBlocks (hc : c.isPlain = true) {blocks : List Block}
    (h : blocksTyped blocks = true) (place : Place) :
    ((c.engine o).renderBlocks blocks place).Held ((c.engine o).onHost.renderBlocks blocks place)
      (plansToWrite c.limit place.notes place.depth (blocks.map Block.plan)) := by
  have hitems := Engine.held_renderItems ho hc (sound_items_of_blocksTyped h) place
  rw [List.map_map] at hitems
  exact hitems

theorem Engine.held_renderInlines (hc : c.isPlain = true) {content : List Inline}
    (h : inlinesTyped content = true) (place : Place) :
    ((c.engine o).renderInlines content place).Held
      ((c.engine o).onHost.renderInlines content place)
      (plansToWrite c.limit place.notes place.depth (content.map Inline.plan)) := by
  have hitems := Engine.held_renderItems ho hc (sound_items_of_inlinesTyped h) place
  rw [List.map_map] at hitems
  exact hitems

theorem Engine.held_sectionEntry (hc : c.isPlain = true) (number : Nat) {body : FootnoteBody}
    (h : ∀ p ∈ body.map (Item.plan .block), p.Sound) :
    ((c.engine o).sectionEntry number body).Held ((c.engine o).onHost.sectionEntry number body)
      (plansToWrite c.limit Footnotes.none 0 (body.map (Item.plan .block))) := by
  have hanchor : (o.element "a"
      (some (AttrMap.ofTexts [("name", footnoteAnchor number)])) none).Succeeds :=
    (ho.element "a" _ none rfl).succeeds
  exact Held.after hanchor fun _ _ => (Engine.held_renderItems ho hc h Place.start).before _

theorem Engine.held_sectionEntries (hc : c.isPlain = true) {entries : List (Nat × FootnoteBody)}
    (h : ∀ e ∈ entries, ∀ p ∈ e.2.map (Item.plan .block), p.Sound) :
    (entries.mapM fun e => (c.engine o).sectionEntry e.1 e.2).Held
      (entries.mapM fun e => (c.engine o).onHost.sectionEntry e.1 e.2)
      (entries.flatMap fun e =>
        plansToWrite c.limit Footnotes.none 0 (e.2.map (Item.plan .block))) := by
  induction entries with
  | nil => exact .refl _
  | cons e rest ih =>
    rw [List.forall_mem_cons] at h
    rw [List.mapM_cons, List.mapM_cons, List.flatMap_cons]
    have hentry := (Engine.yields_sectionEntry ho hc e.1 h.1).succeeds
    exact (Engine.held_sectionEntry ho hc e.1 h.1).bind hentry fun first _ => (ih h.2).before _

theorem Engine.held_footnoteSection (hc : c.isPlain = true) {notes : Footnotes}
    (h : notes.Typed) :
    ((c.engine o).footnoteSection notes).Held ((c.engine o).onHost.footnoteSection notes)
      (notes.toWrite c.limit) := by
  have hentries := Engine.held_sectionEntries ho hc (Footnotes.sound_items h)
  have hbodies : (notes.entries.flatMap fun e =>
      plansToWrite c.limit Footnotes.none 0 (e.2.map (Item.plan .block)))
      = notes.toWrite c.limit := by
    rw [Footnotes.entries, List.flatMap_map, Footnotes.toWrite]
    conv_rhs => rw [← List.zipIdx_map_fst 0 notes.bodies, List.flatMap_map]
  rw [hbodies] at hentries
  rw [Engine.footnoteSection, Engine.footnoteSection]
  split
  · next hempty =>
    have hnone : notes.toWrite c.limit = [] := by
      rw [Footnotes.toWrite, List.isEmpty_iff.mp hempty]
      rfl
    rw [hnone]
    exact .refl _
  · exact hentries.before _

theorem Engine.held_renderNumbered (hc : c.isPlain = true) {d : Document}
    (hd : d.isTyped = true) {notes : Footnotes} (h : notes.Typed) :
    ((c.engine o).renderNumbered d notes).Held ((c.engine o).onHost.renderNumbered d notes)
      (d.toWrite c.limit notes) := by
  have hblocks := (Engine.yields_renderBlocks ho hc hd ⟨notes, 0⟩).succeeds
  exact (Engine.held_renderBlocks ho hc hd ⟨notes, 0⟩).bind hblocks fun body _ =>
    (Engine.held_footnoteSection ho hc h).before _

theorem Engine.held_renderDocument (hc : c.isPlain = true) {d : Document}
    (hd : d.isTyped = true) :
    ((c.engine o).renderDocument d).Held ((c.engine o).onHost.renderDocument d)
      (d.toWrite c.limit d.numbering) := by
  refine Held.after ⟨_, Document.outcome_footnotes hd⟩ fun notes hnotes => ?_
  rw [Document.outcome_footnotes hd] at hnotes
  cases hnotes
  exact Engine.held_renderNumbered ho hc hd (Document.typed_numbering hd)

end Engines

/-! ### Values that nodes write -/

/-- The first number of a list, if it is stated. -/
def Node.starts : Node → List Json
  | .block (.orderedList attributes _) => attributes.statedStart
  | _ => []

/-- The lists among some nodes begin with numbers that have a text on the host. -/
def startsWritable [Host] (ns : List Node) : Prop :=
  ∀ start ∈ ns.flatMap Node.starts, start.isWritable Host.digits = true

/-- The limit has a text on the host. -/
def limitWritable [Host] (limit : Option Limit) : Prop :=
  ∀ l, limit = some l → l.given.isWritable Host.digits = true

theorem Plan.values_of_not_isOpen {p : Plan} (h : p.isOpen = false) : p.values = [] := by
  cases p with
  | written values p => cases h
  | _ => rfl

/-- Besides the first numbers of lists only formulas are written, and these are texts. -/
theorem Node.values_plan {n : Node} (hf : n.hasTypedFields = true) :
    n.plan.values = n.starts ∨ ∃ s : String, n.plan.values = [.str s] ∧ n.starts = [] := by
  have hshut : n.isOpen = false → n.plan.values = [] := fun hn =>
    Plan.values_of_not_isOpen (Node.isOpen_plan hn)
  cases n with
  | block b =>
    cases b with
    | orderedList attributes items => exact .inl rfl
    | codeBlock attr text => exact .inl rfl
    | raw format text => exact .inl rfl
    | _ => exact .inl (hshut rfl)
  | inline i =>
    cases i with
    | math kind text =>
      obtain ⟨s, rfl⟩ := Json.eq_str_of_isText hf
      exact .inr ⟨s, rfl, rfl⟩
    | link attr content target =>
      exact .inl (Plan.withValue_const _ (fun _ => rfl) fun own => rfl)
    | raw format text => exact .inl rfl
    | note blocks => exact .inl rfl
    | cite citations content => exact .inl rfl
    | _ => exact .inl (hshut rfl)

/-- Whatever footnotes have numbers, the decisions of the plan of a node apart from cuts are about
the nodes of its tree. -/
theorem Node.exists_of_mem_opened {limit : Option Limit} {notes : Footnotes} {level : Nat}
    (n : Node) (ht : n.isTyped = true) {x : Nat × Plan}
    (hx : x ∈ n.plan.opened limit notes level) :
    ∃ m ∈ n.preorder, x.2 = m.plan := by
  induction n using Node.induction generalizing level with
  | step n ih =>
    have hopened : ∃ inPlace, n.plan.opened limit notes level = n.plan.here level
        ++ (n.shown inPlace).flatMap fun c => c.plan.openedBelow limit notes level := by
      cases n with
      | block b => exact ⟨true, b.opened_plan ht⟩
      | inline i =>
        refine ⟨((Node.inline i).number? notes).isNone, i.opened_plan ht fun b hb => ?_⟩
        rw [Node.number?, hb]
        rfl
    obtain ⟨inPlace, hopened⟩ := hopened
    rw [hopened, List.mem_append, List.mem_flatMap] at hx
    rcases hx with hx | ⟨c, hc, hx⟩
    · rw [Plan.here] at hx
      split at hx
      · exact ⟨n, n.mem_preorder_self, by rw [List.mem_singleton.mp hx]⟩
      · cases hx
    · have hchild := (n.shown_sublist inPlace).subset hc
      rw [Plan.openedBelow] at hx
      split at hx
      · obtain ⟨m, hm, heq⟩ := ih c hchild (Node.isTyped_of_mem_children ht hchild) hx
        refine ⟨m, ?_, heq⟩
        rw [Node.preorder_eq n]
        exact List.mem_cons_of_mem n ((Node.preorder_sublist_of_mem hchild).subset hm)
      · cases hx

section Values

variable [Host] {limit : Option Limit} {notes : Footnotes}

theorem forall_flatMap_values_iff {ns : List Node} (hns : ∀ n ∈ ns, n.hasTypedFields = true) :
    (∀ v ∈ ns.flatMap fun n => n.plan.values, v.isWritable Host.digits = true)
      ↔ startsWritable ns := by
  rw [startsWritable, ← Json.areWritable_iff, ← Json.areWritable_iff]
  induction ns with
  | nil => exact Iff.rfl
  | cons n rest ih =>
    rw [List.forall_mem_cons] at hns
    have hn : Json.areWritable Host.digits n.plan.values
        = Json.areWritable Host.digits n.starts := by
      rcases Node.values_plan hns.1 with h | ⟨s, h, hstarts⟩
      · rw [h]
      · rw [h, hstarts]
        rfl
    rw [List.flatMap_cons, List.flatMap_cons, Json.areWritable_append, Json.areWritable_append,
      Bool.and_eq_true, Bool.and_eq_true, ih hns.2, hn]

theorem Plan.forall_writes_iff (p : Plan) :
    (∀ v ∈ p.writes limit, v.isWritable Host.digits = true)
      ↔ (∀ v ∈ p.values, v.isWritable Host.digits = true)
        ∧ (p.isNested = true → limitWritable limit) := by
  cases p with
  | nested ps =>
    rw [Plan.writes, List.forall_mem_map]
    simp only [Option.mem_toList]
    exact ⟨fun h => ⟨List.forall_mem_nil _, fun _ => h⟩, fun h => h.2 rfl⟩
  | _ => exact (and_iff_left fun h => absurd h Bool.false_ne_true).symm

/-- What plans write is what their decisions state, and the limit if there is a cut. -/
theorem forall_plansToWrite_iff (level : Nat) (ps : List Plan) :
    (∀ v ∈ plansToWrite limit notes level ps, v.isWritable Host.digits = true)
      ↔ (∀ v ∈ (plansDecisions limit notes level ps).flatMap fun x => x.2.values,
          v.isWritable Host.digits = true)
        ∧ (ps.any (Plan.isCut limit notes level) = true → limitWritable limit) := by
  rw [← flatMap_writes_plansDecisions, ← any_isNested_plansDecisions, List.any_eq_true]
  simp only [List.forall_mem_flatMap, Plan.forall_writes_iff]
  constructor
  · intro h
    refine ⟨fun x hx => (h x hx).1, ?_⟩
    rintro ⟨x, hx, hnested⟩
    exact (h x hx).2 hnested
  · rintro ⟨hvalues, hcut⟩ x hx
    exact ⟨hvalues x hx, fun hnested => hcut ⟨x, hx, hnested⟩⟩

/-- What blocks write at the top: the first numbers of the lists that are reached, and the limit if
there is a cut. -/
theorem forall_blocksToWrite_iff {inPlace : Bool} {blocks : List Block}
    (ht : blocksTyped blocks = true)
    (hnotes : notesDecided notes inPlace (blocksPreorder blocks)) :
    (∀ v ∈ plansToWrite limit notes 0 (blocks.map Block.plan), v.isWritable Host.digits = true)
      ↔ startsWritable (blocksReached limit inPlace blocks)
        ∧ (blocksCut limit notes blocks = true → limitWritable limit) := by
  rw [forall_plansToWrite_iff,
    flatMap_blocksReached (fun _ => Plan.values_of_not_isOpen) ht hnotes,
    forall_flatMap_values_iff fun n hn =>
      List.all_eq_true.mp ht n (mem_preorder_of_mem_blocksReached hn)]
  rfl

theorem startsWritable_append (ns more : List Node) :
    startsWritable (ns ++ more) ↔ startsWritable ns ∧ startsWritable more := by
  rw [startsWritable, List.flatMap_append, List.forall_mem_append]
  rfl

theorem startsWritable_flatMap {α : Type} (f : α → List Node) (xs : List α) :
    startsWritable (xs.flatMap f) ↔ ∀ x ∈ xs, startsWritable (f x) := by
  simp only [startsWritable, List.forall_mem_flatMap]

/-- What the section of some bodies has to write has a text: the first numbers of the lists that are
reached in the bodies it lists, and the limit if one of these is cut. -/
def sectionWritable (limit : Option Limit) (bodies : List (List Block)) : Prop :=
  startsWritable ((firstBodies bodies).flatMap (blocksReached limit true))
    ∧ ((firstBodies bodies).any (blocksCut limit Footnotes.none) = true → limitWritable limit)

theorem forall_sectionToWrite_iff (limit : Option Limit) {bodies : List (List Block)}
    (ht : ∀ b ∈ bodies, blocksTyped b = true) :
    (∀ v ∈ (encountered bodies).toWrite limit, v.isWritable Host.digits = true)
      ↔ sectionWritable limit bodies := by
  rw [sectionWritable, Footnotes.toWrite, encountered, List.flatMap_map, startsWritable_flatMap,
    List.any_eq_true]
  simp only [FootnoteBody.plans_ofBlocks, List.forall_mem_flatMap]
  have hbody : ∀ b ∈ firstBodies bodies,
      ((∀ v ∈ plansToWrite limit Footnotes.none 0 (b.map Block.plan),
          v.isWritable Host.digits = true)
        ↔ startsWritable (blocksReached limit true b)
          ∧ (blocksCut limit Footnotes.none b = true → limitWritable limit)) :=
    fun b hb => forall_blocksToWrite_iff (ht b (mem_of_mem_bodiesMet hb)) (notesDecided_none _)
  constructor
  · intro h
    refine ⟨fun b hb => ((hbody b hb).mp (h b hb)).1, ?_⟩
    rintro ⟨b, hb, hcut⟩
    exact ((hbody b hb).mp (h b hb)).2 hcut
  · rintro ⟨hstarts, hcut⟩ b hb
    exact (hbody b hb).mpr ⟨hstarts b hb, fun h => hcut ⟨b, hb, h⟩⟩

/-- What a document writes: the first numbers of the lists that are reached in its blocks and in the
bodies of its section, and the limit if there is a cut. -/
theorem Document.forall_toWrite_iff {d : Document} (hd : d.isTyped = true) :
    (∀ v ∈ d.toWrite limit d.numbering, v.isWritable Host.digits = true)
      ↔ startsWritable (d.reachedNodes limit ++ d.numbered.flatMap (blocksReached limit true))
        ∧ (d.isCut limit = true → limitWritable limit) := by
  have hbodies := forall_sectionToWrite_iff limit (blocksTyped_of_mem_preorder hd)
  rw [Document.toWrite, List.forall_mem_append,
    forall_blocksToWrite_iff hd (Document.notesDecided hd), Document.numbering, hbodies,
    sectionWritable, startsWritable_append, Document.isCut, Bool.or_eq_true, or_imp,
    and_and_and_comm]
  exact Iff.rfl

/-- Wherever they stand, nodes write nothing else than the first numbers of lists in their trees,
and the limit. -/
theorem writable_plansToWrite (notes : Footnotes) (level : Nat) {ns : List Node}
    (ht : ∀ n ∈ ns, n.isTyped = true)
    (hstarts : startsWritable (nodesPreorder ns)) (hlimit : limitWritable limit) :
    ∀ v ∈ plansToWrite limit notes level (ns.map Node.plan), v.isWritable Host.digits = true := by
  rw [forall_plansToWrite_iff]
  refine ⟨fun v hv => ?_, fun _ => hlimit⟩
  have hfields : ∀ m ∈ nodesPreorder ns, m.hasTypedFields = true := fun m hm =>
    Node.hasTypedFields_of_isTyped (isTyped_of_mem_nodesPreorder ht hm)
  have hvalues := (forall_flatMap_values_iff hfields).mpr hstarts
  rw [plansDecisions_eq_flatMap, List.flatMap_map] at hv
  obtain ⟨x, hx, hvx⟩ := List.mem_flatMap.mp hv
  obtain ⟨n, hn, hx⟩ := List.mem_flatMap.mp hx
  cases hopen : x.2.isNested with
  | true =>
    have hnone : x.2.values = [] := Plan.values_of_not_isOpen (Plan.isOpen_of_isNested hopen)
    rw [hnone] at hvx
    cases hvx
  | false =>
    have hopened : x ∈ n.plan.opened limit notes level :=
      List.mem_filter.mpr ⟨hx, by rw [hopen]; rfl⟩
    obtain ⟨m, hm, heq⟩ := n.exists_of_mem_opened (ht n hn) hopened
    rw [heq] at hvx
    refine hvalues v (List.mem_flatMap.mpr ⟨m, ?_, hvx⟩)
    exact (Node.preorder_sublist_of_mem hn).subset hm

theorem writable_blocksToWrite (notes : Footnotes) (level : Nat) {blocks : List Block}
    (ht : blocksTyped blocks = true) (hstarts : startsWritable (blocksPreorder blocks))
    (hlimit : limitWritable limit) :
    ∀ v ∈ plansToWrite limit notes level (blocks.map Block.plan),
      v.isWritable Host.digits = true := by
  have hns : ∀ n ∈ blocks.map Node.block, n.isTyped = true := by
    rw [List.forall_mem_map]
    exact (blocksTyped_iff blocks).mp ht
  rw [blocksPreorder_eq] at hstarts
  have hwritable := writable_plansToWrite notes level hns hstarts hlimit
  rwa [List.map_map] at hwritable

theorem writable_inlinesToWrite (notes : Footnotes) (level : Nat) {content : List Inline}
    (ht : inlinesTyped content = true) (hstarts : startsWritable (inlinesPreorder content))
    (hlimit : limitWritable limit) :
    ∀ v ∈ plansToWrite limit notes level (content.map Inline.plan),
      v.isWritable Host.digits = true := by
  have hns : ∀ n ∈ content.map Node.inline, n.isTyped = true := by
    rw [List.forall_mem_map]
    exact (inlinesTyped_iff content).mp ht
  rw [inlinesPreorder_eq] at hstarts
  have hwritable := writable_plansToWrite notes level hns hstarts hlimit
  rwa [List.map_map] at hwritable

end Values

end PandocHtml
