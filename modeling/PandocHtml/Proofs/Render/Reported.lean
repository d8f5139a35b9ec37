import PandocHtml.Proofs.Render.Outlined

/-!
# What a rendering reports

Outputs differ in what they report about the attributes of an element and in nothing else.  What
carrying out a plan reports can thus be read off the plan, element by element, cut by cut; and a
rendering of a well-typed document with such an output always ends in a value.
-/

namespace PandocHtml

/-! ### Computations that end in a value -/

namespace Traced

variable {α β : Type}

/-- It ends in a value, with these events on the way. -/
def Yields (x : Traced α) (events : List Event) : Prop := ∃ a, x = ⟨events, .ok a⟩

theorem yields_pure (a : α) : (Pure.pure a : Traced α).Yields [] := ⟨a, rfl⟩

theorem yields_report (e : Event) : (report e).Yields [e] := ⟨(), rfl⟩

theorem Yields.bind {x : Traced α} {f : α → Traced β} {events more : List Event}
    (hx : x.Yields events) (hf : ∀ a, (f a).Yields more) : (x >>= f).Yields (events ++ more) := by
  obtain ⟨a, rfl⟩ := hx
  obtain ⟨b, hb⟩ := hf a
  exact ⟨b, by rw [ok_bind, hb]⟩

theorem Yields.map {x : Traced α} {events : List Event} (hx : x.Yields events) (f : α → β) :
    (x >>= fun a => pure (f a)).Yields events := by
  have h := hx.bind fun a => yields_pure (f a)
  rwa [List.append_nil] at h

theorem Yields.eq {x : Traced α} {events : List Event} {a : α} (hx : x.Yields events)
    (h : x.outcome = .ok a) : x = ⟨events, .ok a⟩ := by
  obtain ⟨b, rfl⟩ := hx
  cases h
  rfl

/-- It ends in a value, whatever it reports on the way. -/
def Succeeds (x : Traced α) : Prop := ∃ a, x.outcome = .ok a

theorem Yields.succeeds {x : Traced α} {events : List Event} (h : x.Yields events) :
    x.Succeeds := by
  obtain ⟨a, rfl⟩ := h
  exact ⟨a, rfl⟩

end Traced

open Traced (yields_pure yields_report)

/-! ### Outputs -/

/-- An output that takes every text and every element with texts as attribute values, and reports
about an element what it has heard of its attributes. -/
structure Output.Reports {β : Type} (o : Output β) (heard : Option AttrMap → List Event) :
    Prop where
  text : ∀ s : String, (o.text (.str s)).Yields []
  raw : ∀ s : String, (o.raw (.str s)).Yields []
  element : ∀ (tag : String) (attrs : Option AttrMap) (children : Option β),
    attrsTyped attrs = true → (o.element tag attrs children).Yields (heard attrs)

theorem outline_reports : outline.Reports fun _ => [] where
  text _ := ⟨_, rfl⟩
  raw _ := ⟨_, rfl⟩
  element _ _ _ _ := ⟨_, rfl⟩

/-! ### Reports of plans -/

/-- What a rule for links reports before the standard rendering. -/
def LinkRule.reported (rule : LinkRule) (url : Json) (attrs : AttrMap)
    (inner : Option (List Inline)) : List Event :=
  match rule with
  | .traced => [.linkCall url attrs inner]
  | _ => []

/-- What a rule for code blocks reports before the standard rendering. -/
def CodeRule.reported (rule : CodeRule) (attr : Attr) (text : Json) : List Event :=
  match rule with
  | .traced => [.codeCall attr text]
  | _ => []

section Reports

variable (c : Config) (heard : Option AttrMap → List Event) (notes : Footnotes)

def rawReported (kind : RawKind) (format text : Json) : List Event :=
  match c.raw, format, text with
  | .drop, _, _ => [.notice (.droppedRaw kind format)]
  | .escape, _, _ => heard (some [("class", .str "raw"), ("data-format", format)])
  | mode, .str name, .str html =>
    if Config.htmlFormats.contains name.toLower then (mode.applyTo html).events
    else [.notice (.droppedRaw kind format)]
  | _, _, _ => []

def referenceReported (number : Nat) : List Event :=
  heard (some (AttrMap.ofTexts
      [("name", referenceAnchor number), ("href", "#" ++ footnoteAnchor number)]))
    ++ heard (some (AttrMap.ofTexts [("class", "footnote-ref")]))

def citeReported (keys : List Json) : List Event :=
  match Engine.citationKeys keys with
  | .ok named => .notice (.citations named) :: heard none
  | .error _ => []

mutual

/-- What carrying out a plan reports, in order. -/
def Plan.reported (depth : Nat) : Plan → List Event
  | .text _ | .fault _ => []
  | .parts ps => plansReported depth ps
  | .both p q => p.reported depth ++ q.reported depth
  | .leaf _ attrs => heard attrs
  | .element _ attrs children => children.reported depth ++ heard attrs
  | .nested ps =>
    match beyond c.limit (depth + 1) with
    | some l => .notice (.tooDeep l.whole) :: heard none
    | none => plansReported (depth + 1) ps
  | .written _ p => p.reported depth
  | .link url attrs inner standard =>
    c.link.reported url attrs inner ++ standard.reported depth
  | .code attr text standard => c.code.reported attr text ++ standard.reported depth
  | .raw kind format text => rawReported c heard kind format text
  | .note body aside =>
    match notes.number? (FootnoteBody.ofBlocks body) with
    | some number => referenceReported heard number
    | none => aside.reported depth
  | .cite keys => citeReported heard keys

def plansReported (depth : Nat) : List Plan → List Event
  | [] => []
  | p :: rest => p.reported depth ++ plansReported depth rest

end

theorem plansReported_eq_flatMap (depth : Nat) (ps : List Plan) :
    plansReported c heard notes depth ps = ps.flatMap (Plan.reported c heard notes depth) := by
  induction ps with
  | nil => rfl
  | cons p rest ih => rw [plansReported, ih, List.flatMap_cons]

def entryReported (number : Nat) (body : FootnoteBody) : List Event :=
  heard (some (AttrMap.ofTexts [("name", footnoteAnchor number)]))
    ++ plansReported c heard Footnotes.none 0 (body.map (Item.plan .block))
    ++ heard (some (AttrMap.ofTexts [("href", "#" ++ referenceAnchor number)]))
    ++ heard none

def Footnotes.reported : List Event :=
  if notes.bodies.isEmpty then []
  else
    (notes.entries.flatMap fun e => entryReported c heard e.1 e.2)
      ++ heard Option.none ++ heard (some (AttrMap.ofTexts [("id", "footnotes")]))

/-- What rendering a document under numbered footnotes reports. -/
def Document.reported (d : Document) : List Event :=
  plansReported c heard notes 0 (d.blocks.map Block.plan) ++ notes.reported c heard

end Reports

/-! ### Runs of plans -/

section Engines

variable {β : Type} {o : Output β} {c : Config} {heard : Option AttrMap → List Event}

theorem Config.yields_linkHook (hc : c.isPlain = true) (url : Json) (attrs : AttrMap)
    (inner : Option (List Inline)) {rendering : Traced β} {events : List Event}
    (h : rendering.Yields events) :
    (Config.linkHook c.link o url attrs inner rendering).Yields
      (c.link.reported url attrs inner ++ events) := by
  obtain ⟨link, code, mode, limit⟩ := c
  cases link with
  | standard => exact h
  | traced => exact (yields_report _).bind fun _ => h
  | wrapped => cases hc

theorem Config.yields_codeHook (hc : c.isPlain = true) (attr : Attr) (text : Json)
    {rendering : Traced β} {events : List Event} (h : rendering.Yields events) :
    (Config.codeHook c.code o attr text rendering).Yields
      (c.code.reported attr text ++ events) := by
  obtain ⟨link, code, mode, limit⟩ := c
  rw [Config.isPlain, Bool.and_eq_true] at hc
  cases code with
  | standard => exact h
  | traced => exact (yields_report _).bind fun _ => h
  | replaced => cases hc.2
  | highlighted settings => cases hc.2

theorem RawMode.yields_applyTo (mode : RawMode) (html : String) :
    (mode.applyTo html).Yields (mode.applyTo html).events := by
  have h := RawMode.outcome_applyTo mode html
  exact ⟨_, by rw [← h]⟩

theorem Engine.yields_runAll {e : Engine β} {place : Place} {report : Plan → List Event}
    {ps : List Plan} (h : ∀ p ∈ ps, (e.run place p).Yields (report p)) :
    (e.runAll place ps).Yields (ps.flatMap report) := by
  induction ps with
  | nil => exact yields_pure []
  | cons p rest ih =>
    rw [List.forall_mem_cons] at h
    rw [List.flatMap_cons, Engine.runAll]
    exact h.1.bind fun first => (ih h.2).map fun others => first :: others

theorem Engine.run_nested_of_some {e : Engine β} {place : Place} {l : Limit} (ps : List Plan)
    (h : beyond e.limit (place.depth + 1) = some l) : e.run place (.nested ps) = e.tooDeep l := by
  rw [Engine.run]
  simp only [h]

theorem Engine.run_nested_of_none {e : Engine β} {place : Place} (ps : List Plan)
    (h : beyond e.limit (place.depth + 1) = none) :
    e.run place (.nested ps) = do return e.output.concat (← e.runAll place.descend ps) := by
  rw [Engine.run]
  simp only [h]

/-- A footnote whose body can serve as a key is a reference to its number, or stands in place. -/
theorem Engine.run_note (e : Engine β) (place : Place) {body : List Block}
    (h : isBodyKey body = true) (aside : Plan) :
    e.run place (.note body aside)
      = match place.notes.number? (FootnoteBody.ofBlocks body) with
        | some number => e.reference number
        | none => e.run place aside := by
  have hkey : (FootnoteBody.ofBlocks body).isKey = true := h
  rw [Engine.run, Footnotes.lookup, if_pos hkey]
  rfl

variable (ho : o.Reports heard)
include ho

theorem Config.yields_rawHook (kind : RawKind) (name html : String) :
    (Config.rawHook c.raw o kind (.str name) (.str html)).Yields
      (rawReported c heard kind (.str name) (.str html)) := by
  have hdrop : (Hooks.dropRaw o kind (.str name)).Yields [.notice (.droppedRaw kind (.str name))] :=
    (yields_report _).map fun _ => o.empty
  unfold rawReported
  cases hmode : c.raw with
  | drop => exact hdrop
  | escape =>
    refine (ho.text html).bind fun content => ?_
    exact ho.element _ _ _ rfl
  | passThrough =>
    simp only [Config.rawHook, Config.htmlRaw]
    split
    · exact ho.raw html
    · exact hdrop
  | sanitize =>
    simp only [Config.rawHook, Config.htmlRaw]
    split
    · have h := (RawMode.yields_applyTo .sanitize html).bind fun kept => ho.raw kept
      rwa [List.append_nil] at h
    · exact hdrop

theorem Engine.yields_diagnostic {e : Engine β} (he : e.output = o) (wording : String) :
    (e.diagnostic wording).Yields (heard none) := by
  subst he
  exact (ho.text _).bind fun text => ho.element "pre" none (some text) rfl

theorem Engine.yields_reference {e : Engine β} (he : e.output = o) (number : Nat) :
    (e.reference number).Yields (referenceReported heard number) := by
  subst he
  refine (ho.text _).bind fun text => ?_
  refine (ho.element "a" _ (some text) rfl).bind fun anchor => ?_
  exact ho.element "sup" _ (some anchor) rfl

theorem Engine.yields_run_nested {place : Place} {ps : List Plan}
    (h : ∀ p ∈ ps, ((c.engine o).run place.descend p).Yields
      (p.reported c heard place.notes (place.depth + 1))) :
    ((c.engine o).run place (.nested ps)).Yields
      ((Plan.nested ps).reported c heard place.notes place.depth) := by
  rw [Plan.reported]
  cases hb : beyond c.limit (place.depth + 1) with
  | some l =>
    rw [Engine.run_nested_of_some ps hb, Engine.tooDeep_eq]
    exact (yields_report _).bind fun _ => Engine.yields_diagnostic ho rfl l.wording
  | none =>
    rw [Engine.run_nested_of_none ps hb, plansReported_eq_flatMap]
    exact (Engine.yields_runAll h).map _

/-- Carrying out a sound plan ends in a value and reports what can be read off the plan. -/
theorem Engine.yields_run (hc : c.isPlain = true) {p : Plan} (hp : p.Sound) (place : Place) :
    ((c.engine o).run place p).Yields (p.reported c heard place.notes place.depth) := by
  induction hp generalizing place with
  | text s => exact ho.text s
  | parts _ ih =>
    rw [Plan.reported, plansReported_eq_flatMap, Engine.run]
    exact (Engine.yields_runAll fun p hp => ih p hp place).map _
  | both _ _ ihp ihq =>
    rw [Plan.reported, Engine.run]
    exact (ihp place).bind fun left => (ihq place).map fun right => o.combine left right
  | leaf _ hattrs => exact ho.element _ _ none hattrs
  | element _ hattrs _ ih =>
    rw [Plan.reported, Engine.run]
    exact (ih place).bind fun inside => ho.element _ _ (some inside) hattrs
  | nested _ ih => exact Engine.yields_run_nested ho fun p hp => ih p hp place.descend
  | written values _ ih =>
    rw [Plan.reported, Engine.run_written]
    exact ih place
  | link _ ih =>
    rw [Plan.reported, Engine.run]
    exact Config.yields_linkHook hc _ _ _ (ih place)
  | code _ ih =>
    rw [Plan.reported, Engine.run]
    exact Config.yields_codeHook hc _ _ (ih place)
  | raw kind format content =>
    rw [Plan.reported, Engine.run]
    exact Config.yields_rawHook ho kind format content
  | @note body ps hbody _ ih =>
    rw [Engine.run_note _ place hbody, Plan.reported]
    cases place.notes.number? (FootnoteBody.ofBlocks body) with
    | some number => exact Engine.yields_reference ho rfl number
    | none =>
      rw [Engine.run, Plan.reported]
      exact (Engine.yields_run_nested ho fun p hp => ih p hp place.descend).bind
        fun inside => ho.element _ _ (some inside) rfl
  | cite keys =>
    have hkeys : ∃ named, Engine.citationKeys (keys.map Json.str) = .ok named := by
      rw [Engine.citationKeys, texts?_map_str]
      exact ⟨_, rfl⟩
    obtain ⟨named, hnamed⟩ := hkeys
    rw [Plan.reported, citeReported, Engine.run, Engine.citations, hnamed]
    exact (yields_report _).bind fun _ => Engine.yields_diagnostic ho rfl _

theorem Engine.succeeds_run (hc : c.isPlain = true) {p : Plan} (hp : p.Sound) (place : Place) :
    ((c.engine o).run place p).Succeeds :=
  (Engine.yields_run ho hc hp place).succeeds

/-! ### Renderings of documents -/

theorem Engine.yields_renderItems (hc : c.isPlain = true) {wanted : RawKind} {items : List Item}
    (h : ∀ p ∈ items.map (Item.plan wanted), p.Sound) (place : Place) :
    ((c.engine o).renderItems wanted items place).Yields
      (plansReported c heard place.notes place.depth (items.map (Item.plan wanted))) := by
  rw [plansReported_eq_flatMap]
  exact (Engine.yields_runAll fun p hp => Engine.yields_run ho hc (h p hp) place).map _

theorem Engine.yields_renderBlocks (hc : c.isPlain = true) {blocks : List Block}
    (h : blocksTyped blocks = true) (place : Place) :
    ((c.engine o).renderBlocks blocks place).Yields
      (plansReported c heard place.notes place.depth (blocks.map Block.plan)) := by
  have hitems : (blocks.map Block.item).map (Item.plan .block) = blocks.map Block.plan := by
    rw [List.map_map]
    rfl
  rw [← hitems]
  exact Engine.yields_renderItems ho hc (sound_items_of_blocksTyped h) place

theorem Engine.yields_renderInlines (hc : c.isPlain = true)
    {content : List Inline} (h : inlinesTyped content = true) (place : Place) :
    ((c.engine o).renderInlines content place).Yields
      (plansReported c heard place.notes place.depth (content.map Inline.plan)) := by
  have hitems : (content.map Inline.item).map (Item.plan .inline) = content.map Inline.plan := by
    rw [List.map_map]
    rfl
  rw [← hitems]
  exact Engine.yields_renderItems ho hc (sound_items_of_inlinesTyped h) place

theorem Engine.yields_sectionEntry (hc : c.isPlain = true) (number : Nat) {body : FootnoteBody}
    (h : ∀ p ∈ body.map (Item.plan .block), p.Sound) :
    ((c.engine o).sectionEntry number body).Yields (entryReported c heard number body) := by
  have hbody := Engine.yields_renderItems ho hc h Place.start
  rw [entryReported, List.append_assoc, List.append_assoc]
  refine (ho.element "a" _ none rfl).bind fun anchor => hbody.bind fun content => ?_
  refine (ho.text _).bind fun arrow => (ho.element "a" _ (some arrow) rfl).bind fun back => ?_
  exact ho.element "li" none _ rfl

theorem Engine.yields_footnoteSection (hc : c.isPlain = true) {notes : Footnotes}
    (h : notes.Typed) :
    ((c.engine o).footnoteSection notes).Yields (notes.reported c heard) := by
  have hentries : ∀ entries : List (Nat × FootnoteBody),
      (∀ e ∈ entries, ∀ p ∈ e.2.map (Item.plan .block), p.Sound) →
      (entries.mapM fun e => (c.engine o).sectionEntry e.1 e.2).Yields
        (entries.flatMap fun e => entryReported c heard e.1 e.2) := by
    intro entries
    induction entries with
    | nil => exact fun _ => yields_pure []
    | cons e rest ih =>
      intro h
      rw [List.forall_mem_cons] at h
      rw [List.mapM_cons, List.flatMap_cons]
      exact (Engine.yields_sectionEntry ho hc e.1 h.1).bind fun first =>
        (ih h.2).map fun others => first :: others
  rw [Engine.footnoteSection, Footnotes.reported]
  split
  · exact yields_pure _
  · rw [List.append_assoc]
    refine (hentries _ (Footnotes.sound_items h)).bind fun entries => ?_
    refine (ho.element "ol" none _ rfl).bind fun list => ?_
    exact ho.element "div" _ (some list) rfl

theorem Engine.yields_renderNumbered (hc : c.isPlain = true) {d : Document}
    (hd : d.isTyped = true) {notes : Footnotes} (h : notes.Typed) :
    ((c.engine o).renderNumbered d notes).Yields (d.reported c heard notes) := by
  refine (Engine.yields_renderBlocks ho hc hd ⟨notes, 0⟩).bind fun body => ?_
  exact (Engine.yields_footnoteSection ho hc h).map fun listed => o.combine body listed

theorem Engine.yields_renderDocument (hc : c.isPlain = true) {d : Document}
    (hd : d.isTyped = true) :
    ((c.engine o).renderDocument d).Yields
      (d.footnotes.events ++ d.reported c heard d.numbering) := by
  have hfootnotes : d.footnotes = ⟨d.footnotes.events, .ok d.numbering⟩ := by
    rw [← Document.outcome_footnotes hd]
  rw [Engine.renderDocument, hfootnotes]
  obtain ⟨x, hx⟩ := Engine.yields_renderNumbered ho hc hd (Document.typed_numbering hd)
  exact ⟨x, by rw [Traced.ok_bind, hx]⟩

end Engines

end PandocHtml
