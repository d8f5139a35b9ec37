import PandocHtml.Proofs.Render.OwnAttributes

/-!
# Reading a rendering

Plain text and rendering are two recursions over inlines.  A reader of the rendering who takes a
break for a space, an image for its alternative text and any other element for its children reads
the plain text, unless the inlines have footnotes, citations or mathematics, which plain text keeps
or leaves out in a way of its own, or images that bring an alternative text with them.
-/

namespace PandocHtml

/-! ### The walk over several nodes -/

theorem walkWith_append (enters : Node → Bool) (ns ms : List Node) :
    walkWith enters (ns ++ ms) = walkWith enters ns ++ walkWith enters ms := by
  induction ns using walkWith.induct enters with
  | case1 => rw [List.nil_append, walkWith, List.nil_append]
  | case2 n rest ih =>
    rw [dite_eq_ite] at ih
    rw [List.cons_append, walkWith, walkWith, ← List.append_assoc, ih, List.cons_append]

/-- A node is met first, and then what the walk meets under it. -/
theorem walkWith_cons (enters : Node → Bool) (n : Node) (ns : List Node) :
    walkWith enters (n :: ns)
      = n :: walkWith enters (if enters n then n.children else []) ++ walkWith enters ns := by
  rw [walkWith, walkWith_append, List.cons_append]

theorem mem_walkWith_of_mem {enters : Node → Bool} {n m : Node} {ns : List Node} (hn : n ∈ ns)
    (hm : m ∈ walkWith enters [n]) : m ∈ walkWith enters ns := by
  obtain ⟨before, after, rfl⟩ := List.append_of_mem hn
  rw [← List.singleton_append, walkWith_append, walkWith_append, List.mem_append, List.mem_append]
  exact .inr (.inl hm)

/-! ### Reading outlines -/

/-- What a reader takes an element for, if not for its children. -/
def standIn? (tag : String) (attrs : Option AttrMap) : Option String :=
  if tag = "br" then some " "
  else if tag = "img" then some ((((attrs.getD []).get? "alt").map Json.plain).getD "")
  else none

mutual

def OutlineNode.reading : OutlineNode → String
  | .text content => content.plain
  | .raw _ => ""
  | .leaf tag attrs => (standIn? tag attrs).getD ""
  | .element tag attrs children => (standIn? tag attrs).getD (outlineReading children)

/-- The text of an outline from left to right. -/
def outlineReading : Outline → String
  | [] => ""
  | n :: rest => n.reading ++ outlineReading rest

end

theorem outlineReading_append (s t : Outline) :
    outlineReading (s ++ t) = outlineReading s ++ outlineReading t := by
  induction s with
  | nil => exact String.empty_append.symm
  | cons n rest ih => rw [List.cons_append, outlineReading, ih, outlineReading, String.append_assoc]

theorem outlineReading_singleton (n : OutlineNode) : outlineReading [n] = n.reading := by
  rw [outlineReading, outlineReading, String.append_empty]

theorem outlineReading_element {tag : String} (htag : standIn? tag none = none)
    (attrs : Option AttrMap) (children : Outline) :
    outlineReading [.element tag attrs children] = outlineReading children := by
  have hattrs : standIn? tag attrs = none := by
    by_cases hbr : tag = "br"
    · rw [standIn?, if_pos hbr] at htag
      cases htag
    · by_cases himg : tag = "img"
      · rw [standIn?, if_neg hbr, if_pos himg] at htag
        cases htag
      · rw [standIn?, if_neg hbr, if_neg himg]
  rw [outlineReading_singleton, OutlineNode.reading, hattrs, Option.getD_none]

theorem Style.standIn?_element (style : Style) : standIn? style.element none = none := by
  cases style <;> decide

/-! ### Plain text of content -/

/-- What an inline with content makes of the plain text of the content. -/
theorem plainText_map (content : List Inline) (f : String → Json) :
    (match inlineValues content with
      | .ok values => (joinTexts values).map f
      | .error e => .error e) = (plainText content).map f := by
  rw [plainText]
  cases inlineValues content <;> rfl

theorem plainText_cons {i : Inline} {rest : List Inline} {s t : String}
    (hi : i.plainValue = .ok (.str s)) (hrest : plainText rest = .ok t) :
    plainText (i :: rest) = .ok (s ++ t) := by
  cases hvalues : inlineValues rest with
  | error f =>
    rw [plainText, hvalues] at hrest
    cases hrest
  | ok values =>
    have hjoin : joinTexts values = .ok t := by
      rw [plainText, hvalues] at hrest
      exact hrest
    rw [joinTexts] at hjoin
    cases htexts : Attr.texts? values with
    | none =>
      rw [htexts] at hjoin
      cases hjoin
    | some texts =>
      rw [htexts, Except.ok.injEq] at hjoin
      simp only [plainText, inlineValues, hi, hvalues, Except.map, joinTexts, Attr.texts?, htexts,
        Option.map_some, String.join_cons, hjoin]

/-! ### Inlines -/

/-- A node that plain text and rendering treat alike: no footnote, no group of citations, no
mathematics, and no image with an alternative text of its own. -/
def Node.readsAlike : Node → Bool
  | .inline i =>
    match i with
    | .note _ | .cite .. | .math .. => false
    | .image attr _ _ => attr.pairs.all fun p => p.1 != "alt"
    | _ => true
  | .block _ => true

def Node.isImage : Node → Bool
  | .inline (.image ..) => true
  | _ => false

/-- The nodes under the given ones, those in the descriptions of images apart. -/
def walkOutsideImages (ns : List Node) : List Node := walkWith (fun n => !n.isImage) ns

section Inlines

variable (notes : Footnotes)

/-- An inline has a plain text, and its outline reads like it. -/
def Inline.ReadsLike (i : Inline) (s : String) : Prop :=
  i.plainValue = .ok (.str s)
    ∧ ∀ depth, outlineReading (i.plan.outlined .drop none notes depth) = s

variable {notes}

theorem exists_reading {content : List Inline} (h : ∀ i ∈ content, ∃ s, i.ReadsLike notes s) :
    ∃ s, plainText content = .ok s
      ∧ ∀ depth,
        outlineReading (plansOutlined .drop none notes depth (inlinePlans content)) = s := by
  induction content with
  | nil => exact ⟨"", rfl, fun _ => rfl⟩
  | cons i rest ih =>
    rw [List.forall_mem_cons] at h
    obtain ⟨⟨s, hs, hreads⟩, hrest⟩ := h
    obtain ⟨t, ht, hreadsRest⟩ := ih hrest
    refine ⟨s ++ t, plainText_cons hs ht, fun depth => ?_⟩
    rw [inlinePlans, plansOutlined, outlineReading_append, hreads, hreadsRest]

variable {content : List Inline} {attr : Attr} {target : Target}

/-- An element around content reads like the content. -/
theorem exists_reading_around {i : Inline} (tag : String) (attrs : Option AttrMap)
    (hvalue : i.plainValue = (plainText content).map Json.str)
    (hplan : ∀ depth, i.plan.outlined .drop none notes depth
      = [.element tag attrs (plansOutlined .drop none notes (depth + 1) (inlinePlans content))])
    (htag : standIn? tag none = none) (h : ∀ j ∈ content, ∃ s, j.ReadsLike notes s) :
    ∃ s, i.ReadsLike notes s := by
  obtain ⟨s, hs, hreads⟩ := exists_reading h
  refine ⟨s, ?_, fun depth => ?_⟩
  · rw [hvalue, hs]
    rfl
  · rw [hplan, outlineReading_element htag, hreads]

/-- An image reads like its description, also where that is empty. -/
theorem image_readsLike (ha : attr.isTyped = true) (ht : target.isTyped = true)
    (hc : ∀ i ∈ content, (Node.inline i).isTyped = true)
    (halt : (attr.pairs.all fun p => p.1 != "alt") = true) :
    ∃ s, (Inline.image attr content target).ReadsLike notes s := by
  obtain ⟨description, m, htyped, hdescription, hm, hplan⟩ := exists_imagePlan ha ht hc
  have hvalue : (Inline.image attr content target).plainValue = (plainText content).map Json.str :=
    plainText_map content Json.str
  have hshown := Attr.shownOver_of_toMapWith ha (by simp) (by simp) hm htyped
  have hnone : attr.lastPair? "alt" = none := by
    rw [Attr.lastPair?, Option.map_eq_none_iff, List.find?_eq_none]
    intro p hp
    have hname := List.all_eq_true.mp halt p (List.mem_reverse.mp hp)
    simpa using hname
  have hget := hshown.default_else ("alt", .str description) (by simp) (by rw [hnone]; rfl)
  refine ⟨description, ?_, fun depth => ?_⟩
  · rw [hvalue, hdescription]
    rfl
  · rw [Inline.plan, hplan, Plan.outlined, outlineReading_singleton, OutlineNode.reading]
    show (((m.get? "alt").map Json.plain).getD "") = description
    rw [hget]
    by_cases hempty : description = ""
    · rw [hempty]
      rfl
    · have htruthy : (Json.str description).isTruthy = true := bne_iff_ne.mpr hempty
      rw [if_pos htruthy]
      rfl

theorem Inline.readsLike_of_children (i : Inline) (ht : (Node.inline i).isTyped = true)
    (hi : (Node.inline i).readsAlike = true)
    (h : (Node.inline i).isImage = false →
      ∀ j, Node.inline j ∈ i.children → ∃ s, j.ReadsLike notes s) :
    ∃ s, i.ReadsLike notes s := by
  have hf := Node.hasTypedFields_of_isTyped ht
  cases i with
  | note blocks | cite citations content | math kind text => cases hi
  | str text =>
    obtain ⟨s, rfl⟩ := Json.eq_str_of_isText hf
    exact ⟨s, rfl, fun depth => String.append_empty⟩
  | space | softBreak | lineBreak => exact ⟨" ", rfl, fun depth => rfl⟩
  | raw format text => exact ⟨"", rfl, fun depth => rfl⟩
  | code attr text =>
    simp only [Node.hasTypedFields, Bool.and_eq_true] at hf
    obtain ⟨s, rfl⟩ := Json.eq_str_of_isText hf.2
    obtain ⟨m, _, hplan⟩ := exists_attrElement hf.1 "code" (.text (.str s))
    refine ⟨s, rfl, fun depth => ?_⟩
    rw [Inline.plan, hplan, Plan.outlined, outlineReading_element (by decide), Plan.outlined,
      outlineReading_singleton]
    rfl
  | styled style content =>
    have hinside := fun j hj => h rfl j (List.mem_map_of_mem hj)
    exact exists_reading_around style.element none (plainText_map content Json.str) (fun _ => rfl)
      style.standIn?_element hinside
  | quoted kind content =>
    obtain ⟨s, hs, hreads⟩ := exists_reading fun j hj => h rfl j (List.mem_map_of_mem hj)
    refine ⟨kind.opening ++ s ++ kind.closing, ?_, fun depth => ?_⟩
    · have hvalue : (Inline.quoted kind content).plainValue
          = (plainText content).map fun text => .str (kind.opening ++ text ++ kind.closing) :=
        plainText_map content _
      rw [hvalue, hs]
      rfl
    · have hnested : outlineReading
          (Plan.outlined .drop none notes depth (.nested (inlinePlans content))) = s :=
        hreads (depth + 1)
      simp only [Inline.plan, Plan.outlined, plansOutlined, outlineReading_append,
        outlineReading_singleton, OutlineNode.reading, Json.plain_str] at hnested ⊢
      rw [hnested, outlineReading, String.append_empty, String.append_assoc]
  | link attr content target =>
    simp only [Node.hasTypedFields, Bool.and_eq_true] at hf
    obtain ⟨_, m, _, _, _, hplan⟩ := exists_linkPlan hf.1 hf.2 content (inlinePlans content)
    have hinside := fun j hj => h rfl j (List.mem_map_of_mem hj)
    refine exists_reading_around "a" (some m) (plainText_map content Json.str) (fun depth => ?_)
      (by decide) hinside
    rw [Inline.plan, hplan]
    rfl
  | image attr content target =>
    simp only [Node.hasTypedFields, Bool.and_eq_true] at hf
    refine image_readsLike hf.1 hf.2 (fun j hj => ?_) hi
    exact Node.isTyped_of_mem_children ht (List.mem_map_of_mem hj)
  | span attr content =>
    obtain ⟨m, _, hplan⟩ := exists_attrElement hf "span" (.nested (inlinePlans content))
    have hinside := fun j hj => h rfl j (List.mem_map_of_mem hj)
    refine exists_reading_around "span" (some m) (plainText_map content Json.str) (fun depth => ?_)
      (by decide) hinside
    rw [Inline.plan, hplan]
    rfl

/-- Where the walk outside descriptions meets only nodes that are treated alike, an inline reads
like its plain text. -/
theorem Inline.exists_readsLike (i : Inline) (ht : (Node.inline i).isTyped = true)
    (h : ∀ n ∈ walkOutsideImages [.inline i], n.readsAlike = true) :
    ∃ s, i.ReadsLike notes s := by
  have key : ∀ n : Node, n.isTyped = true → (∀ m ∈ walkOutsideImages [n], m.readsAlike = true) →
      ∀ i, n = .inline i → ∃ s, i.ReadsLike notes s := by
    intro n
    induction n using Node.induction with
    | step n ih =>
      rintro ht hn i rfl
      rw [walkOutsideImages, walkWith_cons, List.forall_mem_append, List.forall_mem_cons] at hn
      obtain ⟨⟨hself, hbelow⟩, _⟩ := hn
      apply i.readsLike_of_children ht hself
      intro himage j hj
      rw [himage] at hbelow
      refine ih _ hj (Node.isTyped_of_mem_children ht hj) (fun m hm => hbelow m ?_) j rfl
      exact mem_walkWith_of_mem hj hm
  exact key _ ht h i rfl

/-- Inlines with no footnotes, citations or mathematics outside the descriptions of images, and no
images with an alternative text of their own, render at any place to what reads like their plain
text. -/
theorem rendering_reads_like_plainText (content : List Inline) (place : Place)
    (ht : inlinesTyped content = true)
    (h : ∀ n ∈ walkOutsideImages (content.map Node.inline), n.readsAlike = true) :
    ∃ t : Outline,
      ((Config.standard.engine outline).renderInlines content place).outcome = .ok t
      ∧ plainText content = .ok (outlineReading t) := by
  have hreads : ∀ i ∈ content, ∃ s, i.ReadsLike place.notes s := by
    intro i hi
    apply i.exists_readsLike ((inlinesTyped_iff content).mp ht i hi)
    intro n hn
    exact h n (mem_walkWith_of_mem (List.mem_map_of_mem hi) hn)
  obtain ⟨s, hs, hread⟩ := exists_reading hreads
  have hplans : content.map Inline.plan = inlinePlans content := by
    rw [inlinePlans_eq_map, List.map_map]
    rfl
  refine ⟨_, Engine.outline_renderInlines .drop none ht place, ?_⟩
  rw [hplans, hread place.depth]
  exact hs

/-- Quotes around a link to an image whose description has a note, a formula and another image, with
breaks, code and raw content between styled texts. -/
def mixedInlines : List Inline :=
  [.styled .strong
    [.str (.str "a"), .lineBreak,
      .quoted .double
        [.link Attr.none
          [.image ⟨.str "i", [.str "c"], [("title", "")]⟩
            [.str (.str "b"), .note [.para [.str (.str "n")]], .math .inline (.str "x"),
              .image ⟨.str "", [], [("alt", "o")]⟩ [.quoted .single [.str (.str "d")]]
                ⟨.str "v", .str ""⟩]
            ⟨.str "u", .str "T"⟩]
          ⟨.str "u", .str ""⟩],
      .raw (.str "html") (.str "<hr>")],
    .softBreak, .span Attr.none [.code Attr.none (.str "e")],
    .image Attr.none [] ⟨.str "w", .str ""⟩]

theorem mixedInlines_read :
    inlinesTyped mixedInlines = true
    ∧ (∀ n ∈ walkOutsideImages (mixedInlines.map Node.inline), n.readsAlike = true)
    ∧ ∃ t : Outline,
      ((Config.standard.engine outline).renderInlines mixedInlines Place.start).outcome = .ok t
      ∧ plainText mixedInlines = .ok (outlineReading t)
      ∧ outlineReading t = "a “bx‘d’” e" := by
  have ht : inlinesTyped mixedInlines = true := by decide
  have h : ∀ n ∈ walkOutsideImages (mixedInlines.map Node.inline), n.readsAlike = true := by
    simp [walkOutsideImages, mixedInlines, walkWith, Node.isImage, Node.children, Inline.children,
      Node.readsAlike, Attr.none]
  obtain ⟨t, hrender, hplain⟩ := rendering_reads_like_plainText mixedInlines Place.start ht h
  refine ⟨ht, h, t, hrender, hplain, ?_⟩
  have htext : plainText mixedInlines = .ok "a “bx‘d’” e" := by rfl
  rw [htext, Except.ok.injEq] at hplain
  exact hplain.symm

end Inlines

end PandocHtml
