import PandocHtml.Proofs.Pandoc.Contents
import PandocHtml.Proofs.Pandoc.Encoding

/-!
# Well-typed encodings

Reading checks the shape of an encoding and the names of choices, not the kinds of texts and
numbers.  So a node that was read is well-typed exactly if its encoding was, at every depth.  An
encoding that is refused is refused for one of its elements: for a tag of the wrong stage, or for
contents that do not have the shape their tag asks for.  Where the tag to be named has no text on
the host, the refusal is no fault of parsing, unless an element around it names itself instead.
-/

namespace PandocHtml

theorem Node.isTyped_iff (n : Node) :
    n.isTyped = true ↔ n.hasTypedFields = true ∧ ∀ c ∈ n.children, c.isTyped = true := by
  rw [Node.isTyped, Node.preorder_eq, List.all_cons, Bool.and_eq_true, nodesTyped_iff]

namespace Pandoc

/-! ### Encodings -/

/-- The element encoded by a value has texts and whole numbers where they have to be, and so has
every element inside it. -/
inductive TypedEncoding : Json → Prop where
  | element {v : Json} {tag : String} (htag : fieldOr v "t" .null = .str tag)
      (own : hasTypedValues tag (fieldOr v "c" .null) = true)
      (inside : ∀ w ∈ elementsIn tag (fieldOr v "c" .null), TypedEncoding w) : TypedEncoding v

/-- The fault names an element of an encoding: the element itself, by its tag, or one inside it. -/
inductive Blames : Json → Fault → Prop where
  | tag {v : Json} (stage : String) : Blames v (.unknownTag stage (fieldOr v "t" .null))
  | contents {v : Json} {tag : String} (stage : String) (detail : Option NotAMember)
      (htag : fieldOr v "t" .null = .str tag) : Blames v (.malformed tag stage detail)
  | inside {v w : Json} {tag : String} {f : Fault} (htag : fieldOr v "t" .null = .str tag)
      (hw : w ∈ elementsIn tag (fieldOr v "c" .null)) (h : Blames w f) : Blames v f

theorem typedEncoding_iff {v : Json} {tag : String} (htag : fieldOr v "t" .null = .str tag) :
    TypedEncoding v ↔ hasTypedValues tag (fieldOr v "c" .null) = true
      ∧ ∀ w ∈ elementsIn tag (fieldOr v "c" .null), TypedEncoding w := by
  constructor
  · rintro ⟨htag', own, inside⟩
    obtain rfl : tag = _ := Json.str.inj (htag.symm.trans htag')
    exact ⟨own, inside⟩
  · rintro ⟨own, inside⟩
    exact .element htag own inside

theorem Blames.kind_eq {v : Json} {f : Fault} (h : Blames v f) : f.kind = .parsing := by
  induction h with
  | tag => rfl
  | contents => rfl
  | inside _ _ _ ih => exact ih

/-! ### Elements are parts of the contents -/

theorem hasPart_of_mem_itemsOf {v w : Json} (h : w ∈ itemsOf v) : HasPart v w := by
  unfold itemsOf at h
  cases hv : items? v with
  | none =>
    rw [hv] at h
    cases h
  | some ws =>
    rw [hv] at h
    exact .item .whole hv h

theorem hasPart_itemAt (v : Json) (place : Nat) : HasPart v (itemAt v place) := by
  unfold itemAt
  cases hw : (itemsOf v)[place]? with
  | none => exact .absent
  | some w => exact hasPart_of_mem_itemsOf (List.mem_of_getElem? hw)

theorem hasPart_of_mem_flatMap {f : Json → List Json} (hf : ∀ v, ∀ w ∈ f v, HasPart v w)
    {v w : Json} (h : w ∈ (itemsOf v).flatMap f) : HasPart v w := by
  obtain ⟨u, hu, hw⟩ := List.mem_flatMap.mp h
  exact (hasPart_of_mem_itemsOf hu).trans (hf u w hw)

theorem hasPart_of_mem_itemsOf_itemAt {v w : Json} {place : Nat}
    (h : w ∈ itemsOf (itemAt v place)) : HasPart v w :=
  (hasPart_itemAt v place).trans (hasPart_of_mem_itemsOf h)

theorem hasPart_of_mem_elementsInItems {v w : Json} (h : w ∈ elementsInItems v) : HasPart v w :=
  hasPart_of_mem_flatMap (fun _ _ => hasPart_of_mem_itemsOf) h

theorem hasPart_of_mem_elementsInCaption {v w : Json} (h : w ∈ elementsInCaption v) :
    HasPart v w :=
  (List.mem_append.mp h).elim hasPart_of_mem_itemsOf_itemAt hasPart_of_mem_itemsOf_itemAt

theorem hasPart_of_mem_elementsInDefinition {v w : Json} (h : w ∈ elementsInDefinition v) :
    HasPart v w := by
  rcases List.mem_append.mp h with h | h
  · exact hasPart_of_mem_itemsOf_itemAt h
  · exact (hasPart_itemAt v 1).trans (hasPart_of_mem_elementsInItems h)

theorem hasPart_of_mem_elementsInCitation {v w : Json} (h : w ∈ elementsInCitation v) :
    HasPart v w := by
  rcases List.mem_append.mp h with h | h <;>
    exact (HasPart.field_getD _ .absentItems).trans (hasPart_of_mem_itemsOf h)

theorem hasPart_of_mem_elementsInRow {v w : Json} (h : w ∈ elementsInRow v) : HasPart v w :=
  (hasPart_itemAt v 1).trans (hasPart_of_mem_flatMap (fun _ _ => hasPart_of_mem_itemsOf_itemAt) h)

theorem hasPart_of_mem_elementsInRows {v w : Json} (h : w ∈ elementsInRows v) : HasPart v w :=
  hasPart_of_mem_flatMap (fun _ _ => hasPart_of_mem_elementsInRow) h

theorem hasPart_of_mem_rowsAt {v w : Json} {place : Nat} (h : w ∈ elementsInRows (itemAt v place)) :
    HasPart v w :=
  (hasPart_itemAt v place).trans (hasPart_of_mem_elementsInRows h)

theorem hasPart_of_mem_elementsInBody {v w : Json} (h : w ∈ elementsInBody v) : HasPart v w :=
  (List.mem_append.mp h).elim hasPart_of_mem_rowsAt hasPart_of_mem_rowsAt

theorem hasPart_of_mem_elementsIn {tag : String} {v w : Json} (h : w ∈ elementsIn tag v) :
    HasPart v w := by
  unfold elementsIn at h
  split at h
  case h_10 =>
    -- a table: its caption, its head, its bodies and its foot
    rw [List.append_assoc, List.append_assoc] at h
    rcases List.mem_append.mp h with h | h
    · exact (hasPart_itemAt v 1).trans (hasPart_of_mem_elementsInCaption h)
    rcases List.mem_append.mp h with h | h
    · exact (hasPart_itemAt v 3).trans (hasPart_of_mem_rowsAt h)
    rcases List.mem_append.mp h with h | h
    · refine (hasPart_itemAt v 4).trans (hasPart_of_mem_flatMap ?_ h)
      exact fun _ _ => hasPart_of_mem_elementsInBody
    · exact (hasPart_itemAt v 5).trans (hasPart_of_mem_rowsAt h)
  case h_11 =>
    rcases List.mem_append.mp h with h | h
    · exact (hasPart_itemAt v 1).trans (hasPart_of_mem_elementsInCaption h)
    · exact hasPart_of_mem_itemsOf_itemAt h
  case h_17 =>
    rcases List.mem_append.mp h with h | h
    · refine (hasPart_itemAt v 0).trans (hasPart_of_mem_flatMap ?_ h)
      exact fun _ _ => hasPart_of_mem_elementsInCitation
    · exact hasPart_of_mem_itemsOf_itemAt h
  case h_18 =>
    split at h
    · exact hasPart_of_mem_itemsOf h
    · cases h
  case h_8 => exact hasPart_of_mem_flatMap (fun _ _ => hasPart_of_mem_elementsInDefinition) h
  case h_7 => exact (hasPart_itemAt v 1).trans (hasPart_of_mem_elementsInItems h)
  case h_5 | h_6 => exact hasPart_of_mem_elementsInItems h
  case h_1 | h_2 | h_3 | h_4 => exact hasPart_of_mem_itemsOf h
  all_goals exact hasPart_of_mem_itemsOf_itemAt h

/-! ### Elements -/

/-- A fault of parsing inside an element is passed on. -/
theorem Problem.fault_inside {g : Fault} (h : g.kind = .parsing) (tag stage : String) :
    (Problem.inside g).fault tag stage = g := by
  cases g with
  | overlong => cases h
  | _ => rfl

theorem size_lt_of_mem_elementsIn {v w : Json} {tag : String}
    (htag : fieldOr v "t" .null = .str tag) (h : w ∈ elementsIn tag (fieldOr v "c" .null)) :
    w.size < v.size :=
  Nat.lt_of_le_of_lt (hasPart_of_mem_elementsIn h).size_le (size_contents_lt htag)

theorem forall_mem_iff_of_forall₂ {α β : Type} {P : α → Prop} {Q : β → Prop} {xs : List α}
    {ys : List β} (h : List.Forall₂ (fun x y => P x ↔ Q y) xs ys) :
    (∀ x ∈ xs, P x) ↔ ∀ y ∈ ys, Q y := by
  induction h with
  | nil => simp only [List.not_mem_nil, false_imp_iff, implies_true]
  | cons hxy _ ih => rw [List.forall_mem_cons, List.forall_mem_cons, hxy, ih]

variable [Host]

theorem tag_of_element {α : Type} {stage : String} {rule : String → Option (Json → Reading α)}
    {v : Json} {a : α} (h : element stage rule v = .ok a) :
    ∃ tag read, fieldOr v "t" .null = .str tag ∧ rule tag = some read
      ∧ read (fieldOr v "c" .null) = .ok a := by
  unfold element at h
  split at h
  · next tag htag =>
    split at h
    · next read hread =>
      refine ⟨tag, read, htag, hread, ?_⟩
      cases hr : read ((v.field? "c").getD .null) with
      | ok b =>
        rw [hr] at h
        cases h
        exact hr
      | error p =>
        rw [hr] at h
        cases h
    · cases h
  · cases h

/-- An element is refused for its tag, or its rule had a problem with its contents. -/
theorem refused_of_element {α : Type} {stage : String} {rule : String → Option (Json → Reading α)}
    {v : Json} {f : Fault} (h : element stage rule v = .error f) :
    f = unknownTag stage (fieldOr v "t" .null)
      ∨ ∃ tag read p, fieldOr v "t" .null = .str tag ∧ rule tag = some read
        ∧ read (fieldOr v "c" .null) = .error p ∧ f = p.fault tag stage := by
  unfold element at h
  split at h
  · next tag htag =>
    split at h
    · next read hread =>
      cases hr : read ((v.field? "c").getD .null) with
      | ok b =>
        rw [hr] at h
        cases h
      | error p =>
        rw [hr] at h
        cases h
        exact .inr ⟨tag, read, p, htag, hread, hr, rfl⟩
    · cases h
      exact .inl (congrArg _ htag.symm)
  · cases h
    exact .inl rfl

theorem ofJson_of_reads {v : Json} {n : Node} (h : ownReaders.Reads v n) :
    ∃ kind, Node.ofJson kind v = .ok n := by
  cases n with
  | block b => exact ⟨.block, congrArg (Except.map Node.block) h⟩
  | inline i => exact ⟨.inline, congrArg (Except.map Node.inline) h⟩

theorem ofJson_of_refused {v : Json} {f : Fault}
    (h : ownReaders.inline v = .error f ∨ ownReaders.block v = .error f) :
    ∃ kind, Node.ofJson kind v = .error f := by
  rcases h with h | h
  · exact ⟨.inline, congrArg (Except.map Node.inline) h⟩
  · exact ⟨.block, congrArg (Except.map Node.block) h⟩

theorem exists_agrees {v : Json} {n : Node} (h : ownReaders.Reads v n) :
    ∃ tag, fieldOr v "t" .null = .str tag
      ∧ ownReaders.Agrees (hasTypedValues tag (fieldOr v "c" .null))
        (elementsIn tag (fieldOr v "c" .null)) n.hasTypedFields n.children := by
  obtain ⟨kind, hkind⟩ := ofJson_of_reads h
  obtain ⟨tag, read, htag, hrule, hread⟩ :=
    tag_of_element ((Node.ofJson_eq kind v).symm.trans hkind)
  have hgives := Readers.gives_rule hrule (fieldOr v "c" .null)
  rw [hread] at hgives
  exact ⟨tag, htag, hgives⟩

/-- What is refused has an unknown tag, a malformed part that is no element, or a refused element
inside it. -/
theorem refused_ofJson {kind : RawKind} {v : Json} {f : Fault} (h : Node.ofJson kind v = .error f) :
    f = unknownTag kind.name (fieldOr v "t" .null)
      ∨ ∃ tag read, fieldOr v "t" .null = .str tag ∧ ownReaders.rule kind tag = some read
        ∧ ((∃ detail, (∀ g, read (fieldOr v "c" .null) ≠ .error (.inside g))
            ∧ f = .malformed tag kind.name detail)
          ∨ ∃ g, read (fieldOr v "c" .null) = .error (.inside g)
            ∧ f = (Problem.inside g).fault tag kind.name
            ∧ ∃ inner, ∃ w ∈ elementsIn tag (fieldOr v "c" .null),
              Node.ofJson inner w = .error g) := by
  rcases refused_of_element ((Node.ofJson_eq kind v).symm.trans h) with
    htag | ⟨tag, read, p, htag, hrule, hread, hf⟩
  · exact .inl htag
  have hgives := Readers.gives_rule hrule (fieldOr v "c" .null)
  rw [hread] at hgives
  have hown : ∀ g, read (fieldOr v "c" .null) = .error (.inside g) → p = .inside g :=
    fun g hg => Except.error.inj (hread.symm.trans hg)
  refine .inr ⟨tag, read, htag, hrule, ?_⟩
  cases p with
  | shape | unwritable => exact .inl ⟨none, fun g hg => (nomatch hown g hg), hf⟩
  | notAMember m => exact .inl ⟨some m, fun g hg => (nomatch hown g hg), hf⟩
  | misuse how => exact hgives.elim
  | inside g =>
    obtain ⟨w, hw, hrefused⟩ := hgives
    obtain ⟨inner, hinner⟩ := ofJson_of_refused hrefused
    exact .inr ⟨g, hread, hf, inner, w, hw, hinner⟩

/-- A node is as well-typed as the encoding it was read from: its own fields are values of the
encoding, and its children were read from the elements inside. -/
theorem isTyped_iff_of_reads {v : Json} {n : Node} (h : ownReaders.Reads v n) :
    n.isTyped = true ↔ TypedEncoding v := by
  induction n using Node.induction generalizing v with
  | step n ih =>
    obtain ⟨tag, htag, hagrees⟩ := exists_agrees h
    have hiff : List.Forall₂ (fun w c => TypedEncoding w ↔ c.isTyped = true)
        (elementsIn tag (fieldOr v "c" .null)) n.children :=
      forall₂_of_mem hagrees.inside fun w _ c hc hwc => (ih c hc hwc).symm
    rw [Node.isTyped_iff, typedEncoding_iff htag, hagrees.typed, forall_mem_iff_of_forall₂ hiff]

/-- The tag of an element is a number that is too long, or holds one. -/
def HasLongTag (v : Json) : Prop := (fieldOr v "t" .null).isWritable Host.digits = false

theorem HasLongTag.tag_ne {v : Json} (h : HasLongTag v) (tag : String) :
    fieldOr v "t" .null ≠ .str tag := by
  intro htag
  rw [HasLongTag, htag] at h
  cases h

/-- Whatever is refused, the fault names an element of it, unless its own tag cannot be named. -/
theorem blames_or_overlong {kind : RawKind} {v : Json} {f : Fault}
    (h : Node.ofJson kind v = .error f) :
    Blames v f ∨ f = .overlong Host.digits none ∧ HasLongTag v := by
  -- a fault inside is the fault of a smaller value
  induction hsize : v.size using Nat.strongRecOn generalizing kind v f with
  | ind size ih =>
    rcases refused_ofJson h with
      rfl | ⟨tag, _, htag, _, ⟨detail, _, rfl⟩ | ⟨g, _, rfl, inner, w, hw, hinner⟩⟩
    · unfold unknownTag Fault.showing
      split
      · exact .inl (.tag kind.name)
      · next hlong => exact .inr ⟨rfl, Bool.eq_false_iff.mpr hlong⟩
    · exact .inl (.contents kind.name detail htag)
    · have hlt := size_lt_of_mem_elementsIn htag hw
      rcases ih w.size (hsize ▸ hlt) hinner rfl with hblames | ⟨rfl, _⟩
      · rw [Problem.fault_inside hblames.kind_eq]
        exact .inl (.inside htag hw hblames)
      · exact .inl (.contents kind.name none htag)

/-- A fault that is none of parsing tells that the tag itself has no text. -/
theorem ofJson_eq_overlong_iff {kind : RawKind} {v : Json} :
    Node.ofJson kind v = .error (.overlong Host.digits none) ↔ HasLongTag v := by
  constructor
  · intro h
    rcases blames_or_overlong h with hblames | ⟨_, hlong⟩
    · cases hblames.kind_eq
    · exact hlong
  · intro hlong
    cases hread : Node.ofJson kind v with
    | ok n =>
      obtain ⟨tag, _, htag, _⟩ := tag_of_element ((Node.ofJson_eq kind v).symm.trans hread)
      exact absurd htag (hlong.tag_ne tag)
    | error f =>
      rcases refused_ofJson hread with rfl | ⟨tag, _, htag, _⟩
      · unfold unknownTag Fault.showing
        rw [if_neg (Bool.eq_false_iff.mp hlong)]
      · exact absurd htag (hlong.tag_ne tag)

theorem blames_or_overlong_of_refused {v : Json} {f : Fault}
    (h : ownReaders.inline v = .error f ∨ ownReaders.block v = .error f) :
    Blames v f ∨ f = .overlong Host.digits none ∧ HasLongTag v := by
  obtain ⟨kind, hkind⟩ := ofJson_of_refused h
  exact blames_or_overlong hkind

end Pandoc

open Pandoc

/-- What reading lets through.  A block or inline that is read from a value is well-typed, at every
depth, exactly if the value is a well-typed encoding; kinds of texts and numbers are not looked at.
A value that is refused has a fault of the parsing kind that names one of its elements, unless the
tag that would have to be named has no text on the host. -/
theorem read_isTyped_iff [Host] (v : Json) :
    (∀ b, Block.ofJson v = .ok b → ((Node.block b).isTyped = true ↔ TypedEncoding v))
    ∧ (∀ i, Inline.ofJson v = .ok i → ((Node.inline i).isTyped = true ↔ TypedEncoding v))
    ∧ ∀ f, Block.ofJson v = .error f ∨ Inline.ofJson v = .error f →
      f.kind = .parsing ∧ Blames v f ∨ f = .overlong Host.digits none ∧ HasLongTag v := by
  refine ⟨fun b hb => isTyped_iff_of_reads hb, fun i hi => isTyped_iff_of_reads hi, ?_⟩
  intro f hf
  exact (blames_or_overlong_of_refused hf.symm).imp_left fun h => ⟨h.kind_eq, h⟩

/-- A header inside a division, whose level is a text. -/
def wordyHeader : Json :=
  tagged "Div" (.arr [Attr.none.encode,
    .arr [tagged "Header" (.arr [.str "one", Attr.none.encode, .arr [tagged "Str" (.str "x")]])]])

theorem read_isTyped_iff_wordyHeader :
    (Block.ofJson wordyHeader = .ok (.div .none [.header (.str "one") .none [.str (.str "x")]])
      ∧ ¬ TypedEncoding wordyHeader)
    ∧ (Inline.ofJson (tagged "Str" (.str "x")) = .ok (.str (.str "x"))
      ∧ TypedEncoding (tagged "Str" (.str "x")))
    ∧ Inline.ofJson wordyHeader = .error (.unknownTag "inline" (.str "Div"))
      ∧ Blames wordyHeader (.unknownTag "inline" (.str "Div")) := by
  have hdiv : Block.ofJson wordyHeader
      = .ok (.div .none [.header (.str "one") .none [.str (.str "x")]]) := rfl
  have htext : Inline.ofJson (tagged "Str" (.str "x")) = .ok (.str (.str "x")) := rfl
  have hrefused : Inline.ofJson wordyHeader = .error (.unknownTag "inline" (.str "Div")) := rfl
  refine ⟨⟨hdiv, fun h => ?_⟩, ⟨htext, ?_⟩, hrefused, ?_⟩
  · exact absurd (((read_isTyped_iff wordyHeader).1 _ hdiv).mpr h) (by decide)
  · exact ((read_isTyped_iff _).2.1 _ htext).mp (by decide)
  · rcases (read_isTyped_iff wordyHeader).2.2 _ (.inr hrefused) with h | h
    · exact h.2
    · cases h.1

/-- A text that is a number is let through, and what was read is not well-typed. -/
theorem numberText_let_through :
    Inline.ofJson (tagged "Str" (.int 5)) = .ok (.str (.int 5))
    ∧ (Node.inline (.str (.int 5))).isTyped = false :=
  ⟨rfl, by decide⟩

end PandocHtml
