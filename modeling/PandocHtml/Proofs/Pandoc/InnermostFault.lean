import Mathlib.Logic.Relation
import PandocHtml.Proofs.Pandoc.WellTyped

/-!
# The innermost element is at fault

Reading an element reads the elements inside it, up to the first one that is refused.  The elements
that it gets to are those on which its outcome depends: with another reading of one of them
something else would come of it.  The fault of such an element is passed on as it is.  So a value
that is refused as malformed is refused for one element inside it, which has that fault on its own
while all elements it gets to are read.
-/

namespace PandocHtml

/-! ### Inside a value -/

/-- A value, the items of arrays and the values of fields in it, at every depth. -/
inductive Json.Inside (v : Json) : Json → Prop where
  | whole : Inside v v
  | item {items : List Json} {w : Json} (h : Inside v (.arr items)) (hw : w ∈ items) : Inside v w
  | field {fields : List (String × Json)} {name : String} {w : Json} (h : Inside v (.obj fields))
      (hw : (name, w) ∈ fields) : Inside v w

namespace Pandoc

/-- What is not inside stands for something absent, a character or a name, and has nothing in it. -/
theorem HasPart.inside_or {v w : Json} (h : HasPart v w) : v.Inside w ∨ w.size = 1 := by
  induction h with
  | whole => exact .inl .whole
  | absent => exact .inr rfl
  | absentItems => exact .inr rfl
  | @item u w ws _ hws hw ih =>
    cases u with
    | str s =>
      obtain rfl := Option.some.inj hws
      obtain ⟨c, _, rfl⟩ := List.mem_map.mp hw
      exact .inr rfl
    | obj fields =>
      obtain rfl := Option.some.inj hws
      obtain ⟨f, _, rfl⟩ := List.mem_map.mp hw
      exact .inr rfl
    | arr items =>
      obtain rfl := Option.some.inj hws
      rcases ih with hin | hsize
      · exact .inl (.item hin hw)
      · have hle := Json.size_le_sizeItems hw
        have hpos := w.size_pos
        rw [Json.size] at hsize
        omega
    | _ => cases hws
  | @field u w name _ hw ih =>
    rcases ih with hin | hsize
    · cases u with
      | obj fields => exact .inl (.field hin (Json.mem_of_lookup hw))
      | _ => cases hw
    · have hlt := Json.size_lt_of_field? hw
      have hpos := w.size_pos
      omega

theorem HasPart.inside_of_field? {v w u : Json} {name : String} (h : HasPart v w)
    (hu : w.field? name = some u) : v.Inside w := by
  have hlt := Json.size_lt_of_field? hu
  have hpos := u.size_pos
  rcases h.inside_or with hin | hsize
  · exact hin
  · omega

theorem field?_of_fieldOr {v : Json} {name tag : String} (h : fieldOr v name .null = .str tag) :
    v.field? name = some (.str tag) := by
  unfold fieldOr at h
  cases hv : v.field? name with
  | none =>
    rw [hv] at h
    cases h
  | some w =>
    rw [hv] at h
    exact congrArg some h

/-! ### Elements -/

/-- A value in the place of a block or of an inline. -/
structure Element where
  kind : RawKind
  value : Json

/-- A fault that tells which element it belongs to; no element has it. -/
def Element.mark (e : Element) : Fault := .badRawMode e.kind.name e.value

theorem name_inj {kind kind' : RawKind} (h : kind.name = kind'.name) : kind = kind' := by
  cases kind <;> cases kind' <;> first | rfl | exact absurd h (by decide)

theorem Element.mark_inj {e e' : Element} (h : e.mark = e'.mark) : e = e' := by
  obtain ⟨kind, v⟩ := e
  obtain ⟨kind', v'⟩ := e'
  obtain ⟨hkind, rfl⟩ := Fault.badRawMode.inj h
  obtain rfl := name_inj hkind
  rfl

/-! ### Readings compared -/

theorem exists_of_rel {α β : Type} {R : α → β → Prop} {a : α} {y : Option β}
    (h : Option.Rel R (some a) y) : ∃ b, y = some b ∧ R a b := by
  cases h with
  | some hab => exact ⟨_, rfl, hab⟩

theorem eq_error_of_map {ε α β : Type} {x : Except ε α} {F : α → β} {p : ε}
    (h : x.map F = .error p) : x = .error p := by
  cases x with
  | ok a => cases h
  | error q => exact congrArg _ (Except.error.inj h)

theorem eq_of_mapError {ε α : Type} {x : Except ε α} {p q : ε}
    (h : x.mapError (fun _ => p) = .error q) : p = q := by
  cases x with
  | ok a => cases h
  | error r => exact Except.error.inj h

/-- The reading is not touched by a change inside, or it has the fault of an element inside. -/
def Passes (g : Fault) {α : Type} (x y : Reading α) : Prop := y = x ∨ x = .error (.inside g)

theorem congruence_passes (g : Fault) : Congruence fun {_} x y => Passes g x y where
  refl x := .inl rfl
  bind := by
    rintro α β x y f f' (rfl | rfl) hf
    · cases y with
      | ok a => exact hf a rfl
      | error p => exact .inl rfl
    · exact .inr rfl

/-- Readings that are the same up to the fault of an element inside. -/
inductive UpTo (ρ : Fault → Fault → Prop) {α : Type} : Reading α → Reading α → Prop where
  | same (x : Reading α) : UpTo ρ x x
  | inside {f g : Fault} (h : ρ f g) : UpTo ρ (.error (.inside f)) (.error (.inside g))

theorem congruence_upTo (ρ : Fault → Fault → Prop) : Congruence fun {_} x y => UpTo ρ x y where
  refl x := .same x
  bind := by
    rintro α β x y f f' (_ | h) hf
    · cases x with
      | ok a => exact hf a rfl
      | error p => exact .same _
    · exact .inside h

/-- With its own mark on one element, all other marks may stand for anything. -/
theorem upTo_ownMark {α : Type} {x y : Except Fault α} {e e' : Element}
    (hown : e' = e → (∃ f, x = .error f) ∧ y = .error e.mark) (hother : e' ≠ e → y = x) :
    UpTo (fun m _ => ∃ e', e' ≠ e ∧ m = e'.mark) (inside (x.mapError fun _ => e'.mark))
      (inside y) := by
  by_cases he : e' = e
  · obtain ⟨⟨f, rfl⟩, rfl⟩ := hown he
    subst he
    exact .same _
  · obtain rfl := hother he
    cases y with
    | ok a => exact .same _
    | error g => exact .inside ⟨e', he, rfl⟩

/-! ### What readings get to -/

variable [Host]

namespace Element

def read (e : Element) : Except Fault Node := Node.ofJson e.kind e.value

/-- The element with other readers for the elements inside it. -/
def readWith (e : Element) (r : Readers) : Except Fault Node :=
  element e.kind.name (r.rule e.kind) e.value

end Element

/-- Readers that may read one element in their own way, and read all others as they are read. -/
structure Readers.VaryAt (r : Readers) (e : Element) : Prop where
  inline : ∀ w, ⟨.inline, w⟩ ≠ e → r.inline w = Inline.ofJson w
  block : ∀ w, ⟨.block, w⟩ ≠ e → r.block w = Block.ofJson w

/-- The reading of an element gets to another one: what comes of it depends on how that one is
read. -/
def Element.Reaches (e e' : Element) : Prop :=
  ∃ r : Readers, r.VaryAt e' ∧ e.readWith r ≠ e.read

theorem Element.readWith_eq (e : Element) : e.readWith ownReaders = e.read :=
  (Node.ofJson_eq e.kind e.value).symm

theorem element_eq {α : Type} {stage tag : String} {rule : String → Option (Json → Reading α)}
    {read : Json → Reading α} {v : Json} (htag : fieldOr v "t" .null = .str tag)
    (hrule : rule tag = some read) :
    element stage rule v = (read (fieldOr v "c" .null)).mapError (Problem.fault tag stage) := by
  rw [fieldOr] at htag
  simp only [element, htag, hrule]
  rfl

theorem Related.rule {R : ∀ {α : Type}, Reading α → Reading α → Prop} {v : Json} {r s : Readers}
    (h : Related R v r s) (C : Congruence R) (kind : RawKind) (tag : String) :
    Option.Rel (fun read read' => R (read v) (read' v)) (r.rule kind tag) (s.rule kind tag) := by
  cases kind with
  | block =>
    have hrel := h.blockRule C tag
    unfold Readers.rule
    generalize r.blockRule tag = x, s.blockRule tag = y at hrel ⊢
    cases hrel with
    | some hread => exact .some (C.map hread _)
    | none => exact .none
  | inline =>
    have hrel := h.inlineRule C tag
    unfold Readers.rule
    generalize r.inlineRule tag = x, s.inlineRule tag = y at hrel ⊢
    cases hrel with
    | some hread => exact .some (C.map hread _)
    | none => exact .none

theorem Element.Reaches.hasPart {e e' : Element} (h : e.Reaches e') :
    HasPart (fieldOr e.value "c" .null) e'.value := by
  obtain ⟨r, hr, hne⟩ := h
  -- readers that differ elsewhere read all parts of the contents alike
  by_contra hnot
  have hagree : Related (fun {_} x y => x = y) (fieldOr e.value "c" .null) r ownReaders :=
    { inline := fun w hw => congrArg inside (hr.inline w fun he => hnot (he ▸ hw))
      block := fun w hw => congrArg inside (hr.block w fun he => hnot (he ▸ hw)) }
  refine hne (Eq.trans ?_ e.readWith_eq)
  exact element_congr fun tag _ => hagree.rule congruence_eq e.kind tag

/-! ### A fault is passed on -/

theorem Readers.VaryAt.related {r : Readers} {e : Element} (h : r.VaryAt e) {g : Fault}
    (hg : e.read = .error g) (v : Json) :
    Related (fun {_} x y => Passes g x y) v ownReaders r where
  inline w _ := by
    by_cases hw : ⟨.inline, w⟩ = e
    · exact .inr (congrArg inside (eq_error_of_map (hw ▸ hg)))
    · exact .inl (congrArg inside (h.inline w hw))
  block w _ := by
    by_cases hw : ⟨.block, w⟩ = e
    · exact .inr (congrArg inside (eq_error_of_map (hw ▸ hg)))
    · exact .inl (congrArg inside (h.block w hw))

theorem element_of_passes {α : Type} {g : Fault} {stage : String}
    {rule rule' : String → Option (Json → Reading α)} {v : Json}
    (h : ∀ tag, Option.Rel (fun read read' => Passes g (read (fieldOr v "c" .null))
      (read' (fieldOr v "c" .null))) (rule tag) (rule' tag)) :
    element stage rule' v = element stage rule v
      ∨ ∃ tag read, fieldOr v "t" .null = .str tag ∧ rule tag = some read
        ∧ read (fieldOr v "c" .null) = .error (.inside g) := by
  unfold element
  split
  · next tag htag =>
    have hrel := h tag
    generalize hx : rule tag = x, rule' tag = y at hrel ⊢
    cases hrel with
    | none => exact .inl rfl
    | some hread =>
      rcases hread with hsame | hinside
      · exact .inl (congrArg (Except.mapError (Problem.fault tag stage)) hsame)
      · exact .inr ⟨tag, _, htag, hx, hinside⟩
  · exact .inl rfl

namespace Element

variable {e e' : Element} {f g : Fault} {tag : String} {read : Json → Reading Node}

/-- The contents of an element have the fault of a refused element that its reading gets to. -/
theorem Reaches.problem (h : e.Reaches e') (hg : e'.read = .error g) :
    ∃ tag read, fieldOr e.value "t" .null = .str tag ∧ ownReaders.rule e.kind tag = some read
      ∧ read (fieldOr e.value "c" .null) = .error (.inside g) := by
  obtain ⟨r, hr, hne⟩ := h
  have hrelated := hr.related hg (fieldOr e.value "c" .null)
  rcases element_of_passes fun tag => hrelated.rule (congruence_passes g) e.kind tag with
    hsame | hinside
  · exact absurd (hsame.trans e.readWith_eq) hne
  · exact hinside

/-- The fault of a refused element that the reading gets to goes through the contents around it. -/
theorem Reaches.read_eq (h : e.Reaches e') (hg : e'.read = .error g) :
    ∃ tag, fieldOr e.value "t" .null = .str tag
      ∧ e.read = .error ((Problem.inside g).fault tag e.kind.name) := by
  obtain ⟨tag, read, htag, hrule, hread⟩ := h.problem hg
  refine ⟨tag, htag, ?_⟩
  rw [← readWith_eq, readWith, element_eq htag hrule, hread]
  rfl

theorem Reaches.refused (h : e.Reaches e') (hg : e'.read = .error g)
    (hparsing : g.kind = .parsing) : e.read = .error g := by
  obtain ⟨tag, _, hread⟩ := h.read_eq hg
  rw [hread, Problem.fault_inside hparsing]

theorem refused_of_transGen (h : Relation.TransGen Reaches e e') (hg : e'.read = .error g)
    (hparsing : g.kind = .parsing) : e.read = .error g := by
  induction h using Relation.TransGen.head_induction_on with
  | single h => exact h.refused hg hparsing
  | head h _ ih => exact h.refused ih hparsing

theorem exists_fault_of_reflTransGen (h : Relation.ReflTransGen Reaches e e')
    (hg : e'.read = .error g) : ∃ f, e.read = .error f := by
  induction h using Relation.ReflTransGen.head_induction_on with
  | refl => exact ⟨g, hg⟩
  | head h _ ih =>
    obtain ⟨f, hf⟩ := ih
    obtain ⟨_, _, hread⟩ := h.read_eq hf
    exact ⟨_, hread⟩

/-! ### Tags without a text -/

theorem Reaches.not_hasLongTag (h : e.Reaches e') (hg : e'.read = .error g) :
    ¬ HasLongTag e.value := by
  obtain ⟨tag, htag, _⟩ := h.read_eq hg
  exact fun hlong => hlong.tag_ne tag htag

/-- Where the problem is none of an element inside, or that the tag of one has no text, everything
else that the reading gets to is read. -/
theorem read_of_transGen (htag : fieldOr e.value "t" .null = .str tag)
    (hrule : ownReaders.rule e.kind tag = some read)
    (hown : ∀ g, read (fieldOr e.value "c" .null) = .error (.inside g) →
      g = .overlong Host.digits none)
    (h : Relation.TransGen Reaches e e') : (∃ n, e'.read = .ok n) ∨ HasLongTag e'.value := by
  cases hread : e'.read with
  | ok n => exact .inl ⟨n, rfl⟩
  | error g =>
    obtain ⟨e₁, hfirst, hrest⟩ := Relation.TransGen.head'_iff.mp h
    -- the first element on the way is refused too, for a tag without a text
    obtain ⟨f, hf⟩ := exists_fault_of_reflTransGen hrest hread
    have hlong : HasLongTag e₁.value := by
      obtain ⟨tag', read', htag', hrule', hproblem⟩ := hfirst.problem hf
      obtain rfl : tag = tag' := Json.str.inj (htag.symm.trans htag')
      obtain rfl : read = read' := Option.some.inj (hrule.symm.trans hrule')
      exact ofJson_eq_overlong_iff.mp (hown f hproblem ▸ hf)
    -- and the reading of such an element gets to nothing that is refused
    rcases hrest.cases_head with rfl | ⟨e₂, hnext, hlast⟩
    · exact .inr hlong
    · obtain ⟨f₂, hf₂⟩ := exists_fault_of_reflTransGen hlast hread
      exact absurd hlong (hnext.not_hasLongTag hf₂)

end Element

/-! ### The element that a fault comes from -/

theorem Element.read_ne_mark (e e' : Element) : e.read ≠ .error e'.mark := by
  intro h
  rcases blames_or_overlong h with hblames | ⟨hmark, _⟩
  · cases hblames.kind_eq
  · cases hmark

/-- The readers of elements, with a mark on every element that is refused. -/
def markingReaders : Readers where
  inline w := (Inline.ofJson w).mapError fun _ => Element.mark ⟨.inline, w⟩
  block w := (Block.ofJson w).mapError fun _ => Element.mark ⟨.block, w⟩

theorem upTo_mark {α : Type} {x : Except Fault α} {e : Element}
    (h : ∀ f, x = .error f → e.read = .error f) :
    UpTo (fun f m => ∃ e : Element, e.read = .error f ∧ m = e.mark) (inside x)
      (inside (x.mapError fun _ => e.mark)) := by
  cases x with
  | ok a => exact .same _
  | error f => exact .inside ⟨e, h f rfl, rfl⟩

theorem related_markingReaders (v : Json) :
    Related (fun {_} x y => UpTo (fun f m => ∃ e : Element, e.read = .error f ∧ m = e.mark) x y) v
      ownReaders markingReaders where
  inline _ _ := upTo_mark fun _ hf => congrArg (Except.map Node.inline) hf
  block _ _ := upTo_mark fun _ hf => congrArg (Except.map Node.block) hf

theorem eq_mark_of_refused {w : Json} {f : Fault}
    (h : markingReaders.inline w = .error f ∨ markingReaders.block w = .error f) :
    ∃ e : Element, f = e.mark := by
  rcases h with h | h
  · exact ⟨_, (eq_of_mapError h).symm⟩
  · exact ⟨_, (eq_of_mapError h).symm⟩

theorem exists_varyAt (e : Element) (f : Fault) :
    ∃ r : Readers, r.VaryAt e ∧ (∀ w, ⟨.inline, w⟩ = e → r.inline w = .error f)
      ∧ ∀ w, ⟨.block, w⟩ = e → r.block w = .error f := by
  classical
  refine ⟨⟨fun w => if ⟨.inline, w⟩ = e then .error f else Inline.ofJson w,
    fun w => if ⟨.block, w⟩ = e then .error f else Block.ofJson w⟩, ⟨?_, ?_⟩, ?_, ?_⟩
  · exact fun w hw => if_neg hw
  · exact fun w hw => if_neg hw
  · exact fun w hw => if_pos hw
  · exact fun w hw => if_pos hw

theorem related_ownMark {r : Readers} {e : Element} {f : Fault} (he : e.read = .error f)
    (hr : r.VaryAt e) (hinline : ∀ w, ⟨.inline, w⟩ = e → r.inline w = .error e.mark)
    (hblock : ∀ w, ⟨.block, w⟩ = e → r.block w = .error e.mark) (v : Json) :
    Related (fun {_} x y => UpTo (fun m _ => ∃ e', e' ≠ e ∧ m = e'.mark) x y) v
      markingReaders r where
  inline w _ := by
    refine upTo_ownMark (fun hw => ⟨⟨f, ?_⟩, hinline w hw⟩) (hr.inline w)
    exact eq_error_of_map (hw ▸ he)
  block w _ := by
    refine upTo_ownMark (fun hw => ⟨⟨f, ?_⟩, hblock w hw⟩) (hr.block w)
    exact eq_error_of_map (hw ▸ he)

namespace Element

variable {e e' : Element} {f : Fault} {tag stage : String} {read : Json → Reading Node}

theorem exists_mark (hrule : ownReaders.rule e.kind tag = some read)
    (hread : read (fieldOr e.value "c" .null) = .error (.inside f)) :
    ∃ (marking : Json → Reading Node) (e' : Element),
      markingReaders.rule e.kind tag = some marking ∧ e'.read = .error f
        ∧ marking (fieldOr e.value "c" .null) = .error (.inside e'.mark) := by
  have hrelated := related_markingReaders (fieldOr e.value "c" .null)
  have hrel := hrelated.rule (congruence_upTo _) e.kind tag
  rw [hrule] at hrel
  obtain ⟨marking, hmarking, hupto⟩ := exists_of_rel hrel
  have hgives := Readers.gives_rule hmarking (fieldOr e.value "c" .null)
  rw [hread] at hupto
  generalize hout : marking (fieldOr e.value "c" .null) = out at hupto hgives
  cases hupto with
  | inside h =>
    obtain ⟨e', he', rfl⟩ := h
    exact ⟨marking, e', hmarking, he', hout⟩
  | same =>
    -- readers that mark have no other faults than marks
    obtain ⟨w, _, hmarked⟩ := hgives
    obtain ⟨e', rfl⟩ := eq_mark_of_refused hmarked
    have hown := Readers.gives_rule hrule (fieldOr e.value "c" .null)
    rw [hread] at hown
    obtain ⟨u, _, hrefused⟩ := hown
    obtain ⟨kind, hkind⟩ := ofJson_of_refused hrefused
    exact absurd hkind (read_ne_mark ⟨kind, u⟩ e')

/-- Contents that have the fault of an element inside have it from one that their reading gets
to. -/
theorem exists_reaches (htag : fieldOr e.value "t" .null = .str tag)
    (hrule : ownReaders.rule e.kind tag = some read)
    (hread : read (fieldOr e.value "c" .null) = .error (.inside f)) :
    ∃ e', e.Reaches e' ∧ e'.read = .error f := by
  -- the mark that comes out names the element
  obtain ⟨marking, e', hmarking, he', hout⟩ := exists_mark hrule hread
  obtain ⟨r, hr, hinline, hblock⟩ := exists_varyAt e' e'.mark
  refine ⟨e', ⟨r, hr, fun hsame => ?_⟩, he'⟩
  have hrelated := related_ownMark he' hr hinline hblock (fieldOr e.value "c" .null)
  have hrel := hrelated.rule (congruence_upTo _) e.kind tag
  rw [hmarking] at hrel
  obtain ⟨marked, hmarked, hupto⟩ := exists_of_rel hrel
  rw [hout] at hupto
  rw [readWith, element_eq htag hmarked] at hsame
  generalize marked (fieldOr e.value "c" .null) = out at hupto hsame
  cases hupto with
  | same => exact e.read_ne_mark e' hsame.symm
  | inside h =>
    obtain ⟨other, hother, hmark⟩ := h
    exact hother (mark_inj hmark.symm)

/-- A malformed element gets to one that is malformed by itself, or for the tag of an element in
it. -/
theorem exists_innermost {detail : Option NotAMember}
    (h : e.read = .error (.malformed tag stage detail)) :
    ∃ e', Relation.ReflTransGen Reaches e e' ∧ HasPart e.value e'.value
      ∧ e'.value.field? "t" = some (.str tag) ∧ e'.kind.name = stage
      ∧ e'.read = .error (.malformed tag stage detail)
      ∧ ∀ e'', Relation.TransGen Reaches e' e'' →
        (∃ n, e''.read = .ok n) ∨ HasLongTag e''.value := by
  -- what has the fault of an element inside is larger than that element
  induction hsize : e.value.size using Nat.strongRecOn generalizing e with
  | ind size ih =>
    rcases refused_ofJson h with
      hf | ⟨tag', read, htag, hrule, ⟨_, hown, hf⟩ | ⟨g, hread, hf, inner, w, _, hw⟩⟩
    · unfold unknownTag Fault.showing at hf
      split at hf <;> cases hf
    · cases hf
      refine ⟨e, .refl, .whole, field?_of_fieldOr htag, rfl, h, fun e' he' => ?_⟩
      exact read_of_transGen htag hrule (fun g hg => absurd hg (hown g)) he'
    · rcases blames_or_overlong hw with hblames | ⟨rfl, _⟩
      · rw [Problem.fault_inside hblames.kind_eq] at hf
        subst hf
        obtain ⟨e₁, hreach, he₁⟩ := exists_reaches htag hrule hread
        have hlt : e₁.value.size < e.value.size :=
          Nat.lt_of_le_of_lt hreach.hasPart.size_le (size_contents_lt htag)
        obtain ⟨e', hchain, hpart, hrest⟩ := ih e₁.value.size (hsize ▸ hlt) he₁ rfl
        have hcontents : HasPart e.value (fieldOr e.value "c" .null) := .field_getD "c" .absent
        have hpart₁ := hcontents.trans hreach.hasPart
        exact ⟨e', .head hreach hchain, hpart₁.trans hpart, hrest⟩
      · cases hf
        refine ⟨e, .refl, .whole, field?_of_fieldOr htag, rfl, h, fun e' he' => ?_⟩
        have hown : ∀ g, read (fieldOr e.value "c" .null) = .error (.inside g) →
            g = .overlong Host.digits none :=
          fun g hg => Problem.inside.inj (Except.error.inj (hg.symm.trans hread))
        exact read_of_transGen htag hrule hown he'

end Element

end Pandoc

open Pandoc

/-- Reading a value as a block or an inline gives a node or a fault of the parsing kind, except for
a value whose own tag has no text on the host.  A value that is malformed has an element inside it,
with the tag and the stage of the fault, that the reading gets to and that has the same fault on its
own, and everything the reading of that element gets to is read, again but for elements whose tag
has no text.  No element is given a fault of parsing that is not its own: all elements whose reading
gets to a refused element have the fault of that element.  A tag without a text is none of these,
and the element around it is malformed instead.  The host has room for any nesting. -/
theorem malformed_names_innermost_element [Host] (kind : RawKind) (v : Json) :
    ((∃ n, Node.ofJson kind v = .ok n) ∨ (∃ f, Node.ofJson kind v = .error f ∧ f.kind = .parsing)
      ∨ Node.ofJson kind v = .error (.overlong Host.digits none))
    ∧ (Node.ofJson kind v = .error (.overlong Host.digits none) ↔ HasLongTag v)
    ∧ (∀ tag stage detail, Node.ofJson kind v = .error (.malformed tag stage detail) →
      ∃ e : Element, Relation.ReflTransGen Element.Reaches ⟨kind, v⟩ e ∧ v.Inside e.value
        ∧ e.value.field? "t" = some (.str tag) ∧ e.kind.name = stage
        ∧ e.read = .error (.malformed tag stage detail)
        ∧ ∀ e', Relation.TransGen Element.Reaches e e' →
          (∃ n, e'.read = .ok n) ∨ HasLongTag e'.value)
    ∧ (∀ e' f, Relation.TransGen Element.Reaches ⟨kind, v⟩ e' → e'.read = .error f →
      f.kind = .parsing → Node.ofJson kind v = .error f)
    ∧ ∀ e', Element.Reaches ⟨kind, v⟩ e' → HasLongTag e'.value →
      ∃ tag, v.field? "t" = some (.str tag)
        ∧ Node.ofJson kind v = .error (.malformed tag kind.name none) := by
  refine ⟨?_, ofJson_eq_overlong_iff, fun tag stage detail h => ?_,
    fun e' f hreach hf hparsing => ?_, fun e' hreach hlong => ?_⟩
  · cases h : Node.ofJson kind v with
    | ok n => exact .inl ⟨n, rfl⟩
    | error f =>
      rcases blames_or_overlong h with hblames | ⟨rfl, _⟩
      · exact .inr (.inl ⟨f, rfl, hblames.kind_eq⟩)
      · exact .inr (.inr rfl)
  · obtain ⟨e, hchain, hpart, htag, hrest⟩ := Element.exists_innermost (e := ⟨kind, v⟩) h
    exact ⟨e, hchain, hpart.inside_of_field? htag, htag, hrest⟩
  · exact Element.refused_of_transGen hreach hf hparsing
  · obtain ⟨tag, htag, hread⟩ := hreach.read_eq (ofJson_eq_overlong_iff.mpr hlong)
    exact ⟨tag, field?_of_fieldOr htag, hread⟩

/-- A citation with a text in front of it, in a mode that there is not. -/
def loudCitation : Json :=
  .obj [("citationId", .str "doe99"), ("citationPrefix", .arr [tagged "Str" (.str "see")]),
    ("citationMode", bare "Loud")]

def loudCite : Json := tagged "Cite" (.arr [.arr [loudCitation], .arr [bare "Sparkle"]])

def refusingSee : Readers where
  inline w :=
    match w with
    | .obj [("t", .str "Str"), ("c", .str "see")] => .error .noBlocks
    | w => Inline.ofJson w
  block := Block.ofJson

theorem loudCite_reaches_see :
    Element.Reaches ⟨.inline, loudCite⟩ ⟨.inline, tagged "Str" (.str "see")⟩ := by
  have hrefusing : Element.readWith ⟨.inline, loudCite⟩ refusingSee = .error .noBlocks := rfl
  have hread : Element.read ⟨.inline, loudCite⟩
      = .error (.malformed "Cite" "inline" (some ⟨.str "Loud", "CitationMode"⟩)) := rfl
  refine ⟨refusingSee, ⟨fun w hw => ?_, fun _ _ => rfl⟩, fun hsame => ?_⟩
  · dsimp only [refusingSee]
    split
    · exact absurd rfl hw
    · rfl
  · cases hrefusing.symm.trans (hsame.trans hread)

/-- In a paragraph the citation is at fault.  Its text in front is read before; the unknown inline
behind does not matter. -/
theorem malformed_names_loudCite :
    Node.ofJson .block (tagged "Para" (.arr [loudCite]))
        = .error (.malformed "Cite" "inline" (some ⟨.str "Loud", "CitationMode"⟩))
      ∧ (∃ e : Element, (tagged "Para" (.arr [loudCite])).Inside e.value
        ∧ e.value.field? "t" = some (.str "Cite") ∧ e.kind.name = "inline"
        ∧ e.read = .error (.malformed "Cite" "inline" (some ⟨.str "Loud", "CitationMode"⟩)))
      ∧ Element.Reaches ⟨.inline, loudCite⟩ ⟨.inline, tagged "Str" (.str "see")⟩
      ∧ Node.ofJson .inline (bare "Sparkle") = .error (.unknownTag "inline" (.str "Sparkle")) := by
  have hrefused : Node.ofJson .block (tagged "Para" (.arr [loudCite]))
      = .error (.malformed "Cite" "inline" (some ⟨.str "Loud", "CitationMode"⟩)) := rfl
  obtain ⟨e, _, hin, htag, hkind, hread, _⟩ :=
    (malformed_names_innermost_element .block _).2.2.1 _ _ _ hrefused
  exact ⟨hrefused, ⟨e, hin, htag, hkind, hread⟩, loudCite_reaches_see, rfl⟩

/-- An element whose tag is the least whole number with more than so many digits. -/
def longTag (most : Nat) : Json := .obj [("t", .int (Json.leastLong most))]

theorem read_longTag [Host] {most : Nat} (hdigits : Host.digits = some most) (kind : RawKind) :
    Node.ofJson kind (longTag most) = .error (.overlong (some most) none) := by
  have hlong : HasLongTag (longTag most) := by
    rw [HasLongTag, hdigits]
    exact Json.isWritable_leastLong most
  rw [← hdigits]
  exact ofJson_eq_overlong_iff.mpr hlong

theorem readWith_para [Host] {r : Readers} {w : Json} {f : Fault} (h : r.inline w = .error f) :
    Element.readWith ⟨.block, tagged "Para" (.arr [w])⟩ r
      = .error ((Problem.inside f).fault "Para" "block") := by
  show Except.mapError _ (Except.map _ (r.inlines (.arr [w]) >>= _)) = _
  rw [Readers.inlines, items_arr]
  show Except.mapError _ (Except.map _ (((inside (r.inline w)) >>= _) >>= _)) = _
  rw [h]
  rfl

/-- A paragraph reads the long tag in it, and is called malformed for it. -/
theorem read_para_longTag [Host] {most : Nat} (hdigits : Host.digits = some most) :
    Node.ofJson .block (tagged "Para" (.arr [longTag most]))
        = .error (.malformed "Para" "block" none)
      ∧ Element.Reaches ⟨.block, tagged "Para" (.arr [longTag most])⟩ ⟨.inline, longTag most⟩ := by
  have hinline : ownReaders.inline (longTag most) = .error (.overlong (some most) none) := by
    have hnode := read_longTag hdigits .inline
    rw [Node.ofJson] at hnode
    exact eq_error_of_map hnode
  have hread : Element.read ⟨.block, tagged "Para" (.arr [longTag most])⟩
      = .error (.malformed "Para" "block" none) := by
    rw [← Element.readWith_eq]
    exact readWith_para hinline
  refine ⟨hread, ?_⟩
  -- another fault of the tag would be passed on
  obtain ⟨r, hr, hother, _⟩ := exists_varyAt ⟨.inline, longTag most⟩ .noBlocks
  refine ⟨r, hr, fun hsame => ?_⟩
  rw [readWith_para (hother _ rfl), hread] at hsame
  cases hsame

/-- A tag that is a number of 4301 digits is answered with no fault of parsing, and in a paragraph
the paragraph has the blame though its own contents are in shape. -/
theorem longTag_is_no_parsing_fault :
    Node.ofJson .block (longTag 4300) = .error (.overlong (some 4300) none)
      ∧ (Fault.overlong (some 4300) none).kind ≠ .parsing
      ∧ Node.ofJson .block (tagged "Para" (.arr [longTag 4300]))
        = .error (.malformed "Para" "block" none)
      ∧ Element.Reaches ⟨.block, tagged "Para" (.arr [longTag 4300])⟩ ⟨.inline, longTag 4300⟩
      ∧ Element.read ⟨.inline, longTag 4300⟩ = .error (.overlong (some 4300) none) := by
  obtain ⟨hpara, hreaches⟩ := read_para_longTag (rfl : Host.digits = some 4300)
  exact ⟨read_longTag rfl .block, by decide, hpara, hreaches, read_longTag rfl .inline⟩

end PandocHtml
