import PandocHtml.Notice
import PandocHtml.Proofs.Pandoc.RelatedReadings

/-!
# Levels of readers

Readers of elements may enter as many levels as they are given.  Whatever they read inside an
element is no larger than its contents, so all numbers of levels that are at least the size of a
value read it alike, and an element is read by the rule for its tag with these same readers for
what is inside.
-/

namespace PandocHtml.Pandoc

/-! ### Readers that agree -/

theorem bind_congr_of_ok {ε α β : Type} {x : Except ε α} {f g : α → Except ε β}
    (h : ∀ a, x = .ok a → f a = g a) : x >>= f = x >>= g := by
  cases x with
  | error e => rfl
  | ok a => exact h a rfl

theorem congruence_eq : Congruence fun {_} x y => x = y where
  refl _ := rfl
  bind := by
    rintro α β x _ f g rfl hf
    exact bind_congr_of_ok hf

/-- Readers that read all values up to a size alike. -/
structure AgreeUpTo (size : Nat) (r s : Readers) : Prop where
  inline : ∀ w : Json, w.size ≤ size → r.inline w = s.inline w
  block : ∀ w : Json, w.size ≤ size → r.block w = s.block w

theorem AgreeUpTo.related {size : Nat} {r s : Readers} (h : AgreeUpTo size r s) {v : Json}
    (hv : v.size ≤ size) : Related (fun {_} x y => x = y) v r s where
  inline w hw := by rw [h.inline w (Nat.le_trans hw.size_le hv)]
  block w hw := by rw [h.block w (Nat.le_trans hw.size_le hv)]

/-! ### Enough levels -/

theorem size_contents_lt {v : Json} {tag : String} (h : (v.field? "t").getD .null = .str tag) :
    ((v.field? "c").getD .null).size < v.size := by
  cases hc : v.field? "c" with
  | some w => exact Json.size_lt_of_field? hc
  | none =>
    cases ht : v.field? "t" with
    | none =>
      rw [ht] at h
      cases h
    | some w =>
      have hlt := Json.size_lt_of_field? ht
      have hpos := Json.size_pos w
      show 1 < v.size
      omega

variable [Host]

/-- An element is read alike by rules that read its contents alike. -/
theorem element_congr {α : Type} {stage : String} {f g : String → Option (Json → Reading α)}
    {v : Json} (h : ∀ tag : String, ((v.field? "c").getD .null).size < v.size →
      Option.Rel (fun read read' => read ((v.field? "c").getD .null)
        = read' ((v.field? "c").getD .null)) (f tag) (g tag)) :
    element stage f v = element stage g v := by
  unfold element
  split
  · next tag htag =>
    have hrel := h tag (size_contents_lt htag)
    generalize f tag = x, g tag = y at hrel ⊢
    cases hrel with
    | some hread => simp only [hread]
    | none => rfl
  · rfl

theorem element_blockRule_congr {size : Nat} {r s : Readers} (h : AgreeUpTo size r s) {v : Json}
    (hv : v.size ≤ size + 1) :
    element "block" r.blockRule v = element "block" s.blockRule v :=
  element_congr fun tag hlt => (h.related (by omega)).blockRule congruence_eq tag

theorem element_inlineRule_congr {size : Nat} {r s : Readers} (h : AgreeUpTo size r s) {v : Json}
    (hv : v.size ≤ size + 1) :
    element "inline" r.inlineRule v = element "inline" s.inlineRule v :=
  element_congr fun tag hlt => (h.related (by omega)).inlineRule congruence_eq tag

theorem agreeUpTo_within {size m n : Nat} (hm : size ≤ m) (hn : size ≤ n) :
    AgreeUpTo size ⟨inlineWithin m, blockWithin m⟩ ⟨inlineWithin n, blockWithin n⟩ := by
  -- one level is used up by every element, and its contents are smaller
  induction size generalizing m n with
  | zero =>
    have hnone : ∀ w : Json, ¬ w.size ≤ 0 := fun w hw => absurd (Json.size_pos w) (by omega)
    exact ⟨fun w hw => absurd hw (hnone w), fun w hw => absurd hw (hnone w)⟩
  | succ size ih =>
    cases m with
    | zero => omega
    | succ m =>
      cases n with
      | zero => omega
      | succ n =>
        have hagree := ih (m := m) (n := n) (by omega) (by omega)
        refine ⟨fun w hw => ?_, fun w hw => ?_⟩
        · exact element_inlineRule_congr hagree hw
        · exact element_blockRule_congr hagree hw

/-- The readers of elements, with as many levels as the value read is large. -/
def ownReaders : Readers := ⟨Inline.ofJson, Block.ofJson⟩

theorem agreeUpTo_ownReaders (n : Nat) :
    AgreeUpTo n ⟨inlineWithin n, blockWithin n⟩ ownReaders where
  inline w hw := (agreeUpTo_within hw (Nat.le_refl w.size)).inline w (Nat.le_refl _)
  block w hw := (agreeUpTo_within hw (Nat.le_refl w.size)).block w (Nat.le_refl _)

end Pandoc

open Pandoc

variable [Host]

/-- A block is read by the rule for its tag, with the readers of blocks and inlines themselves. -/
theorem Block.ofJson_eq (v : Json) : Block.ofJson v = element "block" ownReaders.blockRule v := by
  obtain ⟨n, hn⟩ := Nat.exists_eq_add_one.mpr v.size_pos
  rw [Block.ofJson, hn]
  exact element_blockRule_congr (agreeUpTo_ownReaders n) (Nat.le_of_eq hn)

/-- An inline is read by the rule for its tag, with the readers of blocks and inlines themselves. -/
theorem Inline.ofJson_eq (v : Json) :
    Inline.ofJson v = element "inline" ownReaders.inlineRule v := by
  obtain ⟨n, hn⟩ := Nat.exists_eq_add_one.mpr v.size_pos
  rw [Inline.ofJson, hn]
  exact element_inlineRule_congr (agreeUpTo_ownReaders n) (Nat.le_of_eq hn)

/-! ### Blocks and inlines as nodes -/

/-- A value read in the place of a block or of an inline. -/
def Node.ofJson (kind : RawKind) (v : Json) : Except Fault Node :=
  match kind with
  | .block => (Block.ofJson v).map .block
  | .inline => (Inline.ofJson v).map .inline

/-- The rule for a tag in the place of a block or of an inline. -/
def Pandoc.Readers.rule (r : Readers) (kind : RawKind) (tag : String) :
    Option (Json → Reading Node) :=
  match kind with
  | .block => (r.blockRule tag).map fun read v => Node.block <$> read v
  | .inline => (r.inlineRule tag).map fun read v => Node.inline <$> read v

theorem Pandoc.map_element {α β : Type} (F : α → β) (stage : String)
    (rule : String → Option (Json → Reading α)) (v : Json) :
    (element stage rule v).map F
      = element stage (fun tag => (rule tag).map fun read v => F <$> read v) v := by
  unfold element
  split
  · next tag _ =>
    dsimp only
    cases rule tag with
    | none => rfl
    | some read =>
      dsimp only [Option.map_some]
      cases read ((v.field? "c").getD .null) <;> rfl
  · rfl

theorem Node.ofJson_eq (kind : RawKind) (v : Json) :
    Node.ofJson kind v = element kind.name (ownReaders.rule kind) v := by
  cases kind with
  | block => rw [Node.ofJson, Block.ofJson_eq, map_element]; rfl
  | inline => rw [Node.ofJson, Inline.ofJson_eq, map_element]; rfl

end PandocHtml
