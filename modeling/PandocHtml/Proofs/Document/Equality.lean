import PandocHtml.Proofs.Document.Typed
import PandocHtml.Proofs.Number.Binary64

/-!
# Equality of nodes

Values that can serve as keys are equal when they have one meaning: a text, a number whatever its
form, or nothing.  On data made of such values the equality of nodes is an equivalence.
-/

namespace PandocHtml

namespace Json

/-! ### Scalars -/

inductive Meaning where
  | nothing
  | text (s : String)
  | number (q : ℚ)
  /-- A number without a finite value. -/
  | odd (x : Binary64)

def meaning : Json → Meaning
  | .bool b => .number (if b then 1 else 0)
  | .int n => .number n
  | .float x => if x.isFinite then .number x.value else .odd x
  | .str s => .text s
  | _ => .nothing

theorem meaning_float_eq_iff (x y : Binary64) :
    (Json.float x).meaning = (Json.float y).meaning ↔ x.same y = true := by
  rw [Binary64.same_iff_value]
  simp only [meaning]
  by_cases hx : x.isFinite = true
  · by_cases hy : y.isFinite = true
    · simp only [hx, hy, ite_true, Meaning.number.injEq, true_and]
      constructor
      · exact Or.inr
      · rintro (rfl | h)
        · rfl
        · exact h
    · simp only [hx, hy, ite_true, Bool.false_eq_true, ite_false, reduceCtorEq, false_and,
        and_false, or_false, false_iff]
      rintro rfl
      exact hy hx
  · by_cases hy : y.isFinite = true
    · simp only [hx, hy, ite_true, Bool.false_eq_true, ite_false, reduceCtorEq, false_and,
        or_false, false_iff]
      rintro rfl
      exact hx hy
    · simp only [hx, hy, Bool.false_eq_true, ite_false, Meaning.odd.injEq, false_and, or_false]

theorem meaning_float_int_iff (x : Binary64) (n : Int) :
    (Json.float x).meaning = .number n ↔ x.eqInt n = true := by
  rw [Binary64.eqInt_iff]
  simp only [meaning]
  by_cases hx : x.isFinite = true
  · simp only [hx, ite_true, Meaning.number.injEq, true_and]
  · simp only [hx, Bool.false_eq_true, ite_false, reduceCtorEq, false_and]

theorem meaning_of_integer {v : Json} {n : Int} (h : sameNumber.integer v = some n) :
    v.meaning = .number n := by
  cases v with
  | int m =>
    cases h
    rfl
  | bool b =>
    cases h
    cases b <;> simp [meaning]
  | _ => cases h

theorem same_iff_meaning {v w : Json} (hv : v.isScalar = true) (hw : w.isScalar = true) :
    v.same w = true ↔ v.meaning = w.meaning := by
  cases v with
  | arr items => cases hv
  | obj fields => cases hv
  | null =>
    cases w with
    | arr items => cases hw
    | obj fields => cases hw
    | null => exact ⟨fun _ => rfl, fun _ => rfl⟩
    | float x =>
      simp only [same, sameNumber, sameNumber.integer, Option.map_none, Option.getD_none, meaning]
      split <;> simp
    | bool b | int n | str s => simp [same, sameNumber, sameNumber.integer, meaning]
  | str s =>
    cases w with
    | arr items => cases hw
    | obj fields => cases hw
    | str t => simp [same, meaning]
    | float x =>
      simp only [same, sameNumber, sameNumber.integer, Option.map_none, Option.getD_none, meaning]
      split <;> simp
    | null | bool b | int n => simp [same, sameNumber, sameNumber.integer, meaning]
  | float x =>
    cases w with
    | arr items => cases hw
    | obj fields => cases hw
    | float y =>
      rw [meaning_float_eq_iff]
      rfl
    | int n => exact (meaning_float_int_iff x n).symm
    | bool b =>
      rw [meaning_of_integer (v := .bool b) rfl, meaning_float_int_iff]
      rfl
    | null | str t =>
      simp only [same, sameNumber, sameNumber.integer, Option.map_none, Option.getD_none, meaning]
      split <;> simp
  | bool b =>
    cases w with
    | arr items => cases hw
    | obj fields => cases hw
    | float y =>
      rw [meaning_of_integer (v := .bool b) rfl]
      exact (meaning_float_int_iff y _).symm.trans eq_comm
    | bool c => cases b <;> cases c <;> simp [same, sameNumber, sameNumber.integer, meaning]
    | int n => cases b <;> simp [same, sameNumber, sameNumber.integer, meaning] <;> norm_cast
    | null | str t => simp [same, sameNumber, sameNumber.integer, meaning]
  | int m =>
    cases w with
    | arr items => cases hw
    | obj fields => cases hw
    | float y => exact (meaning_float_int_iff y m).symm.trans eq_comm
    | bool c => cases c <;> simp [same, sameNumber, sameNumber.integer, meaning]
    | int n => simp [same, sameNumber, sameNumber.integer, meaning]
    | null | str t => simp [same, sameNumber, sameNumber.integer, meaning]

theorem same_refl {v : Json} (h : v.isScalar = true) : v.same v = true :=
  (same_iff_meaning h h).mpr rfl

theorem sameItems_iff_meaning {vs ws : List Json} (hv : vs.all isScalar = true)
    (hw : ws.all isScalar = true) :
    sameItems vs ws = true ↔ vs.map meaning = ws.map meaning := by
  induction vs generalizing ws with
  | nil =>
    cases ws with
    | nil => simp [sameItems]
    | cons w rest => simp [sameItems]
  | cons v vs ih =>
    cases ws with
    | nil => simp [sameItems]
    | cons w rest =>
      rw [List.all_cons, Bool.and_eq_true] at hv hw
      simp only [sameItems, Bool.and_eq_true, List.map_cons, List.cons.injEq]
      rw [same_iff_meaning hv.1 hw.1, ih hv.2 hw.2]

end Json

/-! ### Attributes -/

theorem Attr.same_iff {a b : Attr} (ha : a.isKey = true) (hb : b.isKey = true) :
    a.same b = true ↔ a.identifier.meaning = b.identifier.meaning
      ∧ a.classes.map Json.meaning = b.classes.map Json.meaning
      ∧ ∀ p, p ∈ a.pairs ↔ p ∈ b.pairs := by
  rw [Attr.isKey, Bool.and_eq_true] at ha hb
  simp only [Attr.same, Bool.and_eq_true, List.all_eq_true, List.contains_iff_mem]
  rw [Json.same_iff_meaning ha.1 hb.1, Json.sameItems_iff_meaning ha.2 hb.2]
  constructor
  · rintro ⟨⟨⟨hi, hc⟩, hab⟩, hba⟩
    exact ⟨hi, hc, fun p => ⟨hab p, hba p⟩⟩
  · rintro ⟨hi, hc, hp⟩
    exact ⟨⟨⟨hi, hc⟩, fun p => (hp p).mp⟩, fun p => (hp p).mpr⟩

/-! ### Data -/

namespace Datum

mutual

theorem same_refl : ∀ d : Datum, d.isKey = true → d.same d = true
  | .value v, h => Json.same_refl h
  | .choice f c n, _ => by simp only [same, beq_self_eq_true, Bool.and_self]
  | .attr a, h => (Attr.same_iff h h).mpr ⟨rfl, rfl, fun _ => Iff.rfl⟩
  | .target t, h => by
    simp only [isKey, Bool.and_eq_true] at h
    simp only [same, Json.same_refl h.1, Json.same_refl h.2, Bool.and_self]
  | .seq items, h => sameAll_refl items h
  | .record n fields, h => by
    simp only [same, beq_self_eq_true, sameFields_refl fields h, Bool.and_self]

theorem sameAll_refl : ∀ items : List Datum, isKeyAll items = true → sameAll items items = true
  | [], _ => rfl
  | d :: rest, h => by
    simp only [isKeyAll, Bool.and_eq_true] at h
    simp only [sameAll, same_refl d h.1, sameAll_refl rest h.2, Bool.and_self]

theorem sameFields_refl : ∀ fields : List (String × Datum), isKeyFields fields = true →
    sameFields fields fields = true
  | [], _ => rfl
  | (k, d) :: rest, h => by
    simp only [isKeyFields, Bool.and_eq_true] at h
    simp only [sameFields, beq_self_eq_true, same_refl d h.1, sameFields_refl rest h.2,
      Bool.and_self]

end

mutual

/-- Of data that can serve as keys, those equal to a third are equal to each other. -/
theorem same_euclidean : ∀ c a b : Datum, c.isKey = true → a.isKey = true → b.isKey = true →
    a.same c = true → b.same c = true → a.same b = true
  | .value w, a, b, hc, ha, hb, hac, hbc => by
    cases a with
    | value u =>
      cases b with
      | value v =>
        have hu := (Json.same_iff_meaning ha hc).mp hac
        have hv := (Json.same_iff_meaning hb hc).mp hbc
        exact (Json.same_iff_meaning ha hb).mpr (hu.trans hv.symm)
      | _ => cases hbc
    | _ => cases hac
  | .choice f n m, a, b, _, _, _, hac, hbc => by
    cases a with
    | choice f' n' m' =>
      cases b with
      | choice f'' n'' m'' =>
        simp only [same, Bool.and_eq_true, beq_iff_eq] at hac hbc ⊢
        exact ⟨hac.1.trans hbc.1.symm, hac.2.trans hbc.2.symm⟩
      | _ => cases hbc
    | _ => cases hac
  | .attr w, a, b, hc, ha, hb, hac, hbc => by
    cases a with
    | attr u =>
      cases b with
      | attr v =>
        obtain ⟨hi, hs, hp⟩ := (Attr.same_iff ha hc).mp hac
        obtain ⟨hi', hs', hp'⟩ := (Attr.same_iff hb hc).mp hbc
        exact (Attr.same_iff ha hb).mpr
          ⟨hi.trans hi'.symm, hs.trans hs'.symm, fun p => (hp p).trans (hp' p).symm⟩
      | _ => cases hbc
    | _ => cases hac
  | .target w, a, b, hc, ha, hb, hac, hbc => by
    cases a with
    | target u =>
      cases b with
      | target v =>
        simp only [isKey, Bool.and_eq_true] at hc ha hb
        simp only [same, Bool.and_eq_true] at hac hbc ⊢
        rw [Json.same_iff_meaning ha.1 hc.1, Json.same_iff_meaning ha.2 hc.2] at hac
        rw [Json.same_iff_meaning hb.1 hc.1, Json.same_iff_meaning hb.2 hc.2] at hbc
        rw [Json.same_iff_meaning ha.1 hb.1, Json.same_iff_meaning ha.2 hb.2]
        exact ⟨hac.1.trans hbc.1.symm, hac.2.trans hbc.2.symm⟩
      | _ => cases hbc
    | _ => cases hac
  | .seq zs, a, b, hc, ha, hb, hac, hbc => by
    cases a with
    | seq xs =>
      cases b with
      | seq ys => exact sameAll_euclidean zs xs ys hc ha hb hac hbc
      | _ => cases hbc
    | _ => cases hac
  | .record n zs, a, b, hc, ha, hb, hac, hbc => by
    cases a with
    | record n' xs =>
      cases b with
      | record n'' ys =>
        simp only [same, Bool.and_eq_true, beq_iff_eq] at hac hbc ⊢
        exact ⟨hac.1.trans hbc.1.symm, sameFields_euclidean zs xs ys hc ha hb hac.2 hbc.2⟩
      | _ => cases hbc
    | _ => cases hac

theorem sameAll_euclidean : ∀ zs xs ys : List Datum, isKeyAll zs = true → isKeyAll xs = true →
    isKeyAll ys = true → sameAll xs zs = true → sameAll ys zs = true → sameAll xs ys = true
  | [], xs, ys, _, _, _, hac, hbc => by
    cases xs with
    | cons x xs => cases hac
    | nil =>
      cases ys with
      | cons y ys => cases hbc
      | nil => rfl
  | z :: zs, xs, ys, hc, ha, hb, hac, hbc => by
    cases xs with
    | nil => cases hac
    | cons x xs =>
      cases ys with
      | nil => cases hbc
      | cons y ys =>
        simp only [isKeyAll, Bool.and_eq_true] at hc ha hb
        simp only [sameAll, Bool.and_eq_true] at hac hbc ⊢
        exact ⟨same_euclidean z x y hc.1 ha.1 hb.1 hac.1 hbc.1,
          sameAll_euclidean zs xs ys hc.2 ha.2 hb.2 hac.2 hbc.2⟩

theorem sameFields_euclidean : ∀ zs xs ys : List (String × Datum), isKeyFields zs = true →
    isKeyFields xs = true → isKeyFields ys = true → sameFields xs zs = true →
    sameFields ys zs = true → sameFields xs ys = true
  | [], xs, ys, _, _, _, hac, hbc => by
    cases xs with
    | cons x xs => cases hac
    | nil =>
      cases ys with
      | cons y ys => cases hbc
      | nil => rfl
  | (k, z) :: zs, xs, ys, hc, ha, hb, hac, hbc => by
    cases xs with
    | nil => cases hac
    | cons x xs =>
      cases ys with
      | nil => cases hbc
      | cons y ys =>
        simp only [isKeyFields, Bool.and_eq_true] at hc ha hb
        simp only [sameFields, Bool.and_eq_true, beq_iff_eq] at hac hbc ⊢
        exact ⟨⟨hac.1.1.trans hbc.1.1.symm,
            same_euclidean z x.2 y.2 hc.1 ha.1 hb.1 hac.1.2 hbc.1.2⟩,
          sameFields_euclidean zs xs ys hc.2 ha.2 hb.2 hac.2 hbc.2⟩

end

end Datum

/-! ### Bodies -/

namespace FootnoteBody

variable {a b c : FootnoteBody}

theorem same_refl (ha : a.isKey = true) : a.same a = true := Datum.sameAll_refl a.data ha

theorem same_symm (ha : a.isKey = true) (hb : b.isKey = true) (h : a.same b = true) :
    b.same a = true :=
  Datum.sameAll_euclidean b.data b.data a.data hb hb ha (same_refl hb) h

theorem same_comm (ha : a.isKey = true) (hb : b.isKey = true) : a.same b = b.same a :=
  Bool.eq_iff_iff.mpr ⟨same_symm ha hb, same_symm hb ha⟩

theorem same_trans (ha : a.isKey = true) (hb : b.isKey = true) (hc : c.isKey = true)
    (hab : a.same b = true) (hbc : b.same c = true) : a.same c = true :=
  Datum.sameAll_euclidean b.data a.data c.data hb ha hc hab (same_symm hb hc hbc)

end FootnoteBody

def sameBody (a b : List Block) : Bool :=
  (FootnoteBody.ofBlocks a).same (FootnoteBody.ofBlocks b)

section
variable {a b c : List Block}

theorem sameBody_refl (ha : isBodyKey a = true) : sameBody a a = true :=
  FootnoteBody.same_refl ha

theorem sameBody_comm (ha : isBodyKey a = true) (hb : isBodyKey b = true) :
    sameBody a b = sameBody b a :=
  FootnoteBody.same_comm ha hb

theorem sameBody_trans (ha : isBodyKey a = true) (hb : isBodyKey b = true)
    (hc : isBodyKey c = true) (hab : sameBody a b = true) (hbc : sameBody b c = true) :
    sameBody a c = true :=
  FootnoteBody.same_trans ha hb hc hab hbc

end

end PandocHtml
