import Mathlib.Algebra.BigOperators.Group.Finset.Basic
import PandocHtml.Document.Digest
import PandocHtml.Proofs.Document.EqualNodes

/-!
# Nodes and bodies as keys

On well-typed nodes equality is an equivalence, and equal nodes have equal digests, so both nodes
and footnote bodies can be the keys of a hash table.  A table that gives every new body the next
number is the numbering of footnotes.  A width that is no number equals itself, by its bits, so
such widths need not be left out.
-/

namespace PandocHtml

/-! ### An equivalence -/

namespace Datum

variable {a b c : Datum}

theorem same_symm (ha : a.isKey = true) (hb : b.isKey = true) (h : a.same b = true) :
    b.same a = true :=
  same_euclidean b b a hb hb ha (same_refl b hb) h

theorem same_trans (ha : a.isKey = true) (hb : b.isKey = true) (hc : c.isKey = true)
    (hab : a.same b = true) (hbc : b.same c = true) : a.same c = true :=
  same_euclidean b a c hb ha hc hab (same_symm hb hc hbc)

end Datum

/-- A well-typed node. -/
abbrev TypedNode := {n : Node // n.isTyped = true}

theorem TypedNode.isKey (n : TypedNode) : n.val.datum.isKey = true :=
  Node.isKey_of_isTyped n.val n.property

theorem Node.equivalence_same :
    Equivalence fun n m : TypedNode => n.val.same m.val = true where
  refl n := Datum.same_refl n.val.datum n.isKey
  symm {n m} h := Datum.same_symm n.isKey m.isKey h
  trans {n m k} hnm hmk := Datum.same_trans n.isKey m.isKey k.isKey hnm hmk

/-! ### Equal data have one digest -/

section Digests

variable (H : Hashing)

theorem map_value_eq_of_sameItems {vs ws : List Json} (hv : vs.all Json.isScalar = true)
    (hw : ws.all Json.isScalar = true) (h : Json.sameItems vs ws = true) :
    vs.map H.value = ws.map H.value := by
  induction vs generalizing ws with
  | nil =>
    cases ws with
    | nil => rfl
    | cons w ws => cases h
  | cons v vs ih =>
    cases ws with
    | nil => cases h
    | cons w ws =>
      rw [List.all_cons, Bool.and_eq_true] at hv hw
      rw [Json.sameItems, Bool.and_eq_true] at h
      rw [List.map_cons, List.map_cons, H.value_eq v w hv.1 hw.1 h.1, ih hv.2 hw.2 h.2]

theorem Attr.digest_eq_of_same {a b : Attr} (ha : a.isKey = true) (hb : b.isKey = true)
    (h : a.same b = true) : a.digest H = b.digest H := by
  have hpairs := (Attr.sameFields_iff.mp h).pairs
  rw [Attr.isKey, Bool.and_eq_true] at ha hb
  simp only [Attr.same, Bool.and_eq_true] at h
  rw [Attr.digest, Attr.digest, H.value_eq _ _ ha.1 hb.1 h.1.1.1,
    map_value_eq_of_sameItems H ha.2 hb.2 h.1.1.2, H.pairs_eq _ _ hpairs]

namespace Datum

mutual

theorem digest_eq_of_same : ∀ x y : Datum, x.isKey = true → y.isKey = true → x.same y = true →
    x.digest H = y.digest H
  | .value v, y, hx, hy, h => by
    cases y with
    | value w => exact H.value_eq v w hx hy h
    | _ => cases h
  | .choice family constant name, y, _, _, h => by
    cases y with
    | choice family' constant' name' =>
      simp only [same, Bool.and_eq_true, beq_iff_eq] at h
      rw [digest, digest, h.1, h.2]
    | _ => cases h
  | .attr a, y, hx, hy, h => by
    cases y with
    | attr b => exact Attr.digest_eq_of_same H hx hy h
    | _ => cases h
  | .target s, y, hx, hy, h => by
    cases y with
    | target t =>
      rw [isKey_target, Bool.and_eq_true] at hx hy
      simp only [same, Bool.and_eq_true] at h
      rw [digest, digest, H.value_eq _ _ hx.1 hy.1 h.1, H.value_eq _ _ hx.2 hy.2 h.2]
    | _ => cases h
  | .seq xs, y, hx, hy, h => by
    cases y with
    | seq ys =>
      rw [digest, digest, digestAll_eq_of_sameAll xs ys hx hy h]
    | _ => cases h
  | .record name fs, y, hx, hy, h => by
    cases y with
    | record name' gs =>
      rw [same, Bool.and_eq_true] at h
      rw [digest, digest, digestFields_eq_of_sameFields fs gs hx hy h.2]
    | _ => cases h

theorem digestAll_eq_of_sameAll : ∀ xs ys : List Datum, isKeyAll xs = true →
    isKeyAll ys = true → sameAll xs ys = true → digestAll H xs = digestAll H ys
  | [], ys, _, _, h => by
    cases ys with
    | nil => rfl
    | cons y ys => cases h
  | x :: xs, ys, hx, hy, h => by
    cases ys with
    | nil => cases h
    | cons y ys =>
      rw [isKeyAll_cons, Bool.and_eq_true] at hx hy
      rw [sameAll, Bool.and_eq_true] at h
      rw [digestAll, digestAll, digest_eq_of_same x y hx.1 hy.1 h.1,
        digestAll_eq_of_sameAll xs ys hx.2 hy.2 h.2]

theorem digestFields_eq_of_sameFields : ∀ fs gs : List (String × Datum), isKeyFields fs = true →
    isKeyFields gs = true → sameFields fs gs = true → digestFields H fs = digestFields H gs
  | [], gs, _, _, h => by
    cases gs with
    | nil => rfl
    | cons g gs => cases h
  | (k, x) :: fs, gs, hx, hy, h => by
    cases gs with
    | nil => cases h
    | cons g gs =>
      rw [isKeyFields_cons, Bool.and_eq_true] at hx hy
      simp only [sameFields, Bool.and_eq_true] at h
      rw [digestFields, digestFields, digest_eq_of_same x g.2 hx.1 hy.1 h.1.2,
        digestFields_eq_of_sameFields fs gs hx.2 hy.2 h.2]

end

end Datum

theorem Node.digest_eq_of_same (n m : TypedNode) (h : n.val.same m.val = true) :
    n.val.digest H = m.val.digest H :=
  Datum.digest_eq_of_same H n.val.datum m.val.datum n.isKey m.isKey h

end Digests

/-! ### One more body -/

theorem size_encountered_concat (met : List (List Block)) (c : List Block) :
    (encountered (met ++ [c])).size
      = if met.any (sameBody c) = true then (encountered met).size
        else (encountered met).size + 1 := by
  rw [encountered_concat, Footnotes.size, List.length_append, List.length_map]
  cases met.any (sameBody c) with
  | false => rfl
  | true => rfl

/-- One more body leaves the numbers of all others as they are. -/
theorem number?_encountered_concat {met : List (List Block)}
    (hmet : ∀ a ∈ met, isBodyKey a = true) {b c : List Block} (hb : isBodyKey b = true)
    (hc : isBodyKey c = true) :
    (encountered (met ++ [c])).number? (FootnoteBody.ofBlocks b)
      = if sameBody c b = true ∧ met.any (sameBody c) = false then some ((encountered met).size + 1)
        else (encountered met).number? (FootnoteBody.ofBlocks b) := by
  rw [number?_encountered, number?_encountered, firstBodies, bodiesMet_concat]
  cases hany : met.any (sameBody c) with
  | true =>
    have hold : ¬ (sameBody c b = true ∧ true = false) := fun h => Bool.noConfusion h.2
    rw [if_neg hold]
    exact congrArg (fun bodies => (bodies.findIdx? (sameBody b)).map (· + 1)) (List.append_nil _)
  | false =>
    show ((firstBodies met ++ [c]).findIdx? (sameBody b)).map (· + 1) = _
    rw [List.findIdx?_append, List.findIdx?_singleton, sameBody_comm hb hc]
    by_cases hcb : sameBody c b = true
    · -- a body that b equals would equal c too, but none that was met does
      have hnone : (firstBodies met).findIdx? (sameBody b) = none := by
        rw [List.findIdx?_eq_none_iff]
        intro a ha
        have ham := mem_of_mem_bodiesMet ha
        have hca := List.any_eq_false.mp hany a ham
        exact Bool.eq_false_iff.mpr fun hba => hca (sameBody_trans hc hb (hmet a ham) hcb hba)
      rw [if_pos hcb, if_pos ⟨hcb, rfl⟩, hnone, size_encountered]
      simp
    · rw [if_neg hcb, if_neg (fun h => hcb h.1), Option.map_none, Option.or_none]

/-! ### Bodies in a table -/

/-- A well-typed body of a footnote, as a key that a table finds by its digest. -/
structure BodyKey (H : Hashing) where
  blocks : List Block
  typed : blocksTyped blocks = true

section Table

variable {H : Hashing}

theorem BodyKey.isBodyKey (k : BodyKey H) : isBodyKey k.blocks = true :=
  isBodyKey_of_blocksTyped k.typed

instance : BEq (BodyKey H) := ⟨fun a b => sameBody a.blocks b.blocks⟩

instance : Hashable (BodyKey H) := ⟨fun k => blocksDigest H k.blocks⟩

instance : EquivBEq (BodyKey H) where
  rfl {a} := sameBody_refl a.isBodyKey
  symm {a b} h := (sameBody_comm b.isBodyKey a.isBodyKey).trans h
  trans {a b c} hab hbc := sameBody_trans a.isBodyKey b.isBodyKey c.isBodyKey hab hbc

theorem blocksDigest_eq_of_sameBody (a b : BodyKey H) (h : sameBody a.blocks b.blocks = true) :
    blocksDigest H a.blocks = blocksDigest H b.blocks := by
  have ha := a.isBodyKey
  have hb := b.isBodyKey
  rw [PandocHtml.isBodyKey, FootnoteBody.isKey, FootnoteBody.data_ofBlocks] at ha hb
  rw [sameBody, FootnoteBody.same, FootnoteBody.data_ofBlocks, FootnoteBody.data_ofBlocks] at h
  rw [blocksDigest, blocksDigest, Datum.digestAll_eq_of_sameAll H _ _ ha hb h]

instance : LawfulHashable (BodyKey H) where
  hash_eq a b h := blocksDigest_eq_of_sameBody a b h

/-- Every body that is not in the table yet is put into it under the next number. -/
def bodyTable (met : List (BodyKey H)) : Std.HashMap (BodyKey H) Nat :=
  met.foldl (fun table k => table.insertIfNew k (table.size + 1)) ∅

theorem bodyTable_concat (met : List (BodyKey H)) (k : BodyKey H) :
    bodyTable (met ++ [k]) = (bodyTable met).insertIfNew k ((bodyTable met).size + 1) := by
  rw [bodyTable, List.foldl_append]
  rfl

/-- The bodies met, without their proofs of being well-typed. -/
def keyedBlocks (met : List (BodyKey H)) : List (List Block) := met.map BodyKey.blocks

theorem isBodyKey_of_mem_keyedBlocks (met : List (BodyKey H)) :
    ∀ b ∈ keyedBlocks met, isBodyKey b = true := by
  intro b hb
  obtain ⟨k, _, rfl⟩ := List.mem_map.mp hb
  exact k.isBodyKey

/-- A table of bodies has one entry for each number, and finds a body under its number. -/
theorem bodyTable_eq (met : List (BodyKey H)) :
    (bodyTable met).size = (encountered (keyedBlocks met)).size
      ∧ ∀ k : BodyKey H, (bodyTable met)[k]?
        = (encountered (keyedBlocks met)).number? (FootnoteBody.ofBlocks k.blocks) := by
  -- from the end, as the table before the last body is that of the bodies before it
  induction met using List.reverseRecOn with
  | nil => exact ⟨rfl, fun _ => Std.HashMap.getElem?_empty⟩
  | append_singleton met b ih =>
    obtain ⟨hsize, hnumber⟩ := ih
    have hmet := isBodyKey_of_mem_keyedBlocks met
    have hmem : b ∈ bodyTable met ↔ (keyedBlocks met).any (sameBody b.blocks) = true := by
      rw [Std.HashMap.mem_iff_isSome_getElem?, hnumber, number?_encountered, Option.isSome_map,
        isSome_findIdx?_firstBodies hmet b.isBodyKey]
    have hblocks : keyedBlocks (met ++ [b]) = keyedBlocks met ++ [b.blocks] := List.map_append
    rw [bodyTable_concat, hblocks]
    constructor
    · rw [Std.HashMap.size_insertIfNew, size_encountered_concat, hsize]
      simp only [hmem]
    · intro k
      rw [Std.HashMap.getElem?_insertIfNew, number?_encountered_concat hmet k.isBodyKey b.isBodyKey,
        hnumber, hsize]
      simp only [hmem, Bool.not_eq_true]
      rfl

end Table

/-! ### Keys -/

/-- Equality of nodes is fit for keys.  It is an equivalence on well-typed nodes.  Two nodes are
equal exactly when one constructor made both from equal arguments, so each constructor preserves
equality in each of its arguments, and nodes of different kinds are never equal; bodies are equal
exactly when their blocks are, one by one.  However values are digested, equal nodes have one
digest, and a table of bodies finds every body under the number that the numbering gives it. -/
theorem node_equality_serves_keys :
    Equivalence (fun n m : TypedNode => n.val.same m.val = true)
    ∧ (∀ n m : Node, n.same m = true ↔ n.SameFields m)
    ∧ (∀ n m : Node, n.kind ≠ m.kind → n.same m = false)
    ∧ (∀ a b : List Block, sameBody a b = true ↔ SameBlocks a b)
    ∧ (∀ n : TypedNode, n.val.datum.isKey = true)
    ∧ ∀ H : Hashing,
      (∀ n m : TypedNode, n.val.same m.val = true → n.val.digest H = m.val.digest H)
      ∧ EquivBEq (BodyKey H) ∧ LawfulHashable (BodyKey H)
      ∧ ∀ met : List (BodyKey H), ∃ notes : Footnotes,
        Footnotes.ofBodies ((keyedBlocks met).map FootnoteBody.ofBlocks) = .ok notes
        ∧ notes.size = (bodyTable met).size
        ∧ ∀ k : BodyKey H,
          notes.lookup (FootnoteBody.ofBlocks k.blocks) = .ok (bodyTable met)[k]? := by
  refine ⟨Node.equivalence_same, fun _ _ => Node.sameFields_iff, ?_, sameBody_iff,
    TypedNode.isKey, fun H => ⟨Node.digest_eq_of_same H, inferInstance, inferInstance, ?_⟩⟩
  · intro n m hkind
    exact Bool.eq_false_iff.mpr fun h => hkind (Node.sameFields_iff.mp h).kind_eq
  · intro met
    obtain ⟨hsize, hnumber⟩ := bodyTable_eq met
    refine ⟨encountered (keyedBlocks met), ofBodies_ofBlocks (isBodyKey_of_mem_keyedBlocks met),
      hsize.symm, ?_⟩
    intro k
    have hkey : (FootnoteBody.ofBlocks k.blocks).isKey = true := k.isBodyKey
    rw [Footnotes.lookup, if_pos hkey, hnumber]

/-- A hashing of values by what they mean, and of sets of pairs by a sum over their members. -/
def Hashing.byMeaning : Hashing where
  value v :=
    match v.meaning with
    | .nothing => 0
    | .text s => hash s
    | .number q => mixHash (hash q.num) (hash q.den)
    | .odd x => x.bits
  choice family name := mixHash (hash family) (hash name)
  pairs ps := UInt64.ofNat (∑ p ∈ ps.toFinset, (hash p).toNat)
  tuple ds := ds.foldl mixHash 7
  value_eq v w hv hw h := by rw [(Json.same_iff_meaning hv hw).mp h]
  pairs_eq ps qs h := by rw [List.toFinset.ext_iff.mpr h]

/-- A table with one column and one cell, which holds a footnote. -/
def notedTable (width : Json) (pairs : List (String × String)) : Node :=
  .block (.table ⟨.str "t", [.str "c"], pairs⟩ ⟨none, []⟩ [⟨.left, width⟩]
    ⟨Attr.none, [⟨Attr.none,
      [⟨Attr.none, .default, .int 1, .int 1, [.plain [.note [.para [.space]]]]⟩]⟩]⟩
    [] ⟨Attr.none, []⟩)

def wholeTable : Node := notedTable (.int 1) [("k", "1"), ("l", "2")]

/-- The width 1 in another form, and the pairs in another order, one of them twice. -/
def respelledTable : Node :=
  notedTable (.float ⟨0x3FF0000000000000⟩) [("l", "2"), ("k", "1"), ("l", "2")]

theorem respelledTable_serves_key :
    wholeTable.isTyped = true ∧ respelledTable.isTyped = true
    ∧ wholeTable.same respelledTable = true ∧ respelledTable.same wholeTable = true
    ∧ wholeTable.digest .byMeaning = respelledTable.digest .byMeaning
    ∧ (Node.inline .space).same (.inline .softBreak) = false := by
  have hwhole : wholeTable.isTyped = true := by decide
  have hother : respelledTable.isTyped = true := by decide
  have hsame : wholeTable.same respelledTable = true := by decide
  obtain ⟨hequivalence, _, hkinds, _, _, hdigests⟩ := node_equality_serves_keys
  let n : TypedNode := ⟨wholeTable, hwhole⟩
  let m : TypedNode := ⟨respelledTable, hother⟩
  have hsymm : respelledTable.same wholeTable = true := hequivalence.symm (x := n) (y := m) hsame
  have hdigest := (hdigests .byMeaning).1 n m hsame
  exact ⟨hwhole, hother, hsame, hsymm, hdigest, hkinds _ _ (by decide)⟩

end PandocHtml
