import Mathlib.Data.List.Forall2
import PandocHtml.Markup.Tree
import PandocHtml.Proofs.Html.Reader

/-!
# Trees that say the same

Markup that is printed from a tree has its attributes in the order of their names, and values that
hold words with single spaces between these.  Trees are alike if they differ in nothing else.
-/

namespace PandocHtml

/-! ### Words -/

namespace Text

/-- A word: at least one character, and none of them blank. -/
def IsUnbroken (w : List Char) : Prop := w ≠ [] ∧ ∀ c ∈ w, isBlank c = false

theorem go_unbroken {w : List Char} (h : ∀ c ∈ w, isBlank c = false) (rest word : List Char) :
    words.go (w ++ rest) word = words.go rest (w.reverse ++ word) := by
  induction w generalizing word with
  | nil => rfl
  | cons c w ih =>
    rw [List.forall_mem_cons] at h
    rw [List.cons_append, words.go, h.1, if_neg Bool.false_ne_true, ih h.2, List.reverse_cons,
      List.append_assoc]
    rfl

theorem finish_unbroken {w : List Char} (h : w ≠ []) (later : List (List Char)) :
    words.finish w.reverse later = w :: later := by
  have hne : w.reverse.isEmpty = false := by
    rw [List.isEmpty_eq_false_iff, ne_eq, List.reverse_eq_nil_iff]
    exact h
  rw [words.finish, hne, List.reverse_reverse]
  rfl

theorem words_intercalate {ws : List (List Char)} (h : ∀ w ∈ ws, IsUnbroken w) :
    words ([' '].intercalate ws) = ws := by
  induction ws with
  | nil => rfl
  | cons w rest ih =>
    rw [List.forall_mem_cons] at h
    cases rest with
    | nil =>
      have hgo := go_unbroken h.1.2 [] []
      rw [List.append_nil, List.append_nil] at hgo
      rw [List.intercalate_singleton, words, hgo, words.go, finish_unbroken h.1.1]
    | cons v others =>
      have hspace : isBlank ' ' = true := by decide
      rw [List.intercalate_cons_cons, List.append_assoc, words, go_unbroken h.1.2,
        List.append_nil, List.singleton_append, words.go, if_pos hspace, finish_unbroken h.1.1]
      exact congrArg (w :: ·) (ih h.2)

theorem isUnbroken_of_mem_finish {word : List Char} (hword : ∀ c ∈ word, isBlank c = false)
    {later : List (List Char)} (hlater : ∀ w ∈ later, IsUnbroken w) :
    ∀ w ∈ words.finish word later, IsUnbroken w := by
  rw [words.finish]
  split
  · exact hlater
  · next hne =>
    rw [List.forall_mem_cons]
    refine ⟨⟨?_, fun c hc => hword c (List.mem_reverse.mp hc)⟩, hlater⟩
    rw [ne_eq, List.reverse_eq_nil_iff]
    rintro rfl
    exact hne rfl

theorem isUnbroken_of_mem_go (s : List Char) {word : List Char}
    (hword : ∀ c ∈ word, isBlank c = false) : ∀ w ∈ words.go s word, IsUnbroken w := by
  induction s generalizing word with
  | nil => exact isUnbroken_of_mem_finish hword fun w hw => absurd hw List.not_mem_nil
  | cons c rest ih =>
    rw [words.go]
    split
    · exact isUnbroken_of_mem_finish hword (ih fun _ hc => absurd hc List.not_mem_nil)
    · next hc =>
      refine ih ?_
      rw [List.forall_mem_cons]
      exact ⟨Bool.eq_false_iff.mpr hc, hword⟩

theorem isUnbroken_of_mem_words (s : List Char) : ∀ w ∈ words s, IsUnbroken w :=
  isUnbroken_of_mem_go s fun _ hc => absurd hc List.not_mem_nil

end Text

theorem Markup.words_joinWords (value : String) :
    Text.words (joinWords value).toList = Text.words value.toList := by
  have hspace : " ".toList = [' '] := by decide
  have hchars : (Text.words value.toList).map (String.toList ∘ String.ofList)
      = Text.words value.toList := by
    refine (List.map_congr_left fun w _ => ?_).trans (List.map_id _)
    exact String.toList_ofList
  rw [joinWords, String.toList_intercalate, hspace, List.map_map, hchars,
    Text.words_intercalate (Text.isUnbroken_of_mem_words _)]

/-! ### Attributes -/

namespace Html

/-- The values that stand under a name. -/
def valuesUnder (attrs : List (String × String)) (name : String) : List String :=
  (attrs.filter fun p => p.1 == name).map (·.2)

/-- What a value says: its words, under a name whose values hold words, else all its characters. -/
def valueSaid (tag name value : String) : List (List Char) :=
  if Markup.holdsWords tag name then Text.words value.toList else [value.toList]

/-- The same mapping from names to what their values say, in any order. -/
def SameAttrs (tag : String) (attrs others : List (String × String)) : Prop :=
  ∀ name : String, (valuesUnder attrs name).map (valueSaid tag name)
    = (valuesUnder others name).map (valueSaid tag name)

theorem valueSaid_keepValue (tag name value : String) :
    valueSaid tag name (Markup.keepValue tag name value) = valueSaid tag name value := by
  rw [valueSaid, valueSaid, Markup.keepValue]
  split
  · rw [Markup.words_joinWords]
  · rfl

/-- Sorting by name keeps the values under each name as they are. -/
theorem valuesUnder_mergeSort (attrs : List (String × String)) (name : String) :
    valuesUnder (attrs.mergeSort fun a b => decide (a.1 ≤ b.1)) name = valuesUnder attrs name := by
  have hsorted : (attrs.filter fun p => p.1 == name).Pairwise
      fun a b => decide (a.1 ≤ b.1) = true := by
    refine List.pairwise_of_forall_mem_list fun a ha b hb => ?_
    rw [List.mem_filter, beq_iff_eq] at ha hb
    exact decide_eq_true (ha.2.trans hb.2.symm ▸ String.le_refl a.1)
  have hsub : (attrs.filter fun p => p.1 == name).Sublist
      (attrs.mergeSort fun a b => decide (a.1 ≤ b.1)) := by
    refine List.sublist_mergeSort ?_ ?_ hsorted List.filter_sublist
    · intro a b c hab hbc
      rw [decide_eq_true_eq] at hab hbc ⊢
      exact String.le_trans hab hbc
    · intro a b
      rw [Bool.or_eq_true, decide_eq_true_eq, decide_eq_true_eq]
      exact String.le_total ..
  have hfilter := hsub.filter fun p => p.1 == name
  rw [List.filter_filter] at hfilter
  simp only [Bool.and_self] at hfilter
  have hperm := (List.mergeSort_perm attrs fun a b => decide (a.1 ≤ b.1)).filter
    fun p => p.1 == name
  rw [valuesUnder, valuesUnder, hfilter.eq_of_length hperm.length_eq.symm]

/-- Attributes as a tree prints them: kept as the tree keeps them, in order of their names. -/
def printedPairs (tag : String) (attrs : List (String × String)) : List (String × String) :=
  (attrs.map fun p => (p.1, Markup.keepValue tag p.1 p.2)).mergeSort fun a b => decide (a.1 ≤ b.1)

theorem sameAttrs_printedPairs (tag : String) (attrs : List (String × String)) :
    SameAttrs tag attrs (printedPairs tag attrs) := by
  intro name
  rw [printedPairs, valuesUnder_mergeSort, valuesUnder, valuesUnder, List.filter_map, List.map_map,
    List.map_map, List.map_map]
  apply List.map_congr_left
  intro p hp
  have hname : p.1 = name := beq_iff_eq.mp (List.mem_filter.mp hp).2
  simp only [Function.comp_apply, hname, valueSaid_keepValue]

/-! ### Trees -/

/-- Trees that differ at most in the order of attributes and in the white space between words. -/
inductive Tree.Alike : Tree → Tree → Prop where
  | text (content : String) : Alike (.text content) (.text content)
  | element {tag : String} {attrs others : List (String × String)} {children more : List Tree}
      (hattrs : SameAttrs tag attrs others) (hchildren : List.Forall₂ Alike children more) :
      Alike (.element tag attrs children) (.element tag others more)

theorem forall₂_addText {done others : List Tree} (h : List.Forall₂ Tree.Alike done others)
    (s : String) : List.Forall₂ Tree.Alike (addText done s) (addText others s) := by
  by_cases hs : s = ""
  · rw [hs, addText_empty, addText_empty]
    exact h
  · cases h with
    | nil =>
      simp only [addText, hs, if_false]
      exact .cons (.text s) .nil
    | cons hfirst hrest =>
      cases hfirst with
      | text content =>
        simp only [addText, hs, if_false]
        exact .cons (.text _) hrest
      | element hattrs hchildren =>
        simp only [addText, hs, if_false]
        exact .cons (.text s) (.cons (.element hattrs hchildren) hrest)

end Html

end PandocHtml
