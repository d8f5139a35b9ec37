import PandocHtml.Pandoc.Load
import PandocHtml.Proofs.Document.Typed
import PandocHtml.Proofs.Pandoc.WellTyped

/-!
# Stray documents

Faults of elements are faults of parsing, as long as their tags have a text on the host.  Around the
elements, the version, the metadata and the sequence of blocks are used without looking at what they
are first: some values have no parts, no fields or no items, and some flattened texts are none.  A
document where this happens is stray, and reading it ends in a misuse.  It is stray in another way
where a whole number is too long for the host: in the text it comes from, in its version, or in a
tag that a fault would have to show.  Every other document is read or refused with a fault of
parsing.
-/

namespace PandocHtml

namespace Pandoc

/-! ### Ends of a reading -/

/-- The ways in which something can be stray: used as what it is not, or with a whole number that
the host refuses. -/
inductive Way where
  | misused
  | overlong

section FirstStray

variable {α β : Type}

/-- The first item that cannot be read is stray. -/
def FirstStray (read : α → Except Fault β) (stray : α → Way → Prop) (items : List α) (way : Way) :
    Prop :=
  ∃ before item after, items = before ++ item :: after ∧ (∀ a ∈ before, ∃ b, read a = .ok b)
    ∧ stray item way

theorem not_firstStray_nil {read : α → Except Fault β} {stray : α → Way → Prop} {way : Way} :
    ¬ FirstStray read stray [] way := by
  rintro ⟨before, item, after, heq, _⟩
  cases before <;> cases heq

theorem firstStray_cons {read : α → Except Fault β} {stray : α → Way → Prop} {a : α}
    {rest : List α} {way : Way} :
    FirstStray read stray (a :: rest) way
      ↔ stray a way ∨ (∃ b, read a = .ok b) ∧ FirstStray read stray rest way := by
  constructor
  · rintro ⟨before, item, after, heq, hbefore, hitem⟩
    cases before with
    | nil =>
      obtain ⟨rfl, rfl⟩ := List.cons.inj heq
      exact .inl hitem
    | cons b before =>
      obtain ⟨rfl, rfl⟩ := List.cons.inj heq
      rw [List.forall_mem_cons] at hbefore
      exact .inr ⟨hbefore.1, before, item, after, rfl, hbefore.2, hitem⟩
  · rintro (ha | ⟨hread, before, item, after, rfl, hbefore, hitem⟩)
    · exact ⟨[], a, rest, rfl, fun _ h => absurd h List.not_mem_nil, ha⟩
    · exact ⟨a :: before, item, after, rfl, List.forall_mem_cons.mpr ⟨hread, hbefore⟩, hitem⟩

end FirstStray

section Ends

variable [Host]

/-- The faults of what is stray in this way. -/
def Way.Fits (way : Way) (f : Fault) : Prop :=
  match way with
  | .misused => ∃ how, f = .misuse how
  | .overlong => ∃ count, f = .overlong Host.digits count

/-- A reading ends in a fault other than one of parsing exactly if its input is stray, in one way,
and then the fault is of that way. -/
def StraysIff {α : Type} (x : Except Fault α) (stray : Way → Prop) : Prop :=
  match x with
  | .ok _ => ∀ way, ¬ stray way
  | .error f => f.kind = .parsing ∧ (∀ way, ¬ stray way)
    ∨ ∃ way, way.Fits f ∧ ∀ other, stray other ↔ other = way

variable {α β : Type} {x : Except Fault α} {S : Way → Prop}

theorem StraysIff.congr {S' : Way → Prop} (h : StraysIff x S) (hiff : ∀ way, S way ↔ S' way) :
    StraysIff x S' := by
  obtain rfl : S = S' := funext fun way => propext (hiff way)
  exact h

theorem straysIff_ok (a : α) : StraysIff (.ok a : Except Fault α) fun _ => False :=
  fun _ => not_false

theorem straysIff_pure (a : α) : StraysIff (pure a : Except Fault α) fun _ => False :=
  straysIff_ok a

theorem straysIff_misuse (how : Misuse) :
    StraysIff (.error (.misuse how) : Except Fault α) (· = .misused) :=
  .inr ⟨.misused, ⟨how, rfl⟩, fun _ => Iff.rfl⟩

theorem straysIff_overlong (count : Option Nat) :
    StraysIff (.error (.overlong Host.digits count) : Except Fault α) (· = .overlong) :=
  .inr ⟨.overlong, ⟨count, rfl⟩, fun _ => Iff.rfl⟩

theorem straysIff_parsing {f : Fault} (h : f.kind = .parsing) :
    StraysIff (.error f : Except Fault α) fun _ => False :=
  .inl ⟨h, fun _ => not_false⟩

theorem StraysIff.bind {f : α → Except Fault β} {T : α → Way → Prop} (hx : StraysIff x S)
    (hf : ∀ a, x = .ok a → StraysIff (f a) (T a)) :
    StraysIff (x >>= f) fun way => S way ∨ ∃ a, x = .ok a ∧ T a way := by
  cases x with
  | ok a =>
    refine (hf a rfl).congr fun way => ⟨fun ht => .inr ⟨a, rfl, ht⟩, ?_⟩
    rintro (hs | ⟨_, ha, ht⟩)
    · exact absurd hs (hx way)
    · exact Except.ok.inj ha ▸ ht
  | error e =>
    refine StraysIff.congr (x := .error e) hx fun way => ⟨.inl, ?_⟩
    rintro (hs | ⟨_, ha, _⟩)
    · exact hs
    · cases ha

/-- What comes after a reading does not stray, if it only makes a value of what was read. -/
theorem StraysIff.bind_pure {f : α → β} (hx : StraysIff x S) :
    StraysIff (x >>= fun a => pure (f a)) S :=
  (hx.bind fun a _ => straysIff_pure (f a)).congr
    fun _ => ⟨fun h => h.elim id fun ⟨_, _, hfalse⟩ => hfalse.elim, .inl⟩

/-- A fault of parsing strays where its message would have to show a number that is too long. -/
theorem straysIff_showing (v : Json) {f : Fault} (h : f.kind = .parsing) :
    StraysIff (.error (Fault.showing v f) : Except Fault α) fun way =>
      way = .overlong ∧ v.isWritable Host.digits = false := by
  unfold Fault.showing
  cases hv : v.isWritable Host.digits with
  | true =>
    refine (straysIff_parsing h).congr fun way => iff_of_false not_false fun hway => ?_
    cases hway.2
  | false => exact (straysIff_overlong none).congr fun way => (and_iff_left rfl).symm

/-- A sequence is read item by item, and the first item that cannot be read decides. -/
theorem straysIff_mapM {read : α → Except Fault β} {stray : α → Way → Prop} {items : List α}
    (h : ∀ a ∈ items, StraysIff (read a) (stray a)) :
    StraysIff (items.mapM read) (FirstStray read stray items) := by
  induction items with
  | nil => exact (straysIff_pure []).congr fun _ => iff_of_false not_false not_firstStray_nil
  | cons a rest ih =>
    rw [List.forall_mem_cons] at h
    rw [List.mapM_cons]
    have hrest := fun b (_ : read a = .ok b) => (ih h.2).bind_pure (f := fun bs => b :: bs)
    refine (h.1.bind hrest).congr fun way => ?_
    rw [firstStray_cons, exists_and_right]

end Ends

/-! ### Plain text -/

mutual

/-- The texts that a plain text is made of are texts. -/
def hasTextLeaves : Inline → Bool
  | .str text | .code _ text | .math _ text => text.isText
  | .space | .softBreak | .lineBreak | .note _ | .raw .. => true
  | .styled _ content | .quoted _ content | .cite _ content | .link _ content _
  | .image _ content _ | .span _ content => haveTextLeaves content

def haveTextLeaves : List Inline → Bool
  | [] => true
  | i :: rest => hasTextLeaves i && haveTextLeaves rest

end

theorem joinTexts_of_not_all {values : List Json} (h : values.all Json.isText = false) :
    joinTexts values = .error (.misuse .joined) := by
  have hnone : Attr.texts? values = none := by
    induction values with
    | nil => cases h
    | cons v rest ih =>
      cases v with
      | str s =>
        rw [List.all_cons, Json.isText, Bool.true_and] at h
        rw [Attr.texts?, ih h]
        rfl
      | _ => rfl
  rw [joinTexts, hnone]

/-- The value of an inline in a plain text is a text, or it cannot be joined. -/
def JoinsIff (x : Except Fault Json) (isText : Bool) : Prop :=
  match x with
  | .ok v => v.isText = isText
  | .error f => f = .misuse .joined ∧ isText = false

def AllJoinIff (x : Except Fault (List Json)) (areTexts : Bool) : Prop :=
  match x with
  | .ok vs => vs.all Json.isText = areTexts
  | .error f => f = .misuse .joined ∧ areTexts = false

theorem plainText_of_allJoinIff {content : List Inline} {areTexts : Bool}
    (h : AllJoinIff (inlineValues content) areTexts) :
    (areTexts = true ∧ ∃ s, plainText content = .ok s)
      ∨ areTexts = false ∧ plainText content = .error (.misuse .joined) := by
  rw [plainText]
  cases hx : inlineValues content with
  | error f =>
    rw [hx] at h
    exact .inr ⟨h.2, congrArg _ h.1⟩
  | ok vs =>
    rw [hx] at h
    cases areTexts with
    | true =>
      obtain ⟨texts, rfl⟩ := exists_map_str h
      exact .inl ⟨rfl, _, joinTexts_map_str texts⟩
    | false => exact .inr ⟨rfl, joinTexts_of_not_all h⟩

theorem joinsIff_joined {content : List Inline} {areTexts : Bool} (make : String → String)
    (h : AllJoinIff (inlineValues content) areTexts) :
    JoinsIff
      (match inlineValues content with
        | .ok values => (joinTexts values).map fun text => .str (make text)
        | .error f => .error f)
      areTexts := by
  have hmap : (match inlineValues content with
      | .ok values => (joinTexts values).map fun text => Json.str (make text)
      | .error f => .error f) = (plainText content).map fun text => .str (make text) := by
    rw [plainText]
    cases inlineValues content <;> rfl
  rw [hmap]
  rcases plainText_of_allJoinIff h with ⟨htrue, s, hs⟩ | ⟨hfalse, hs⟩
  · rw [hs]
    exact htrue.symm
  · rw [hs]
    exact ⟨rfl, hfalse⟩

mutual

theorem joinsIff_plainValue : ∀ i : Inline, JoinsIff i.plainValue (hasTextLeaves i)
  | .str _ | .code .. | .math .. => rfl
  | .space | .softBreak | .lineBreak | .note _ | .raw .. => rfl
  | .quoted kind content =>
    joinsIff_joined (fun text => kind.opening ++ text ++ kind.closing) (allJoinIff_values content)
  | .styled _ content | .cite _ content | .link _ content _ | .image _ content _
  | .span _ content => joinsIff_joined id (allJoinIff_values content)

theorem allJoinIff_values : ∀ content : List Inline,
    AllJoinIff (inlineValues content) (haveTextLeaves content)
  | [] => rfl
  | i :: rest => by
    have hi := joinsIff_plainValue i
    have hrest := allJoinIff_values rest
    rw [inlineValues, haveTextLeaves]
    cases hv : i.plainValue with
    | error f =>
      rw [hv] at hi
      exact ⟨hi.1, by rw [hi.2, Bool.false_and]⟩
    | ok v =>
      rw [hv] at hi
      cases hvs : inlineValues rest with
      | error f =>
        rw [hvs] at hrest
        exact ⟨hrest.1, by rw [hrest.2, Bool.and_false]⟩
      | ok vs =>
        rw [hvs] at hrest
        show (v :: vs).all Json.isText = _
        rw [List.all_cons, show v.isText = _ from hi, show vs.all Json.isText = _ from hrest]

end

/-- A plain text exists exactly if it is made of texts. -/
theorem plainText_cases (content : List Inline) :
    (haveTextLeaves content = true ∧ ∃ s, plainText content = .ok s)
      ∨ haveTextLeaves content = false ∧ plainText content = .error (.misuse .joined) :=
  plainText_of_allJoinIff (allJoinIff_values content)

/-! ### Metadata inside metadata -/

theorem itemsOf_eq {v : Json} {vs : List Json} (h : itemsOrMisuse v = .ok vs) :
    itemsOf v = vs := by
  unfold itemsOrMisuse at h
  split at h
  · next hv => rw [itemsOf, hv, Except.ok.inj h, Option.getD_some]
  · cases h

/-- The encodings of metadata directly inside a value of metadata. -/
def metadataIn (v : Json) : List Json :=
  match fieldOr v "t" .null, fieldOr v "c" .null with
  | .str "MetaMap", .obj entries => entries.map (·.2)
  | .str "MetaList", contents => itemsOf contents
  | _, _ => []

theorem metadataIn_map {v : Json} {entries : List (String × Json)}
    (htag : fieldOr v "t" .null = .str "MetaMap") (hc : fieldOr v "c" .null = .obj entries) :
    metadataIn v = entries.map (·.2) := by
  simp only [metadataIn, htag, hc]

theorem metadataIn_list {v : Json} (htag : fieldOr v "t" .null = .str "MetaList") :
    metadataIn v = itemsOf (fieldOr v "c" .null) := by
  simp only [metadataIn, htag]

theorem size_lt_of_mem_metadataIn {v w : Json} (h : w ∈ metadataIn v) : w.size < v.size := by
  unfold metadataIn at h
  split at h
  · next entries htag hc =>
    obtain ⟨e, he, rfl⟩ := List.mem_map.mp h
    have hlt := size_contents_lt htag
    have hle := Json.size_le_sizeFields (k := e.1) (v := e.2) he
    rw [show (v.field? "c").getD .null = .obj entries from hc, Json.size] at hlt
    omega
  · next htag => exact Nat.lt_of_le_of_lt (hasPart_of_mem_itemsOf h).size_le (size_contents_lt htag)
  · cases h

theorem metadataIn_map_of_lacks {v : Json} (htag : fieldOr v "t" .null = .str "MetaMap")
    (hc : ∀ entries, fieldOr v "c" .null ≠ .obj entries) : metadataIn v = [] := by
  unfold metadataIn
  split
  · next entries _ heq => exact absurd heq (hc entries)
  · next heq => exact absurd (Json.str.inj (htag.symm.trans heq)) (by decide)
  · rfl

theorem metadataIn_of_tag {v : Json} {tag : String} (htag : fieldOr v "t" .null = .str tag)
    (hmap : tag ≠ "MetaMap") (hlist : tag ≠ "MetaList") : metadataIn v = [] := by
  unfold metadataIn
  split
  · next heq _ => exact absurd (Json.str.inj (htag.symm.trans heq)) hmap
  · next heq => exact absurd (Json.str.inj (htag.symm.trans heq)) hlist
  · rfl

/-- The contents are not of the kind that the tag of a value of metadata needs: fields for a map,
items for a list and for inlines and blocks. -/
def lacksContents (tag : String) (contents : Json) : Prop :=
  match tag with
  | "MetaMap" => ∀ entries, contents ≠ .obj entries
  | "MetaList" | "MetaInlines" | "MetaBlocks" => items? contents = none
  | _ => False

theorem mapM_congr {ε α β : Type} {f g : α → Except ε β} {xs : List α}
    (h : ∀ x ∈ xs, f x = g x) : xs.mapM f = xs.mapM g := by
  induction xs with
  | nil => rfl
  | cons x rest ih =>
    rw [List.forall_mem_cons] at h
    rw [List.mapM_cons, List.mapM_cons, h.1, ih h.2]

/-! ### Flattened texts -/

variable [Host]

theorem straysIff_plainText (content : List Inline) :
    StraysIff (plainText content) fun way => way = .misused ∧ haveTextLeaves content = false := by
  rcases plainText_cases content with ⟨htrue, s, hs⟩ | ⟨hfalse, hs⟩
  · rw [hs, htrue]
    exact (straysIff_ok s).congr fun _ => iff_of_false not_false fun h => nomatch h.2
  · rw [hs]
    exact (straysIff_misuse .joined).congr fun _ => (and_iff_left hfalse).symm

theorem straysIff_paragraphsText (blocks : List Block) :
    StraysIff (paragraphsText blocks) fun way => way = .misused
      ∧ ∃ content ∈ blocks.filterMap paragraph?, haveTextLeaves content = false := by
  refine (straysIff_mapM fun content _ => straysIff_plainText content).bind_pure.congr fun way => ?_
  -- a paragraph without text strays, so all before the first such paragraph are read
  generalize blocks.filterMap paragraph? = paragraphs
  induction paragraphs with
  | nil =>
    refine iff_of_false not_firstStray_nil ?_
    rintro ⟨_, content, hmem, _⟩
    cases hmem
  | cons content rest ih =>
    rw [firstStray_cons, ih, List.exists_mem_cons_iff]
    rcases plainText_cases content with ⟨htrue, hs⟩ | ⟨hfalse, hs⟩
    · simp only [htrue, hs, reduceCtorEq, and_false, false_or, true_and]
    · simp only [hfalse, and_true, true_or, hs, reduceCtorEq, exists_false, false_and, or_false]

/-! ### Elements -/

/-- The tag of an element has no text on the host. -/
def strayTag (v : Json) (way : Way) : Prop := way = .overlong ∧ HasLongTag v

theorem straysIff_node (kind : RawKind) (v : Json) :
    StraysIff (Node.ofJson kind v) (strayTag v) := by
  cases h : Node.ofJson kind v with
  | ok n =>
    refine (straysIff_ok n).congr fun way => iff_of_false not_false fun hway => ?_
    cases h.symm.trans (ofJson_eq_overlong_iff.mpr hway.2)
  | error f =>
    rcases blames_or_overlong h with hblames | ⟨rfl, hlong⟩
    · refine (straysIff_parsing hblames.kind_eq).congr fun way => iff_of_false not_false ?_
      intro hway
      have hf := Except.error.inj (h.symm.trans (ofJson_eq_overlong_iff.mpr hway.2))
      cases (congrArg Fault.kind hf).symm.trans hblames.kind_eq
    · exact (straysIff_overlong none).congr fun way => (and_iff_left hlong).symm

theorem straysIff_of_map {α β : Type} {x : Except Fault α} {F : α → β} {S : Way → Prop}
    (h : StraysIff (x.map F) S) : StraysIff x S := by
  cases x <;> exact h

theorem straysIff_block (v : Json) : StraysIff (Block.ofJson v) (strayTag v) :=
  straysIff_of_map (straysIff_node .block v)

theorem straysIff_inline (v : Json) : StraysIff (Inline.ofJson v) (strayTag v) :=
  straysIff_of_map (straysIff_node .inline v)

theorem straysIff_items (v : Json) :
    StraysIff (itemsOrMisuse v) fun way => way = .misused ∧ items? v = none := by
  unfold itemsOrMisuse
  cases h : items? v with
  | none => exact (straysIff_misuse .iterated).congr fun way => (and_iff_left rfl).symm
  | some vs => exact (straysIff_ok vs).congr (by simp only [reduceCtorEq, and_false, implies_true])

theorem StraysIff.items_bind {α : Type} {v : Json} {f : List Json → Except Fault α}
    {T : Way → Prop} (h : StraysIff (f (itemsOf v)) T)
    (hnone : itemsOf v = [] → ∀ way, ¬ T way) :
    StraysIff (itemsOrMisuse v >>= f) fun way => way = .misused ∧ items? v = none ∨ T way := by
  have hf : ∀ vs, itemsOrMisuse v = .ok vs → StraysIff (f vs) T :=
    fun vs hvs => itemsOf_eq hvs ▸ h
  refine ((straysIff_items v).bind hf).congr fun way => ?_
  cases hv : items? v with
  | none =>
    have hread : itemsOrMisuse v = .error (.misuse .iterated) := by
      rw [itemsOrMisuse, hv]
    have hempty : itemsOf v = [] := by
      rw [itemsOf, hv]
      rfl
    simp only [hread, reduceCtorEq, false_and, exists_false, hnone hempty way]
  | some vs =>
    have hread : itemsOrMisuse v = .ok vs := by
      rw [itemsOrMisuse, hv]
    simp only [reduceCtorEq, and_false, false_or, hread, Except.ok.injEq, exists_eq_left']

/-! ### Metadata -/

/-- A value of metadata by its tag, with a reader of the values inside it. -/
def metadataRule (read : Json → Except Fault Json) (tag contents : Json) : Except Fault Json :=
  match tag with
  | .str "MetaMap" =>
    match contents with
    | .obj entries => do return .obj (← entries.mapM fun e => return (e.1, ← read e.2))
    | _ => .error (.misuse .fields)
  | .str "MetaList" => do return .arr (← (← itemsOrMisuse contents).mapM read)
  | .str "MetaBool" | .str "MetaString" => .ok contents
  | .str "MetaInlines" => do
    let content ← (← itemsOrMisuse contents).mapM Inline.ofJson
    return .str (← plainText content)
  | .str "MetaBlocks" => do
    let blocks ← (← itemsOrMisuse contents).mapM Block.ofJson
    return .str (← paragraphsText blocks)
  | tag => .error (unknownMeta tag)

theorem metadataWithin_succ (n : Nat) (fields : List (String × Json)) :
    metadataWithin (n + 1) (.obj fields) = metadataRule (metadataWithin n)
      (fieldOr (.obj fields) "t" .null) (fieldOr (.obj fields) "c" .null) := rfl

theorem metadataRule_congr {f g : Json → Except Fault Json} {v : Json}
    (h : ∀ w ∈ metadataIn v, f w = g w) :
    metadataRule f (fieldOr v "t" .null) (fieldOr v "c" .null)
      = metadataRule g (fieldOr v "t" .null) (fieldOr v "c" .null) := by
  unfold metadataRule
  split
  · next htag =>
    split
    · next entries hc =>
      rw [metadataIn_map htag hc, List.forall_mem_map] at h
      rw [mapM_congr fun e he => by rw [h e he]]
    · rfl
  · next htag =>
    refine bind_congr_of_ok fun vs hvs => ?_
    rw [metadataIn_list htag, itemsOf_eq hvs] at h
    rw [mapM_congr h]
  all_goals rfl

theorem metadataWithin_congr {v : Json} {m n : Nat} (hm : v.size ≤ m) (hn : v.size ≤ n) :
    metadataWithin m v = metadataWithin n v := by
  -- every map and list uses up a level, and what it holds is smaller
  induction m generalizing v n with
  | zero => exact absurd v.size_pos (by omega)
  | succ m ih =>
    obtain ⟨n, rfl⟩ := Nat.exists_eq_add_one.mpr (Nat.lt_of_lt_of_le v.size_pos hn)
    cases v with
    | obj fields =>
      rw [metadataWithin_succ, metadataWithin_succ]
      refine metadataRule_congr fun w hw => ?_
      have hlt := size_lt_of_mem_metadataIn hw
      exact ih (by omega) (by omega)
    | _ => rfl

/-- An object is read by the rule for its tag, with the reader of metadata itself. -/
theorem metadataOfJson_obj (fields : List (String × Json)) :
    metadataOfJson (.obj fields) = metadataRule metadataOfJson
      (fieldOr (.obj fields) "t" .null) (fieldOr (.obj fields) "c" .null) := by
  rw [metadataOfJson, Json.size, metadataWithin_succ]
  refine metadataRule_congr fun w hw => ?_
  have hlt := size_lt_of_mem_metadataIn hw
  rw [Json.size] at hlt
  exact metadataWithin_congr (Nat.le_of_lt_succ hlt) (Nat.le_refl _)

/-- A value of metadata that is not looked at before it is used: it is no object, its contents are
of the wrong kind, its inlines or paragraphs have no plain text.  Or its tag has no text, or that of
the first element in it that cannot be read.  Or the first value inside it that cannot be read is
such a value. -/
inductive StrayMetadata : Json → Way → Prop where
  | value {v : Json} (h : ∀ fields, v ≠ .obj fields) : StrayMetadata v .misused
  | tag {v : Json} (h : HasLongTag v) : StrayMetadata v .overlong
  | contents {v : Json} {tag : String} (htag : fieldOr v "t" .null = .str tag)
      (h : lacksContents tag (fieldOr v "c" .null)) : StrayMetadata v .misused
  | inlineTag {v : Json} {way : Way} (htag : fieldOr v "t" .null = .str "MetaInlines")
      (h : FirstStray Inline.ofJson strayTag (itemsOf (fieldOr v "c" .null)) way) :
      StrayMetadata v way
  | inlines {v : Json} {content : List Inline} (htag : fieldOr v "t" .null = .str "MetaInlines")
      (hread : (itemsOf (fieldOr v "c" .null)).mapM Inline.ofJson = .ok content)
      (h : haveTextLeaves content = false) : StrayMetadata v .misused
  | blockTag {v : Json} {way : Way} (htag : fieldOr v "t" .null = .str "MetaBlocks")
      (h : FirstStray Block.ofJson strayTag (itemsOf (fieldOr v "c" .null)) way) :
      StrayMetadata v way
  | blocks {v : Json} {blocks : List Block} {content : List Inline}
      (htag : fieldOr v "t" .null = .str "MetaBlocks")
      (hread : (itemsOf (fieldOr v "c" .null)).mapM Block.ofJson = .ok blocks)
      (hcontent : content ∈ blocks.filterMap paragraph?) (h : haveTextLeaves content = false) :
      StrayMetadata v .misused
  | inside {v w : Json} {way : Way} {before after : List Json}
      (heq : metadataIn v = before ++ w :: after)
      (hbefore : ∀ u ∈ before, ∃ m, metadataOfJson u = .ok m) (hw : StrayMetadata w way) :
      StrayMetadata v way

/-- The ways in which an object with a tag is stray. -/
theorem strayMetadata_iff {v : Json} {tag : String} {way : Way} (hv : ∃ fields, v = .obj fields)
    (htag : fieldOr v "t" .null = .str tag) :
    StrayMetadata v way ↔ way = .misused ∧ lacksContents tag (fieldOr v "c" .null)
      ∨ (tag = "MetaInlines"
          ∧ (FirstStray Inline.ofJson strayTag (itemsOf (fieldOr v "c" .null)) way
            ∨ ∃ content, (itemsOf (fieldOr v "c" .null)).mapM Inline.ofJson = .ok content
              ∧ way = .misused ∧ haveTextLeaves content = false))
      ∨ (tag = "MetaBlocks"
          ∧ (FirstStray Block.ofJson strayTag (itemsOf (fieldOr v "c" .null)) way
            ∨ ∃ blocks, (itemsOf (fieldOr v "c" .null)).mapM Block.ofJson = .ok blocks
              ∧ way = .misused
              ∧ ∃ content ∈ blocks.filterMap paragraph?, haveTextLeaves content = false))
      ∨ FirstStray metadataOfJson StrayMetadata (metadataIn v) way := by
  constructor
  · intro h
    cases h with
    | value h =>
      obtain ⟨fields, rfl⟩ := hv
      exact absurd rfl (h fields)
    | tag h => exact absurd htag (h.tag_ne tag)
    | contents htag' h =>
      obtain rfl : tag = _ := Json.str.inj (htag.symm.trans htag')
      exact .inl ⟨rfl, h⟩
    | inlineTag htag' h => exact .inr (.inl ⟨Json.str.inj (htag.symm.trans htag'), .inl h⟩)
    | inlines htag' hread h =>
      exact .inr (.inl ⟨Json.str.inj (htag.symm.trans htag'), .inr ⟨_, hread, rfl, h⟩⟩)
    | blockTag htag' h => exact .inr (.inr (.inl ⟨Json.str.inj (htag.symm.trans htag'), .inl h⟩))
    | blocks htag' hread hcontent h =>
      refine .inr (.inr (.inl ⟨Json.str.inj (htag.symm.trans htag'), .inr ?_⟩))
      exact ⟨_, hread, rfl, _, hcontent, h⟩
    | inside heq hbefore hw => exact .inr (.inr (.inr ⟨_, _, _, heq, hbefore, hw⟩))
  · rintro (⟨rfl, h⟩ | ⟨rfl, h | ⟨content, hread, rfl, h⟩⟩
      | ⟨rfl, h | ⟨blocks, hread, rfl, content, hcontent, h⟩⟩ | h)
    · exact .contents htag h
    · exact .inlineTag htag h
    · exact .inlines htag hread h
    · exact .blockTag htag h
    · exact .blocks htag hread hcontent h
    · obtain ⟨_, _, _, heq, hbefore, hw⟩ := h
      exact .inside heq hbefore hw

/-- The entries of a map are read like the values in them. -/
theorem straysIff_entries {read : Json → Except Fault Json} {stray : Json → Way → Prop}
    {entries : List (String × Json)} (h : ∀ w ∈ entries.map (·.2), StraysIff (read w) (stray w)) :
    StraysIff (entries.mapM fun e => do return (e.1, ← read e.2))
      (FirstStray read stray (entries.map (·.2))) := by
  rw [List.forall_mem_map] at h
  refine (straysIff_mapM fun e he => (h e he).bind_pure (f := fun m => (e.1, m))).congr
    fun way => ?_
  clear h
  induction entries with
  | nil => exact iff_of_false not_firstStray_nil not_firstStray_nil
  | cons e rest ih =>
    have hread : (∃ p : String × Json, (do return (e.1, ← read e.2)) = Except.ok p)
        ↔ ∃ m, read e.2 = .ok m := by
      cases read e.2 with
      | ok m => exact iff_of_true ⟨(e.1, m), rfl⟩ ⟨m, rfl⟩
      | error f => exact iff_of_false (fun ⟨_, hp⟩ => nomatch hp) fun ⟨_, hm⟩ => nomatch hm
    rw [firstStray_cons, List.map_cons, firstStray_cons, ih, hread]

theorem strayMetadata_iff_of_no_object {v : Json} {way : Way} (hv : ∀ fields, v ≠ .obj fields) :
    StrayMetadata v way ↔ way = .misused := by
  have hnull : fieldOr v "t" .null = .null := by
    cases v with
    | obj fields => exact absurd rfl (hv fields)
    | _ => rfl
  constructor
  · intro h
    cases h with
    | value | contents | inlines | blocks => rfl
    | tag h =>
      rw [HasLongTag, hnull] at h
      cases h
    | inlineTag htag | blockTag htag => cases hnull.symm.trans htag
    | inside heq =>
      unfold metadataIn at heq
      rw [hnull] at heq
      exact absurd heq.symm (List.append_ne_nil_of_right_ne_nil _ (List.cons_ne_nil _ _))
  · rintro rfl
    exact .value hv

/-- An object that holds no metadata, inlines or blocks can only stray by its tag. -/
theorem strayMetadata_iff_of_other {v : Json} {way : Way} (hv : ∃ fields, v = .obj fields)
    (hmap : fieldOr v "t" .null ≠ .str "MetaMap") (hlist : fieldOr v "t" .null ≠ .str "MetaList")
    (hinlines : fieldOr v "t" .null ≠ .str "MetaInlines")
    (hblocks : fieldOr v "t" .null ≠ .str "MetaBlocks") :
    StrayMetadata v way ↔ strayTag v way := by
  constructor
  · intro h
    cases h with
    | value h =>
      obtain ⟨fields, rfl⟩ := hv
      exact absurd rfl (h fields)
    | tag h => exact ⟨rfl, h⟩
    | contents htag h =>
      unfold lacksContents at h
      split at h
      · exact absurd htag hmap
      · exact absurd htag hlist
      · exact absurd htag hinlines
      · exact absurd htag hblocks
      · exact h.elim
    | inlineTag htag | inlines htag => exact absurd htag hinlines
    | blockTag htag | blocks htag => exact absurd htag hblocks
    | inside heq =>
      unfold metadataIn at heq
      split at heq
      · next htag _ => exact absurd htag hmap
      · next htag => exact absurd htag hlist
      · exact absurd heq.symm (List.append_ne_nil_of_right_ne_nil _ (List.cons_ne_nil _ _))
  · rintro ⟨rfl, h⟩
    exact .tag h

theorem not_strayMetadata_of_plain {v : Json} {way : Way} {tag : String}
    (hv : ∃ fields, v = .obj fields) (htag : fieldOr v "t" .null = .str tag)
    (hplain : tag = "MetaBool" ∨ tag = "MetaString") : ¬ StrayMetadata v way := by
  intro h
  have hne : ∀ other, tag ≠ other → fieldOr v "t" .null ≠ .str other :=
    fun other hother heq => hother (Json.str.inj (htag.symm.trans heq))
  have hother : StrayMetadata v way ↔ strayTag v way := by
    refine strayMetadata_iff_of_other hv (hne "MetaMap" ?_) (hne "MetaList" ?_)
      (hne "MetaInlines" ?_) (hne "MetaBlocks" ?_)
    all_goals rcases hplain with rfl | rfl <;> decide
  exact (hother.mp h).2.tag_ne tag htag

theorem straysIff_metadataRule {v : Json} (hv : ∃ fields, v = .obj fields)
    (h : ∀ w ∈ metadataIn v, StraysIff (metadataOfJson w) (StrayMetadata w)) :
    StraysIff (metadataRule metadataOfJson (fieldOr v "t" .null) (fieldOr v "c" .null))
      (StrayMetadata v) := by
  unfold metadataRule
  split
  · next htag =>
    refine StraysIff.congr ?_ fun way => (strayMetadata_iff hv htag).symm
    split
    · next entries hc =>
      rw [metadataIn_map htag hc] at h ⊢
      refine (straysIff_entries h).bind_pure.congr fun way => ?_
      simp [lacksContents, hc]
    · next hc =>
      have hlacks : lacksContents "MetaMap" (fieldOr v "c" .null) := hc
      have hnone : metadataIn v = [] := metadataIn_map_of_lacks htag hc
      refine (straysIff_misuse .fields).congr fun way => ?_
      simp [hlacks, hnone, not_firstStray_nil]
  · next htag =>
    refine StraysIff.congr ?_ fun way => (strayMetadata_iff hv htag).symm
    rw [metadataIn_list htag] at h ⊢
    refine ((straysIff_mapM h).bind_pure.items_bind ?_).congr fun way => ?_
    · intro hempty way
      rw [hempty]
      exact not_firstStray_nil
    · simp [lacksContents]
  · next htag =>
    refine (straysIff_ok _).congr fun way => iff_of_false not_false ?_
    exact not_strayMetadata_of_plain hv htag (.inl rfl)
  · next htag =>
    refine (straysIff_ok _).congr fun way => iff_of_false not_false ?_
    exact not_strayMetadata_of_plain hv htag (.inr rfl)
  · next htag =>
    have hbind := (straysIff_mapM fun w _ => straysIff_inline w).bind fun content
      (_ : (itemsOf (fieldOr v "c" .null)).mapM Inline.ofJson = .ok content) =>
      (straysIff_plainText content).bind_pure (f := Json.str)
    refine (hbind.items_bind ?_).congr fun way => ?_
    · rintro hempty way (hstray | ⟨content, hread, _, hleaves⟩)
      · exact not_firstStray_nil (hempty ▸ hstray)
      · rw [hempty] at hread
        cases hread
        cases hleaves
    · rw [strayMetadata_iff hv htag, metadataIn_of_tag htag (by decide) (by decide)]
      simp [lacksContents, not_firstStray_nil]
  · next htag =>
    have hbind := (straysIff_mapM fun w _ => straysIff_block w).bind fun blocks
      (_ : (itemsOf (fieldOr v "c" .null)).mapM Block.ofJson = .ok blocks) =>
      (straysIff_paragraphsText blocks).bind_pure (f := Json.str)
    refine (hbind.items_bind ?_).congr fun way => ?_
    · rintro hempty way (hstray | ⟨blocks, hread, _, content, hmem, _⟩)
      · exact not_firstStray_nil (hempty ▸ hstray)
      · rw [hempty] at hread
        cases hread
        cases hmem
    · rw [strayMetadata_iff hv htag, metadataIn_of_tag htag (by decide) (by decide)]
      simp [lacksContents, not_firstStray_nil]
  · next hmap hlist hbool hstring hinlines hblocks =>
    refine (straysIff_showing _ rfl).congr fun way => ?_
    exact (strayMetadata_iff_of_other hv hmap hlist hinlines hblocks).symm

theorem straysIff_metadata (v : Json) : StraysIff (metadataOfJson v) (StrayMetadata v) := by
  induction hsize : v.size using Nat.strongRecOn generalizing v with
  | ind size ih =>
    have hinside : ∀ w ∈ metadataIn v, StraysIff (metadataOfJson w) (StrayMetadata w) :=
      fun w hw => ih w.size (hsize ▸ size_lt_of_mem_metadataIn hw) w rfl
    cases v with
    | obj fields =>
      rw [metadataOfJson_obj]
      exact straysIff_metadataRule ⟨fields, rfl⟩ hinside
    | _ =>
      refine (straysIff_misuse .fields).congr fun way => (strayMetadata_iff_of_no_object ?_).symm
      intro fields h
      cases h

/-! ### Documents -/

/-- A version is absent, or a value with parts to compare. -/
def hasParts : Json → Bool
  | .null | .arr _ | .str _ => true
  | _ => false

/-- The parts of a version have to be shown, and one of them has no text. -/
def hasLongParts (version : Json) : Bool :=
  !Json.sameItems ((itemsOf version).take 2) knownVersion
    && !Json.areWritable Host.digits (itemsOf version)

/-- A version strays: it has no parts, or a part without a text. -/
def StrayVersion (version : Json) (way : Way) : Prop :=
  match way with
  | .misused => hasParts version = false
  | .overlong => hasParts version = true ∧ hasLongParts version = true

/-- The metadata of a document strays: the first of its values that cannot be read does, or it has
no fields and is not empty. -/
def StrayFields (v : Json) (way : Way) : Prop :=
  match v with
  | .obj fields => FirstStray metadataOfJson StrayMetadata (fields.map (·.2)) way
  | _ => way = .misused ∧ v.isTruthy = true

/-- The blocks of a document stray: they have no items, or the first of them that cannot be read has
a tag without a text. -/
def StrayBlocks (v : Json) (way : Way) : Prop :=
  way = .misused ∧ items? v = none ∨ FirstStray Block.ofJson strayTag (itemsOf v) way

theorem outcome_checkVersion_parts {version : Json} (h : hasParts version = true) :
    (checkVersion version).outcome
      = if hasLongParts version then .error (.overlong Host.digits none) else .ok () := by
  cases version with
  | null => rfl
  | arr items | str s =>
    rw [checkVersion, hasLongParts, itemsOf]
    cases Json.sameItems _ knownVersion with
    | true => rfl
    | false => cases Json.areWritable Host.digits _ <;> rfl
  | _ => cases h

theorem straysIff_checkVersion (version : Json) :
    StraysIff (checkVersion version).outcome (StrayVersion version) := by
  cases hparts : hasParts version with
  | false =>
    have houtcome : (checkVersion version).outcome = .error (.misuse .sliced) := by
      cases version with
      | null | arr | str => cases hparts
      | _ => rfl
    rw [houtcome]
    refine (straysIff_misuse .sliced).congr fun way => ?_
    cases way <;> simp [StrayVersion, hparts]
  | true =>
    rw [outcome_checkVersion_parts hparts]
    cases hlong : hasLongParts version with
    | true =>
      refine (straysIff_overlong none).congr fun way => ?_
      cases way <;> simp [StrayVersion, hparts, hlong]
    | false =>
      refine (straysIff_ok ()).congr fun way => ?_
      cases way <;> simp [StrayVersion, hparts, hlong]

theorem straysIff_fields (v : Json) : StraysIff (metadataFieldsOfJson v) (StrayFields v) := by
  unfold metadataFieldsOfJson
  split
  · next fields => exact straysIff_entries fun w _ => straysIff_metadata w
  · next hother =>
    have hstray : ∀ way, StrayFields v way ↔ way = .misused ∧ v.isTruthy = true := by
      intro way
      unfold StrayFields
      split
      · next fields => exact absurd rfl (hother fields)
      · exact Iff.rfl
    split
    · next htruthy =>
      refine (straysIff_misuse .fields).congr fun way => ?_
      rw [hstray, and_iff_left htruthy]
    · next hempty =>
      refine (straysIff_ok []).congr fun way => iff_of_false not_false fun h => ?_
      exact hempty ((hstray way).mp h).2

theorem straysIff_topLevelBlocks (v : Json) : StraysIff (topLevelBlocks v) (StrayBlocks v) := by
  refine (straysIff_mapM fun w _ => straysIff_block w).items_bind fun hempty way => ?_
  rw [hempty]
  exact not_firstStray_nil

/-- A document is stray in the way of the first of its parts that cannot be read: its version, its
metadata, or its blocks. -/
inductive StrayDocument (v : Json) (way : Way) : Prop where
  | version {encoded : Json} (hblocks : v.field? "blocks" = some encoded)
      (h : StrayVersion (fieldOr v "pandoc-api-version" .null) way)
  | metadata {encoded : Json} (hblocks : v.field? "blocks" = some encoded)
      (hversion : ∀ other, ¬ StrayVersion (fieldOr v "pandoc-api-version" .null) other)
      (h : StrayFields (fieldOr v "meta" .null) way)
  | blocks {encoded : Json} {metadata : List (String × Json)}
      (hblocks : v.field? "blocks" = some encoded)
      (hversion : ∀ other, ¬ StrayVersion (fieldOr v "pandoc-api-version" .null) other)
      (hmetadata : metadataFieldsOfJson (fieldOr v "meta" .null) = .ok metadata)
      (h : StrayBlocks encoded way)

theorem outcome_ofJsonValue {v encoded : Json} (h : v.field? "blocks" = some encoded) :
    (Document.ofJsonValue v).outcome = do
      (checkVersion (fieldOr v "pandoc-api-version" .null)).outcome
      let metadata ← metadataFieldsOfJson (fieldOr v "meta" .null)
      let blocks ← topLevelBlocks encoded
      return ⟨metadata, blocks⟩ := by
  cases v with
  | obj fields =>
    have hlookup : Json.lookup fields "blocks" = some encoded := h
    rw [Document.ofJsonValue, hlookup]
    simp only [Traced.outcome_bind, Traced.outcome_lift]
    rfl
  | _ => cases h

/-- Reading a version ends in no fault exactly if the version does not stray. -/
theorem outcome_checkVersion_eq_ok_iff {version : Json} {u : Unit} :
    (checkVersion version).outcome = .ok u ↔ ∀ way, ¬ StrayVersion version way := by
  have hstrays := straysIff_checkVersion version
  cases houtcome : (checkVersion version).outcome with
  | ok _ =>
    rw [houtcome] at hstrays
    exact iff_of_true rfl hstrays
  | error f =>
    refine iff_of_false (fun h => nomatch h) fun hnone => ?_
    cases hparts : hasParts version with
    | false => exact hnone .misused hparts
    | true =>
      rw [outcome_checkVersion_parts hparts] at houtcome
      cases hlong : hasLongParts version with
      | true => exact hnone .overlong ⟨hparts, hlong⟩
      | false =>
        rw [hlong] at houtcome
        cases houtcome

theorem strayDocument_iff {v encoded : Json} {way : Way} (h : v.field? "blocks" = some encoded) :
    StrayDocument v way ↔ StrayVersion (fieldOr v "pandoc-api-version" .null) way
      ∨ ∃ u, (checkVersion (fieldOr v "pandoc-api-version" .null)).outcome = .ok u
        ∧ (StrayFields (fieldOr v "meta" .null) way
          ∨ ∃ metadata, metadataFieldsOfJson (fieldOr v "meta" .null) = .ok metadata
            ∧ StrayBlocks encoded way) := by
  constructor
  · rintro (⟨_, hstray⟩ | ⟨_, hversion, hstray⟩ | ⟨hblocks, hversion, hmetadata, hstray⟩)
    · exact .inl hstray
    · exact .inr ⟨(), outcome_checkVersion_eq_ok_iff.mpr hversion, .inl hstray⟩
    · obtain rfl := Option.some.inj (h.symm.trans hblocks)
      exact .inr ⟨(), outcome_checkVersion_eq_ok_iff.mpr hversion, .inr ⟨_, hmetadata, hstray⟩⟩
  · rintro (hstray | ⟨u, hversion, hstray | ⟨metadata, hmetadata, hstray⟩⟩)
    · exact .version h hstray
    · exact .metadata h (outcome_checkVersion_eq_ok_iff.mp hversion) hstray
    · exact .blocks h (outcome_checkVersion_eq_ok_iff.mp hversion) hmetadata hstray

theorem straysIff_ofJsonValue (v : Json) :
    StraysIff (Document.ofJsonValue v).outcome (StrayDocument v) := by
  cases hblocks : v.field? "blocks" with
  | none =>
    have houtcome : (Document.ofJsonValue v).outcome = .error .noBlocks := by
      cases v with
      | obj fields =>
        have hlookup : Json.lookup fields "blocks" = none := hblocks
        rw [Document.ofJsonValue, hlookup]
        rfl
      | _ => rfl
    rw [houtcome]
    refine (straysIff_parsing rfl).congr fun way => iff_of_false not_false ?_
    rintro (⟨h, _⟩ | ⟨h, _, _⟩ | ⟨h, _, _, _⟩) <;> exact nomatch hblocks.symm.trans h
  | some encoded =>
    rw [outcome_ofJsonValue hblocks]
    have hcontents := (straysIff_fields (fieldOr v "meta" .null)).bind fun metadata _ =>
      (straysIff_topLevelBlocks encoded).bind_pure (f := fun blocks => Document.mk metadata blocks)
    have hversion := straysIff_checkVersion (fieldOr v "pandoc-api-version" .null)
    exact (hversion.bind fun _ _ => hcontents).congr fun way => (strayDocument_iff hblocks).symm

/-! ### Texts and bytes -/

/-- What was read of a text is stray if it is a stray document, or if the reading met a whole number
that is too long. -/
def StrayReading (r : Except Json.ReadFault Json) (way : Way) : Prop :=
  match r with
  | .ok v => StrayDocument v way
  | .error (.overlong _) => way = .overlong
  | .error (.broken ..) => False

/-- A text is stray in the way of what is read of it. -/
def StrayText (text : List Char) (way : Way) : Prop := StrayReading (Json.read text) way

/-- Bytes are stray if they encode a stray text. -/
def StrayBytes (bytes : List UInt8) (way : Way) : Prop :=
  ∃ points, Text.decodeBytes bytes = some points ∧ StrayReading (Json.readPoints points) way

theorem straysIff_ofRead (points : List Text.Point) (r : Except Json.ReadFault Json) :
    StraysIff (Document.ofRead points r).outcome (StrayReading r) := by
  cases r with
  | ok v => exact straysIff_ofJsonValue v
  | error f =>
    cases f with
    | broken cause offset => exact straysIff_parsing rfl
    | overlong count => exact straysIff_overlong (some count)

theorem straysIff_ofText (text : List Char) :
    StraysIff (Document.ofText text).outcome (StrayText text) :=
  straysIff_ofRead _ _

theorem straysIff_ofBytes (bytes : List UInt8) :
    StraysIff (Document.ofBytes bytes).outcome (StrayBytes bytes) := by
  unfold Document.ofBytes StrayBytes
  cases Text.decodeBytes bytes with
  | some points =>
    exact (straysIff_ofRead points _).congr (by simp only [Option.some.injEq, exists_eq_left',
      implies_true])
  | none =>
    refine (straysIff_parsing rfl).congr fun way => iff_of_false not_false ?_
    rintro ⟨points, hpoints, _⟩
    cases hpoints

end Pandoc

end PandocHtml
