import PandocHtml.Proofs.Document.EqualNodes
import PandocHtml.Proofs.Render.Outlined

/-!
# Outlines that differ in attributes alone

Two outlines are alike, relative to a way of comparing mappings, if they hold the same pieces in
the same places and the mappings of corresponding pieces compare.  Plans are compared in the same
way, footnotes in them by equality of their bodies.  Two runs over alike plans go step by step
through the same levels and the same decisions, so if the numberings agree on equal bodies, alike
plans have alike outlines.
-/

namespace PandocHtml

section Alike

variable {r : AttrMap → AttrMap → Prop}

/-! ### Outlines -/

inductive OutlineNode.AlikeBy (r : AttrMap → AttrMap → Prop) :
    OutlineNode → OutlineNode → Prop where
  | text (content : Json) : AlikeBy r (.text content) (.text content)
  | raw (content : Json) : AlikeBy r (.raw content) (.raw content)
  | leaf (tag : String) {attrs others : Option AttrMap} (hattrs : Option.Rel r attrs others) :
      AlikeBy r (.leaf tag attrs) (.leaf tag others)
  | element (tag : String) {attrs others : Option AttrMap} {children more : List OutlineNode}
      (hattrs : Option.Rel r attrs others) (hchildren : List.Forall₂ (AlikeBy r) children more) :
      AlikeBy r (.element tag attrs children) (.element tag others more)

abbrev Outline.AlikeBy (r : AttrMap → AttrMap → Prop) (s t : Outline) : Prop :=
  List.Forall₂ (OutlineNode.AlikeBy r) s t

theorem optionRel_refl (hr : ∀ m, r m m) (attrs : Option AttrMap) : Option.Rel r attrs attrs := by
  cases attrs with
  | none => exact .none
  | some m => exact .some (hr m)

mutual

theorem OutlineNode.AlikeBy.refl (hr : ∀ m, r m m) : ∀ n : OutlineNode, n.AlikeBy r n
  | .text content => .text content
  | .raw content => .raw content
  | .leaf tag attrs => .leaf tag (optionRel_refl hr attrs)
  | .element tag attrs children =>
    .element tag (optionRel_refl hr attrs) (Outline.AlikeBy.refl hr children)

theorem Outline.AlikeBy.refl (hr : ∀ m, r m m) : ∀ t : Outline, Outline.AlikeBy r t t
  | [] => .nil
  | n :: rest => .cons (.refl hr n) (Outline.AlikeBy.refl hr rest)

end

theorem optionRel_imp {r' : AttrMap → AttrMap → Prop} (himp : ∀ m n, r m n → r' m n)
    {attrs others : Option AttrMap} (h : Option.Rel r attrs others) :
    Option.Rel r' attrs others := by
  cases h with
  | none => exact .none
  | some h => exact .some (himp _ _ h)

mutual

theorem OutlineNode.AlikeBy.imp {r' : AttrMap → AttrMap → Prop} (himp : ∀ m n, r m n → r' m n) :
    ∀ {n m : OutlineNode}, n.AlikeBy r m → n.AlikeBy r' m
  | .text _, _, .text content => .text content
  | .raw _, _, .raw content => .raw content
  | .leaf _ _, _, .leaf tag hattrs => .leaf tag (optionRel_imp himp hattrs)
  | .element _ _ _, _, .element tag hattrs hchildren =>
    .element tag (optionRel_imp himp hattrs) (Outline.AlikeBy.imp himp hchildren)

theorem Outline.AlikeBy.imp {r' : AttrMap → AttrMap → Prop} (himp : ∀ m n, r m n → r' m n) :
    ∀ {s t : Outline}, Outline.AlikeBy r s t → Outline.AlikeBy r' s t
  | [], _, .nil => .nil
  | _ :: _, _, .cons hhead hrest =>
    .cons (OutlineNode.AlikeBy.imp himp hhead) (Outline.AlikeBy.imp himp hrest)

end

theorem eq_of_optionRel {attrs others : Option AttrMap} (h : Option.Rel (· = ·) attrs others) :
    attrs = others := by
  cases h with
  | none => rfl
  | some h => rw [h]

mutual

theorem OutlineNode.eq_of_alike : ∀ {n m : OutlineNode}, n.AlikeBy (· = ·) m → n = m
  | .text _, _, .text _ => rfl
  | .raw _, _, .raw _ => rfl
  | .leaf _ _, _, .leaf _ hattrs => by rw [eq_of_optionRel hattrs]
  | .element _ _ _, _, .element _ hattrs hchildren => by
    rw [eq_of_optionRel hattrs, Outline.eq_of_alike hchildren]

/-- Outlines with the same mappings in corresponding places are the same. -/
theorem Outline.eq_of_alike : ∀ {s t : Outline}, Outline.AlikeBy (· = ·) s t → s = t
  | [], _, .nil => rfl
  | _ :: _, _, .cons hhead hrest => by
    rw [OutlineNode.eq_of_alike hhead, Outline.eq_of_alike hrest]

end

/-! ### Plans -/

/-- Plans that ask for the same, attributes apart.  A footnote and a citation keep more than they
ask for; of a link and a code block the standard form counts. -/
inductive Plan.AlikeBy (r : AttrMap → AttrMap → Prop) : Plan → Plan → Prop where
  | text (content : Json) : AlikeBy r (.text content) (.text content)
  | parts {ps qs : List Plan} (h : List.Forall₂ (AlikeBy r) ps qs) :
      AlikeBy r (.parts ps) (.parts qs)
  | both {p p' q q' : Plan} (hp : AlikeBy r p p') (hq : AlikeBy r q q') :
      AlikeBy r (.both p q) (.both p' q')
  | leaf (tag : String) {attrs others : Option AttrMap} (hattrs : Option.Rel r attrs others) :
      AlikeBy r (.leaf tag attrs) (.leaf tag others)
  | element (tag : String) {attrs others : Option AttrMap} {p q : Plan}
      (hattrs : Option.Rel r attrs others) (h : AlikeBy r p q) :
      AlikeBy r (.element tag attrs p) (.element tag others q)
  | nested {ps qs : List Plan} (h : List.Forall₂ (AlikeBy r) ps qs) :
      AlikeBy r (.nested ps) (.nested qs)
  | written (values : List Json) {p q : Plan} (h : AlikeBy r p q) :
      AlikeBy r (.written values p) (.written values q)
  | link {url url' : Json} {attrs attrs' : AttrMap} {inner inner' : Option (List Inline)}
      {p q : Plan} (h : AlikeBy r p q) :
      AlikeBy r (.link url attrs inner p) (.link url' attrs' inner' q)
  | code {a b : Attr} {text text' : Json} {p q : Plan} (h : AlikeBy r p q) :
      AlikeBy r (.code a text p) (.code b text' q)
  | raw (kind : RawKind) (format text : Json) :
      AlikeBy r (.raw kind format text) (.raw kind format text)
  | note {xs ys : List Block} {p q : Plan} (hbody : BlocksBy Node.Equal xs ys)
      (haside : AlikeBy r p q) : AlikeBy r (.note xs p) (.note ys q)
  | cite (keys keys' : List Json) : AlikeBy r (.cite keys) (.cite keys')

theorem Plan.AlikeBy.plainElement (tag : String) {p q : Plan} (h : p.AlikeBy r q) :
    (Plan.plainElement tag p).AlikeBy r (Plan.plainElement tag q) :=
  .element tag .none h

/-! ### Two runs -/

/-- Numberings that give equal bodies one number. -/
def Footnotes.Agree (notes others : Footnotes) : Prop :=
  ∀ xs ys : List Block, BlocksBy Node.Equal xs ys →
    notes.number? (FootnoteBody.ofBlocks xs) = others.number? (FootnoteBody.ofBlocks ys)

theorem Footnotes.Agree.none : Footnotes.none.Agree Footnotes.none := fun _ _ _ => rfl

section Runs

variable {notes others : Footnotes} (mode : RawMode) (limit : Option Limit)

mutual

/-- One step of the two runs: what alike plans show is alike. -/
theorem Plan.AlikeBy.outlined (hr : ∀ m, r m m) (hnotes : notes.Agree others) (depth : Nat) :
    ∀ {p q : Plan}, p.AlikeBy r q →
      Outline.AlikeBy r (p.outlined mode limit notes depth) (q.outlined mode limit others depth)
  | .text _, _, .text content => .cons (.text content) .nil
  | .parts _, _, .parts h => plansOutlined_alike hr hnotes depth h
  | .both _ _, _, .both hp hq =>
    List.rel_append (Plan.AlikeBy.outlined hr hnotes depth hp)
      (Plan.AlikeBy.outlined hr hnotes depth hq)
  | .leaf _ _, _, .leaf tag hattrs => .cons (.leaf tag hattrs) .nil
  | .element _ _ _, _, .element tag hattrs h =>
    .cons (.element tag hattrs (Plan.AlikeBy.outlined hr hnotes depth h)) .nil
  | .nested ps, .nested qs, .nested h => by
    simp only [Plan.outlined]
    cases beyond limit (depth + 1) with
    | some l => exact .refl hr _
    | none => exact plansOutlined_alike hr hnotes (depth + 1) h
  | .written _ _, _, .written _ h => by
    rw [Plan.outlined, Plan.outlined]
    exact Plan.AlikeBy.outlined hr hnotes depth h
  | .link _ _ _ _, _, .link h => by
    rw [Plan.outlined, Plan.outlined]
    exact Plan.AlikeBy.outlined hr hnotes depth h
  | .code _ _ _, _, .code h => by
    rw [Plan.outlined, Plan.outlined]
    exact Plan.AlikeBy.outlined hr hnotes depth h
  | .raw _ _ _, _, .raw kind format text => .refl hr _
  | .note xs p, .note ys q, .note hbody haside => by
    simp only [Plan.outlined, hnotes xs ys hbody]
    cases others.number? (FootnoteBody.ofBlocks ys) with
    | some number => exact .refl hr _
    | none => exact Plan.AlikeBy.outlined hr hnotes depth haside
  | .cite _, _, .cite _ _ => .refl hr _

theorem plansOutlined_alike (hr : ∀ m, r m m) (hnotes : notes.Agree others) (depth : Nat) :
    ∀ {ps qs : List Plan}, List.Forall₂ (Plan.AlikeBy r) ps qs →
      Outline.AlikeBy r (plansOutlined mode limit notes depth ps)
        (plansOutlined mode limit others depth qs)
  | [], _, .nil => .nil
  | _ :: _, _, .cons hhead hrest =>
    List.rel_append (Plan.AlikeBy.outlined hr hnotes depth hhead)
      (plansOutlined_alike hr hnotes depth hrest)

end

end Runs

end Alike

end PandocHtml
