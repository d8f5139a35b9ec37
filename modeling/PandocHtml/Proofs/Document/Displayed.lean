import Mathlib.Data.List.Flatten
import PandocHtml.Document.Walk

/-!
# Reached and displayed nodes

The walk over a stack of pending nodes is the recursive pre-order.  A rendering shows only some of
the children of a node: no table captions, intermediate head rows, table feet and figure captions,
nothing of citations and images, and of a footnote either nothing or its body.  The displayed nodes
are those that are reached through shown children alone; each has a level, the number of nodes
above it.
-/

namespace PandocHtml

/-! ### Induction over nodes -/

theorem Node.preorder_length_lt {n c : Node} (h : c ∈ n.children) :
    c.preorder.length < n.preorder.length := by
  obtain ⟨before, after, hs⟩ := List.append_of_mem h
  rw [Node.preorder_eq n, hs, nodesPreorder_append]
  simp only [nodesPreorder, List.flatMap_cons, List.length_cons, List.length_append]
  omega

/-- A property of nodes that passes from the children of a node to the node holds everywhere. -/
theorem Node.induction {motive : Node → Prop}
    (step : ∀ n : Node, (∀ c ∈ n.children, motive c) → motive n) (n : Node) : motive n := by
  have key : ∀ (k : Nat) (n : Node), n.preorder.length < k → motive n := by
    intro k
    induction k with
    | zero =>
      intro n hn
      omega
    | succ k ih =>
      intro n hn
      apply step n
      intro c hc
      have hlt := Node.preorder_length_lt hc
      exact ih c (by omega)
  exact key (n.preorder.length + 1) n (by omega)

theorem Node.mem_preorder_self (n : Node) : n ∈ n.preorder := by
  rw [Node.preorder_eq]
  exact List.mem_cons_self ..

theorem Node.preorder_sublist_of_mem {c : Node} {ns : List Node} (h : c ∈ ns) :
    c.preorder.Sublist (nodesPreorder ns) := by
  obtain ⟨before, after, rfl⟩ := List.append_of_mem h
  simp only [nodesPreorder, List.flatMap_append, List.flatMap_cons]
  exact (List.sublist_append_left ..).trans (List.sublist_append_right ..)

/-- The nodes under a node of a tree are nodes of the tree. -/
theorem Node.preorder_sublist_of_mem_nodesPreorder {m : Node} {ns : List Node}
    (h : m ∈ nodesPreorder ns) : m.preorder.Sublist (nodesPreorder ns) := by
  have key : ∀ n : Node, m ∈ n.preorder → m.preorder.Sublist n.preorder := by
    intro n
    induction n using Node.induction with
    | step n ih =>
      intro hm
      rw [Node.preorder_eq n, List.mem_cons, nodesPreorder, List.mem_flatMap] at hm
      rcases hm with rfl | ⟨c, hc, hmc⟩
      · exact List.Sublist.refl _
      · rw [Node.preorder_eq n]
        have hbelow := (ih c hc hmc).trans (Node.preorder_sublist_of_mem hc)
        exact hbelow.trans (List.sublist_cons_self ..)
  obtain ⟨n, hn, hmn⟩ := List.mem_flatMap.mp h
  exact (key n hmn).trans (Node.preorder_sublist_of_mem hn)

/-! ### The walk -/

theorem walkWith_true_eq (pending : List Node) :
    walkWith (fun _ => true) pending = nodesPreorder pending := by
  -- the pending nodes may get more, the nodes under them get fewer
  have key : ∀ (k : Nat) (pending : List Node), (nodesPreorder pending).length < k →
      walkWith (fun _ => true) pending = nodesPreorder pending := by
    intro k
    induction k with
    | zero =>
      intro pending hk
      omega
    | succ k ih =>
      intro pending hk
      cases pending with
      | nil => rw [walkWith]; rfl
      | cons n rest =>
        have hs : nodesPreorder (n :: rest)
            = n :: nodesPreorder (n.children ++ rest) := by
          rw [nodesPreorder_append, ← List.cons_append, ← Node.preorder_eq]
          rfl
        rw [hs, List.length_cons] at hk
        rw [walkWith, if_pos rfl, ih _ (by omega), hs]
  exact key _ pending (Nat.lt_succ_self _)

theorem walk_eq_nodesPreorder (roots : List Node) : walk roots = nodesPreorder roots :=
  walkWith_true_eq roots

theorem Document.walk_eq (d : Document) : d.walk = blocksPreorder d.blocks := by
  rw [Document.walk, walk_eq_nodesPreorder, blocksPreorder_eq]

/-! ### Displayed nodes -/

/-- The children of a block that are shown; captions, the foot of a table and the heads of its body
groups are not. -/
def Block.shown : Block → List Node
  | .plain content | .para content | .header _ _ content => content.map Node.inline
  | .lineBlock lines => lines.flatMap fun line => line.map Node.inline
  | .codeBlock .. | .raw .. | .horizontalRule => []
  | .blockQuote blocks | .div _ blocks | .figure _ _ blocks => blocks.map Node.block
  | .orderedList _ items | .bulletList items => items.flatMap fun item => item.map Node.block
  | .definitionList items =>
    items.flatMap fun d =>
      d.term.map Node.inline ++ d.meanings.flatMap fun m => m.map Node.block
  | .table _ _ _ head bodies _ => rowNodes head.rows ++ bodies.flatMap fun b => rowNodes b.rows

/-- The children of an inline that are shown; those of a footnote only where its body stands in
place. -/
def Inline.shown (inPlace : Bool) : Inline → List Node
  | .str _ | .code .. | .space | .softBreak | .lineBreak | .math .. | .raw .. => []
  | .styled _ content | .quoted _ content | .link _ content _ | .span _ content =>
    content.map Node.inline
  | .cite .. | .image .. => []
  | .note blocks => if inPlace then blocks.map Node.block else []

/-- The children of a node that are shown. -/
def Node.shown (inPlace : Bool) : Node → List Node
  | .block b => b.shown
  | .inline i => i.shown inPlace

theorem Block.shown_sublist (b : Block) : b.shown.Sublist b.children := by
  cases b with
  | table attr caption colSpecs head bodies foot =>
    have hbodies : (bodies.flatMap fun b => rowNodes b.rows).Sublist
        (bodies.flatMap fun b => rowNodes b.headRows ++ rowNodes b.rows) := by
      induction bodies with
      | nil => exact List.Sublist.refl _
      | cons b rest ih => exact (List.sublist_append_right ..).append ih
    have hrows := ((List.sublist_append_right caption.nodes (rowNodes head.rows)).append hbodies)
    exact hrows.trans (List.sublist_append_left ..)
  | figure attr caption blocks => exact List.sublist_append_right ..
  | _ => exact List.Sublist.refl _

theorem Inline.shown_sublist (inPlace : Bool) (i : Inline) :
    (i.shown inPlace).Sublist i.children := by
  cases i with
  | note blocks =>
    cases inPlace with
    | true => exact List.Sublist.refl _
    | false => exact List.nil_sublist _
  | cite citations content => exact List.nil_sublist _
  | image attr content target => exact List.nil_sublist _
  | _ => exact List.Sublist.refl _

theorem Node.shown_sublist (inPlace : Bool) (n : Node) :
    (n.shown inPlace).Sublist n.children := by
  cases n with
  | block b => exact b.shown_sublist
  | inline i => exact i.shown_sublist inPlace

/-- The displayed nodes under a node in pre-order, itself first, each with its level. -/
def Node.displayed (inPlace : Bool) (level : Nat) (n : Node) : List (Nat × Node) :=
  (level, n) :: (n.shown inPlace).attach.flatMap fun c =>
    Node.displayed inPlace (level + 1) c.1
termination_by n.preorder.length
decreasing_by exact Node.preorder_length_lt ((n.shown_sublist inPlace).subset c.2)

theorem Node.displayed_eq (inPlace : Bool) (level : Nat) (n : Node) :
    n.displayed inPlace level
      = (level, n) :: (n.shown inPlace).flatMap (Node.displayed inPlace (level + 1)) := by
  rw [Node.displayed, List.flatMap_def, List.attach_map_val,
    ← List.flatMap_def]

def nodesDisplayed (inPlace : Bool) (level : Nat) (ns : List Node) : List (Nat × Node) :=
  ns.flatMap (Node.displayed inPlace level)

/-- The displayed nodes of a document; footnotes are displayed, their bodies are not. -/
def Document.displayed (d : Document) : List (Nat × Node) :=
  nodesDisplayed false 0 (d.blocks.map Node.block)

theorem Node.displayed_sublist (inPlace : Bool) (n : Node) (level : Nat) :
    ((n.displayed inPlace level).map (·.2)).Sublist n.preorder := by
  induction n using Node.induction generalizing level with
  | step n ih =>
    have hshown : (((n.shown inPlace).flatMap (Node.displayed inPlace (level + 1))).map
        (·.2)).Sublist (nodesPreorder (n.shown inPlace)) := by
      rw [List.map_flatMap]
      apply List.Sublist.flatMap_right
      intro c hc
      exact ih c ((n.shown_sublist inPlace).subset hc) (level + 1)
    have hall : (nodesPreorder (n.shown inPlace)).Sublist (nodesPreorder n.children) :=
      (n.shown_sublist inPlace).flatMap _
    rw [Node.displayed_eq, Node.preorder_eq, List.map_cons]
    exact (hshown.trans hall).cons_cons n

/-- Displayed nodes are nodes of the walk, in the order of the walk. -/
theorem nodesDisplayed_sublist (inPlace : Bool) (level : Nat) (ns : List Node) :
    ((nodesDisplayed inPlace level ns).map (·.2)).Sublist (walk ns) := by
  rw [walk_eq_nodesPreorder, nodesDisplayed, List.map_flatMap]
  apply List.Sublist.flatMap_right
  intro n _
  exact n.displayed_sublist inPlace level

theorem Node.level_le_of_mem_displayed (inPlace : Bool) (n : Node) (level : Nat)
    {x : Nat × Node} (h : x ∈ n.displayed inPlace level) : level ≤ x.1 := by
  induction n using Node.induction generalizing level with
  | step n ih =>
    rw [Node.displayed_eq, List.mem_cons, List.mem_flatMap] at h
    rcases h with rfl | ⟨c, hc, hx⟩
    · exact Nat.le_refl _
    · have hle := ih c ((n.shown_sublist inPlace).subset hc) (level + 1) hx
      omega

end PandocHtml
