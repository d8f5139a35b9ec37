/-!
# Lines

Line ends of all kinds, and texts as lines.
-/

namespace PandocHtml.Text

/-- Line ends of all kinds as line feeds. -/
def unifyLineEnds : List Char → List Char
  | '\r' :: '\n' :: rest => '\n' :: unifyLineEnds rest
  | '\r' :: rest => '\n' :: unifyLineEnds rest
  | c :: rest => c :: unifyLineEnds rest
  | [] => []

theorem not_mem_unifyLineEnds (s : List Char) : '\r' ∉ unifyLineEnds s := by
  fun_induction unifyLineEnds s with
  | case1 rest ih => simp [ih]
  | case2 rest _ ih => simp [ih]
  | case3 c rest _ hc ih =>
    simp only [List.mem_cons, not_or]
    exact ⟨fun h => hc h.symm, ih⟩
  | case4 => simp

/-- The lines of a text, the last of them the rest behind the last line feed. -/
def lines : List Char → List (List Char)
  | [] => [[]]
  | c :: rest =>
    if c = '\n' then [] :: lines rest
    else
      match lines rest with
      | line :: later => (c :: line) :: later
      | [] => [[c]]

theorem lines_ne_nil (s : List Char) : lines s ≠ [] := by
  cases s with
  | nil => simp [lines]
  | cons c rest =>
    by_cases h : c = '\n'
    · simp [lines, h]
    · simp only [lines, if_neg h]
      split <;> simp

theorem intercalate_lines (s : List Char) : ['\n'].intercalate (lines s) = s := by
  induction s with
  | nil => rfl
  | cons c rest ih =>
    by_cases hc : c = '\n'
    · subst hc
      obtain ⟨line, later, hl⟩ := List.exists_cons_of_ne_nil (lines_ne_nil rest)
      simp only [lines, ite_true, hl] at ih ⊢
      simp [List.intercalate, List.intersperse] at ih ⊢
      exact ih
    · obtain ⟨line, later, hl⟩ := List.exists_cons_of_ne_nil (lines_ne_nil rest)
      simp only [lines, if_neg hc, hl] at ih ⊢
      cases later with
      | nil => simpa [List.intercalate, List.intersperse] using ih
      | cons l2 later => simpa [List.intercalate, List.intersperse] using ih

def dropLastLineFeed (s : List Char) : List Char :=
  if s.getLast? = some '\n' then s.dropLast else s

/-- The columns up to the next tab stop, four columns apart. -/
def tabWidth (column : Nat) : Nat := 4 - column % 4

def expandTabsFrom (column : Nat) : List Char → List Char
  | [] => []
  | c :: rest =>
    if c = '\t' then
      List.replicate (tabWidth column) ' ' ++ expandTabsFrom (column + tabWidth column) rest
    else if c = '\n' ∨ c = '\r' then c :: expandTabsFrom 0 rest
    else c :: expandTabsFrom (column + 1) rest

def expandTabs (s : List Char) : List Char := expandTabsFrom 0 s

end PandocHtml.Text
