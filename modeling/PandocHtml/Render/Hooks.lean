import PandocHtml.Render.Output

/-!
# Hooks

What is done with links, code blocks and raw content.  Links and code blocks have a standard
rendering, which a hook may use, wrap or replace.
-/

namespace PandocHtml

/-- The decisions that are left to the user of an output. -/
structure Hooks (β : Type) where
  /-- The rendering of a link, from its address, its attributes, its inner content unless it shows
  its own address, and its standard rendering. -/
  link : Json → AttrMap → Option (List Inline) → Traced β → Traced β
  /-- The rendering of a code block, from its attributes, its text and its standard rendering. -/
  code : Attr → Json → Traced β → Traced β
  raw : RawKind → Json → Json → Traced β

namespace Hooks

/-- Nothing is rendered for raw content. -/
def dropRaw {β : Type} (o : Output β) (kind : RawKind) (format : Json) : Traced β := do
  Traced.note (.droppedRaw kind format)
  return o.empty

def standard {β : Type} (o : Output β) : Hooks β where
  link _ _ _ rendering := rendering
  code _ _ rendering := rendering
  raw kind format _ := dropRaw o kind format

end Hooks

end PandocHtml
