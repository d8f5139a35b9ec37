import PandocHtml.Document.Datum
import PandocHtml.Document.PlainText
import PandocHtml.Fault
import PandocHtml.Notice

/-!
# Rendering plans

What a document asks an output for, before numbering, nesting limit and hooks have their say.  A
plan holds the elements, texts and attributes in the order in which they are asked for, marks
where a level of nesting begins, and leaves links, code blocks, raw content, footnotes and
citations to be decided later.  Table captions, column specifications, intermediate head rows,
table feet and figure captions have no part in a plan.
-/

namespace PandocHtml

/-- What a document asks an output for. -/
inductive Plan where
  | text (content : Json)
  | parts (ps : List Plan)
  | both (p q : Plan)
  | leaf (tag : String) (attrs : Option AttrMap)
  | element (tag : String) (attrs : Option AttrMap) (children : Plan)
  /-- Pieces one level of nesting deeper. -/
  | nested (ps : List Plan)
  /-- A plan in which some values are written as text, before anything else is done. -/
  | written (values : List Json) (p : Plan)
  | fault (f : Fault)
  /-- A link, with its standard form; no inner content when the link shows its own address. -/
  | link (url : Json) (attrs : AttrMap) (inner : Option (List Inline)) (standard : Plan)
  /-- A code block, with its standard form. -/
  | code (attr : Attr) (text : Json) (standard : Plan)
  | raw (kind : RawKind) (format text : Json)
  | note (body : List Block) (aside : Plan)
  | cite (keys : List Json)

namespace Plan

/-- A plan that needs a value first. -/
def withValue {α : Type} (r : Except Fault α) (f : α → Plan) : Plan :=
  match r with
  | .ok a => f a
  | .error e => .fault e

def plainElement (tag : String) (children : Plan) : Plan := .element tag none children

def attrElement (tag : String) (attr : Attr) (children : Plan) : Plan :=
  withValue attr.toMap fun m => .element tag (some m) children

end Plan

/-! ### Single nodes -/

def Style.element : Style → String
  | .emph => "em"
  | .underline => "u"
  | .strong => "strong"
  | .strikeout => "strike"
  | .superscript => "sup"
  | .subscript => "sub"
  | .smallCaps => "small"

/-- The marker attribute of a list; most markers are the default of their element. -/
def NumberStyle.marker? : NumberStyle → Option String
  | .lowerRoman => some "i"
  | .upperRoman => some "I"
  | .lowerAlpha => some "a"
  | .upperAlpha => some "A"
  | _ => none

/-- The first number of a list, unless that is one. -/
def ListAttributes.statedStart (a : ListAttributes) : List Json :=
  if a.start.same (.int 1) then [] else [a.start]

/-- The attributes of an ordered list: its marker and its first number. -/
def ListAttributes.toMap (a : ListAttributes) : AttrMap :=
  (match a.style.marker? with
    | some marker => [("type", .str marker)]
    | none => [])
  ++ a.statedStart.map fun start => ("start", .str start.plain)

def MathKind.cssClass : MathKind → String
  | .inline => "math inline"
  | .display => "math display"

def MathKind.delimited (kind : MathKind) (text : Json) : String :=
  match kind with
  | .inline => "\\(" ++ text.plain ++ "\\)"
  | .display => "$$" ++ text.plain ++ "$$"

/-- A value strictly below, or strictly above, a whole number; only numbers are ordered. -/
def Json.compare (v : Json) (below : Bool) (n : Int) : Except Fault Bool :=
  match v with
  | .bool b => .ok (if below then (if b then 1 else 0) < n else n < (if b then 1 else 0))
  | .int m => .ok (if below then m < n else n < m)
  | .float x => .ok (if below then x.ltInt n else x.gtInt n)
  | _ => .error (.misuse .compared)

/-- The element of a header: its level, kept between one and six. -/
def headerTag (level : Json) : Except Fault String := do
  let level ← if ← level.compare true 1 then pure (Json.int 1) else pure level
  let level ← if ← level.compare false 6 then pure (Json.int 6) else pure level
  return "h" ++ level.plain

/-- The state of the check box that content begins with: a box glyph and a space. -/
def taskState (content : List Inline) : Option (Except Fault Bool) :=
  match content with
  | .str glyph :: .space :: _ =>
    match glyph with
    | .str "☑" | .str "☒" => some (.ok true)
    | .str "☐" => some (.ok false)
    | .arr _ | .obj _ => some (.error (.misuse .keyed))
    | _ => none
  | _ => none

def checkBox (checked : Bool) : Plan :=
  .leaf "input" (some (AttrMap.ofTexts
    ([("type", "checkbox"), ("disabled", "True")]
      ++ if checked then [("checked", "True")] else [])))

/-- A line of inlines, as a task if it begins with a check box, else in its usual form. -/
def taskOr (content : List Inline) (plans : List Plan) (usual : Plan) : Plan :=
  match taskState content with
  | some (.ok checked) => .both (checkBox checked) (.nested (plans.drop 2))
  | some (.error f) => .fault f
  | none => usual

/-- A link shows its own address: its content is one text, equal to the address. -/
def showsAddress (content : List Inline) (url : Json) : Bool :=
  match content with
  | [.str text] => text.same url
  | _ => false

def linkPlan (attr : Attr) (content : List Inline) (target : Target) (plans : List Plan) : Plan :=
  Plan.withValue attr.toMap fun own =>
    .link target.url (own.foldl (fun m p => AttrMap.set m p.1 p.2) [("title", target.title)])
      (if showsAddress content target.url then none else some content)
      (Plan.withValue (attr.toMapWith [("href", target.url), ("title", target.title)]) fun m =>
        .element "a" (some m) (.nested plans))

/-- An image; its description becomes plain text. -/
def imagePlan (attr : Attr) (content : List Inline) (target : Target) : Plan :=
  Plan.withValue (plainText content) fun description =>
    Plan.withValue
      (attr.toMapWith
        [("src", target.url), ("title", target.title), ("alt", .str description)])
      fun m => .leaf "img" (some m)

/-! ### Trees -/

mutual

def Inline.plan : Inline → Plan
  | .str text => .text text
  | .styled style content => .plainElement style.element (.nested (inlinePlans content))
  | .quoted kind content =>
    .parts [.text (.str kind.opening), .nested (inlinePlans content), .text (.str kind.closing)]
  | .cite citations _ => .cite (citations.map Citation.id)
  | .code attr text => .attrElement "code" attr (.text text)
  | .space | .softBreak => .text (.str " ")
  | .lineBreak => .leaf "br" none
  | .math kind text =>
    .written [text]
      (.element "span" (some [("class", .str kind.cssClass)]) (.text (.str (kind.delimited text))))
  | .raw format text => .raw .inline format text
  | .link attr content target => linkPlan attr content target (inlinePlans content)
  | .image attr content target => imagePlan attr content target
  | .note blocks =>
    .note blocks
      (.element "aside" (some [("class", .str "footnote-inline")]) (.nested (blockPlans blocks)))
  | .span attr content => .attrElement "span" attr (.nested (inlinePlans content))

def Block.plan : Block → Plan
  | .plain content =>
    taskOr content (inlinePlans content) (.nested (inlinePlans content))
  | .para content =>
    taskOr content (inlinePlans content) (.plainElement "p" (.nested (inlinePlans content)))
  | .lineBlock lines => .parts (linePlans lines)
  | .codeBlock attr text =>
    .code attr text (.attrElement "pre" attr (.plainElement "code" (.text text)))
  | .raw format text => .raw .block format text
  | .blockQuote blocks => .plainElement "blockquote" (.nested (blockPlans blocks))
  | .orderedList attributes items =>
    .written attributes.statedStart
      (.element "ol" (some attributes.toMap) (.parts (itemPlans "li" items)))
  | .bulletList items => .plainElement "ul" (.parts (itemPlans "li" items))
  | .definitionList items => .plainElement "dl" (.parts (definitionPlans items))
  | .header level attr content =>
    Plan.withValue (headerTag level) fun tag =>
      .attrElement tag attr (.nested (inlinePlans content))
  | .horizontalRule => .leaf "hr" none
  | .table attr _ _ head bodies _ =>
    let rows : Plan :=
      .both (.plainElement "thead" (.parts (groupPlans "th" head))) (.parts (bodyPlans bodies))
    match attr.toMap with
    | .ok m => .element "table" (some m) rows
    | .error f => .both rows (.fault f)
  | .figure attr _ blocks => .attrElement "figure" attr (.nested (blockPlans blocks))
  | .div attr blocks => .attrElement "div" attr (.nested (blockPlans blocks))

def inlinePlans : List Inline → List Plan
  | [] => []
  | i :: rest => i.plan :: inlinePlans rest

def blockPlans : List Block → List Plan
  | [] => []
  | b :: rest => b.plan :: blockPlans rest

def linePlans : List (List Inline) → List Plan
  | [] => []
  | line :: rest => .both (.nested (inlinePlans line)) (.text (.str "\n")) :: linePlans rest

def itemPlans (tag : String) : List (List Block) → List Plan
  | [] => []
  | item :: rest => .plainElement tag (.nested (blockPlans item)) :: itemPlans tag rest

def definitionPlans : List Definition → List Plan
  | [] => []
  | ⟨term, meanings⟩ :: rest =>
    .plainElement "dt" (.nested (inlinePlans term))
      :: (itemPlans "dd" meanings ++ definitionPlans rest)

def groupPlans (tag : String) : RowGroup → List Plan
  | ⟨_, rows⟩ => rowPlans tag rows

def bodyPlans : List TableBody → List Plan
  | [] => []
  | ⟨_, _, _, rows⟩ :: rest => .plainElement "tbody" (.parts (rowPlans "td" rows)) :: bodyPlans rest

def rowPlans (tag : String) : List Row → List Plan
  | [] => []
  | ⟨_, cells⟩ :: rest => .plainElement "tr" (.parts (cellPlans tag cells)) :: rowPlans tag rest

def cellPlans (tag : String) : List Cell → List Plan
  | [] => []
  | ⟨_, _, _, _, blocks⟩ :: rest =>
    .plainElement tag (.nested (blockPlans blocks)) :: cellPlans tag rest

end

/-! ### Sequences -/

/-- The plan of an entry where nodes of one kind are wanted. -/
def Item.plan (wanted : RawKind) (item : Item) : Plan :=
  match wanted, item with
  | .block, .node (.block b) => b.plan
  | .inline, .node (.inline i) => i.plan
  | _, _ =>
    .written [item.datum.listing] (.fault (.notANode wanted.name item.name item.datum.literal))

end PandocHtml
