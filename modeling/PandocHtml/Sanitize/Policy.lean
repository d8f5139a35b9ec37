/-!
# What is allowed

The lists that cleaning goes by: elements removed with their contents, elements, attributes and
address schemes that stay, and properties of inline styles.
-/

namespace PandocHtml.Sanitize

/-- The elements that are removed with their contents. -/
def dangerousTags : List String :=
  ["script", "style", "object", "embed", "form", "iframe", "template", "noscript"]

def allowedTags : List String :=
  ["a", "abbr", "acronym", "b", "blockquote", "br", "code", "div", "em", "i", "li", "ol", "p",
   "pre", "span", "strong", "sub", "sup", "u", "ul", "h1", "h2", "h3", "h4", "h5", "h6", "table",
   "thead", "tbody", "tr", "th", "td", "caption", "dl", "dt", "dd", "hr", "img", "figure", "aside",
   "small", "strike"]

/-- The attributes that stay on some elements. -/
def tagAttrs : List (String × List String) :=
  [("a", ["href", "title", "rel", "name"]), ("img", ["src", "alt", "title", "width", "height"]),
   ("abbr", ["title"]), ("acronym", ["title"]), ("ol", ["start", "type"])]

/-- The attributes that stay on every element. -/
def commonAttrs : List String := ["class", "id", "style"]

def allowsAttr (tag name : String) : Bool :=
  ((tagAttrs.lookup tag).getD []).contains name || commonAttrs.contains name

def addressAttrs : List String := ["href", "src"]

def allowedSchemes : List String := ["http", "https", "mailto", "ftp"]

def allowedProperties : List String :=
  ["color", "background-color", "font-size", "font-family", "font-weight", "font-style",
   "text-align", "text-decoration", "margin", "padding", "border", "width", "height", "display",
   "line-height", "letter-spacing", "border-radius", "vertical-align", "white-space",
   "fill", "fill-opacity", "fill-rule", "stroke", "stroke-width", "stroke-linecap",
   "stroke-linejoin", "stroke-opacity"]

def lineTags : List String :=
  ["address", "article", "aside", "blockquote", "dd", "details", "dialog", "div", "dl", "dt",
   "fieldset", "figcaption", "figure", "footer", "form", "h1", "h2", "h3", "h4", "h5", "h6",
   "header", "hgroup", "hr", "li", "main", "nav", "ol", "p", "pre", "section", "table", "ul"]

end PandocHtml.Sanitize
