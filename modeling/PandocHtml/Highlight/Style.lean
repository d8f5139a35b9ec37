import PandocHtml.Fault

/-!
# Highlighting styles

The styles that are known by name, and the style sheets of those whose colours are known: a line
for each kind of token, behind the lines that all styles share.
-/

namespace PandocHtml.Highlight

def styleNames : List String :=
  ["abap", "algol", "algol_nu", "arduino", "autumn", "bw", "borland", "coffee", "colorful",
   "default", "dracula", "emacs", "friendly_grayscale", "friendly", "fruity", "github-dark",
   "gruvbox-dark", "gruvbox-light", "igor", "inkpot", "lightbulb", "lilypond", "lovelace",
   "manni", "material", "monokai", "murphy", "native", "night-owl", "nord-darker", "nord",
   "one-dark", "paraiso-dark", "paraiso-light", "pastie", "perldoc", "rainbow_dash", "rrt", "sas",
   "solarized-dark", "solarized-light", "staroffice", "stata-dark", "stata-light", "tango",
   "trac", "vim", "vs", "xcode", "zenburn"]

/-- The declarations for one kind of token, under its short class and its full name. -/
structure TokenRule where
  short : String
  declarations : String
  name : String

structure Style where
  background : String
  rules : List TokenRule

def usualRules : List TokenRule :=
  [⟨"c", "color: #3D7B7B; font-style: italic", "Comment"⟩,
   ⟨"err", "border: 1px solid #F00", "Error"⟩,
   ⟨"k", "color: #008000; font-weight: bold", "Keyword"⟩,
   ⟨"o", "color: #666", "Operator"⟩,
   ⟨"ch", "color: #3D7B7B; font-style: italic", "Comment.Hashbang"⟩,
   ⟨"cm", "color: #3D7B7B; font-style: italic", "Comment.Multiline"⟩,
   ⟨"cp", "color: #9C6500", "Comment.Preproc"⟩,
   ⟨"cpf", "color: #3D7B7B; font-style: italic", "Comment.PreprocFile"⟩,
   ⟨"c1", "color: #3D7B7B; font-style: italic", "Comment.Single"⟩,
   ⟨"cs", "color: #3D7B7B; font-style: italic", "Comment.Special"⟩,
   ⟨"gd", "color: #A00000", "Generic.Deleted"⟩,
   ⟨"ge", "font-style: italic", "Generic.Emph"⟩,
   ⟨"ges", "font-weight: bold; font-style: italic", "Generic.EmphStrong"⟩,
   ⟨"gr", "color: #E40000", "Generic.Error"⟩,
   ⟨"gh", "color: #000080; font-weight: bold", "Generic.Heading"⟩,
   ⟨"gi", "color: #008400", "Generic.Inserted"⟩,
   ⟨"go", "color: #717171", "Generic.Output"⟩,
   ⟨"gp", "color: #000080; font-weight: bold", "Generic.Prompt"⟩,
   ⟨"gs", "font-weight: bold", "Generic.Strong"⟩,
   ⟨"gu", "color: #800080; font-weight: bold", "Generic.Subheading"⟩,
   ⟨"gt", "color: #04D", "Generic.Traceback"⟩,
   ⟨"kc", "color: #008000; font-weight: bold", "Keyword.Constant"⟩,
   ⟨"kd", "color: #008000; font-weight: bold", "Keyword.Declaration"⟩,
   ⟨"kn", "color: #008000; font-weight: bold", "Keyword.Namespace"⟩,
   ⟨"kp", "color: #008000", "Keyword.Pseudo"⟩,
   ⟨"kr", "color: #008000; font-weight: bold", "Keyword.Reserved"⟩,
   ⟨"kt", "color: #B00040", "Keyword.Type"⟩,
   ⟨"m", "color: #666", "Literal.Number"⟩,
   ⟨"s", "color: #BA2121", "Literal.String"⟩,
   ⟨"na", "color: #687822", "Name.Attribute"⟩,
   ⟨"nb", "color: #008000", "Name.Builtin"⟩,
   ⟨"nc", "color: #00F; font-weight: bold", "Name.Class"⟩,
   ⟨"no", "color: #800", "Name.Constant"⟩,
   ⟨"nd", "color: #A2F", "Name.Decorator"⟩,
   ⟨"ni", "color: #717171; font-weight: bold", "Name.Entity"⟩,
   ⟨"ne", "color: #CB3F38; font-weight: bold", "Name.Exception"⟩,
   ⟨"nf", "color: #00F", "Name.Function"⟩,
   ⟨"nl", "color: #767600", "Name.Label"⟩,
   ⟨"nn", "color: #00F; font-weight: bold", "Name.Namespace"⟩,
   ⟨"nt", "color: #008000; font-weight: bold", "Name.Tag"⟩,
   ⟨"nv", "color: #19177C", "Name.Variable"⟩,
   ⟨"ow", "color: #A2F; font-weight: bold", "Operator.Word"⟩,
   ⟨"w", "color: #BBB", "Text.Whitespace"⟩,
   ⟨"mb", "color: #666", "Literal.Number.Bin"⟩,
   ⟨"mf", "color: #666", "Literal.Number.Float"⟩,
   ⟨"mh", "color: #666", "Literal.Number.Hex"⟩,
   ⟨"mi", "color: #666", "Literal.Number.Integer"⟩,
   ⟨"mo", "color: #666", "Literal.Number.Oct"⟩,
   ⟨"sa", "color: #BA2121", "Literal.String.Affix"⟩,
   ⟨"sb", "color: #BA2121", "Literal.String.Backtick"⟩,
   ⟨"sc", "color: #BA2121", "Literal.String.Char"⟩,
   ⟨"dl", "color: #BA2121", "Literal.String.Delimiter"⟩,
   ⟨"sd", "color: #BA2121; font-style: italic", "Literal.String.Doc"⟩,
   ⟨"s2", "color: #BA2121", "Literal.String.Double"⟩,
   ⟨"se", "color: #AA5D1F; font-weight: bold", "Literal.String.Escape"⟩,
   ⟨"sh", "color: #BA2121", "Literal.String.Heredoc"⟩,
   ⟨"si", "color: #A45A77; font-weight: bold", "Literal.String.Interpol"⟩,
   ⟨"sx", "color: #008000", "Literal.String.Other"⟩,
   ⟨"sr", "color: #A45A77", "Literal.String.Regex"⟩,
   ⟨"s1", "color: #BA2121", "Literal.String.Single"⟩,
   ⟨"ss", "color: #19177C", "Literal.String.Symbol"⟩,
   ⟨"bp", "color: #008000", "Name.Builtin.Pseudo"⟩,
   ⟨"fm", "color: #00F", "Name.Function.Magic"⟩,
   ⟨"vc", "color: #19177C", "Name.Variable.Class"⟩,
   ⟨"vg", "color: #19177C", "Name.Variable.Global"⟩,
   ⟨"vi", "color: #19177C", "Name.Variable.Instance"⟩,
   ⟨"vm", "color: #19177C", "Name.Variable.Magic"⟩,
   ⟨"il", "color: #666", "Literal.Number.Integer.Long"⟩]

def plainRules : List TokenRule :=
  [⟨"c", "font-style: italic", "Comment"⟩,
   ⟨"err", "border: 1px solid #F00", "Error"⟩,
   ⟨"k", "font-weight: bold", "Keyword"⟩,
   ⟨"ch", "font-style: italic", "Comment.Hashbang"⟩,
   ⟨"cm", "font-style: italic", "Comment.Multiline"⟩,
   ⟨"cpf", "font-style: italic", "Comment.PreprocFile"⟩,
   ⟨"c1", "font-style: italic", "Comment.Single"⟩,
   ⟨"cs", "font-style: italic", "Comment.Special"⟩,
   ⟨"ge", "font-style: italic", "Generic.Emph"⟩,
   ⟨"ges", "font-weight: bold; font-style: italic", "Generic.EmphStrong"⟩,
   ⟨"gh", "font-weight: bold", "Generic.Heading"⟩,
   ⟨"gp", "font-weight: bold", "Generic.Prompt"⟩,
   ⟨"gs", "font-weight: bold", "Generic.Strong"⟩,
   ⟨"gu", "font-weight: bold", "Generic.Subheading"⟩,
   ⟨"kc", "font-weight: bold", "Keyword.Constant"⟩,
   ⟨"kd", "font-weight: bold", "Keyword.Declaration"⟩,
   ⟨"kn", "font-weight: bold", "Keyword.Namespace"⟩,
   ⟨"kr", "font-weight: bold", "Keyword.Reserved"⟩,
   ⟨"s", "font-style: italic", "Literal.String"⟩,
   ⟨"nc", "font-weight: bold", "Name.Class"⟩,
   ⟨"ni", "font-weight: bold", "Name.Entity"⟩,
   ⟨"ne", "font-weight: bold", "Name.Exception"⟩,
   ⟨"nn", "font-weight: bold", "Name.Namespace"⟩,
   ⟨"nt", "font-weight: bold", "Name.Tag"⟩,
   ⟨"ow", "font-weight: bold", "Operator.Word"⟩,
   ⟨"sa", "font-style: italic", "Literal.String.Affix"⟩,
   ⟨"sb", "font-style: italic", "Literal.String.Backtick"⟩,
   ⟨"sc", "font-style: italic", "Literal.String.Char"⟩,
   ⟨"dl", "font-style: italic", "Literal.String.Delimiter"⟩,
   ⟨"sd", "font-style: italic", "Literal.String.Doc"⟩,
   ⟨"s2", "font-style: italic", "Literal.String.Double"⟩,
   ⟨"se", "font-weight: bold; font-style: italic", "Literal.String.Escape"⟩,
   ⟨"sh", "font-style: italic", "Literal.String.Heredoc"⟩,
   ⟨"si", "font-weight: bold; font-style: italic", "Literal.String.Interpol"⟩,
   ⟨"sx", "font-style: italic", "Literal.String.Other"⟩,
   ⟨"sr", "font-style: italic", "Literal.String.Regex"⟩,
   ⟨"s1", "font-style: italic", "Literal.String.Single"⟩,
   ⟨"ss", "font-style: italic", "Literal.String.Symbol"⟩]

def Style.usual : Style := ⟨"#f8f8f8", usualRules⟩

def Style.blackAndWhite : Style := ⟨"#ffffff", plainRules⟩

/-- The style of a name; styles whose colours are not known have no rules of their own. -/
def style? (name : String) : Option Style :=
  if name = "default" then some .usual
  else if name = "bw" then some .blackAndWhite
  else if styleNames.contains name then some ⟨"#ffffff", []⟩
  else none

def commonLines : List String :=
  ["pre \x7b line-height: 125%; \x7d",
   "td.linenos .normal \x7b color: inherit; background-color: transparent; padding-left: 5px; "
     ++ "padding-right: 5px; \x7d",
   "span.linenos \x7b color: inherit; background-color: transparent; padding-left: 5px; "
     ++ "padding-right: 5px; \x7d",
   "td.linenos .special \x7b color: #000000; background-color: #ffffc0; padding-left: 5px; "
     ++ "padding-right: 5px; \x7d",
   "span.linenos.special \x7b color: #000000; background-color: #ffffc0; padding-left: 5px; "
     ++ "padding-right: 5px; \x7d"]

def TokenRule.line (cssClass : String) (r : TokenRule) : String :=
  "." ++ cssClass ++ " ." ++ r.short ++ " \x7b " ++ r.declarations ++ " \x7d /* " ++ r.name ++ " */"

def Style.sheet (s : Style) (cssClass : String) : String :=
  "\n".intercalate
    (commonLines
      ++ ["." ++ cssClass ++ " .hll \x7b background-color: #ffffcc \x7d",
          "." ++ cssClass ++ " \x7b background: " ++ s.background ++ "; \x7d"]
      ++ s.rules.map (TokenRule.line cssClass))

/-- The style sheet of a style given by its name, under a class. -/
def stylesheet (name cssClass : String) : Except Fault String :=
  match style? name with
  | some s => .ok (s.sheet cssClass)
  | none => .error .unknownStyle

end PandocHtml.Highlight
