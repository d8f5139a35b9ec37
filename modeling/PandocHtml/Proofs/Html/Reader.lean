import PandocHtml.Html.StringOutput

/-!
# Reading markup back

A reader for written markup: start tags with quoted attribute values, end tags, void elements
without end tags, and text, in which five references stand for the characters they are written
for.  The scanner takes one character at a time; a stack of open elements makes trees of its
tokens.  Reading is strict: an unknown reference, a tag that is cut short and an end tag that does
not match the open element are refused.
-/

namespace PandocHtml.Html

/-! ### Scanning -/

/-- What a reader accepts: the quotes around values, and whether a slash may end a start tag. -/
structure Dialect where
  quotes : List Char
  slash : Bool

def Dialect.strict : Dialect := ⟨['"'], false⟩

/-- A character of text with its references read, or a tag. -/
inductive Token where
  | char (c : Char)
  | opening (tag : String) (attrs : List (String × String))
  | closing (tag : String)

def references : List (List Char × Char) :=
  [(['a', 'm', 'p'], '&'), (['l', 't'], '<'), (['g', 't'], '>'), (['q', 'u', 'o', 't'], '"'),
   (['#', 'x', '2', '7'], '\'')]

def reference? (name : List Char) : Option Char :=
  (references.find? fun r => r.1 == name).map (·.2)

/-- A character that cannot stand in the name of a tag or an attribute. -/
def endsWord (c : Char) : Bool :=
  c == ' ' || c == '>' || c == '/' || c == '=' || c == '"' || c == '\''

/-- Where a scanner stands, with what it has read of a reference or a tag. -/
inductive Scan where
  | inText
  | inReference (seen : List Char)
  | tagStart
  | endTag (tag : List Char)
  | startTag (tag : List Char)
  | attrName (tag : String) (attrs : List (String × String)) (name : List Char)
  | attrEquals (tag : String) (attrs : List (String × String)) (name : String)
  | attrValue (tag : String) (attrs : List (String × String)) (name : String) (quote : Char)
      (value : List Char)
  | valueReference (tag : String) (attrs : List (String × String)) (name : String) (quote : Char)
      (value seen : List Char)
  | attrEnd (tag : String) (attrs : List (String × String))
  | slashSeen (tag : String) (attrs : List (String × String))

def Scan.inTag (d : Dialect) (tag : String) (attrs : List (String × String)) (c : Char) :
    Option (Scan × List Token) :=
  if c = '>' then some (.inText, [.opening tag attrs])
  else if c = ' ' then some (.attrName tag attrs [], [])
  else if c = '/' ∧ d.slash = true then some (.slashSeen tag attrs, [])
  else none

/-- One character: where the scanner stands behind it, and the tokens it completes. -/
def Scan.step (d : Dialect) (s : Scan) (c : Char) : Option (Scan × List Token) :=
  match s with
  | .inText =>
    if c = '<' then some (.tagStart, [])
    else if c = '&' then some (.inReference [], [])
    else some (.inText, [.char c])
  | .inReference seen =>
    if c = ';' then (reference? seen).map fun r => (.inText, [.char r])
    else some (.inReference (seen ++ [c]), [])
  | .tagStart =>
    if c = '/' then some (.endTag [], [])
    else if endsWord c then none
    else some (.startTag [c], [])
  | .endTag tag =>
    if c = '>' then
      if tag.isEmpty then none else some (.inText, [.closing (String.ofList tag)])
    else if endsWord c then none
    else some (.endTag (tag ++ [c]), [])
  | .startTag tag =>
    if endsWord c then inTag d (String.ofList tag) [] c else some (.startTag (tag ++ [c]), [])
  | .attrName tag attrs name =>
    if c = '=' then
      if name.isEmpty then none else some (.attrEquals tag attrs (String.ofList name), [])
    else if endsWord c then none
    else some (.attrName tag attrs (name ++ [c]), [])
  | .attrEquals tag attrs name =>
    if d.quotes.contains c then some (.attrValue tag attrs name c [], []) else none
  | .attrValue tag attrs name quote value =>
    if c = quote then some (.attrEnd tag (attrs ++ [(name, String.ofList value)]), [])
    else if c = '&' then some (.valueReference tag attrs name quote value [], [])
    else some (.attrValue tag attrs name quote (value ++ [c]), [])
  | .valueReference tag attrs name quote value seen =>
    if c = ';' then
      (reference? seen).map fun r => (.attrValue tag attrs name quote (value ++ [r]), [])
    else some (.valueReference tag attrs name quote value (seen ++ [c]), [])
  | .attrEnd tag attrs => inTag d tag attrs c
  | .slashSeen tag attrs => if c = '>' then some (.inText, [.opening tag attrs]) else none

/-- The tokens of characters; the last one has to end in text. -/
def scan (d : Dialect) : Scan → List Char → Option (List Token)
  | s, [] =>
    match s with
    | .inText => some []
    | _ => none
  | s, c :: rest =>
    match s.step d c with
    | some (next, found) => (scan d next rest).map (found ++ ·)
    | none => none

/-! ### Trees -/

inductive Tree where
  | text (content : String)
  | element (tag : String) (attrs : List (String × String)) (children : List Tree)

/-- Text behind the trees read so far, latest first: it goes on a text that stands there, and no
text is empty. -/
def addText (done : List Tree) (s : String) : List Tree :=
  if s = "" then done
  else
    match done with
    | .text t :: before => .text (t ++ s) :: before
    | _ => .text s :: done

/-- An open element, with the trees before it, latest first. -/
structure Frame where
  tag : String
  attrs : List (String × String)
  before : List Tree

/-- The trees of tokens, from the open elements, innermost first, and the trees read so far inside
them, latest first. -/
def grow : List Frame → List Tree → List Token → Option (List Tree)
  | [], done, [] => some done.reverse
  | _ :: _, _, [] => none
  | frames, done, .char c :: rest => grow frames (addText done (String.ofList [c])) rest
  | frames, done, .opening tag attrs :: rest =>
    if voidTags.contains tag then grow frames (.element tag attrs [] :: done) rest
    else grow (⟨tag, attrs, done⟩ :: frames) [] rest
  | f :: frames, done, .closing tag :: rest =>
    if f.tag = tag then grow frames (.element tag f.attrs done.reverse :: f.before) rest else none
  | [], _, .closing _ :: _ => none

def read (d : Dialect) (markup : String) : Option (List Tree) :=
  (scan d .inText markup.toList).bind (grow [] [])

/-! ### Scanning what was written -/

section Scanning

variable {d : Dialect}

theorem scan_step {s next : Scan} {c : Char} (h : s.step d c = some (next, [])) (rest : List Char) :
    scan d s (c :: rest) = scan d next rest := by
  rw [scan, h]
  exact Option.map_id' ..

theorem scan_emit {s next : Scan} {c : Char} {t : Token} (h : s.step d c = some (next, [t]))
    (rest : List Char) : scan d s (c :: rest) = (scan d next rest).map (t :: ·) := by
  rw [scan, h]
  rfl

theorem scan_inReference {name : List Char} (h : ';' ∉ name) (seen rest : List Char) :
    scan d (.inReference seen) (name ++ ';' :: rest)
      = scan d (.inReference (seen ++ name)) (';' :: rest) := by
  induction name generalizing seen with
  | nil => rw [List.nil_append, List.append_nil]
  | cons c name ih =>
    rw [List.mem_cons, not_or] at h
    have hstep : Scan.step d (.inReference seen) c = some (.inReference (seen ++ [c]), []) := by
      rw [Scan.step, if_neg (Ne.symm h.1)]
    rw [List.cons_append, scan_step hstep, ih h.2, List.append_assoc]
    rfl

theorem scan_reference (name : List Char) {r : Char} (h : ';' ∉ name)
    (hr : reference? name = some r) (rest : List Char) :
    scan d .inText ('&' :: (name ++ ';' :: rest)) = (scan d .inText rest).map (.char r :: ·) := by
  have hstep : Scan.step d (.inReference name) ';' = some (.inText, [.char r]) := by
    rw [Scan.step, if_pos rfl, hr]
    rfl
  rw [scan_step rfl, scan_inReference h, List.nil_append, scan_emit hstep]

theorem scan_plain {c : Char} (hlt : c ≠ '<') (hamp : c ≠ '&') (rest : List Char) :
    scan d .inText (c :: rest) = (scan d .inText rest).map (.char c :: ·) := by
  have hstep : Scan.step d .inText c = some (.inText, [.char c]) := by
    rw [Scan.step, if_neg hlt, if_neg hamp]
  exact scan_emit hstep rest

theorem scan_escapeChar (c : Char) (rest : List Char) :
    scan d .inText (escapeChar c ++ rest) = (scan d .inText rest).map (.char c :: ·) := by
  unfold escapeChar
  split
  · exact scan_reference ['a', 'm', 'p'] (by decide) rfl rest
  · exact scan_reference ['l', 't'] (by decide) rfl rest
  · exact scan_reference ['g', 't'] (by decide) rfl rest
  · exact scan_reference ['q', 'u', 'o', 't'] (by decide) rfl rest
  · exact scan_reference ['#', 'x', '2', '7'] (by decide) rfl rest
  · next hamp hlt _ _ _ => exact scan_plain hlt hamp rest

/-- A text of which every character is written so that it is read as itself. -/
theorem scan_text_of {write : Char → List Char}
    (h : ∀ (c : Char) (rest : List Char),
      scan d .inText (write c ++ rest) = (scan d .inText rest).map (.char c :: ·))
    (cs rest : List Char) :
    scan d .inText (cs.flatMap write ++ rest)
      = (scan d .inText rest).map (cs.map Token.char ++ ·) := by
  induction cs with
  | nil => exact Option.map_id'.symm
  | cons c cs ih =>
    rw [List.flatMap_cons, List.append_assoc, h, ih, Option.map_map]
    rfl

theorem scan_escape (cs rest : List Char) :
    scan d .inText (cs.flatMap escapeChar ++ rest)
      = (scan d .inText rest).map (cs.map Token.char ++ ·) :=
  scan_text_of scan_escapeChar cs rest

theorem scan_inValueReference {tag : String} {attrs : List (String × String)} {key : String}
    {quote : Char} {value name : List Char} (h : ';' ∉ name) (seen rest : List Char) :
    scan d (.valueReference tag attrs key quote value seen) (name ++ ';' :: rest)
      = scan d (.valueReference tag attrs key quote value (seen ++ name)) (';' :: rest) := by
  induction name generalizing seen with
  | nil => rw [List.nil_append, List.append_nil]
  | cons c name ih =>
    rw [List.mem_cons, not_or] at h
    have hstep : Scan.step d (.valueReference tag attrs key quote value seen) c
        = some (.valueReference tag attrs key quote value (seen ++ [c]), []) := by
      rw [Scan.step, if_neg (Ne.symm h.1)]
    rw [List.cons_append, scan_step hstep, ih h.2, List.append_assoc]
    rfl

theorem scan_value_reference {tag : String} {attrs : List (String × String)} {key : String}
    {quote : Char} (hquote : '&' ≠ quote) (value name : List Char) {r : Char}
    (h : ';' ∉ name) (hr : reference? name = some r) (rest : List Char) :
    scan d (.attrValue tag attrs key quote value) ('&' :: (name ++ ';' :: rest))
      = scan d (.attrValue tag attrs key quote (value ++ [r])) rest := by
  have hbegin : Scan.step d (.attrValue tag attrs key quote value) '&'
      = some (.valueReference tag attrs key quote value [], []) := by
    rw [Scan.step, if_neg hquote, if_pos rfl]
  have hend : Scan.step d (.valueReference tag attrs key quote value name) ';'
      = some (.attrValue tag attrs key quote (value ++ [r]), []) := by
    rw [Scan.step, if_pos rfl, hr]
    rfl
  rw [scan_step hbegin, scan_inValueReference h, List.nil_append, scan_step hend]

theorem scan_value_plain {tag : String} {attrs : List (String × String)} {key : String}
    {quote c : Char} (hquote : c ≠ quote) (hamp : c ≠ '&') (value rest : List Char) :
    scan d (.attrValue tag attrs key quote value) (c :: rest)
      = scan d (.attrValue tag attrs key quote (value ++ [c])) rest := by
  have hstep : Scan.step d (.attrValue tag attrs key quote value) c
      = some (.attrValue tag attrs key quote (value ++ [c]), []) := by
    rw [Scan.step, if_neg hquote, if_neg hamp]
  exact scan_step hstep rest

theorem scan_value_escapeChar (tag : String) (attrs : List (String × String)) (name : String)
    (value : List Char) (c : Char) (rest : List Char) :
    scan d (.attrValue tag attrs name '"' value) (escapeChar c ++ rest)
      = scan d (.attrValue tag attrs name '"' (value ++ [c])) rest := by
  have hamp : '&' ≠ '"' := by decide
  unfold escapeChar
  split
  · exact scan_value_reference hamp value ['a', 'm', 'p'] (by decide) rfl rest
  · exact scan_value_reference hamp value ['l', 't'] (by decide) rfl rest
  · exact scan_value_reference hamp value ['g', 't'] (by decide) rfl rest
  · exact scan_value_reference hamp value ['q', 'u', 'o', 't'] (by decide) rfl rest
  · exact scan_value_reference hamp value ['#', 'x', '2', '7'] (by decide) rfl rest
  · next hamp _ _ hquote _ => exact scan_value_plain hquote hamp value rest

/-- A value of which every character is written so that it is read as itself. -/
theorem scan_value_of {tag : String} {attrs : List (String × String)} {name : String} {quote : Char}
    {write : Char → List Char} {cs : List Char}
    (h : ∀ c ∈ cs, ∀ value rest : List Char,
      scan d (.attrValue tag attrs name quote value) (write c ++ rest)
        = scan d (.attrValue tag attrs name quote (value ++ [c])) rest) (value rest : List Char) :
    scan d (.attrValue tag attrs name quote value) (cs.flatMap write ++ quote :: rest)
      = scan d (.attrEnd tag (attrs ++ [(name, String.ofList (value ++ cs))])) rest := by
  induction cs generalizing value with
  | nil =>
    have hend : Scan.step d (.attrValue tag attrs name quote value) quote
        = some (.attrEnd tag (attrs ++ [(name, String.ofList value)]), []) := by
      rw [Scan.step, if_pos rfl]
    rw [List.append_nil]
    exact scan_step hend rest
  | cons c cs ih =>
    rw [List.forall_mem_cons] at h
    rw [List.flatMap_cons, List.append_assoc, h.1, ih h.2, List.append_assoc]
    rfl

theorem scan_value (tag : String) (attrs : List (String × String)) (name : String)
    (value cs rest : List Char) :
    scan d (.attrValue tag attrs name '"' value) (cs.flatMap escapeChar ++ '"' :: rest)
      = scan d (.attrEnd tag (attrs ++ [(name, String.ofList (value ++ cs))])) rest :=
  scan_value_of (fun c _ value rest => scan_value_escapeChar tag attrs name value c rest) value rest

def isWord (cs : List Char) : Bool := !cs.isEmpty && cs.all fun c => !endsWord c

theorem endsWord_eq_false_of_isWord {cs : List Char} (h : isWord cs = true) :
    ∀ c ∈ cs, endsWord c = false := by
  rw [isWord, Bool.and_eq_true, List.all_eq_true] at h
  intro c hc
  exact Bool.not_eq_true' _ ▸ h.2 c hc

theorem isWord_of_isName {name : String} (h : isName name = true) :
    isWord name.toList = true := by
  rw [isName, Bool.and_eq_true, List.all_eq_true] at h
  have hne : name.toList ≠ [] := by
    intro hnil
    rw [String.toList_eq_nil_iff.mp hnil] at h
    exact absurd h.1 (by decide)
  rw [isWord, Bool.and_eq_true, List.all_eq_true]
  refine ⟨by simpa using hne, ?_⟩
  intro c hc
  have hends := h.2 c hc
  rw [Bool.not_eq_true'] at hends ⊢
  simp only [endsName, Bool.or_eq_false_iff] at hends
  have hblank : (c == ' ') = false := by
    by_cases hc : c = ' '
    · subst hc
      exact absurd hends.1.1.1.1.1.1.1 (by decide)
    · simpa using hc
  simp only [endsWord, Bool.or_eq_false_iff]
  exact ⟨⟨⟨⟨⟨hblank, hends.1.1.2⟩, hends.1.2⟩, hends.2⟩, hends.1.1.1.1.2⟩, hends.1.1.1.2⟩

/-- A word is taken in as it is, where the scanner collects a name. -/
theorem scan_word {f : List Char → Scan}
    (hf : ∀ (name : List Char) (c : Char), endsWord c = false →
      (f name).step d c = some (f (name ++ [c]), [])) {cs : List Char}
    (h : ∀ c ∈ cs, endsWord c = false) (name rest : List Char) :
    scan d (f name) (cs ++ rest) = scan d (f (name ++ cs)) rest := by
  induction cs generalizing name with
  | nil => rw [List.nil_append, List.append_nil]
  | cons c cs ih =>
    rw [List.forall_mem_cons] at h
    rw [List.cons_append, scan_step (hf name c h.1), ih h.2, List.append_assoc]
    rfl

theorem ne_of_endsWord {a c : Char} (ha : endsWord a = true) (hc : endsWord c = false) : c ≠ a := by
  rintro rfl
  rw [ha] at hc
  cases hc

theorem step_attrName (tag : String) (attrs : List (String × String)) (name : List Char) (c : Char)
    (h : endsWord c = false) :
    Scan.step d (.attrName tag attrs name) c = some (.attrName tag attrs (name ++ [c]), []) := by
  rw [Scan.step, if_neg (ne_of_endsWord rfl h), h]
  rfl

theorem step_startTag (tag : List Char) (c : Char) (h : endsWord c = false) :
    Scan.step d (.startTag tag) c = some (.startTag (tag ++ [c]), []) := by
  rw [Scan.step, h]
  rfl

theorem step_endTag (tag : List Char) (c : Char) (h : endsWord c = false) :
    Scan.step d (.endTag tag) c = some (.endTag (tag ++ [c]), []) := by
  rw [Scan.step, if_neg (ne_of_endsWord rfl h), h]
  rfl

/-- A way of writing attributes that is read back, each behind a space. -/
def ReadsAttrs (d : Dialect) (write : String × String → List Char) : Prop :=
  ∀ (tag : String) (attrs : List (String × String)) (p : String × String) (rest : List Char),
    isWord p.1.toList = true →
    scan d (.attrEnd tag attrs) (' ' :: (write p ++ rest))
      = scan d (.attrEnd tag (attrs ++ [p])) rest

theorem scan_attr {tag : String} {attrs : List (String × String)} {name : String}
    (h : isWord name.toList = true) {quote : Char} (hquote : d.quotes.contains quote = true)
    {value : String} {written rest : List Char}
    (hvalue : scan d (.attrValue tag attrs name quote []) (written ++ quote :: rest)
      = scan d (.attrEnd tag (attrs ++ [(name, value)])) rest) :
    scan d (.attrEnd tag attrs)
        (' ' :: (name.toList ++ '=' :: quote :: (written ++ quote :: rest)))
      = scan d (.attrEnd tag (attrs ++ [(name, value)])) rest := by
  have hequals : Scan.step d (.attrName tag attrs name.toList) '='
      = some (.attrEquals tag attrs name, []) := by
    rw [isWord, Bool.and_eq_true, Bool.not_eq_true'] at h
    rw [Scan.step, if_pos rfl, h.1, String.ofList_toList]
    rfl
  have hopen : Scan.step d (.attrEquals tag attrs name) quote
      = some (.attrValue tag attrs name quote [], []) := by
    rw [Scan.step, if_pos hquote]
  rw [scan_step rfl, scan_word (step_attrName tag attrs) (endsWord_eq_false_of_isWord h),
    List.nil_append, scan_step hequals, scan_step hopen, hvalue]

/-- An attribute between double quotes, with its value escaped. -/
def writtenAttr (p : String × String) : List Char :=
  p.1.toList ++ '=' :: '"' :: (p.2.toList.flatMap escapeChar ++ ['"'])

def writtenAttrs (pairs : List (String × String)) : List Char :=
  pairs.flatMap fun p => ' ' :: writtenAttr p

theorem readsAttrs_writtenAttr (hd : d.quotes.contains '"' = true) :
    ReadsAttrs d writtenAttr := by
  intro tag attrs p rest h
  have hvalue := scan_value (d := d) tag attrs p.1 [] p.2.toList rest
  rw [List.nil_append, String.ofList_toList] at hvalue
  rw [writtenAttr, List.append_assoc, List.cons_append, List.cons_append, List.append_assoc]
  exact scan_attr h hd hvalue

theorem scan_attrs {write : String × String → List Char} (hw : ReadsAttrs d write) (tag : String)
    (attrs pairs : List (String × String)) (h : ∀ p ∈ pairs, isWord p.1.toList = true)
    (rest : List Char) :
    scan d (.attrEnd tag attrs) (pairs.flatMap (fun p => ' ' :: write p) ++ rest)
      = scan d (.attrEnd tag (attrs ++ pairs)) rest := by
  induction pairs generalizing attrs with
  | nil =>
    rw [List.append_nil]
    rfl
  | cons p more ih =>
    rw [List.forall_mem_cons] at h
    rw [List.flatMap_cons, List.append_assoc, List.cons_append, hw tag attrs p _ h.1, ih _ h.2,
      List.append_assoc, List.singleton_append]

theorem scan_behindName (tag : String) {c : Char} (hc : endsWord c = true) (rest : List Char) :
    scan d (.startTag tag.toList) (c :: rest) = scan d (.attrEnd tag []) (c :: rest) := by
  have hstep : Scan.step d (.startTag tag.toList) c = Scan.step d (.attrEnd tag []) c := by
    rw [Scan.step, hc, String.ofList_toList]
    rfl
  rw [scan, scan, hstep]

/-- A start tag up to the character behind its attributes. -/
theorem scan_startTag {write : String × String → List Char} (hw : ReadsAttrs d write) {tag : String}
    (htag : isWord tag.toList = true) {pairs : List (String × String)}
    (h : ∀ p ∈ pairs, isWord p.1.toList = true) {c : Char} (hc : endsWord c = true)
    (rest : List Char) :
    scan d .inText
        ('<' :: (tag.toList ++ (pairs.flatMap (fun p => ' ' :: write p) ++ c :: rest)))
      = scan d (.attrEnd tag pairs) (c :: rest) := by
  have hname : scan d (.startTag tag.toList)
        (pairs.flatMap (fun p => ' ' :: write p) ++ c :: rest)
      = scan d (.attrEnd tag []) (pairs.flatMap (fun p => ' ' :: write p) ++ c :: rest) := by
    cases pairs with
    | nil => exact scan_behindName tag hc rest
    | cons p others => exact scan_behindName tag rfl _
  have hstart : ∀ more : List Char,
      scan d .tagStart (tag.toList ++ more) = scan d (.startTag tag.toList) more := by
    intro more
    have hword := endsWord_eq_false_of_isWord htag
    cases hcs : tag.toList with
    | nil =>
      rw [hcs] at htag
      cases htag
    | cons c cs =>
      rw [hcs, List.forall_mem_cons] at hword
      have hstep : Scan.step d .tagStart c = some (.startTag [c], []) := by
        rw [Scan.step, if_neg (ne_of_endsWord rfl hword.1), hword.1]
        rfl
      rw [List.cons_append, scan_step hstep, scan_word step_startTag hword.2]
      rfl
  rw [scan_step rfl, hstart, hname, scan_attrs hw tag [] pairs h, List.nil_append]

theorem scan_opening {write : String × String → List Char} (hw : ReadsAttrs d write) {tag : String}
    (htag : isWord tag.toList = true) {pairs : List (String × String)}
    (h : ∀ p ∈ pairs, isWord p.1.toList = true) (rest : List Char) :
    scan d .inText
        ('<' :: (tag.toList ++ (pairs.flatMap (fun p => ' ' :: write p) ++ '>' :: rest)))
      = (scan d .inText rest).map (.opening tag pairs :: ·) :=
  (scan_startTag hw htag h rfl rest).trans (scan_emit rfl rest)

theorem scan_closed (hd : d.slash = true) {write : String × String → List Char}
    (hw : ReadsAttrs d write) {tag : String} (htag : isWord tag.toList = true)
    {pairs : List (String × String)} (h : ∀ p ∈ pairs, isWord p.1.toList = true)
    (rest : List Char) :
    scan d .inText
        ('<' :: (tag.toList ++ (pairs.flatMap (fun p => ' ' :: write p) ++ '/' :: '>' :: rest)))
      = (scan d .inText rest).map (.opening tag pairs :: ·) := by
  have hslash : Scan.step d (.attrEnd tag pairs) '/' = some (.slashSeen tag pairs, []) := by
    rw [Scan.step, Scan.inTag, if_neg (by decide), if_neg (by decide), if_pos ⟨rfl, hd⟩]
  rw [scan_startTag hw htag h rfl, scan_step hslash]
  exact scan_emit rfl rest

theorem scan_closing {tag : String} (htag : isWord tag.toList = true) (rest : List Char) :
    scan d .inText ('<' :: '/' :: (tag.toList ++ '>' :: rest))
      = (scan d .inText rest).map (.closing tag :: ·) := by
  have hend : Scan.step d (.endTag tag.toList) '>' = some (.inText, [.closing tag]) := by
    have hne := htag
    rw [isWord, Bool.and_eq_true, Bool.not_eq_true'] at hne
    rw [Scan.step, if_pos rfl, hne.1, String.ofList_toList]
    rfl
  rw [scan_step rfl, scan_step rfl, scan_word step_endTag (endsWord_eq_false_of_isWord htag),
    List.nil_append, scan_emit hend]

end Scanning

/-! ### Trees of what was read -/

theorem addText_empty (done : List Tree) : addText done "" = done := if_pos rfl

theorem addText_addText (done : List Tree) (s t : String) :
    addText (addText done s) t = addText done (s ++ t) := by
  by_cases hs : s = ""
  · rw [hs, addText_empty, String.empty_append]
  by_cases ht : t = ""
  · rw [ht, addText_empty, String.append_empty]
  have hst : s ++ t ≠ "" := by
    intro h
    exact hs (String.append_eq_empty_iff.mp h).1
  cases done with
  | nil => simp only [addText, hs, ht, hst, if_false]
  | cons x before =>
    cases x with
    | text u => simp only [addText, hs, ht, hst, if_false, String.append_assoc]
    | element tag attrs children => simp only [addText, hs, ht, hst, if_false]

theorem grow_chars (frames : List Frame) (done : List Tree) (cs : List Char)
    (more : List Token) :
    grow frames done (cs.map Token.char ++ more)
      = grow frames (addText done (String.ofList cs)) more := by
  induction cs generalizing done with
  | nil =>
    show grow frames done more = grow frames (addText done "") more
    rw [addText_empty]
  | cons c cs ih =>
    have hcons : String.ofList (c :: cs) = String.ofList [c] ++ String.ofList cs := by
      rw [← String.ofList_append, List.singleton_append]
    rw [List.map_cons, List.cons_append, grow, ih, addText_addText, ← hcons]

theorem grow_leaf (frames : List Frame) (done : List Tree) {tag : String}
    (htag : voidTags.contains tag = true) (attrs : List (String × String)) (more : List Token) :
    grow frames done (.opening tag attrs :: more)
      = grow frames (.element tag attrs [] :: done) more := by
  rw [grow, if_pos htag]

theorem grow_element (frames : List Frame) (done : List Tree) {tag : String}
    (htag : voidTags.contains tag = false) (attrs : List (String × String)) {inside : List Token}
    {children : List Tree}
    (h : ∀ (frames : List Frame) (more : List Token),
      grow frames [] (inside ++ more) = grow frames children more) (more : List Token) :
    grow frames done (.opening tag attrs :: (inside ++ .closing tag :: more))
      = grow frames (.element tag attrs children.reverse :: done) more := by
  rw [grow, if_neg (by rw [htag]; exact Bool.false_ne_true), h, grow, if_pos rfl]

end PandocHtml.Html
