import PandocHtml.Console.Command
import PandocHtml.Proofs.Pandoc.Encoding
import PandocHtml.Proofs.Pandoc.StrayDocuments

/-!
# Malformed input

The settings of every request are valid: each option is checked as its value is taken, and the
options that are left out have valid values.  So a run with a readable input gets as far as the
document.  If that is malformed the run reports it with the exit code for parsing; if it is stray
the run reports a bad value, where a number is too long for the host, or ends in the misuse itself.
-/

namespace PandocHtml

namespace Console

open Pandoc

/-! ### Valid settings -/

structure Settings.Valid (s : Settings) : Prop where
  maxDepth : ∀ n, s.maxDepth = some n → 1 ≤ n
  style : s.style ∈ Highlight.styleNames

theorem exists_of_bind_eq_ok {ε α β : Type} {x : Except ε α} {f : α → Except ε β} {b : β}
    (h : x >>= f = .ok b) : ∃ a, x = .ok a ∧ f a = .ok b := by
  cases x with
  | ok a => exact ⟨a, rfl, h⟩
  | error e => cases h

theorem one_le_of_positiveInteger [Host] {s : String} {n : Int} (h : positiveInteger s = .ok n) :
    1 ≤ n := by
  unfold positiveInteger at h
  split at h
  · cases h
  · split at h
    · cases h
    · next hn =>
      obtain rfl := Except.ok.inj h
      exact Int.not_lt.mp hn

theorem mem_of_styleName {s name : String} (h : styleName s = .ok name) :
    name ∈ Highlight.styleNames := by
  unfold styleName at h
  split at h
  · next hs =>
    obtain rfl := Except.ok.inj h
    exact List.contains_iff_mem.mp hs
  · cases h

theorem Settings.valid_standard : Settings.standard.Valid where
  maxDepth n h := by cases h
  style := by decide

namespace Settings.Valid

variable {s s' : Settings}

theorem raise (h : s.Valid) (o : Opt) : (s.raise o).Valid := by
  cases o <;> exact ⟨h.maxDepth, h.style⟩

theorem assign [Host] (h : s.Valid) {o : Opt} {value : String} (hs : s.assign o value = .ok s') :
    s'.Valid := by
  cases o with
  | style =>
    obtain ⟨name, hname, hs⟩ := exists_of_bind_eq_ok hs
    obtain rfl := Except.ok.inj hs
    exact ⟨h.maxDepth, mem_of_styleName hname⟩
  | maxDepth =>
    obtain ⟨n, hn, hs⟩ := exists_of_bind_eq_ok hs
    obtain rfl := Except.ok.inj hs
    exact ⟨fun m hm => Option.some.inj hm ▸ one_le_of_positiveInteger hn, h.style⟩
  | rawMode | logLevel =>
    obtain ⟨_, _, hs⟩ := exists_of_bind_eq_ok hs
    obtain rfl := Except.ok.inj hs
    exact ⟨h.maxDepth, h.style⟩
  | _ =>
    obtain rfl := Except.ok.inj hs
    exact ⟨h.maxDepth, h.style⟩

end Settings.Valid

/-! ### Gathering -/

namespace Gathered

variable {g g' : Gathered}

theorem settings_addValue (g : Gathered) (s : String) : (g.addValue s).settings = g.settings := by
  unfold addValue
  split <;> rfl

theorem valid_addOption [Host] (hg : g.settings.Valid) {o : Opt} {value : String}
    (h : g.addOption o value = .ok g') : g'.settings.Valid := by
  unfold addOption at h
  split at h
  · next settings hs =>
    obtain rfl := Except.ok.inj h
    exact hg.assign hs
  · cases h

theorem valid_addFlag (hg : g.settings.Valid) {o : Opt} (h : g.addFlag o = .ok g') :
    g'.settings.Valid := by
  unfold addFlag at h
  split at h
  · cases h
  · cases h
  · obtain rfl := Except.ok.inj h
    exact hg.raise _

end Gathered

/-- What is gathered from a command line stays valid with each of its words. -/
theorem valid_gather [Host] {g g' : Gathered} {arguments : List Argument} (hg : g.settings.Valid)
    (h : gather g arguments = .ok g') : g'.settings.Valid := by
  induction g, arguments using gather.induct with
  | case1 g => exact Except.ok.inj h ▸ hg
  | case2 g s rest hinput ih =>
    rw [gather, if_pos hinput] at h
    exact ih (g.settings_addValue s ▸ hg) h
  | case3 g s rest hinput ih =>
    rw [gather, if_neg hinput] at h
    exact ih (g.settings_addValue s ▸ hg) h
  | case4 g s rest hrest ih =>
    rw [gather.eq_3 _ _ _ hrest] at h
    exact ih (g.settings_addValue s ▸ hg) h
  | case5 g rest hinput ih =>
    rw [gather, if_pos hinput] at h
    exact ih hg h
  | case6 g rest hinput ih =>
    rw [gather, if_neg hinput] at h
    exact ih hg h
  | case7 g s rest ih =>
    rw [gather] at h
    exact ih hg h
  | case8 g o value rest htakes ih =>
    rw [gather, if_pos htakes] at h
    obtain ⟨g₁, hg₁, h⟩ := exists_of_bind_eq_ok h
    exact ih g₁ (Gathered.valid_addOption hg hg₁) h
  | case9 g o value rest htakes =>
    rw [gather, if_neg htakes] at h
    cases h
  | case10 g o htakes s later ih =>
    rw [gather, if_pos htakes] at h
    obtain ⟨g₁, hg₁, h⟩ := exists_of_bind_eq_ok h
    exact ih g₁ (Gathered.valid_addOption hg hg₁) h
  | case11 g o rest htakes hrest =>
    rw [gather, if_pos htakes] at h
    · cases h
    · exact hrest
  | case12 g o rest htakes ih =>
    have hflag : gather g (.option o none :: rest) = g.addFlag o >>= fun g₁ => gather g₁ rest := by
      rw [gather.eq_def]
      exact if_neg htakes
    rw [hflag] at h
    obtain ⟨g₁, hg₁, h⟩ := exists_of_bind_eq_ok h
    exact ih g₁ (Gathered.valid_addFlag hg hg₁) h

theorem Request.valid_ofWords [Host] {words : List String} {r : Request}
    (h : Request.ofWords words = .ok r) :
    r.settings.Valid := by
  unfold Request.ofWords at h
  split at h
  · cases h
  · obtain ⟨g, hgather, h⟩ := exists_of_bind_eq_ok h
    have hg := valid_gather (g := .start) Settings.valid_standard hgather
    split at h
    · cases h
    · obtain rfl := Except.ok.inj h
      exact hg
    · cases h

/-! ### The renderer of a request -/

theorem exists_limit [Host] {n : Int} (h : 1 ≤ n) : ∃ l, Limit.ofJson (.int n) = .ok (some l) := by
  have hn : ¬ n < 1 := Int.not_lt.mpr h
  exact ⟨_, if_neg hn⟩

theorem exists_ofTable [Host] {t : OptionTable} {limit : Option Limit} {mode : RawMode}
    (hlimit : Limit.ofJson (t.get "max_depth") = .ok limit)
    (hmode : RawMode.ofJson "raw_mode" (t.get "raw_mode") = .ok mode) :
    ∃ o, PageOptions.ofTable t = .ok o ∧ o.style = t.get "pygments_style" :=
  ⟨_, bind_of_ok hlimit (bind_of_ok hmode rfl), rfl⟩

/-- The options of a page that settings ask for, as a table. -/
def Settings.table (s : Settings) : OptionTable :=
  [("max_depth", (s.maxDepth.map Json.int).getD .null), ("standalone", .bool s.standalone),
   ("language", .str s.language), ("title", (s.title.map Json.str).getD .null),
   ("template_file", (s.template.map Json.str).getD .null), ("raw_mode", .str s.rawMode.name),
   ("highlight", .bool s.highlight), ("pygments_style", .str s.style), ("config", .null)]

theorem pageOptions_eq [Host] (s : Settings) :
    s.pageOptions = do return { (← PageOptions.ofTable s.table) with rules := none } := rfl

theorem exists_pageOptions [Host] {s : Settings} (h : s.Valid) :
    ∃ o, s.pageOptions = .ok o ∧ o.style = .str s.style ∧ o.rules = none := by
  have hmode : RawMode.ofJson "raw_mode" (s.table.get "raw_mode") = .ok s.rawMode := by
    show RawMode.ofJson "raw_mode" (.str s.rawMode.name) = .ok s.rawMode
    cases s.rawMode <;> rfl
  have hlimit : ∃ limit, Limit.ofJson (s.table.get "max_depth") = .ok limit := by
    show ∃ limit, Limit.ofJson ((s.maxDepth.map Json.int).getD .null) = .ok limit
    cases hd : s.maxDepth with
    | none => exact ⟨none, rfl⟩
    | some n =>
      obtain ⟨l, hl⟩ := exists_limit (h.maxDepth n hd)
      exact ⟨some l, hl⟩
  obtain ⟨limit, hlimit⟩ := hlimit
  obtain ⟨o, ho, hstyle⟩ := exists_ofTable hlimit hmode
  rw [pageOptions_eq]
  exact ⟨{ o with rules := none }, bind_of_ok ho rfl, hstyle, rfl⟩

theorem exists_style {name : String} (h : name ∈ Highlight.styleNames) :
    ∃ style, Highlight.style? name = some style := by
  unfold Highlight.style?
  split
  · exact ⟨_, rfl⟩
  · split
    · exact ⟨_, rfl⟩
    · rw [if_pos (List.contains_iff_mem.mpr h)]
      exact ⟨_, rfl⟩

theorem exists_renderer [Host] {s : Settings} (h : s.Valid) :
    ∃ o renderer, s.pageOptions = .ok o ∧ PageRenderer.ofOptions o = .ok renderer := by
  obtain ⟨o, ho, hstyle, hrules⟩ := exists_pageOptions h
  obtain ⟨style, hname⟩ := exists_style h.style
  have hstyleOf : PageRenderer.styleOf o = .ok style := by
    rw [PageRenderer.styleOf, hstyle]
    simp only [hname]
  have hrenderer : ∃ renderer, PageRenderer.ofOptions o = .ok renderer := by
    rw [PageRenderer.ofOptions, hrules]
    dsimp only
    split
    · exact ⟨_, bind_of_ok hstyleOf rfl⟩
    · exact ⟨_, rfl⟩
  obtain ⟨renderer, hrenderer⟩ := hrenderer
  exact ⟨o, renderer, ho, hrenderer⟩

/-! ### Runs -/

variable {around : Surroundings} {r : Request} {bytes : List UInt8} {f : Fault}

theorem bind_eq_of_ok {ε α β : Type} {x : Except ε α} {a : α} {g : α → Except ε β}
    (hx : x = .ok a) : x >>= g = g a := by
  rw [hx]
  rfl

/-- A request whose input cannot be read as a document makes nothing else. -/
theorem outcome_make [Host] (hs : r.settings.Valid) (hbytes : inputBytes around r.input = .ok bytes)
    (hf : (Document.ofBytes bytes).outcome = .error f) : (make around r).outcome = .error f := by
  obtain ⟨o, renderer, ho, hrenderer⟩ := exists_renderer hs
  unfold make
  simp only [Traced.outcome_bind, Traced.outcome_lift]
  rw [bind_eq_of_ok ho, bind_eq_of_ok hrenderer, bind_eq_of_ok hbytes, hf]
  rfl

/-- A run with a readable input that is no document ends as the kind of the fault has it: with a
report, or with the fault itself. -/
theorem run_of_fault [Host] {words : List String} (hr : Request.ofWords words = .ok r)
    (hbytes : inputBytes around r.input = .ok bytes)
    (hf : (Document.ofBytes bytes).outcome = .error f) :
    (f.kind.isReported = true → ∃ report, run around words = .ok report
        ∧ report.exitCode = f.kind.exitCode ∧ report.output = "" ∧ report.page = none
        ∧ report.messages.getLast? = some ("Error: " ++ f.message))
      ∧ (f.kind.isReported = false → run around words = .error f) := by
  have hmake := outcome_make (Request.valid_ofWords hr) hbytes hf
  have hrun : run around words = r.run around := by
    rw [run, hr]
  rw [hrun, Request.run]
  simp only [hmake]
  constructor
  · intro hreported
    rw [if_pos hreported]
    refine ⟨_, rfl, rfl, rfl, rfl, ?_⟩
    simp only [List.getLast?_append, List.getLast?_singleton, Option.some_or]
  · intro hescapes
    rw [hescapes]
    exact if_neg Bool.false_ne_true

end Console

open Console Pandoc

/-- A value, or the text of one, that is no document but is used as one, or that holds a whole
number that is too long. -/
def StrayInput [Host] : Json → Way → Prop
  | .str s => StrayText s.toList
  | v => StrayDocument v

theorem straysIff_ofJson [Host] (v : Json) :
    StraysIff (Document.ofJson v).outcome (StrayInput v) := by
  cases v with
  | str s => exact straysIff_ofText s.toList
  | _ => exact straysIff_ofJsonValue _

/-- What becomes of malformed input.  A value, a text or bytes that are read as no document have a
fault of parsing, except where the input is stray: exactly then it is a misuse, or the number that
is too long.  A run of the command with a readable input that is read as no document reports a fault
of parsing with exit code 6, and a number that is too long with exit code 3, and shows nothing else;
a misuse is not reported and ends the run.  The host has room for any nesting. -/
theorem malformed_input_reported [Host] (v : Json) (bytes : List UInt8) :
    StraysIff (Document.ofJson v).outcome (StrayInput v)
    ∧ StraysIff (Document.ofBytes bytes).outcome (StrayBytes bytes)
    ∧ ∀ (around : Surroundings) (words : List String) (r : Request) (f : Fault),
      Request.ofWords words = .ok r → inputBytes around r.input = .ok bytes →
      (Document.ofBytes bytes).outcome = .error f →
      ((∀ way, ¬ StrayBytes bytes way) → f.kind = .parsing
        ∧ ∃ report, run around words = .ok report ∧ report.exitCode = 6 ∧ report.output = ""
          ∧ report.page = none ∧ report.messages.getLast? = some ("Error: " ++ f.message))
      ∧ (StrayBytes bytes .overlong → f.kind = .badValue
        ∧ ∃ report, run around words = .ok report ∧ report.exitCode = 3 ∧ report.output = ""
          ∧ report.page = none ∧ report.messages.getLast? = some ("Error: " ++ f.message))
      ∧ (StrayBytes bytes .misused → run around words = .error f) := by
  refine ⟨straysIff_ofJson v, straysIff_ofBytes bytes, ?_⟩
  intro around words r f hr hbytes hf
  obtain ⟨hreported, hescapes⟩ := run_of_fault hr hbytes hf
  have hends := straysIff_ofBytes bytes
  rw [hf] at hends
  rcases hends with ⟨hkind, hnone⟩ | ⟨way, hfits, hway⟩
  · rw [hkind] at hreported
    exact ⟨fun _ => ⟨hkind, hreported rfl⟩, fun h => absurd h (hnone _),
      fun h => absurd h (hnone _)⟩
  · refine ⟨fun h => absurd ((hway way).mpr rfl) (h way), fun hlong => ?_, fun hmisused => ?_⟩
    · obtain rfl := (hway _).mp hlong
      obtain ⟨count, rfl⟩ := hfits
      exact ⟨rfl, hreported rfl⟩
    · obtain rfl := (hway _).mp hmisused
      obtain ⟨how, rfl⟩ := hfits
      exact hescapes rfl

/-- Nothing but a text on the standard input, one byte for each of its characters. -/
def piped (text : List Char) : Surroundings where
  files := fun _ => .absent
  writable := fun _ => false
  input := text.map fun c => UInt8.ofNat c.toNat
  time := ""

def emptyObject : List Char := ['\x7b', '\x7d']

/-- An object whose field for the blocks is `null`. -/
def nullBlocks : List Char :=
  ['\x7b', '"', 'b', 'l', 'o', 'c', 'k', 's', '"', ':', 'n', 'u', 'l', 'l', '\x7d']

/-- A whole number of two digits. -/
def twoDigits : List Char := ['1', '2']

/-- A host on which whole numbers have one digit. -/
@[reducible] def narrowHost : Host := ⟨some 1⟩

theorem ofWords_dash [Host] : Request.ofWords ["-"] = .ok ⟨"-", .standard⟩ := by
  with_unfolding_all rfl

theorem outcome_ofBytes_piped [Host] {text : List Char} {r : Except Json.ReadFault Json}
    (hdecode : Text.decodeBytes (piped text).input = some (text.map Text.Point.char))
    (hread : Json.readPoints (text.map Text.Point.char) = r) :
    (Document.ofBytes (piped text).input).outcome
      = (Document.ofRead (text.map Text.Point.char) r).outcome := by
  rw [Document.ofBytes, hdecode]
  simp only [hread]

theorem outcome_ofBytes_empty :
    (Document.ofBytes (piped emptyObject).input).outcome = .error .noBlocks := by
  have hread : Json.readPoints (emptyObject.map Text.Point.char) = .ok (.obj []) := by
    with_unfolding_all rfl
  rw [outcome_ofBytes_piped rfl hread]
  rfl

theorem outcome_ofBytes_nullBlocks :
    (Document.ofBytes (piped nullBlocks).input).outcome = .error (.misuse .iterated) := by
  have hread : Json.readPoints (nullBlocks.map Text.Point.char)
      = .ok (.obj [("blocks", .null)]) := by
    with_unfolding_all rfl
  rw [outcome_ofBytes_piped rfl hread]
  rfl

theorem readPoints_twoDigits :
    @Json.readPoints narrowHost (twoDigits.map Text.Point.char) = .error (.overlong 2) := by
  with_unfolding_all rfl

theorem malformed_input_reported_piped :
    ((∀ way, ¬ StrayBytes (piped emptyObject).input way)
      ∧ ∃ report, run (piped emptyObject) ["-"] = .ok report ∧ report.exitCode = 6)
    ∧ (StrayBytes (piped nullBlocks).input .misused
      ∧ run (piped nullBlocks) ["-"] = .error (.misuse .iterated))
    ∧ @StrayBytes narrowHost (piped twoDigits).input .overlong
      ∧ ∃ report, @run narrowHost (piped twoDigits) ["-"] = .ok report ∧ report.exitCode = 3 := by
  refine ⟨?_, ?_, ?_⟩
  · obtain ⟨_, hends, hruns⟩ := malformed_input_reported (.obj []) (piped emptyObject).input
    rw [outcome_ofBytes_empty] at hends
    have hplain : ∀ way, ¬ StrayBytes (piped emptyObject).input way := by
      rcases hends with ⟨_, hnone⟩ | ⟨way, hfits, _⟩
      · exact hnone
      · cases way <;> obtain ⟨_, hfault⟩ := hfits <;> cases hfault
    have hrun := hruns (piped emptyObject) ["-"] _ _ ofWords_dash rfl outcome_ofBytes_empty
    obtain ⟨_, report, hreport, hcode, _⟩ := hrun.1 hplain
    exact ⟨hplain, report, hreport, hcode⟩
  · obtain ⟨_, hends, hruns⟩ :=
      malformed_input_reported (.obj [("blocks", .null)]) (piped nullBlocks).input
    rw [outcome_ofBytes_nullBlocks] at hends
    have hstray : StrayBytes (piped nullBlocks).input .misused := by
      rcases hends with ⟨hkind, _⟩ | ⟨way, hfits, hway⟩
      · cases hkind
      · cases way with
        | misused => exact (hway .misused).mpr rfl
        | overlong =>
          obtain ⟨_, hfault⟩ := hfits
          cases hfault
    have hrun := hruns (piped nullBlocks) ["-"] _ _ ofWords_dash rfl outcome_ofBytes_nullBlocks
    exact ⟨hstray, hrun.2.2 hstray⟩
  · obtain ⟨_, hends, hruns⟩ :=
      @malformed_input_reported narrowHost (.int 12) (piped twoDigits).input
    have hstray : @StrayBytes narrowHost (piped twoDigits).input .overlong := by
      refine ⟨twoDigits.map Text.Point.char, rfl, ?_⟩
      rw [readPoints_twoDigits]
      rfl
    have houtcome := @outcome_ofBytes_piped narrowHost _ _ rfl readPoints_twoDigits
    have hrun := hruns (piped twoDigits) ["-"] _ _ (@ofWords_dash narrowHost) rfl houtcome
    obtain ⟨_, report, hreport, hcode, _⟩ := hrun.2.1 hstray
    exact ⟨hstray, report, hreport, hcode⟩

/-- A document whose blocks are `null` is no document, and yet no fault of parsing: it ends the
run. -/
theorem nullBlocks_escape :
    (Document.ofJson (.obj [("blocks", .null)])).outcome = .error (.misuse .iterated)
    ∧ (Fault.misuse .iterated).kind ≠ .parsing
    ∧ run (piped nullBlocks) ["-"] = .error (.misuse .iterated) :=
  ⟨rfl, by decide, (run_of_fault ofWords_dash rfl outcome_ofBytes_nullBlocks).2 rfl⟩

end PandocHtml
