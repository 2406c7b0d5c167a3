import Mathlib.Data.List.Infix
import Showcase.Proofs.Script.Heading

/-!
# Which declaration is the component

Code of declarations, each on a line of its own: functions, constants with an arrow function, with a function expression,
and with an arrow and nothing but an expression behind it. No pattern for a component finds anything inside of such a line,
so each pattern finds the first declaration that is written its way. The component is the first with a capital and a body;
only if there is none it is the first function, and only then the first constant with an arrow.
-/

namespace Showcase.Script

open Pattern

/-! ## Declarations -/

/-- The ways to write a declaration. -/
inductive Style where
  /-- A function with its body. -/
  | function
  /-- A constant with an arrow and a body behind it. -/
  | arrow
  /-- A constant with an arrow and an expression behind it. -/
  | concise
  /-- A constant with a function expression. -/
  | expression
deriving DecidableEq, Repr

namespace Style

def keyword : Style → String
  | function => "function"
  | arrow | concise | expression => "const"

/-- What stands between the name and the parameters. -/
def joint : Style → String
  | function => "("
  | arrow | concise => " = ("
  | expression => " = function ("

/-- What stands between the parameters and the contents. -/
def turn : Style → String
  | function | expression => ") \x7b "
  | arrow => ") => \x7b "
  | concise => ") => "

/-- What stands behind the contents. -/
def closing : Style → String
  | function => " \x7d"
  | arrow | expression => " \x7d;"
  | concise => ";"

end Style

/-- A text begins with the head of a declaration. -/
def OpensDeclaration (text : List Char) : Prop := ∃ heading : Heading, heading.written <+: text

/-- No head of a declaration stands in a text. -/
def IsQuiet (s : List Char) : Prop := ∀ earlier later, s = earlier ++ later → ¬OpensDeclaration later

/-- A declaration on a line of its own. Among its parameters and in its contents nothing is declared, its parameters end at
the first closing parenthesis, and an expression behind an arrow does not begin with a brace. -/
structure Declaration where
  style : Style
  name : List Char
  parameters : List Char
  contents : List Char
  isName : IsName name
  isClosed : ')' ∉ parameters
  isQuiet_parameters : IsQuiet parameters
  isQuiet_contents : IsQuiet contents
  isConcise : style = .concise → (contents.dropWhile Text.isBlank).head? ≠ some '{'

namespace Declaration

variable (d : Declaration)

/-- What stands behind the part between the name and the parameters. -/
def body : List Char :=
  d.parameters ++ (d.style.turn.toList ++ (d.contents ++ d.style.closing.toList))

/-- A declaration as it is written. -/
def written : List Char := d.style.keyword.toList ++ (' ' :: (d.name ++ (d.style.joint.toList ++ d.body)))

end Declaration

/-- The code of declarations, one on each line. -/
def codeOf (declarations : List Declaration) : List Char := List.intercalate ['\n'] (declarations.map Declaration.written)

/-! ## Places where nothing is declared -/

/-- From no place in a stretch on the head of a declaration is written, with `rest` behind the stretch. -/
def NoneOpens (s rest : List Char) : Prop :=
  ∀ earlier later, s = earlier ++ later → later ≠ [] → ¬OpensDeclaration (later ++ rest)

theorem NoneOpens.append {first second rest : List Char} (hfirst : NoneOpens first (second ++ rest))
    (hsecond : NoneOpens second rest) : NoneOpens (first ++ second) rest := by
  intro earlier later hsplit hlater
  rcases List.append_eq_append_iff.mp hsplit with ⟨between, -, hbetween⟩ | ⟨between, hbetween, rfl⟩
  · exact hsecond between later hbetween hlater
  · by_cases hempty : between = []
    · rw [hempty, List.nil_append] at hlater ⊢
      exact hsecond [] second rfl hlater
    · rw [List.append_assoc]
      exact hfirst earlier between hbetween hempty

/-- No pattern for a component finds anything there. -/
theorem NoneOpens.passes {s rest : List Char} (h : NoneOpens s rest) {pattern : Pattern}
    (hpattern : pattern ∈ componentPatterns) (before : Option Char) : Passes pattern before s rest := by
  intro earlier later hsplit hlater stretch behind found htext hreads
  obtain ⟨heading, tail, rfl, -⟩ := exists_heading_of_reads hpattern hreads
  apply h earlier later hsplit hlater
  exact ⟨heading, tail ++ behind, by rw [htext, List.append_assoc]⟩

/-- Whether no keyword goes with any end of a text, and none could with more behind it. -/
def isApart (s : List Char) : Bool :=
  s.tails.all fun later => later.isEmpty ||
    headMarks.all fun head => !head.1.toList.isPrefixOf later && !later.isPrefixOf head.1.toList

theorem noneOpens_of_isApart {s : List Char} (h : isApart s = true) (rest : List Char) : NoneOpens s rest := by
  rintro earlier later rfl hlater ⟨heading, hwritten⟩
  have hkeyword : heading.keyword.toList <+: later ++ rest := (List.prefix_append _ _).trans hwritten
  have hend := List.all_eq_true.mp h later ((List.mem_tails _ _).mpr (List.suffix_append earlier later))
  rw [List.isEmpty_eq_false_iff.mpr hlater, Bool.false_or] at hend
  have hapart := List.all_eq_true.mp hend _ heading.isHead
  simp only [Bool.and_eq_true, Bool.not_eq_true', ← Bool.not_eq_true, List.isPrefixOf_iff_prefix] at hapart
  rcases List.prefix_or_prefix_of_prefix hkeyword (List.prefix_append later rest) with hprefix | hprefix
  · exact hapart.1 hprefix
  · exact hapart.2 hprefix

/-- In a name nothing is declared if no other name follows it. -/
theorem noneOpens_name {run space rest : List Char} {c : Char} (hrun : ∀ c ∈ run, isNamePart c = true)
    (hspace : ∀ c ∈ space, Text.isBlank c = true) (hname : isNamePart c = false) (hblank : Text.isBlank c = false) :
    NoneOpens run (space ++ c :: rest) := by
  rintro earlier later rfl hlater ⟨heading, tail, hsplit⟩
  have hpart : ∀ d ∈ later, isNamePart d = true := fun d hd => hrun d (List.mem_append_right earlier hd)
  -- the keyword is the end of the name, and behind the blanks another name would have to follow
  rw [heading.written_append] at hsplit
  obtain ⟨-, hsplit⟩ := Text.stretch_unique heading.isNamePart_keyword hpart (heading.head_gap _)
    (head_blanks hspace hname rest) hsplit
  obtain ⟨-, hsplit⟩ := Text.stretch_unique heading.isBlank_gap hspace (heading.isName.head_isBlank _)
    (Text.of_head_cons hblank rest) hsplit
  have hstart := heading.isName.head _ c (by rw [hsplit, List.head?_cons])
  rw [isNamePart_of_isNameStart hstart] at hname
  cases hname

/-- Whether a character stands in no head of a declaration. -/
def isStop (c : Char) : Bool := !isNamePart c && !Text.isBlank c && headMarks.all fun head => head.2 != c

theorem Heading.not_mem_written (heading : Heading) {c : Char} (hc : isStop c = true) : c ∉ heading.written := by
  simp only [isStop, Bool.and_eq_true, Bool.not_eq_true', List.all_eq_true, bne_iff_ne] at hc
  obtain ⟨⟨hname, hblank⟩, hmarks⟩ := hc
  have hpart : ∀ {s : List Char}, (∀ d ∈ s, isNamePart d = true) → c ∉ s := by
    intro s hs hin
    rw [hs c hin] at hname
    cases hname
  have hspace : ∀ {s : List Char}, (∀ d ∈ s, Text.isBlank d = true) → c ∉ s := by
    intro s hs hin
    rw [hs c hin] at hblank
    cases hblank
  have hmark : c ≠ heading.mark := fun hsame => hmarks _ heading.isHead hsame.symm
  simp only [Heading.written, List.mem_append, List.mem_singleton, not_or]
  exact ⟨hpart heading.isNamePart_keyword, hspace heading.isBlank_gap, hpart heading.isName.isNamePart,
    hspace heading.isBlank_space, hmark⟩

/-- A part at the head of two texts is one of the first text if it does not go on as the second does. -/
theorem prefix_of_prefix_append {α : Type} {w s t : List α} (h : w <+: s ++ t)
    (hw : ∀ more, more ≠ [] → more <+: t → w ≠ s ++ more) : w <+: s := by
  rcases List.prefix_or_prefix_of_prefix h (List.prefix_append s t) with hprefix | ⟨more, rfl⟩
  · exact hprefix
  · by_cases hempty : more = []
    · rw [hempty, List.append_nil]
    · exact absurd rfl (hw more hempty ((List.prefix_append_right_inj s).mp h))

/-- In a quiet text nothing is declared up to a character that stands in no head. -/
theorem noneOpens_of_isQuiet {s space rest : List Char} {c : Char} (h : IsQuiet s)
    (hspace : ∀ c ∈ space, Text.isBlank c = true) (hc : isStop c = true) : NoneOpens s (space ++ c :: rest) := by
  rintro earlier later hsplit - ⟨heading, hwritten⟩
  rw [← List.append_assoc] at hwritten
  -- a head does not go on with the character, and does not end with a blank
  have hbefore : heading.written <+: later ++ space := by
    apply prefix_of_prefix_append hwritten
    rintro more hmore ⟨tail, htail⟩ hsame
    obtain ⟨d, others, rfl⟩ := List.exists_cons_of_ne_nil hmore
    obtain rfl : d = c := (List.cons.inj htail).1
    apply heading.not_mem_written hc
    rw [hsame]
    exact List.mem_append_right _ List.mem_cons_self
  have hprefix : heading.written <+: later := by
    apply prefix_of_prefix_append hbefore
    intro more hmore hblanks hsame
    obtain ⟨others, d, rfl⟩ := (List.eq_nil_or_concat' more).resolve_left hmore
    have hlast := congrArg List.getLast? hsame
    simp only [Heading.written, ← List.append_assoc, List.getLast?_concat, Option.some.injEq] at hlast
    have hblank := hspace d (hblanks.subset (List.mem_append_right others List.mem_cons_self))
    rw [← hlast, heading.mark_not_blank] at hblank
    cases hblank
  exact h earlier later hsplit ⟨heading, hprefix⟩

/-! ## Inside a declaration -/

namespace Style

/-- The blanks between the name and the mark behind it. -/
def space : Style → List Char
  | function => []
  | arrow | concise | expression => [' ']

def mark : Style → Char
  | function => '('
  | arrow | concise | expression => '='

/-- What stands between the mark and the parameters. -/
def lead : Style → String
  | function => ""
  | arrow | concise => " ("
  | expression => " function ("

theorem joint_eq (style : Style) : style.joint.toList = style.space ++ style.mark :: style.lead.toList := by
  cases style <;> decide

theorem noneOpens_joint (style : Style) (rest : List Char) : NoneOpens style.joint.toList rest := by
  cases style with
  | function | arrow | concise => exact noneOpens_of_isApart (by decide) rest
  | expression =>
    -- the word function is no keyword here, since no name follows it
    have hsplit : expression.joint.toList = " = ".toList ++ ("function".toList ++ [' ', '(']) := by decide
    have hword : NoneOpens "function".toList ([' ', '('] ++ rest) :=
      @noneOpens_name _ [' '] rest '(' (Text.forall_mem_of_all (by decide)) Text.isBlank_space (by decide) (by decide)
    have hend : NoneOpens [' ', '('] rest := noneOpens_of_isApart (by decide) rest
    rw [hsplit]
    exact (noneOpens_of_isApart (by decide) _).append (hword.append hend)

end Style

namespace Declaration

variable (d : Declaration)

/-- The head of a declaration. -/
def heading : Heading where
  keyword := d.style.keyword
  gap := [' ']
  name := d.name
  space := d.style.space
  mark := d.style.mark
  isHead := by cases d.style <;> decide
  isBlank_gap := Text.isBlank_space
  ne_nil := List.cons_ne_nil _ _
  isName := d.isName
  isBlank_space := by cases d.style <;> exact Text.forall_mem_of_all (by decide)

theorem heading_function_iff : d.heading.keyword = "function" ↔ d.style = .function := by
  cases hstyle : d.style <;> simp [heading, hstyle, Style.keyword]

theorem heading_constant_iff : d.heading.keyword = "const" ↔ d.style ≠ .function := by
  cases hstyle : d.style <;> simp [heading, hstyle, Style.keyword]

/-- Behind the name of a constant stands its equals sign. -/
theorem heading_mark (h : d.style ≠ .function) : d.heading.mark = '=' := by
  cases hstyle : d.style with
  | function => exact absurd hstyle h
  | arrow | concise | expression => simp [heading, hstyle, Style.mark]

theorem written_eq (rest : List Char) :
    d.written ++ rest = d.heading.written ++ (d.style.lead.toList ++ (d.body ++ rest)) := by
  simp [written, Heading.written, heading, Style.joint_eq]

theorem noneOpens_body (rest : List Char) : NoneOpens d.body rest := by
  have hturn : NoneOpens d.style.turn.toList (d.contents ++ d.style.closing.toList ++ rest) := by
    apply noneOpens_of_isApart
    cases d.style <;> decide
  have hclosing : NoneOpens d.style.closing.toList rest := by
    apply noneOpens_of_isApart
    cases d.style <;> decide
  have hparameters : NoneOpens d.parameters (d.style.turn.toList ++ (d.contents ++ d.style.closing.toList) ++ rest) := by
    obtain ⟨others, hothers⟩ : ∃ others, d.style.turn.toList = ')' :: others := by
      cases d.style <;> exact ⟨_, rfl⟩
    rw [hothers]
    exact @noneOpens_of_isQuiet _ [] _ ')' d.isQuiet_parameters (List.forall_mem_nil _) (by decide)
  have hcontents : NoneOpens d.contents (d.style.closing.toList ++ rest) := by
    cases d.style with
    | function => exact @noneOpens_of_isQuiet _ [' '] rest '\x7d' d.isQuiet_contents Text.isBlank_space (by decide)
    | arrow | expression =>
      exact @noneOpens_of_isQuiet _ [' '] (';' :: rest) '\x7d' d.isQuiet_contents Text.isBlank_space (by decide)
    | concise => exact @noneOpens_of_isQuiet _ [] rest ';' d.isQuiet_contents (List.forall_mem_nil _) (by decide)
  exact hparameters.append (hturn.append (hcontents.append hclosing))

/-- Behind the first character of a declaration nothing else is declared in it. -/
theorem exists_noneOpens : ∃ c others, d.written = c :: others ∧ ∀ rest, NoneOpens others rest := by
  obtain ⟨c, letters, hletters, hapart⟩ : ∃ c letters, d.style.keyword.toList = c :: letters ∧
      isApart (letters ++ [' ']) = true := by
    cases d.style <;> exact ⟨_, _, rfl, by decide⟩
  refine ⟨c, letters ++ [' '] ++ (d.name ++ (d.style.joint.toList ++ d.body)), by simp [written, hletters], ?_⟩
  intro rest
  have hname : NoneOpens d.name (d.style.joint.toList ++ d.body ++ rest) := by
    rw [Style.joint_eq, List.append_assoc, List.append_assoc]
    exact noneOpens_name d.isName.isNamePart d.heading.isBlank_space d.heading.mark_not_namePart
      d.heading.mark_not_blank
  exact (noneOpens_of_isApart hapart _).append (hname.append ((d.style.noneOpens_joint _).append (d.noneOpens_body rest)))

end Declaration

/-! ## Searching declarations -/

/-- A pattern finds the declarations that are written a certain way, and no others. -/
structure Selects (pattern : Pattern) (selected : Declaration → Bool) : Prop where
  isKnown : pattern ∈ componentPatterns
  reads : ∀ d, selected d = true → ∀ before rest, ∃ stretch later found, d.written ++ rest = stretch ++ later ∧
    pattern.Reads before stretch later found
  nothing : ∀ d, selected d = false → ∀ before rest, pattern.ReadsNothing before (d.written ++ rest)

namespace Selects

variable {pattern : Pattern} {selected : Declaration → Bool} {before : Option Char} {offset : Nat}

/-- What is captured at the head of a declaration is its name. -/
theorem captured_of_matchAt (h : Selects pattern selected) {d : Declaration} {rest : List Char} {m : Match}
    (hmatch : pattern.matchAt before offset (d.written ++ rest) = some m) : m.captured 1 = d.name := by
  obtain ⟨stretch, later, found, hsplit, hreads, htells⟩ := reads_of_matchAt hmatch
  obtain ⟨heading, tail, rfl, rfl⟩ := exists_heading_of_reads h.isKnown hreads
  rw [d.written_eq, List.append_assoc] at hsplit
  obtain ⟨rfl, -⟩ := Heading.unique hsplit
  rw [Match.captured, htells.captured?]
  rfl

theorem passes_written (h : Selects pattern selected) {d : Declaration} (hd : selected d = false)
    (before : Option Char) (rest : List Char) : Passes pattern before d.written rest := by
  have hhead := h.nothing d hd before rest
  obtain ⟨c, others, hsplit, hnone⟩ := d.exists_noneOpens
  rw [hsplit] at hhead ⊢
  exact .cons hhead ((hnone rest).passes h.isKnown _)

/-- A search of declarations finds the first that is written the way of the pattern. -/
theorem findFrom_codeOf (h : Selects pattern selected) (declarations : List Declaration) :
    (pattern.findFrom before offset (codeOf declarations)).map (fun m => m.captured 1) =
      (declarations.find? selected).map Declaration.name := by
  have hempty : ∀ {before : Option Char} {offset : Nat}, pattern.findFrom before offset [] = none := by
    intro before offset
    apply matchAt_eq_none.mpr
    intro stretch rest found hsplit hreads
    obtain ⟨heading, tail, rfl, -⟩ := exists_heading_of_reads h.isKnown hreads
    simp [Heading.written] at hsplit
  induction declarations generalizing before offset with
  | nil => rw [codeOf, List.map_nil, List.intercalate_nil, hempty]; rfl
  | cons d declarations ih =>
    -- behind the first declaration stands nothing, or a newline over which nothing is found, and the others
    obtain ⟨tail, htail, hnext⟩ : ∃ tail, codeOf (d :: declarations) = d.written ++ tail ∧
        ∀ {before : Option Char} {offset : Nat}, (pattern.findFrom before offset tail).map (fun m => m.captured 1) =
          (declarations.find? selected).map Declaration.name := by
      cases declarations with
      | nil => exact ⟨[], by simp [codeOf], fun {_ _} => by rw [hempty]; rfl⟩
      | cons e others =>
        refine ⟨['\n'] ++ codeOf (e :: others), ?_, ?_⟩
        · rw [codeOf, List.map_cons, Text.intercalate_cons_of_ne_nil (by simp)]
          rfl
        · intro before offset
          have hnewline : NoneOpens ['\n'] (codeOf (e :: others)) := noneOpens_of_isApart (by decide) _
          rw [findFrom_skip (hnewline.passes h.isKnown before)]
          exact ih
    rw [htail, List.find?_cons]
    cases hd : selected d with
    | true =>
      obtain ⟨stretch, later, found, hsplit, hreads⟩ := h.reads d hd before tail
      obtain ⟨m, hmatch⟩ := exists_matchAt hreads offset
      rw [← hsplit] at hmatch
      rw [findFrom_of_matchAt hmatch, Option.map_some, h.captured_of_matchAt hmatch, Option.map_some]
    | false =>
      rw [findFrom_skip (h.passes_written hd before tail)]
      exact hnext

end Selects

/-! ## What the patterns find -/

namespace Declaration

variable {d : Declaration} {rest : List Char}

/-- The only head that a declaration begins with is its own. -/
theorem heading_unique {heading : Heading} {tail later : List Char}
    (h : d.written ++ rest = heading.written ++ tail ++ later) :
    heading = d.heading ∧ tail ++ later = d.style.lead.toList ++ (d.body ++ rest) := by
  rw [d.written_eq, List.append_assoc] at h
  obtain ⟨hheading, htail⟩ := Heading.unique h
  exact ⟨hheading.symm, htail.symm⟩

/-- The declaration of a function is read up to its body. -/
theorem exists_reads_functionNamed {name : Pattern} {kind : List Char → Prop} (hname : Captures name kind)
    (hkind : ∀ {s}, kind s → IsName s) (hstyle : d.style = .function) (hd : kind d.name) (before : Option Char)
    (rest : List Char) : ∃ stretch later found, d.written ++ rest = stretch ++ later ∧
      (functionNamed name).Reads before stretch later found := by
  refine ⟨d.heading.written ++ (d.parameters ++ ')' :: ([' '] ++ ['\x7b'])), ' ' :: (d.contents ++ " \x7d".toList ++ rest), _,
    ?_, (reads_functionNamed_iff hname hkind).mpr ⟨d.heading, _, rfl, ?_, hd, ⟨d.parameters, [' '], rfl, d.isClosed,
      by decide⟩, rfl⟩⟩
  · rw [d.written_eq]
    simp [hstyle, Style.lead, body, Style.turn, Style.closing]
  · exact d.heading_function_iff.mpr hstyle

/-- Only the declaration of a function is read as one. -/
theorem style_of_reads_functionNamed {name : Pattern} {kind : List Char → Prop} (hname : Captures name kind)
    (hkind : ∀ {s}, kind s → IsName s) {before : Option Char} {stretch later : List Char} {found : List (Nat × List Char)}
    (hsplit : d.written ++ rest = stretch ++ later) (h : (functionNamed name).Reads before stretch later found) :
    d.style = .function ∧ kind d.name := by
  obtain ⟨heading, tail, rfl, hkeyword, hlabel, -, -⟩ := (reads_functionNamed_iff hname hkind).mp h
  obtain ⟨rfl, -⟩ := heading_unique hsplit
  exact ⟨d.heading_function_iff.mp hkeyword, hlabel⟩

/-- The declaration of a constant is read as far as the others read behind its equals sign. -/
theorem exists_reads_constant {name : Pattern} {kind : List Char → Prop} {others : List Pattern} {opening later : List Char}
    (hname : Captures name kind) (hkind : ∀ {s}, kind s → IsName s) (hothers : (sequence others).IsCaptureless)
    (hstyle : d.style ≠ .function) (hd : kind d.name)
    (hsplit : d.style.lead.toList ++ (d.body ++ rest) = opening ++ later)
    (hreads : (sequence others).Reads (some '=') opening later []) (before : Option Char) :
    ∃ stretch later found, d.written ++ rest = stretch ++ later ∧
      (sequence (literal "const" :: someBlanks :: name :: blanks :: typeAnnotation :: char '=' :: others)).Reads before
        stretch later found := by
  have hkeyword := d.heading_constant_iff.mpr hstyle
  refine ⟨d.heading.written ++ opening, later, [(1, d.name)], ?_, (reads_constant_iff hname hkind hothers).mpr
    ⟨d.heading, opening, rfl, hkeyword, hd, .inl ⟨d.heading_mark hstyle, hreads⟩, rfl⟩⟩
  rw [d.written_eq, hsplit, List.append_assoc]

/-- A constant of whose declaration something is read is no function, and the others read what stands behind its equals
sign. -/
theorem exists_of_isTyped {others : List Pattern} {tail later : List Char} (hkeyword : d.heading.keyword = "const")
    (h : IsTyped others d.heading.mark tail later) :
    d.style ≠ .function ∧ (sequence others).Reads (some '=') tail later [] := by
  have hconstant := d.heading_constant_iff.mp hkeyword
  rcases h with ⟨-, hreads⟩ | ⟨type, behind, hcolon, -⟩
  · exact ⟨hconstant, hreads⟩
  · -- no type stands between the name and the equals sign
    rw [d.heading_mark hconstant] at hcolon
    cases hcolon

end Declaration

section

variable {before : Option Char} {found : List (Nat × List Char)}

/-- Parameters, an arrow and the brace of a body are the opening of a body. -/
theorem reads_bodyOpening_arrow {parameters : List Char} (hclosed : ')' ∉ parameters) (rest : List Char) :
    (sequence bodyOpening).Reads before (" (".toList ++ (parameters ++ ") => \x7b".toList)) rest [] := by
  have harrow : ∀ before rest, (sequence [optional (seq (literal "async") blanks), Script.parameters,
      many (fun c => c != '=' && c != '\x7b') 0, literal "=>", blanks]).Reads before
        ('(' :: (parameters ++ [')']) ++ " => ".toList) rest [] := by
    intro before rest
    rw [reads_optional_cons]
    right
    simp only [reads_parameters_cons, reads_many_cons, reads_literal_cons, reads_blanks_cons, reads_sequence_nil]
    exact ⟨_, _, rfl, ⟨parameters, rfl, hclosed⟩, [' '], "=> ".toList, rfl,
      ⟨Text.forall_mem_of_all (by decide), Nat.zero_le _⟩, [' '], rfl, [' '], [], rfl, Text.isBlank_space, rfl, trivial⟩
  rw [bodyOpening, reads_blanks_cons]
  refine ⟨[' '], '(' :: (parameters ++ [')']) ++ " => ".toList ++ ['\x7b'], by simp, Text.isBlank_space, ?_⟩
  rw [reads_sequence_iff]
  exact ⟨_, ['\x7b'], [], [], rfl, .inr (harrow _ _), by simp [reads_char_cons], rfl⟩

/-- The word function and whatever follows it up to a brace are the opening of a body. -/
theorem reads_bodyOpening_function {joint : List Char} (hjoint : '\x7b' ∉ joint) (rest : List Char) :
    (sequence bodyOpening).Reads before (" function ".toList ++ (joint ++ ['\x7b'])) rest [] := by
  have hfunction : ∀ before rest, (sequence [literal "function", wordEdge, many (· != '\x7b') 0]).Reads before
      ("function".toList ++ (' ' :: joint)) rest [] := by
    intro before rest
    simp only [reads_literal_cons, reads_wordEdge_cons, reads_many_cons, reads_sequence_nil, forall_ne_iff]
    exact ⟨_, rfl, by cases before <;> rfl, ' ' :: joint, [], by simp, ⟨by simpa using hjoint, Nat.zero_le _⟩, rfl, trivial⟩
  rw [bodyOpening, reads_blanks_cons]
  refine ⟨[' '], "function".toList ++ (' ' :: joint) ++ ['\x7b'], by simp, Text.isBlank_space, ?_⟩
  rw [reads_sequence_iff]
  exact ⟨_, ['\x7b'], [], [], rfl, .inl (hfunction _ _), by simp [reads_char_cons], rfl⟩

/-- Parameters and an arrow are the opening of an arrow function. -/
theorem reads_arrowOpening {parameters : List Char} (hclosed : ')' ∉ parameters) (rest : List Char) :
    (sequence arrowOpening).Reads before (" (".toList ++ (parameters ++ ") =>".toList)) rest [] := by
  have hbehind : ∀ before, (sequence [blanks, typeAnnotation, literal "=>"]).Reads before " =>".toList rest [] := by
    intro before
    simp only [reads_blanks_cons, reads_typeAnnotation_cons, reads_literal_cons, reads_sequence_nil]
    exact ⟨[' '], "=>".toList, rfl, Text.isBlank_space, [], _, rfl, .inl rfl, [], rfl, rfl, trivial⟩
  rw [arrowOpening, reads_blanks_cons]
  refine ⟨[' '], '(' :: (parameters ++ [')']) ++ " =>".toList, by simp, Text.isBlank_space, ?_⟩
  rw [reads_optional_cons]
  right
  rw [reads_sequence_iff]
  exact ⟨_, " =>".toList, [], [], rfl, .inl (reads_parameters_iff.mpr ⟨⟨parameters, rfl, hclosed⟩, rfl⟩), hbehind _, rfl⟩

/-- What may begin with the word async begins with it, or is what the others read. -/
theorem reads_async_cons {others : List Pattern} {stretch rest : List Char}
    (h : (sequence (optional (seq (literal "async") blanks) :: others)).Reads before stretch rest found) :
    (∃ tail, stretch = "async".toList ++ tail) ∨ (sequence others).Reads before stretch rest found := by
  rcases reads_optional_cons.mp h with ⟨_, tail, _, _, rfl, ⟨_, gap, _, _, rfl, hasync, -⟩, -⟩ | hothers
  · obtain ⟨rfl, -⟩ := reads_literal_iff.mp hasync
    exact .inl ⟨gap ++ tail, List.append_assoc ..⟩
  · exact .inr hothers

/-- Behind a space a text begins with one character only. -/
theorem ne_behind_space {gap s t : List Char} {c d : Char} (hgap : ∀ c ∈ gap, Text.isBlank c = true)
    (hc : Text.isBlank c = false) (hd : Text.isBlank d = false) (hne : c ≠ d) : gap ++ c :: s ≠ ' ' :: d :: t := by
  intro hsame
  obtain ⟨-, hbehind⟩ := space_unique hgap (Text.of_head_cons hc s) (Text.of_head_cons hd t) hsame
  exact hne (List.cons.inj hbehind).1

/-- Blanks and a brace do not stand in front of an expression that begins with no brace. -/
theorem ne_brace_of_expression {gap contents later rest : List Char} (hgap : ∀ c ∈ gap, Text.isBlank c = true)
    (hcontents : (contents.dropWhile Text.isBlank).head? ≠ some '\x7b') :
    gap ++ '\x7b' :: later ≠ ' ' :: (contents ++ ';' :: rest) := by
  intro hsame
  have hdrop := congrArg (fun s => (s.dropWhile Text.isBlank).head?) hsame
  have hbrace : Text.isBlank '\x7b' = false := by decide
  have hspace : Text.isBlank ' ' = true := by decide
  have hmark : Text.isBlank ';' = false := by decide
  simp only [List.dropWhile_append_of_pos hgap, List.dropWhile_cons, hbrace, hspace, if_true, if_false,
    List.dropWhile_append, hmark, Bool.false_eq_true, List.head?_cons] at hdrop
  split at hdrop
  · cases hdrop
  · rename_i hne
    rw [List.head?_append_of_ne_nil _ (by simpa using hne)] at hdrop
    exact hcontents hdrop.symm

/-- Behind parameters and an arrow no body is opened by an expression that begins with no brace. -/
theorem not_reads_bodyOpening {parameters contents tail later rest : List Char} (hclosed : ')' ∉ parameters)
    (hcontents : (contents.dropWhile Text.isBlank).head? ≠ some '\x7b')
    (hsplit : tail ++ later = " (".toList ++ (parameters ++ (") => ".toList ++ (contents ++ ';' :: rest)))) :
    ¬(sequence bodyOpening).Reads before tail later found := by
  intro h
  rw [bodyOpening, reads_blanks_cons] at h
  obtain ⟨gap, _, rfl, hgap, h⟩ := h
  obtain ⟨way, last, _, _, rfl, hway, hlast, -⟩ := reads_sequence_iff.mp h
  obtain ⟨_, rfl, rfl, -⟩ := reads_char_cons.mp hlast
  simp only [List.append_assoc] at hsplit
  rcases hway with hfunction | harrow
  · obtain ⟨joint, rfl, -⟩ := reads_literal_cons.mp hfunction
    exact @ne_behind_space _ _ _ 'f' '(' hgap (by decide) (by decide) (by decide) hsplit
  · rcases reads_async_cons harrow with ⟨tail, rfl⟩ | harrow
    · exact @ne_behind_space _ _ _ 'a' '(' hgap (by decide) (by decide) (by decide) hsplit
    · simp only [reads_parameters_cons, reads_many_cons, reads_literal_cons, reads_blanks_cons, reads_sequence_nil] at harrow
      obtain ⟨_, _, rfl, ⟨inside, rfl, hinside⟩, joint, _, rfl, ⟨hjoint, -⟩, _, rfl, space, _, rfl, hspace, rfl, -⟩ := harrow
      have hopen : ∀ c, ('(' :: (parameters ++ (") => ".toList ++ (contents ++ ';' :: rest)))).head? = some c →
          Text.isBlank c = false := Text.of_head_cons (by decide) _
      have hsame : inside ++ ')' :: (joint ++ '=' :: '>' :: (space ++ '\x7b' :: later)) =
          parameters ++ ')' :: ([' '] ++ '=' :: '>' :: (' ' :: (contents ++ ';' :: rest))) := by
        simpa using (space_unique hgap (Text.of_head_cons (by decide) _) hopen hsplit).2
      -- the parameters and the blank before the arrow are the same, so blanks and a brace follow the arrow
      obtain ⟨-, hjoint_same⟩ := Text.stretch_unique (forall_ne_iff.mpr hinside) (forall_ne_iff.mpr hclosed)
        (Text.of_head_cons (by decide) _) (Text.of_head_cons (by decide) _) hsame
      obtain ⟨-, harrow_same⟩ := Text.stretch_unique hjoint (Text.forall_mem_of_all (by decide))
        (Text.of_head_cons (by decide) _) (Text.of_head_cons (by decide) _) (List.cons.inj hjoint_same).2
      exact ne_brace_of_expression hspace hcontents (List.cons.inj (List.cons.inj harrow_same).2).2

/-- Behind the word function and a parenthesis no arrow function is opened. -/
theorem not_reads_arrowOpening {tail later rest : List Char} (hsplit : tail ++ later = " function (".toList ++ rest) :
    ¬(sequence arrowOpening).Reads before tail later found := by
  intro h
  rw [arrowOpening, reads_blanks_cons] at h
  obtain ⟨gap, _, rfl, hgap, h⟩ := h
  rw [List.append_assoc] at hsplit
  rcases reads_async_cons h with ⟨tail, rfl⟩ | h
  · exact @ne_behind_space _ _ _ 'a' 'f' hgap (by decide) (by decide) (by decide) hsplit
  · obtain ⟨head, _, _, _, rfl, hhead, hbehind, -⟩ := reads_sequence_iff.mp h
    simp only [List.append_assoc] at hsplit
    rcases hhead with hparameters | hname
    · obtain ⟨⟨inside, rfl, -⟩, -⟩ := reads_parameters_iff.mp hparameters
      exact @ne_behind_space _ _ _ '(' 'f' hgap (by decide) (by decide) (by decide) hsplit
    · -- the name is the word function, and behind it comes neither a type nor an arrow
      obtain ⟨hlabel, -⟩ := reads_identifier_iff.mp hname
      have hword : ∀ c, ("function (".toList ++ rest).head? = some c → Text.isBlank c = false :=
        Text.of_head_cons (by decide) _
      obtain ⟨-, hsame⟩ := space_unique hgap (hlabel.head_isBlank _) hword hsplit
      simp only [reads_blanks_cons, reads_typeAnnotation_cons, reads_literal_cons, reads_sequence_nil] at hbehind
      obtain ⟨space, _, rfl, hspace, type, _, rfl, htype, _, rfl, rfl, -⟩ := hbehind
      obtain ⟨mark, others, hmarks, hmark⟩ : ∃ mark others, type ++ ("=>".toList ++ []) ++ later = mark :: others ∧
          mark ∈ [':', '='] := by
        rcases htype with rfl | ⟨inside, rfl, -⟩
        · exact ⟨'=', _, rfl, by decide⟩
        · exact ⟨':', _, rfl, by decide⟩
      have hapart : ∀ mark ∈ [':', '='], isNamePart mark = false ∧ Text.isBlank mark = false ∧ mark ≠ '(' :=
          Text.forall_mem_of_all (by decide)
      obtain ⟨hpart, hblank, hne⟩ := hapart mark hmark
      rw [List.append_assoc space, hmarks] at hsame
      obtain ⟨-, hsame⟩ := @Text.stretch_unique isNamePart head "function".toList (space ++ mark :: others)
        (' ' :: '(' :: rest) hlabel.isNamePart (Text.forall_mem_of_all (by decide)) (head_blanks hspace hpart others)
        (Text.of_head_cons (by decide) _) hsame
      exact ne_behind_space hspace hblank (by decide) hne hsame

end

/-! ## Three patterns -/

namespace Declaration

variable (d : Declaration)

/-- The name begins with a capital. -/
def isCapitalized : Bool := d.name.head?.any Text.isCapital

/-- A declaration with a capital and the body of a function. -/
def isComponent : Bool := d.isCapitalized && d.style != .concise

def isFunction : Bool := d.style == .function

/-- A constant that is an arrow function. -/
def isArrow : Bool := d.style == .arrow || d.style == .concise

end Declaration

/-- Behind the equals sign of a constant with a body stands the opening of the body. -/
theorem Declaration.exists_bodyOpening (d : Declaration) (hfunction : d.style ≠ .function) (hconcise : d.style ≠ .concise)
    (rest : List Char) : ∃ opening behind, d.style.lead.toList ++ (d.body ++ rest) = opening ++ behind ∧
      (sequence bodyOpening).Reads (some '=') opening behind [] := by
  cases hstyle : d.style with
  | function => exact absurd hstyle hfunction
  | concise => exact absurd hstyle hconcise
  | arrow =>
    refine ⟨_, ' ' :: (d.contents ++ (d.style.closing.toList ++ rest)), ?_, reads_bodyOpening_arrow d.isClosed _⟩
    simp [hstyle, Style.lead, Declaration.body, Style.turn]
  | expression =>
    -- the first brace is the one that opens the body, or one among the parameters
    have hbrace : '\x7b' ∈ '(' :: (d.body ++ rest) := by
      simp [Declaration.body, hstyle, Style.turn]
    obtain ⟨joint, behind, hjoint, hfirst⟩ := List.eq_append_cons_of_mem hbrace
    refine ⟨_, behind, ?_, reads_bodyOpening_function hfirst _⟩
    have hparenthesis : Style.expression.lead.toList = " function ".toList ++ ['('] := by decide
    rw [hparenthesis, List.append_assoc, List.singleton_append, hjoint]
    simp

theorem selects_isFunction : Selects (functionNamed anyName) Declaration.isFunction where
  isKnown := by simp [componentPatterns]
  reads := by
    intro d hd before rest
    exact Declaration.exists_reads_functionNamed captures_anyName id (by simpa [Declaration.isFunction] using hd) d.isName
      before rest
  nothing := by
    intro d hd before rest stretch later found hsplit hreads
    have hstyle := (Declaration.style_of_reads_functionNamed captures_anyName id hsplit hreads).1
    simp [Declaration.isFunction, hstyle] at hd

theorem selects_isArrow : Selects arrowConstant Declaration.isArrow where
  isKnown := by simp [componentPatterns]
  reads := by
    intro d hd before rest
    obtain ⟨hstyle, hlead, more, hturn⟩ : d.style ≠ .function ∧ d.style.lead = " (" ∧
        ∃ more, d.style.turn.toList = ") =>".toList ++ more := by
      cases hstyle : d.style with
      | arrow | concise => exact ⟨by decide, rfl, _, rfl⟩
      | function | expression => simp [Declaration.isArrow, hstyle] at hd
    refine Declaration.exists_reads_constant captures_anyName id isCaptureless_arrowOpening hstyle d.isName ?_
      (reads_arrowOpening d.isClosed (more ++ (d.contents ++ d.style.closing.toList) ++ rest)) before
    rw [hlead, Declaration.body, hturn]
    simp only [List.append_assoc]
  nothing := by
    intro d hd before rest stretch later found hsplit hreads
    obtain ⟨heading, tail, rfl, hkeyword, -, htyped, -⟩ := reads_arrowConstant_iff.mp hreads
    obtain ⟨rfl, htail⟩ := Declaration.heading_unique hsplit
    obtain ⟨hstyle, hreads⟩ := Declaration.exists_of_isTyped hkeyword htyped
    have hexpression : d.style = .expression := by
      cases hd' : d.style <;> simp_all [Declaration.isArrow]
    rw [hexpression] at htail
    exact not_reads_arrowOpening htail hreads

theorem selects_isComponent :
    Selects (either (functionNamed capitalName) constantWithBody) Declaration.isComponent where
  isKnown := by simp [componentPatterns]
  reads := by
    intro d hd before rest
    simp only [Declaration.isComponent, Bool.and_eq_true, bne_iff_ne] at hd
    obtain ⟨hcapital, hconcise⟩ := hd
    have hname : IsName d.name ∧ IsCapitalized d.name := ⟨d.isName, hcapital⟩
    by_cases hstyle : d.style = .function
    · obtain ⟨stretch, later, found, hsplit, hreads⟩ :=
        Declaration.exists_reads_functionNamed captures_capitalName And.left hstyle hname before rest
      exact ⟨stretch, later, found, hsplit, .inl hreads⟩
    · obtain ⟨opening, behind, hlead, hopening⟩ := d.exists_bodyOpening hstyle hconcise rest
      obtain ⟨stretch, later, found, hsplit, hreads⟩ := Declaration.exists_reads_constant captures_capitalName And.left
        isCaptureless_bodyOpening hstyle hname hlead hopening before
      exact ⟨stretch, later, found, hsplit, .inr hreads⟩
  nothing := by
    intro d hd before rest stretch later found hsplit hreads
    have hcases : ¬(IsCapitalized d.name ∧ d.style ≠ .concise) := by
      simpa [Declaration.isComponent, Declaration.isCapitalized, IsCapitalized] using hd
    rcases hreads with hfunction | hconstant
    · obtain ⟨hstyle, -, hcapital⟩ :=
        Declaration.style_of_reads_functionNamed captures_capitalName And.left hsplit hfunction
      exact hcases ⟨hcapital, by rw [hstyle]; decide⟩
    · -- a constant that is no component is concise, and has no body to be read
      obtain ⟨heading, tail, rfl, hkeyword, ⟨-, hcapital⟩, htyped, -⟩ := reads_constantWithBody_iff.mp hconstant
      obtain ⟨rfl, htail⟩ := Declaration.heading_unique hsplit
      obtain ⟨-, hreads⟩ := Declaration.exists_of_isTyped hkeyword htyped
      have hconcise : d.style = .concise := by
        by_contra hother
        exact hcases ⟨hcapital, hother⟩
      have hexpression : tail ++ later =
          " (".toList ++ (d.parameters ++ (") => ".toList ++ (d.contents ++ ';' :: rest))) := by
        rw [htail, Declaration.body, hconcise]
        simp [Style.lead, Style.turn, Style.closing]
      exact not_reads_bodyOpening d.isClosed (d.isConcise hconcise) hexpression hreads

/-! ## The component -/

/-- The name that is found in the code of declarations: the first with a capital and a body, or else the first function, or
else the first constant that is an arrow function. -/
theorem componentName?_codeOf (declarations : List Declaration) :
    componentName? (String.ofList (codeOf declarations)) =
      ((declarations.find? Declaration.isComponent).or ((declarations.find? Declaration.isFunction).or
        (declarations.find? Declaration.isArrow))).map fun d => String.ofList d.name := by
  have hfind : ∀ {pattern : Pattern} {selected : Declaration → Bool}, Selects pattern selected →
      (pattern.find? (codeOf declarations)).map (fun m => String.ofList (m.captured 1)) =
        (declarations.find? selected).map fun d => String.ofList d.name := by
    intro pattern selected h
    have hnames : (pattern.find? (codeOf declarations)).map (fun m => m.captured 1) = _ := h.findFrom_codeOf declarations
    have hstrings := congrArg (Option.map String.ofList) hnames
    rwa [Option.map_map, Option.map_map] at hstrings
  simp only [componentName?, componentPatterns, String.toList_ofList, List.findSome?_cons, List.findSome?_nil,
    hfind selects_isComponent, hfind selects_isFunction, hfind selects_isArrow]
  cases declarations.find? Declaration.isComponent with
  | some d => rfl
  | none =>
    cases declarations.find? Declaration.isFunction with
    | some d => rfl
    | none => cases declarations.find? Declaration.isArrow <;> rfl

section

variable {earlier later : List Declaration} {d : Declaration} (hd : d.isCapitalized = true)
  (hothers : ∀ other ∈ earlier ++ later, other.isCapitalized = false)

include hd hothers

/-- The only name with a capital is declared once. -/
theorem name_ne_of_capital {other : Declaration} (hother : other ∈ earlier ++ later) :
    some (String.ofList other.name) ≠ some (String.ofList d.name) := by
  intro hsame
  have hcapital := hothers other hother
  rw [Declaration.isCapitalized, String.ofList_injective (Option.some.inj hsame)] at hcapital
  rw [Declaration.isCapitalized, hcapital] at hd
  cases hd

theorem find?_isComponent :
    (earlier ++ d :: later).find? Declaration.isComponent = if d.style = .concise then none else some d := by
  have hnone : ∀ others ⊆ earlier ++ later, others.find? Declaration.isComponent = none := by
    intro others hsubset
    rw [List.find?_eq_none]
    intro other hother
    simp [Declaration.isComponent, hothers other (hsubset hother)]
  rw [List.find?_append, hnone earlier (List.subset_append_left _ _), Option.none_or, List.find?_cons,
    hnone later (List.subset_append_right _ _), Declaration.isComponent, hd]
  cases d.style <;> rfl

/-- With nothing but an expression behind its arrow it is found only if no function is declared and no arrow function before
it. -/
theorem found_concise_iff (hstyle : d.style = .concise) :
    (((earlier ++ d :: later).find? Declaration.isFunction).or
        ((earlier ++ d :: later).find? Declaration.isArrow)).map (fun d => String.ofList d.name) =
          some (String.ofList d.name) ↔
      (∀ other ∈ earlier ++ later, other.style ≠ .function) ∧ ∀ other ∈ earlier, other.isArrow = false := by
  have hfunctions : (earlier ++ d :: later).find? Declaration.isFunction =
      (earlier ++ later).find? Declaration.isFunction := by
    have hd' : d.isFunction = false := by simp [Declaration.isFunction, hstyle]
    rw [List.find?_append, List.find?_append, List.find?_cons, hd']
  have harrows : (earlier ++ d :: later).find? Declaration.isArrow = (earlier.find? Declaration.isArrow).or (some d) := by
    have hd' : d.isArrow = true := by simp [Declaration.isArrow, hstyle]
    rw [List.find?_append, List.find?_cons, hd']
  rw [hfunctions, harrows]
  cases hfunction : (earlier ++ later).find? Declaration.isFunction with
  | some other =>
    -- a function is found before any arrow function
    have hother : other.style = .function := by simpa [Declaration.isFunction] using List.find?_some hfunction
    have hmem := List.mem_of_find?_eq_some hfunction
    simp only [Option.some_or, Option.map_some, name_ne_of_capital hd hothers hmem, false_iff, not_and]
    exact fun hnever => absurd hother (hnever other hmem)
  | none =>
    have hnever : ∀ other ∈ earlier ++ later, other.style ≠ .function := by
      intro other hother
      simpa [Declaration.isFunction] using List.find?_eq_none.mp hfunction other hother
    cases harrow : earlier.find? Declaration.isArrow with
    | some other =>
      have hmem := List.mem_of_find?_eq_some harrow
      simp only [Option.none_or, Option.some_or, Option.map_some,
        name_ne_of_capital hd hothers (List.mem_append_left later hmem), false_iff, not_and]
      intro _ hnone
      have hother := List.find?_some harrow
      rw [hnone other hmem] at hother
      cases hother
    | none =>
      have hnone : ∀ other ∈ earlier, other.isArrow = false := by simpa using harrow
      simp only [Option.none_or, Option.map_some, true_iff]
      exact ⟨hnever, hnone⟩

end

/-- Among declarations of which exactly one has a capital, that one is found if it has the body of a function. With nothing
but an expression behind its arrow it is found only if no function is declared and no arrow function before it. -/
theorem component_located_iff {earlier later : List Declaration} {d : Declaration} (hd : d.isCapitalized = true)
    (hothers : ∀ other ∈ earlier ++ later, other.isCapitalized = false) :
    componentName? (String.ofList (codeOf (earlier ++ d :: later))) = some (String.ofList d.name) ↔
      d.style ≠ .concise ∨
        (∀ other ∈ earlier ++ later, other.style ≠ .function) ∧ ∀ other ∈ earlier, other.isArrow = false := by
  rw [componentName?_codeOf, find?_isComponent hd hothers]
  by_cases hstyle : d.style = .concise
  · rw [if_pos hstyle, Option.none_or, found_concise_iff hd hothers hstyle]
    simp only [hstyle, ne_eq, not_true_eq_false, false_or]
  · rw [if_neg hstyle]
    simp [hstyle]

/-! ## A helper and a component -/

/-- Where no keyword stands, nothing is declared. -/
theorem isQuiet_of_no_keyword {s : List Char} (h : ∀ head ∈ headMarks, ¬head.1.toList <:+: s) : IsQuiet s := by
  rintro earlier later rfl ⟨heading, tail, rfl⟩
  apply h _ heading.isHead
  rw [heading.written_append]
  exact (List.prefix_append _ _).isInfix.trans (List.suffix_append earlier _).isInfix

/-- A declaration whose parameters hold no parenthesis, no brace and no equals sign, and whose contents hold no brace, no
arrow and none of the words function and const. -/
def Declaration.IsPlain (d : Declaration) : Prop :=
  (∀ c ∈ d.parameters, c ∉ "()\x7b\x7d=".toList) ∧ (∀ c ∈ d.contents, c ∉ "\x7b\x7d".toList) ∧
    ∀ part ∈ ["=>", "function", "const"], ¬part.toList <:+: d.contents

/-- A function that is no component: `function helper(a) { b }`. -/
def helper : Declaration where
  style := .function
  name := "helper".toList
  parameters := "a".toList
  contents := "b".toList
  isName := ⟨'h', "elper".toList, rfl, by decide, Text.forall_mem_of_all (by decide)⟩
  isClosed := by decide
  isQuiet_parameters := isQuiet_of_no_keyword (by decide)
  isQuiet_contents := isQuiet_of_no_keyword (by decide)
  isConcise := nofun

/-- A component, written one way or another: `const Card = (p) => p;` where it is concise. -/
def card (style : Style) : Declaration where
  style := style
  name := "Card".toList
  parameters := "p".toList
  contents := "p".toList
  isName := ⟨'C', "ard".toList, rfl, by decide, Text.forall_mem_of_all (by decide)⟩
  isClosed := by decide
  isQuiet_parameters := isQuiet_of_no_keyword (by decide)
  isQuiet_contents := isQuiet_of_no_keyword (by decide)
  isConcise := fun _ => by decide

/-- With a body the component is found behind a helper. -/
theorem component_located_behind_helper :
    componentName? (String.ofList (codeOf [helper, card .arrow])) = some "Card" :=
  (@component_located_iff [helper] [] (card .arrow) (by decide) (by decide)).mpr (.inl nofun)

/-- A component that is nothing but an expression behind an arrow is not found behind a helper: the only capital among the
declared names does not make it the component. -/
theorem not_component_located : ¬∀ (earlier later : List Declaration) (d : Declaration),
    (∀ e ∈ earlier ++ d :: later, e.IsPlain) → d.isCapitalized = true →
      (∀ other ∈ earlier ++ later, other.isCapitalized = false) →
        componentName? (String.ofList (codeOf (earlier ++ d :: later))) = some (String.ofList d.name) := by
  intro h
  have hplain : ∀ e ∈ [helper, card .concise], e.IsPlain := by
    intro e he
    simp only [List.mem_cons, List.not_mem_nil, or_false] at he
    rcases he with rfl | rfl
    · exact ⟨Text.forall_mem_of_all (by decide), Text.forall_mem_of_all (by decide), by decide⟩
    · exact ⟨Text.forall_mem_of_all (by decide), Text.forall_mem_of_all (by decide), by decide⟩
  have hcard := h [helper] [] (card .concise) hplain (by decide) (by decide)
  rw [componentName?_codeOf] at hcard
  exact absurd hcard (by decide)

end Showcase.Script
