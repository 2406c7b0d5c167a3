import Showcase.Proofs.Pattern.Line
import Showcase.Proofs.Pattern.Search
import Showcase.Proofs.Script.Name
import Showcase.Script.Component

/-!
# Heads of declarations

Whatever a component is found by begins with the head of a declaration: a keyword, blanks, a name, and behind the name the
mark that goes on with the declaration. A text begins with one head at most, so the name that is found at a place does not
depend on the way the pattern is matched there.
-/

namespace Showcase.Script

open Pattern

/-! ## Heads -/

/-- The keywords of declarations, and the marks that may stand behind a name declared with each. -/
def headMarks : List (String × Char) := [("function", '('), ("const", ':'), ("const", '=')]

/-- The head of a declaration, up to the mark behind the name. -/
structure Heading where
  keyword : String
  gap : List Char
  name : List Char
  space : List Char
  mark : Char
  isHead : (keyword, mark) ∈ headMarks
  isBlank_gap : ∀ c ∈ gap, Text.isBlank c = true
  ne_nil : gap ≠ []
  isName : IsName name
  isBlank_space : ∀ c ∈ space, Text.isBlank c = true

namespace Heading

/-- A head as it is written. -/
def written (heading : Heading) : List Char :=
  heading.keyword.toList ++ (heading.gap ++ (heading.name ++ (heading.space ++ [heading.mark])))

variable (heading : Heading)

theorem isNamePart_keyword : ∀ c ∈ heading.keyword.toList, isNamePart c = true := by
  have hall : ∀ head ∈ headMarks, head.1.toList.all isNamePart = true := by decide
  exact List.all_eq_true.mp (hall _ heading.isHead)

theorem mark_not_namePart : isNamePart heading.mark = false := by
  have hall : ∀ head ∈ headMarks, isNamePart head.2 = false := by decide
  exact hall _ heading.isHead

theorem mark_not_blank : Text.isBlank heading.mark = false := by
  have hall : ∀ head ∈ headMarks, Text.isBlank head.2 = false := by decide
  exact hall _ heading.isHead

/-- Behind the keyword stand blanks. -/
theorem head_gap (rest : List Char) : ∀ c, (heading.gap ++ rest).head? = some c → isNamePart c = false := by
  obtain ⟨c, others, hgap⟩ := List.exists_cons_of_ne_nil heading.ne_nil
  rw [hgap, List.cons_append]
  exact Text.of_head_cons (isNamePart_of_isBlank (heading.isBlank_gap c (hgap ▸ List.mem_cons_self))) _

/-- Behind the name no character of a name stands. -/
theorem head_space (rest : List Char) :
    ∀ c, (heading.space ++ (heading.mark :: rest)).head? = some c → isNamePart c = false :=
  head_blanks heading.isBlank_space heading.mark_not_namePart rest

theorem written_append (rest : List Char) : heading.written ++ rest =
    heading.keyword.toList ++ (heading.gap ++ (heading.name ++ (heading.space ++ (heading.mark :: rest)))) := by
  simp only [written, List.append_assoc, List.singleton_append]

/-- A text begins with one head at most. -/
theorem unique {first second : Heading} {rest later : List Char} (h : first.written ++ rest = second.written ++ later) :
    first = second ∧ rest = later := by
  rw [written_append, written_append] at h
  obtain ⟨hkeyword, h⟩ := Text.stretch_unique first.isNamePart_keyword second.isNamePart_keyword (first.head_gap _)
    (second.head_gap _) h
  obtain ⟨hgap, h⟩ := Text.stretch_unique first.isBlank_gap second.isBlank_gap (first.isName.head_isBlank _)
    (second.isName.head_isBlank _) h
  obtain ⟨hname, h⟩ := Text.stretch_unique first.isName.isNamePart second.isName.isNamePart (first.head_space _)
    (second.head_space _) h
  obtain ⟨hspace, h⟩ := Text.stretch_unique first.isBlank_space second.isBlank_space
    (Text.of_head_cons first.mark_not_blank _) (Text.of_head_cons second.mark_not_blank _) h
  obtain ⟨hmark, hrest⟩ := List.cons.inj h
  cases first
  cases second
  obtain rfl := String.toList_injective hkeyword
  subst hgap hname hspace hmark
  exact ⟨rfl, hrest⟩

end Heading

/-! ## Names -/

/-- A text begins with a capital letter. -/
def IsCapitalized (s : List Char) : Prop := s.head?.any Text.isCapital = true

/-- A pattern captures names of one kind. -/
def Captures (pattern : Pattern) (kind : List Char → Prop) : Prop :=
  ∀ before stretch rest found, pattern.Reads before stretch rest found ↔ kind stretch ∧ found = [(1, stretch)]

theorem captures_anyName : Captures anyName IsName := by
  intro before stretch rest found
  constructor
  · rintro ⟨inside, hinside, rfl⟩
    obtain ⟨hname, rfl⟩ := reads_identifier_iff.mp hinside
    exact ⟨hname, rfl⟩
  · rintro ⟨hname, rfl⟩
    exact ⟨[], reads_identifier_iff.mpr ⟨hname, rfl⟩, rfl⟩

theorem captures_capitalName : Captures capitalName fun s => IsName s ∧ IsCapitalized s := by
  intro before stretch rest found
  constructor
  · rintro ⟨inside, hinside, rfl⟩
    obtain ⟨first, others, rfl, hfirst, hothers, rfl⟩ := reads_one_many_iff.mp hinside
    exact ⟨⟨⟨first, others, rfl, isNameStart_of_isCapital hfirst, hothers⟩, hfirst⟩, rfl⟩
  · rintro ⟨⟨⟨first, others, rfl, -, hothers⟩, hfirst⟩, rfl⟩
    exact ⟨[], reads_one_many_iff.mpr ⟨first, others, rfl, hfirst, hothers, rfl⟩, rfl⟩

/-! ## Parts of declarations -/

section

variable {before : Option Char} {stretch rest : List Char} {found : List (Nat × List Char)} {others : List Pattern}

/-- Something between parentheses. -/
def IsParameters (s : List Char) : Prop := ∃ inside, s = '(' :: (inside ++ [')']) ∧ ')' ∉ inside

theorem forall_ne_iff {c : Char} {s : List Char} : (∀ d ∈ s, (d != c) = true) ↔ c ∉ s := by
  simp only [bne_iff_ne]
  exact ⟨fun h hin => h c hin rfl, fun h d hd hsame => h (hsame ▸ hd)⟩

theorem reads_parameters_iff : parameters.Reads before stretch rest found ↔ IsParameters stretch ∧ found = [] := by
  simp only [parameters, reads_char_cons, reads_many_cons, reads_sequence_nil, forall_ne_iff]
  constructor
  · rintro ⟨_, rfl, inside, _, rfl, ⟨hinside, -⟩, _, rfl, rfl, rfl⟩
    exact ⟨⟨inside, rfl, hinside⟩, rfl⟩
  · rintro ⟨⟨inside, rfl, hinside⟩, rfl⟩
    exact ⟨_, rfl, inside, [')'], rfl, ⟨hinside, Nat.zero_le _⟩, [], rfl, rfl, rfl⟩

theorem reads_parameters_cons : (sequence (parameters :: others)).Reads before stretch rest found ↔
    ∃ head tail, stretch = head ++ tail ∧ IsParameters head ∧
      (sequence others).Reads (beforeAfter before head) tail rest found :=
  reads_cons_of_silent fun _ _ _ => reads_parameters_iff

/-- A type behind a colon, or nothing. -/
def IsAnnotation (s : List Char) : Prop := s = [] ∨ ∃ inside, s = ':' :: inside ∧ inside ≠ [] ∧ '=' ∉ inside

theorem reads_typeAnnotation_iff : typeAnnotation.Reads before stretch rest found ↔ IsAnnotation stretch ∧ found = [] := by
  constructor
  · rintro (⟨_, inside, _, _, rfl, hcolon, ⟨hinside, hlength, rfl⟩, rfl⟩ | ⟨rfl, rfl⟩)
    · obtain ⟨rfl, rfl⟩ := reads_char_iff.mp hcolon
      exact ⟨.inr ⟨inside, rfl, List.ne_nil_of_length_pos hlength, forall_ne_iff.mp hinside⟩, rfl⟩
    · exact ⟨.inl rfl, rfl⟩
  · rintro ⟨rfl | ⟨inside, rfl, hne, hinside⟩, rfl⟩
    · exact .inr ⟨rfl, rfl⟩
    · exact .inl ⟨[':'], inside, [], [], rfl, reads_char_iff.mpr ⟨rfl, rfl⟩,
        ⟨forall_ne_iff.mpr hinside, List.length_pos_iff.mpr hne, rfl⟩, rfl⟩

theorem reads_typeAnnotation_cons : (sequence <| typeAnnotation :: others).Reads before stretch rest found ↔
    ∃ head tail, stretch = head ++ tail ∧ IsAnnotation head ∧
      (sequence others).Reads (beforeAfter before head) tail rest found :=
  reads_cons_of_silent fun _ _ _ => reads_typeAnnotation_iff

variable {name : Pattern} {kind : List Char → Prop}

/-- A name that is captured, and others that capture nothing. -/
theorem reads_name_cons (hname : Captures name kind) (hothers : (sequence others).IsCaptureless) :
    (sequence (name :: others)).Reads before stretch rest found ↔
      ∃ label tail, stretch = label ++ tail ∧ kind label ∧
        (sequence others).Reads (beforeAfter before label) tail rest [] ∧ found = [(1, label)] := by
  rw [reads_sequence_iff]
  constructor
  · rintro ⟨label, tail, _, later, rfl, hlabel, htail, rfl⟩
    obtain ⟨hkind, rfl⟩ := (hname _ _ _ _).mp hlabel
    obtain rfl := hothers.found_eq_nil htail
    exact ⟨label, tail, rfl, hkind, htail, rfl⟩
  · rintro ⟨label, tail, rfl, hkind, htail, rfl⟩
    exact ⟨label, tail, [(1, label)], [], rfl, (hname _ _ _ _).mpr ⟨hkind, rfl⟩, htail, rfl⟩

/-! ## Declarations -/

/-- What follows the opening parenthesis of a function up to the brace that opens its body. -/
def IsUpToBody (s : List Char) : Prop :=
  ∃ inside joint, s = inside ++ ')' :: (joint ++ ['{']) ∧ ')' ∉ inside ∧ '{' ∉ joint

/-- The declaration of a function is its head and what follows up to its body. -/
theorem reads_functionNamed_iff (hname : Captures name kind) (hkind : ∀ {s}, kind s → IsName s) :
    (functionNamed name).Reads before stretch rest found ↔
      ∃ heading : Heading, ∃ tail, stretch = heading.written ++ tail ∧ heading.keyword = "function" ∧ kind heading.name ∧
        IsUpToBody tail ∧ found = [(1, heading.name)] := by
  have hothers : (sequence [blanks, parameters, many (· != '{') 0, char '{']).IsCaptureless :=
    ⟨trivial, ⟨trivial, trivial, trivial, trivial⟩, trivial, trivial, trivial⟩
  simp only [functionNamed, reads_literal_cons, reads_someBlanks_cons, reads_name_cons hname hothers, reads_blanks_cons,
    reads_parameters_cons, reads_many_cons, reads_char_cons, reads_sequence_nil, forall_ne_iff]
  constructor
  · rintro ⟨_, rfl, gap, _, rfl, ⟨hgap, hne⟩, label, _, rfl, hlabel, ⟨space, _, rfl, hspace, _, _, rfl,
      ⟨inside, rfl, hinside⟩, joint, _, rfl, ⟨hjoint, -⟩, _, rfl, rfl, -⟩, rfl⟩
    refine ⟨⟨"function", gap, label, space, '(', by decide, hgap, hne, hkind hlabel, hspace⟩,
      inside ++ ')' :: (joint ++ ['{']), ?_, rfl, hlabel, ⟨inside, joint, rfl, hinside, hjoint⟩, rfl⟩
    simp [Heading.written]
  · rintro ⟨heading, _, rfl, hkeyword, hlabel, ⟨inside, joint, rfl, hinside, hjoint⟩, rfl⟩
    have hmark : heading.mark = '(' := by simpa [headMarks, hkeyword] using heading.isHead
    rw [heading.written_append, hkeyword, hmark]
    refine ⟨_, rfl, heading.gap, _, rfl, ⟨heading.isBlank_gap, heading.ne_nil⟩, heading.name, _, rfl, hlabel,
      ⟨heading.space, _, rfl, heading.isBlank_space, '(' :: (inside ++ [')']), joint ++ ['{'], ?_, ⟨inside, rfl, hinside⟩,
        joint, ['{'], rfl, ⟨hjoint, Nat.zero_le _⟩, [], rfl, rfl, trivial⟩, rfl⟩
    rw [List.cons_append, List.append_assoc, List.singleton_append]

/-- The type of a constant and what others read behind the equals sign. -/
def IsTyped (others : List Pattern) (mark : Char) (tail rest : List Char) : Prop :=
  (mark = '=' ∧ (sequence others).Reads (some '=') tail rest []) ∨
    ∃ type behind, mark = ':' ∧ tail = type ++ '=' :: behind ∧ type ≠ [] ∧ '=' ∉ type ∧
      (sequence others).Reads (some '=') behind rest []

/-- The declaration of a constant is its head and what follows, of which nothing is captured. -/
theorem reads_constant_iff (hname : Captures name kind) (hkind : ∀ {s}, kind s → IsName s)
    (hothers : (sequence others).IsCaptureless) :
    (sequence (literal "const" :: someBlanks :: name :: blanks :: typeAnnotation :: char '=' :: others)).Reads before
        stretch rest found ↔
      ∃ heading : Heading, ∃ tail, stretch = heading.written ++ tail ∧ heading.keyword = "const" ∧ kind heading.name ∧
        IsTyped others heading.mark tail rest ∧ found = [(1, heading.name)] := by
  have hbehind : (sequence (blanks :: typeAnnotation :: char '=' :: others)).IsCaptureless :=
    ⟨trivial, ⟨⟨trivial, trivial⟩, trivial⟩, trivial, hothers⟩
  simp only [reads_literal_cons, reads_someBlanks_cons, reads_name_cons hname hbehind, reads_blanks_cons,
    reads_typeAnnotation_cons, reads_char_cons]
  constructor
  · rintro ⟨_, rfl, gap, _, rfl, ⟨hgap, hne⟩, label, _, rfl, hlabel, ⟨space, _, rfl, hspace, _, _, rfl, htype, behind, rfl,
      hreads⟩, rfl⟩
    -- the mark behind the name is the equals sign, or the colon of a type
    rcases htype with rfl | ⟨type, rfl, htype, hequals⟩
    · refine ⟨⟨"const", gap, label, space, '=', by decide, hgap, hne, hkind hlabel, hspace⟩, behind, ?_, rfl, hlabel,
        .inl ⟨rfl, hreads⟩, rfl⟩
      simp [Heading.written]
    · refine ⟨⟨"const", gap, label, space, ':', by decide, hgap, hne, hkind hlabel, hspace⟩, type ++ '=' :: behind, ?_,
        rfl, hlabel, .inr ⟨type, behind, rfl, rfl, htype, hequals, hreads⟩, rfl⟩
      simp [Heading.written]
  · rintro ⟨heading, tail, rfl, hkeyword, hlabel, htyped, rfl⟩
    rw [heading.written_append, hkeyword]
    refine ⟨_, rfl, heading.gap, _, rfl, ⟨heading.isBlank_gap, heading.ne_nil⟩, heading.name, _, rfl, hlabel,
      ⟨heading.space, _, rfl, heading.isBlank_space, ?_⟩, rfl⟩
    rcases htyped with ⟨hmark, hreads⟩ | ⟨type, behind, hmark, rfl, hne, hequals, hreads⟩
    · exact ⟨[], heading.mark :: tail, rfl, .inl rfl, tail, by rw [hmark], hreads⟩
    · exact ⟨':' :: type, '=' :: behind, by rw [hmark, List.cons_append], .inr ⟨type, rfl, hne, hequals⟩, behind, rfl,
        hreads⟩

/-! ## Components -/

/-- What stands between the equals sign of a constant and the brace that opens the body of its function. -/
def bodyOpening : List Pattern :=
  [blanks, either (sequence [literal "function", wordEdge, many (· != '{') 0])
    (sequence [optional (seq (literal "async") blanks), parameters, many (fun c => c != '=' && c != '{') 0, literal "=>",
      blanks]), char '{']

/-- What stands between the equals sign of a constant and the arrow of its function. -/
def arrowOpening : List Pattern :=
  [blanks, optional (seq (literal "async") blanks), either parameters identifier, blanks, typeAnnotation, literal "=>"]

theorem isCaptureless_literal (s : String) : (literal s).IsCaptureless := by
  rw [literal]
  induction s.toList with
  | nil => exact trivial
  | cons c chars ih => exact ⟨trivial, ih⟩

theorem isCaptureless_parameters : parameters.IsCaptureless := ⟨trivial, trivial, trivial, trivial⟩

theorem isCaptureless_async : (optional (seq (literal "async") blanks)).IsCaptureless :=
  ⟨⟨isCaptureless_literal "async", trivial⟩, trivial⟩

theorem isCaptureless_bodyOpening : (sequence bodyOpening).IsCaptureless :=
  ⟨trivial, ⟨⟨isCaptureless_literal "function", trivial, trivial, trivial⟩,
    isCaptureless_async, isCaptureless_parameters, trivial, isCaptureless_literal "=>", trivial, trivial⟩, trivial, trivial⟩

theorem isCaptureless_arrowOpening : (sequence arrowOpening).IsCaptureless :=
  ⟨trivial, isCaptureless_async, ⟨isCaptureless_parameters, trivial, trivial⟩, trivial, ⟨⟨trivial, trivial⟩, trivial⟩,
    isCaptureless_literal "=>", trivial⟩

theorem reads_constantWithBody_iff : constantWithBody.Reads before stretch rest found ↔
    ∃ heading : Heading, ∃ tail, stretch = heading.written ++ tail ∧ heading.keyword = "const" ∧
      (IsName heading.name ∧ IsCapitalized heading.name) ∧ IsTyped bodyOpening heading.mark tail rest ∧
        found = [(1, heading.name)] :=
  reads_constant_iff captures_capitalName And.left isCaptureless_bodyOpening

theorem reads_arrowConstant_iff : arrowConstant.Reads before stretch rest found ↔
    ∃ heading : Heading, ∃ tail, stretch = heading.written ++ tail ∧ heading.keyword = "const" ∧ IsName heading.name ∧
      IsTyped arrowOpening heading.mark tail rest ∧ found = [(1, heading.name)] :=
  reads_constant_iff captures_anyName id isCaptureless_arrowOpening

/-- The first pattern for a component finds the head of a declaration and captures its name, which begins with a capital. -/
theorem exists_heading_of_reads_capital
    (h : (either (functionNamed capitalName) constantWithBody).Reads before stretch rest found) :
    ∃ heading : Heading, ∃ tail, stretch = heading.written ++ tail ∧ IsCapitalized heading.name ∧
      found = [(1, heading.name)] := by
  rcases h with hfunction | hconstant
  · obtain ⟨heading, tail, hsplit, -, hname, -, hfound⟩ :=
      (reads_functionNamed_iff captures_capitalName And.left).mp hfunction
    exact ⟨heading, tail, hsplit, hname.2, hfound⟩
  · obtain ⟨heading, tail, hsplit, -, hname, -, hfound⟩ := reads_constantWithBody_iff.mp hconstant
    exact ⟨heading, tail, hsplit, hname.2, hfound⟩

/-- Every pattern for a component finds the head of a declaration and captures its name. -/
theorem exists_heading_of_reads {pattern : Pattern} (hpattern : pattern ∈ componentPatterns)
    (h : pattern.Reads before stretch rest found) :
    ∃ heading : Heading, ∃ tail, stretch = heading.written ++ tail ∧ found = [(1, heading.name)] := by
  simp only [componentPatterns, List.mem_cons, List.not_mem_nil, or_false] at hpattern
  rcases hpattern with rfl | rfl | rfl
  · obtain ⟨heading, tail, hsplit, -, hfound⟩ := exists_heading_of_reads_capital h
    exact ⟨heading, tail, hsplit, hfound⟩
  · obtain ⟨heading, tail, hsplit, -, -, -, hfound⟩ := (reads_functionNamed_iff captures_anyName id).mp h
    exact ⟨heading, tail, hsplit, hfound⟩
  · obtain ⟨heading, tail, hsplit, -, -, -, hfound⟩ := reads_arrowConstant_iff.mp h
    exact ⟨heading, tail, hsplit, hfound⟩

end

/-! ## The located name -/

/-- Some code declares a name, as it is written: behind the word function or const and blanks, with no character of a name
behind it. -/
def Declares (code name : List Char) : Prop :=
  ∃ ahead keyword gap behind, code = ahead ++ (keyword ++ (gap ++ (name ++ behind))) ∧
    keyword ∈ ["function".toList, "const".toList] ∧ ((∀ c ∈ gap, Text.isBlank c = true) ∧ gap ≠ []) ∧
      ∀ c, behind.head? = some c → isNamePart c = false

theorem Heading.declares (heading : Heading) (ahead rest : List Char) :
    Declares (ahead ++ (heading.written ++ rest)) heading.name := by
  have hkeyword : heading.keyword.toList ∈ ["function".toList, "const".toList] := by
    have hall : ∀ head ∈ headMarks, head.1.toList ∈ ["function".toList, "const".toList] := by decide
    exact hall _ heading.isHead
  rw [heading.written_append]
  exact ⟨ahead, heading.keyword.toList, heading.gap, heading.space ++ heading.mark :: rest, rfl, hkeyword,
    ⟨heading.isBlank_gap, heading.ne_nil⟩, heading.head_space rest⟩

/-- What a search for such a pattern captures is the name in a head. -/
theorem exists_heading_of_find? {pattern : Pattern} {holds : Heading → Prop} {text : List Char} {m : Match}
    (hreads : ∀ {before stretch rest found}, pattern.Reads before stretch rest found →
      ∃ heading : Heading, ∃ tail, stretch = heading.written ++ tail ∧ holds heading ∧ found = [(1, heading.name)])
    (hfind : pattern.find? text = some m) :
    ∃ heading : Heading, ∃ ahead rest, text = ahead ++ (heading.written ++ rest) ∧ holds heading ∧
      m.captured 1 = heading.name := by
  obtain ⟨ahead, stretch, rest, found, rfl, hfinds⟩ := exists_finds_of_findFrom hfind
  obtain ⟨heading, tail, rfl, hholds, rfl⟩ := hreads hfinds.reads
  refine ⟨heading, ahead, tail ++ rest, by rw [List.append_assoc], hholds, ?_⟩
  rw [Match.captured, hfinds.tells.captured?]
  rfl

/-- The name of the component stands in the head of a declaration, and begins with a capital if the first pattern occurs
in the code. -/
theorem exists_heading_of_componentName? {code name : String} (h : componentName? code = some name) :
    ∃ heading : Heading, ∃ ahead rest, code.toList = ahead ++ (heading.written ++ rest) ∧ name.toList = heading.name ∧
      ((either (functionNamed capitalName) constantWithBody).Occurs code.toList → IsCapitalized heading.name) := by
  cases hfirst : (either (functionNamed capitalName) constantWithBody).find? code.toList with
  | some m =>
    -- the first pattern finds the name
    rw [componentName?, componentPatterns, List.findSome?_cons, hfirst] at h
    obtain rfl := Option.some.inj h
    obtain ⟨heading, ahead, rest, hcode, hcapital, hname⟩ :=
      @exists_heading_of_find? _ (fun heading => IsCapitalized heading.name) _ _ exists_heading_of_reads_capital hfirst
    exact ⟨heading, ahead, rest, hcode, by rw [String.toList_ofList, hname], fun _ => hcapital⟩
  | none =>
    -- one of the patterns does, and not the first
    obtain ⟨pattern, hpattern, hfound⟩ := List.exists_of_findSome?_eq_some h
    obtain ⟨m, hfind, rfl⟩ := Option.map_eq_some_iff.mp hfound
    have hreads : ∀ {before stretch rest found}, pattern.Reads before stretch rest found →
        ∃ heading : Heading, ∃ tail, stretch = heading.written ++ tail ∧ True ∧ found = [(1, heading.name)] := by
      intro before stretch rest found hstretch
      obtain ⟨heading, tail, hsplit, hfound⟩ := exists_heading_of_reads hpattern hstretch
      exact ⟨heading, tail, hsplit, trivial, hfound⟩
    obtain ⟨heading, ahead, rest, hcode, -, hname⟩ := @exists_heading_of_find? _ (fun _ => True) _ _ hreads hfind
    exact ⟨heading, ahead, rest, hcode, by rw [String.toList_ofList, hname],
      fun hoccurs => absurd hoccurs (find?_eq_none.mp hfirst)⟩

/-- Either a name is located, and it is one identifier that the code declares, or no pattern for a component occurs. -/
theorem located_or_not (code : String) :
    (∃ name, componentName? code = some name ∧ IsName name.toList ∧ Declares code.toList name.toList ∧
      ((either (functionNamed capitalName) constantWithBody).Occurs code.toList → IsCapitalized name.toList)) ∨
    (componentName? code = none ∧ ∀ pattern ∈ componentPatterns, ¬pattern.Occurs code.toList) := by
  cases hname : componentName? code with
  | some name =>
    obtain ⟨heading, ahead, rest, hcode, hsame, hcapital⟩ := exists_heading_of_componentName? hname
    have hdeclares := heading.declares ahead rest
    rw [← hcode, ← hsame] at hdeclares
    rw [← hsame] at hcapital
    exact .inl ⟨name, rfl, hsame ▸ heading.isName, hdeclares, hcapital⟩
  | none =>
    refine .inr ⟨rfl, ?_⟩
    intro pattern hpattern
    have hnone := List.findSome?_eq_none_iff.mp hname pattern hpattern
    exact find?_eq_none.mp (Option.map_eq_none_iff.mp hnone)

/-- A source that is prepared comes without its module syntax and with the name of a component: one identifier that the code
declares, and one that begins with a capital if the first pattern for a component occurs in the code. Otherwise no pattern
occurs in it, and the failure says so with an excerpt of the source. -/
theorem prepare_located_or_not (source : String) :
    (∃ name, prepare source = .ok ⟨name, withoutModuleSyntax source⟩ ∧ IsName name.toList ∧
      Declares (withoutModuleSyntax source).toList name.toList ∧
      ((either (functionNamed capitalName) constantWithBody).Occurs (withoutModuleSyntax source).toList →
        IsCapitalized name.toList)) ∨
    (prepare source = fail (.notLocated (excerpt source excerptLength)) "Could not find component function" ∧
      ∀ pattern ∈ componentPatterns, ¬pattern.Occurs (withoutModuleSyntax source).toList) := by
  rcases located_or_not (withoutModuleSyntax source) with ⟨name, hname, hsafe⟩ | ⟨hname, hnothing⟩
  · exact .inl ⟨name, by simp only [prepare, hname], hsafe⟩
  · exact .inr ⟨by simp only [prepare, hname], hnothing⟩

end Showcase.Script
