import Showcase.Html.Escape
import Showcase.Html.Reference
import Showcase.Proofs.Text.Split

/-!
# Escaped texts

An escaped text has none of the characters of markup but ampersands, and its references are resolved to the text again.
Of the table of named characters this takes four names: every entry of such a name is that of its character.

* `unescape_escape` — the references of an escaped text are resolved to the text.
* `not_mem_escape` — an escaped text has no angle brackets and no quotes.
-/

namespace Showcase.Html

/-! ## The names of the characters of markup -/

/-- The names that escaped characters are referred to by. -/
def markupNames : List (List Char × Char) :=
  [(['a', 'm', 'p'], '&'), (['l', 't'], '<'), (['g', 't'], '>'), (['q', 'u', 'o', 't'], '"')]

/-- An entry of the name of a character of markup is that of this character. -/
def isSound (entry : Table.NamedCharacters) : Bool :=
  markupNames.all fun known => known.1 != entry.name || entry.characters == [known.2]

/-- The entries in a line of the table. -/
def entriesOf (line : List Char) : List Table.NamedCharacters :=
  (Text.splitAtChar ' ' line).map Table.NamedCharacters.ofText

theorem isSound_line {line : String} {chars : List Char} (h : line = String.ofList chars)
    (hchars : (entriesOf chars).all isSound = true) : (entriesOf line.toList).all isSound = true := by
  rw [Text.toList_of_eq h, hchars]

theorem isSound_namedCharacters {entry : Table.NamedCharacters} (hentry : entry ∈ Table.namedCharacters) :
    isSound entry = true := by
  have hlines : ∀ line ∈ Table.nameLines, (entriesOf line.toList).all isSound = true := by
    -- line by line, since the whole table is too much to look through at once
    rw [Table.nameLines]
    repeat' first
      | exact List.forall_mem_nil _
      | refine List.forall_mem_cons.mpr ⟨isSound_line rfl (by decide +kernel), ?_⟩
  obtain ⟨line, hline, hmem⟩ := List.mem_flatMap.mp hentry
  exact List.all_eq_true.mp (hlines line hline) entry hmem

theorem exists_entry (index : Nat) {line : String} (hline : Table.nameLines[index]? = some line) {chars : List Char}
    (hchars : line = String.ofList chars) {name : List Char}
    (hname : ((entriesOf chars).any fun entry => entry.name == name) = true) :
    ∃ entry ∈ Table.namedCharacters, entry.name = name := by
  obtain ⟨entry, hentry, hsame⟩ := List.any_eq_true.mp hname
  rw [← Text.toList_of_eq hchars] at hentry
  exact ⟨entry, List.mem_flatMap.mpr ⟨line, List.mem_of_getElem? hline, hentry⟩, beq_iff_eq.mp hsame⟩

/-- Every name of a character of markup has an entry. -/
theorem exists_entry_of_markup {name : List Char} {c : Char} (hname : (name, c) ∈ markupNames) :
    ∃ entry ∈ Table.namedCharacters, entry.name = name := by
  simp only [markupNames, List.mem_cons, Prod.mk.injEq, List.not_mem_nil, or_false] at hname
  rcases hname with ⟨rfl, -⟩ | ⟨rfl, -⟩ | ⟨rfl, -⟩ | ⟨rfl, -⟩
  · exact exists_entry 86 rfl rfl (by decide +kernel)
  · exact exists_entry 166 rfl rfl (by decide +kernel)
  · exact exists_entry 138 rfl rfl (by decide +kernel)
  · exact exists_entry 206 rfl rfl (by decide +kernel)

/-- The entry that is found by the name of a character of markup is that of this character. -/
theorem find?_markup {name : List Char} {c : Char} (hname : (name, c) ∈ markupNames) :
    ∃ entry, Table.namedCharacters.find? (fun entry => entry.name == name) = some entry ∧ entry.characters = [c] := by
  obtain ⟨known, hknown, hsame⟩ := exists_entry_of_markup hname
  have hfound : (Table.namedCharacters.find? fun entry => entry.name == name).isSome :=
    List.find?_isSome.mpr ⟨known, hknown, beq_iff_eq.mpr hsame⟩
  obtain ⟨entry, hentry⟩ := Option.isSome_iff_exists.mp hfound
  have hentryName : (entry.name == name) = true := by
    have hpasses := List.find?_some hentry
    exact hpasses
  have hsound := List.all_eq_true.mp (isSound_namedCharacters (List.mem_of_find?_eq_some hentry)) _ hname
  refine ⟨entry, hentry, ?_⟩
  simpa [beq_iff_eq.mp hentryName] using hsound

theorem writtenName?_markup {name : List Char} {c : Char} (hname : (name, c) ∈ markupNames) :
    writtenName? (name ++ [';']) = some [c] := by
  obtain ⟨entry, hentry, hcharacters⟩ := find?_markup hname
  simp only [writtenName?, List.getLast?_concat, List.dropLast_concat]
  rw [hentry, Option.map_some, hcharacters]

/-! ## References -/

/-- A reference by the name of a character of markup, with its semicolon, is one to this character. -/
theorem referenceAt?_markup {name : List Char} {c : Char} (hname : (name, c) ∈ markupNames) (rest : List Char) :
    referenceAt? (name ++ ';' :: rest) = some ([c], name.length + 1) := by
  have hshape : ∀ known ∈ markupNames, known.1.all isReferenceChar = true ∧ known.1.length ≤ 32 ∧
      known.1.isEmpty = false ∧ known.1.head? ≠ some '#' := by decide
  obtain ⟨hchars, hlength, hempty, hhead⟩ :
      name.all isReferenceChar = true ∧ name.length ≤ 32 ∧ name.isEmpty = false ∧ name.head? ≠ some '#' :=
    hshape _ hname
  have htaken : ((name ++ ';' :: rest).takeWhile isReferenceChar).take 32 = name := by
    rw [(Text.takeWhile_append_stop (by decide) (List.all_eq_true.mp hchars) rest).1, List.take_of_length_le hlength]
  have hsemicolon : semicolonLength ((name ++ ';' :: rest).drop name.length) = 1 := by
    rw [List.drop_left]
    rfl
  have hreference : nameInAttribute ((name ++ ';' :: rest).take (name.length + 1)) = [c] := by
    rw [List.take_length_add_append, List.take_succ_cons, List.take_zero, nameInAttribute, writtenName?_markup hname]
  unfold referenceAt?
  split
  · rename_i later heq
    cases name with
    | nil => cases hempty
    | cons first others =>
      cases heq
      exact absurd rfl hhead
  · dsimp only
    rw [htaken, hempty, hsemicolon, hreference]
    rfl

/-- The quote that no name is used for is referred to by its number. -/
theorem referenceAt?_number (rest : List Char) :
    referenceAt? ('#' :: 'x' :: '2' :: '7' :: ';' :: rest) = some (['\''], 5) := rfl

/-! ## Texts -/

theorem toList_escape (s : String) : (escape s).toList = s.toList.flatMap escapeChar := String.toList_ofList

/-- What becomes of a character: it stays, or it is referred to by its name or by its number. -/
theorem escapeChar_cases (c : Char) :
    (c ∉ ['&', '<', '>', '"', '\''] ∧ escapeChar c = [c]) ∨
    (∃ name, (name, c) ∈ markupNames ∧ escapeChar c = '&' :: (name ++ [';'])) ∨
    (c = '\'' ∧ escapeChar c = ['&', '#', 'x', '2', '7', ';']) := by
  by_cases hc : c ∈ ['&', '<', '>', '"', '\'']
  · simp only [List.mem_cons, List.not_mem_nil, or_false] at hc
    rcases hc with rfl | rfl | rfl | rfl | rfl
    · exact .inr (.inl ⟨['a', 'm', 'p'], by decide, rfl⟩)
    · exact .inr (.inl ⟨['l', 't'], by decide, rfl⟩)
    · exact .inr (.inl ⟨['g', 't'], by decide, rfl⟩)
    · exact .inr (.inl ⟨['q', 'u', 'o', 't'], by decide, rfl⟩)
    · exact .inr (.inr ⟨rfl, rfl⟩)
  · refine .inl ⟨hc, ?_⟩
    simp only [List.mem_cons, List.not_mem_nil, or_false, not_or] at hc
    simp only [escapeChar, beq_iff_eq, hc, if_false]

theorem resolveFrom_length (taken rest : List Char) :
    resolveFrom taken.length (taken ++ rest) = resolveFrom 0 rest := by
  induction taken with
  | nil => rfl
  | cons c taken ih => rw [List.length_cons, List.cons_append, resolveFrom, ih]

/-- A reference that takes a text is replaced by what it refers to. -/
theorem resolveFrom_reference (taken resolved : List Char) {rest : List Char}
    (h : referenceAt? (taken ++ rest) = some (resolved, taken.length)) :
    resolveFrom 0 ('&' :: (taken ++ rest)) = resolved ++ resolveFrom 0 rest := by
  rw [resolveFrom, if_pos (beq_self_eq_true '&'), h]
  dsimp only
  rw [resolveFrom_length]

theorem resolveFrom_escapeChar (c : Char) (rest : List Char) :
    resolveFrom 0 (escapeChar c ++ rest) = c :: resolveFrom 0 rest := by
  rcases escapeChar_cases c with ⟨hc, hescaped⟩ | ⟨name, hname, hescaped⟩ | ⟨rfl, hescaped⟩
  · have hampersand : (c == '&') = false := by
      rw [beq_eq_false_iff_ne]
      rintro rfl
      exact hc List.mem_cons_self
    rw [hescaped, List.singleton_append, resolveFrom, hampersand, if_neg Bool.false_ne_true]
  · rw [hescaped, List.cons_append]
    refine resolveFrom_reference (name ++ [';']) [c] ?_
    rw [List.append_assoc, List.singleton_append, referenceAt?_markup hname, List.length_append,
      List.length_singleton]
  · rw [hescaped]
    exact resolveFrom_reference ['#', 'x', '2', '7', ';'] ['\''] (referenceAt?_number rest)

theorem resolve_escape (s : String) : resolve (escape s).toList = s.toList := by
  rw [toList_escape, resolve]
  induction s.toList with
  | nil => rfl
  | cons c rest ih => rw [List.flatMap_cons, resolveFrom_escapeChar, ih]

/-- What becomes of a character begins no number that is too long. -/
theorem firstOverlong?_escapeChar (c : Char) (rest : List Char) :
    firstOverlong? (escapeChar c ++ rest) = firstOverlong? rest := by
  rcases escapeChar_cases c with ⟨hc, hescaped⟩ | ⟨name, hname, hescaped⟩ | ⟨rfl, hescaped⟩
  · have hampersand : (c == '&') = false := by
      rw [beq_eq_false_iff_ne]
      rintro rfl
      exact hc List.mem_cons_self
    rw [hescaped, List.singleton_append, firstOverlong?, hampersand, if_neg Bool.false_ne_true, Option.none_or]
  · simp only [markupNames, List.mem_cons, Prod.mk.injEq, List.not_mem_nil, or_false] at hname
    rw [hescaped]
    rcases hname with ⟨rfl, -⟩ | ⟨rfl, -⟩ | ⟨rfl, -⟩ | ⟨rfl, -⟩ <;> rfl
  · rw [hescaped]
    rfl

/-- An escaped text has no number that is too long. -/
theorem firstOverlong?_escape (s : String) : firstOverlong? (escape s).toList = none := by
  rw [toList_escape]
  induction s.toList with
  | nil => rfl
  | cons c rest ih => rw [List.flatMap_cons, firstOverlong?_escapeChar, ih]

/-- A text with its references resolved. -/
def unescape (s : String) : String := String.ofList (resolve s.toList)

/-- An escaped text is resolved to the text. -/
theorem unescape_escape (s : String) : unescape (escape s) = s := by
  rw [unescape, resolve_escape, String.ofList_toList]

/-- The characters of markup that do not occur in an escaped text. -/
def bracketsAndQuotes : List Char := ['<', '>', '"', '\'']

/-- An escaped text has no angle brackets and no quotes. -/
theorem not_mem_escape {c : Char} (hc : c ∈ bracketsAndQuotes) (s : String) : c ∉ (escape s).toList := by
  rw [toList_escape, List.mem_flatMap]
  rintro ⟨written, -, hmem⟩
  rcases escapeChar_cases written with ⟨hwritten, hescaped⟩ | ⟨name, hname, hescaped⟩ | ⟨rfl, hescaped⟩
  · rw [hescaped, List.mem_singleton] at hmem
    exact hwritten (hmem ▸ List.mem_cons_of_mem _ hc)
  · have hplain : ∀ known ∈ markupNames, ('&' :: (known.1 ++ [';'])).all (!bracketsAndQuotes.contains ·) = true := by
      decide
    rw [hescaped] at hmem
    simpa [hc] using List.all_eq_true.mp (hplain _ hname) c hmem
  · have hplain : ['&', '#', 'x', '2', '7', ';'].all (!bracketsAndQuotes.contains ·) = true := by decide
    rw [hescaped] at hmem
    simpa [hc] using List.all_eq_true.mp hplain c hmem

end Showcase.Html
