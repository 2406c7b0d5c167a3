import Showcase.Html.Lexer
import Showcase.Proofs.Html.Escape

/-!
# Tags with quoted attributes

A start tag whose attributes are escaped and stand in double quotes is read as its name and the attributes that were
written, whatever their values. The names of the tag and of the attributes are of small letters.

* `startTag_quotedAll` — a start tag is read as it was written.
* `tokens_element` — so is an element without contents.
-/

namespace Showcase.Html

/-! ## Names -/

def smallLetters : List Char :=
  ['a', 'b', 'c', 'd', 'e', 'f', 'g', 'h', 'i', 'j', 'k', 'l', 'm', 'n', 'o', 'p', 'q', 'r', 's', 't', 'u', 'v', 'w',
    'x', 'y', 'z']

/-- A name of small letters. -/
structure IsSmallName (name : String) : Prop where
  ne_nil : name.toList ≠ []
  small : name.toList.all (smallLetters.contains ·) = true

theorem of_small {p : Char → Bool} (h : smallLetters.all p = true) {c : Char} (hc : c ∈ smallLetters) : p c = true :=
  List.all_eq_true.mp h c hc

theorem continuesAttribute_small {c : Char} (hc : c ∈ smallLetters) : continuesAttribute c = true :=
  of_small (by decide) hc

theorem endsTagName_small {c : Char} (hc : c ∈ smallLetters) : (!endsTagName c) = true :=
  of_small (p := fun c => !endsTagName c) (by decide) hc

theorem isLetter_small {c : Char} (hc : c ∈ smallLetters) : Text.isLetter c = true :=
  of_small (by decide) hc

namespace IsSmallName

variable {name : String} (h : IsSmallName name)
include h

theorem mem_small : ∀ c ∈ name.toList, c ∈ smallLetters := by
  intro c hc
  exact List.contains_iff_mem.mp (List.all_eq_true.mp h.small c hc)

theorem exists_cons : ∃ c others, name.toList = c :: others ∧ c ∈ smallLetters ∧ ∀ d ∈ others, d ∈ smallLetters := by
  obtain ⟨c, others, hcons⟩ := List.exists_cons_of_ne_nil h.ne_nil
  exact ⟨c, others, hcons, List.forall_mem_cons.mp (hcons ▸ h.mem_small)⟩

theorem lower : Text.lower name.toList = name.toList := by
  refine Text.lower_of_small fun c hc => ?_
  have hsmall := of_small (p := fun c => c.toNat < 128 && !Text.isCapital c) (by decide) (h.mem_small c hc)
  simpa using hsmall

end IsSmallName

/-! ## Attributes -/

/-- An attribute with its value in double quotes, before what follows it. -/
def quoted (entry : Attribute) (rest : List Char) : List Char :=
  entry.1.toList ++ '=' :: '"' :: ((escape entry.2).toList ++ '"' :: rest)

/-- The attributes of a start tag, each after a space, before what follows them. -/
def quotedAll (attributes : List Attribute) (rest : List Char) : List Char :=
  attributes.foldr (fun entry later => ' ' :: quoted entry later) rest

/-- An attribute with its value escaped. -/
def escaped (entry : Attribute) : Attribute := (entry.1, escape entry.2)

theorem resolved_escaped (entry : Attribute) : resolved (escaped entry) = entry := by
  rw [resolved, escaped, resolve_escape, String.ofList_toList]

theorem map_resolved_escaped (attributes : List Attribute) : (attributes.map escaped).map resolved = attributes := by
  rw [List.map_map]
  exact List.map_id'' resolved_escaped attributes

/-- No escaped value has a number that is too long. -/
theorem findSome?_escaped (attributes : List Attribute) :
    (attributes.map escaped).findSome? (fun entry => firstOverlong? entry.2.toList) = none := by
  rw [List.findSome?_eq_none_iff]
  intro entry hentry
  obtain ⟨written, -, rfl⟩ := List.mem_map.mp hentry
  exact firstOverlong?_escape written.2

theorem valueAt?_quoted {value : List Char} (hvalue : '"' ∉ value) (rest : List Char) :
    valueAt? ('=' :: '"' :: (value ++ '"' :: rest)) = some (value, ⟨'"', rest⟩) := by
  have hblank : Text.isBlank '=' = false ∧ Text.isBlank '"' = false := by decide
  simp [valueAt?, hblank, Text.cutAtFirst_append hvalue]

theorem attributeAt?_quoted {entry : Attribute} (hname : IsSmallName entry.1) {before : Char}
    (hbefore : allowsAttribute before = true) (rest : List Char) :
    attributeAt? ⟨before, quoted entry rest⟩ = some (escaped entry, skipGap '"' rest) := by
  obtain ⟨c, others, hcons, hc, hothers⟩ := hname.exists_cons
  have hvalue := valueAt?_quoted (not_mem_escape (c := '"') (by decide) entry.2) rest
  have hstarts : startsAttribute c = true := (Bool.and_eq_true_iff.mp (continuesAttribute_small hc)).1
  have hpasses : ∀ later, (others ++ '=' :: later).takeWhile continuesAttribute = others ∧
      (others ++ '=' :: later).dropWhile continuesAttribute = '=' :: later :=
    Text.takeWhile_append_stop (by decide) fun d hd => continuesAttribute_small (hothers d hd)
  rw [attributeAt?, quoted, hcons, List.cons_append]
  dsimp only
  rw [hbefore, hstarts, Bool.and_self, if_pos rfl, (hpasses _).1, (hpasses _).2, hvalue]
  dsimp only
  rw [← hcons, hname.lower, String.ofList_toList, String.ofList_toList, escaped]

/-- The gap before an attribute is one space. -/
theorem skipGap_quoted {entry : Attribute} (hname : IsSmallName entry.1) (before : Char) (rest : List Char) :
    skipGap before (' ' :: quoted entry rest) = ⟨' ', quoted entry rest⟩ := by
  obtain ⟨c, others, hcons, hc, -⟩ := hname.exists_cons
  have hspace : Text.isBlank ' ' = true := by decide
  have hstops : Text.isBlank c = false ∧ (c == '/') = false := by
    simpa using of_small (p := fun c => !Text.isBlank c && c != '/') (by decide) hc
  rw [quoted, hcons, List.cons_append, skipGap, hspace, Bool.true_or, if_pos rfl, skipGap, hstops.1, hstops.2]
  rfl

/-- The attributes of a start tag are read one after the other, up to its end. -/
theorem attributesFrom_quotedAll {attributes : List Attribute} (hnames : ∀ entry ∈ attributes, IsSmallName entry.1)
    {fuel : Nat} (hfuel : attributes.length ≤ fuel) (before : Char) (rest : List Char) :
    ∃ last, attributesFrom fuel (skipGap before (quotedAll attributes ('>' :: rest))) =
      (attributes.map escaped, ⟨last, '>' :: rest⟩) := by
  induction attributes generalizing fuel before with
  | nil =>
    refine ⟨before, ?_⟩
    have hend : skipGap before ('>' :: rest) = ⟨before, '>' :: rest⟩ := rfl
    have hnone : attributeAt? ⟨before, '>' :: rest⟩ = none := by
      simp [attributeAt?, startsAttribute]
    rw [quotedAll, List.foldr_nil, List.map_nil, hend]
    cases fuel with
    | zero => rfl
    | succ fuel => rw [attributesFrom, hnone]
  | cons entry others ih =>
    obtain ⟨hname, hothers⟩ := List.forall_mem_cons.mp hnames
    cases fuel with
    | zero => exact absurd hfuel (Nat.not_succ_le_zero _)
    | succ fuel =>
      -- the next attribute stands behind the closing quote of this one
      obtain ⟨last, hlast⟩ := ih hothers (Nat.le_of_succ_le_succ hfuel) '"'
      refine ⟨last, ?_⟩
      rw [quotedAll, List.foldr_cons, skipGap_quoted hname, attributesFrom, attributeAt?_quoted hname rfl]
      dsimp only
      rw [← quotedAll, hlast, List.map_cons]

theorem length_le_quotedAll (attributes : List Attribute) (rest : List Char) :
    attributes.length ≤ (quotedAll attributes rest).length := by
  induction attributes with
  | nil => exact Nat.zero_le _
  | cons entry others ih =>
    rw [quotedAll, List.foldr_cons, ← quotedAll, quoted]
    simp only [List.length_cons, List.length_append]
    omega

/-! ## Tags -/

/-- A start tag is read as it was written. -/
theorem startTag_quotedAll {name : String} (hname : IsSmallName name) {attributes : List Attribute}
    (hnames : ∀ entry ∈ attributes, IsSmallName entry.1) (rest : List Char) :
    startTag (name.toList ++ quotedAll attributes ('>' :: rest)) = .complete name attributes false rest := by
  have hpasses : ∀ c ∈ name.toList, (!endsTagName c) = true := fun c hc => endsTagName_small (hname.mem_small c hc)
  -- behind the name there is a space or the end of the tag
  obtain ⟨stop, later, hstop, hends⟩ : ∃ stop later, quotedAll attributes ('>' :: rest) = stop :: later ∧
      endsTagName stop = true := by
    cases attributes with
    | nil => exact ⟨'>', rest, rfl, by decide⟩
    | cons entry others => exact ⟨' ', _, rfl, by decide⟩
  have hcloses : (!endsTagName stop) = false := by
    rw [hends, Bool.not_true]
  obtain ⟨htaken, hdropped⟩ := Text.takeWhile_append_stop hcloses hpasses later
  have hfuel : attributes.length ≤ (name.toList ++ quotedAll attributes ('>' :: rest)).length := by
    rw [List.length_append]
    exact Nat.le_add_left_of_le (length_le_quotedAll attributes _)
  obtain ⟨last, hlast⟩ := attributesFrom_quotedAll hnames hfuel (name.toList.getLast?.getD '<') rest
  rw [hstop] at hlast ⊢
  rw [startTag]
  dsimp only
  rw [htaken, hdropped, hlast, hname.lower, String.ofList_toList]
  dsimp only
  rw [findSome?_escaped, map_resolved_escaped]
  rfl

/-! ## Elements -/

theorem pass_markup {text rest : List Char} {found : List Token} {raw : Option String}
    (h : readMarkup ('<' :: text) = .go found raw rest) (atEnd : Bool) (fuel : Nat) :
    pass atEnd (fuel + 1) none ('<' :: text) = (pass atEnd fuel raw rest).map (Stop.after found) := by
  have hplain : ('<' :: text).takeWhile (fun c => c != '&' && c != '<') = [] := rfl
  rw [pass, hplain]
  dsimp only
  rw [List.length_nil, List.drop_zero]
  simp only [Option.isSome_none, Bool.false_eq_true, if_false, h]
  rfl

/-- An element without contents is read as its start tag and its end tag. -/
theorem tokens_element {name : String} (hname : IsSmallName name) (hraw : rawElements.contains name = false)
    {attributes : List Attribute} (hnames : ∀ entry ∈ attributes, IsSmallName entry.1) {ending : List Char}
    (hending : readMarkup ('<' :: ending) = .go [.endTag name] none []) :
    tokens ('<' :: (name.toList ++ quotedAll attributes ('>' :: '<' :: ending))) =
      .ok [.startTag name attributes false, .endTag name] := by
  obtain ⟨c, others, hcons, hc, -⟩ := hname.exists_cons
  have hstart : readMarkup ('<' :: (name.toList ++ quotedAll attributes ('>' :: '<' :: ending))) =
      .go [.startTag name attributes false] none ('<' :: ending) := by
    have htag := startTag_quotedAll hname hnames ('<' :: ending)
    rw [hcons, List.cons_append] at htag ⊢
    rw [readMarkup, isLetter_small hc, if_pos rfl, readStartTag, List.drop_succ_cons, List.drop_zero, htag]
    dsimp only
    rw [hraw]
    rfl
  obtain ⟨fuel, hfuel⟩ : ∃ fuel, ('<' :: (name.toList ++ quotedAll attributes ('>' :: '<' :: ending))).length + 1 =
      fuel + 3 := ⟨_, by rw [hcons]; rfl⟩
  rw [tokens, hfuel, pass_markup hstart, pass_markup hending]
  rfl

end Showcase.Html
