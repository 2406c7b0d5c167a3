import Showcase.Html.Tree
import Showcase.Proofs.Pattern.Search
import Showcase.Proofs.Text.Split

/-!
# Where tokens come from

Reading goes on from a place to a later one, so the name of every start tag is written in the text, behind an angle
bracket. What comes behind a start tag depends on the element: with raw contents there is nothing but text up to its end tag.
-/

namespace Showcase.Html

open Pattern

/-! ## The order of tokens -/

/-- The element whose raw contents go on behind a token, if there is one. In raw contents only text may stand, and the end
tag of their element. -/
def Token.next? (raw : Option String) : Token → Option (Option String)
  | .text _ => some raw
  | .endTag name => if raw.all (· == name) then some none else none
  | .startTag name _ selfClosed =>
    if raw.isNone then some (if !selfClosed && rawElements.contains name then some name else none) else none
  | .comment _ | .doctype _ | .cdata _ | .declaration _ | .instruction _ => if raw.isNone then some none else none

/-- Tokens may stand one behind the other, and lead from one element with raw contents to another. -/
def Proceeds (raw : Option String) (found : List Token) (next : Option String) : Prop :=
  found.foldlM Token.next? raw = some next

theorem Proceeds.nil (raw : Option String) : Proceeds raw [] raw := rfl

theorem Proceeds.append {raw middle next : Option String} {first second : List Token} (hfirst : Proceeds raw first middle)
    (hsecond : Proceeds middle second next) : Proceeds raw (first ++ second) next := by
  rw [Proceeds, List.foldlM_append, show first.foldlM Token.next? raw = some middle from hfirst]
  exact hsecond

theorem proceeds_singleton {raw next : Option String} {token : Token} :
    Proceeds raw [token] next ↔ token.next? raw = some next := by
  rw [Proceeds, List.foldlM_cons]
  cases token.next? raw <;> simp [List.foldlM_nil]

theorem proceeds_textTokens (raw : Option String) (s : List Char) : Proceeds raw (textTokens s) raw := by
  unfold textTokens
  split
  · exact .nil raw
  · rfl

/-- The name of a start tag is written in a text, in any letter case. -/
def Token.IsIn (text : List Char) : Token → Prop
  | .startTag name _ _ => ∃ written, '<' :: written <:+: text ∧ String.ofList (Text.lower written) = name
  | _ => True

theorem Token.IsIn.mono {s t : List Char} {token : Token} (h : token.IsIn s) (hst : s <:+ t) : token.IsIn t := by
  cases token with
  | startTag name attributes selfClosed =>
    obtain ⟨written, hwritten, hname⟩ := h
    exact ⟨written, hwritten.trans hst.isInfix, hname⟩
  | text | endTag | comment | doctype | cdata | declaration | instruction => exact trivial

/-- Tokens that are read from a text: they may follow each other, what is left is an end of the text, and the names of
start tags are written in it. -/
structure AreRead (raw : Option String) (text : List Char) (found : List Token) (next : Option String) (rest : List Char) :
    Prop where
  suffix : rest <:+ text
  proceeds : Proceeds raw found next
  isIn : ∀ token ∈ found, token.IsIn text

namespace AreRead

variable {raw middle next : Option String} {text between rest : List Char} {first second : List Token}

theorem trans (hfirst : AreRead raw text first middle between) (hsecond : AreRead middle between second next rest) :
    AreRead raw text (first ++ second) next rest where
  suffix := hsecond.suffix.trans hfirst.suffix
  proceeds := hfirst.proceeds.append hsecond.proceeds
  isIn := by
    intro token htoken
    rcases List.mem_append.mp htoken with hin | hin
    · exact hfirst.isIn token hin
    · exact (hsecond.isIn token hin).mono hfirst.suffix

theorem nothing (raw : Option String) (h : rest <:+ text) : AreRead raw text [] raw rest := ⟨h, .nil raw, nofun⟩

/-- A token that is no start tag. -/
theorem single {token : Token} (h : rest <:+ text) (hnext : token.next? raw = some next) (hin : token.IsIn text) :
    AreRead raw text [token] next rest :=
  ⟨h, proceeds_singleton.mpr hnext, by simpa using hin⟩

theorem ofText (raw : Option String) (s : List Char) (h : rest <:+ text) : AreRead raw text [.text s] raw rest :=
  single h rfl trivial

theorem textTokens (raw : Option String) (s : List Char) (h : rest <:+ text) :
    AreRead raw text (textTokens s) raw rest := by
  refine ⟨h, proceeds_textTokens raw s, ?_⟩
  intro token htoken
  unfold Html.textTokens at htoken
  split at htoken
  · cases htoken
  · obtain rfl := List.mem_singleton.mp htoken
    exact trivial

end AreRead

/-- What comes of reading at a place is read from the text there. -/
def Reading.IsSound (raw : Option String) (text : List Char) : Reading → Prop
  | .go found next rest => AreRead raw text found next rest
  | .stop found rest => AreRead raw text found raw rest
  | .incomplete | .rejected _ => True

/-! ## What is left of a text -/

section

variable {text inside rest : List Char}

theorem cutAtFirst_suffix {separator : Char} (h : Text.cutAtFirst separator text = (inside, some rest)) : rest <:+ text := by
  by_cases hmem : separator ∈ text
  · obtain ⟨before, after, -, rfl, hcut⟩ := Text.cutAtFirst_of_mem hmem
    obtain ⟨-, hrest⟩ := Prod.mk.inj (hcut.symm.trans h)
    obtain rfl := Option.some.inj hrest
    exact ⟨before ++ [separator], by simp⟩
  · rw [Text.cutAtFirst_of_not_mem hmem] at h
    cases h

/-- A text cut at a pattern: the pattern reads a stretch behind what is before it, and what is left follows the stretch. -/
theorem exists_of_cutAtPattern? {pattern : Pattern} (h : cutAtPattern? pattern text = some (inside, rest)) :
    ∃ stretch found, text = inside ++ (stretch ++ rest) ∧ pattern.Reads (beforeAfter none inside) stretch rest found := by
  obtain ⟨m, hfind, hcut⟩ := Option.map_eq_some_iff.mp h
  obtain ⟨passed, stretch, later, found, rfl, hfinds⟩ := exists_finds_of_findFrom hfind
  obtain ⟨hinside, hrest⟩ := Prod.mk.inj hcut
  rw [hfinds.start, @List.length_append _ passed, Nat.add_sub_cancel, List.take_left] at hinside
  rw [hfinds.start, hfinds.tells.length, List.drop_left] at hrest
  subst hinside hrest
  exact ⟨stretch, found, rfl, hfinds.reads⟩

theorem cutAtPattern?_suffix {pattern : Pattern} (h : cutAtPattern? pattern text = some (inside, rest)) : rest <:+ text := by
  obtain ⟨stretch, found, rfl, -⟩ := exists_of_cutAtPattern? h
  exact ⟨inside ++ stretch, List.append_assoc ..⟩

theorem skipGap_suffix (before : Char) (text : List Char) : (skipGap before text).rest <:+ text := by
  induction text generalizing before with
  | nil => exact List.suffix_refl []
  | cons c text ih =>
    rw [skipGap]
    split
    · exact (ih c).trans (List.suffix_cons c text)
    · exact List.suffix_refl _

theorem valueAt?_suffix {value : List Char} {place : TagPlace} (h : valueAt? text = some (value, place)) :
    place.rest <:+ text := by
  have hvalue : ((((text.dropWhile Text.isBlank).dropWhile (· == '=')).dropWhile Text.isBlank)) <:+ text :=
    (List.dropWhile_suffix _).trans ((List.dropWhile_suffix _).trans (List.dropWhile_suffix _))
  have hbare : ∀ s : List Char, s <:+ text → (bareValue s).2 <:+ text := fun s hs => (List.dropWhile_suffix _).trans hs
  simp only [valueAt?] at h
  generalize ((text.dropWhile Text.isBlank).dropWhile (· == '=')).dropWhile Text.isBlank = rest at h hvalue
  split at h
  · cases h
  · split at h
    · rename_i quote rest
      split at h
      · split at h
        · -- a value between quotes
          rename_i quoted after hcut
          obtain ⟨-, rfl⟩ := Prod.mk.inj (Option.some.inj h)
          exact (cutAtFirst_suffix hcut).trans ((List.suffix_cons quote rest).trans hvalue)
        · -- a quote without its partner, perhaps behind an equals sign that belongs to the value
          split at h
          · obtain ⟨-, rfl⟩ := Prod.mk.inj (Option.some.inj h)
            exact hvalue
          · obtain ⟨-, h⟩ := Option.ite_none_right_eq_some.mp h
            obtain ⟨-, rfl⟩ := Prod.mk.inj (Option.some.inj h)
            exact hbare (quote :: rest) hvalue
      · obtain ⟨-, rfl⟩ := Prod.mk.inj (Option.some.inj h)
        exact hbare _ hvalue
    · obtain ⟨-, rfl⟩ := Prod.mk.inj (Option.some.inj h)
      exact List.nil_suffix

theorem attributeAt?_suffix {place next : TagPlace} {entry : Attribute} (h : attributeAt? place = some (entry, next)) :
    next.rest <:+ place.rest := by
  unfold attributeAt? at h
  split at h
  · cases h
  · rename_i c rest hplace
    rw [hplace]
    split at h
    · have hafter : rest.dropWhile continuesAttribute <:+ c :: rest :=
        (List.dropWhile_suffix _).trans (List.suffix_cons c rest)
      dsimp only at h
      split at h
      · rename_i value middle hvalue
        obtain ⟨-, rfl⟩ := Prod.mk.inj (Option.some.inj h)
        exact (skipGap_suffix _ _).trans ((valueAt?_suffix hvalue).trans hafter)
      · obtain ⟨-, rfl⟩ := Prod.mk.inj (Option.some.inj h)
        exact (skipGap_suffix _ _).trans hafter
    · cases h

theorem attributesFrom_suffix (fuel : Nat) (place : TagPlace) : (attributesFrom fuel place).2.rest <:+ place.rest := by
  induction fuel generalizing place with
  | zero => exact List.suffix_refl _
  | succ fuel ih =>
    rw [attributesFrom]
    split
    · exact List.suffix_refl _
    · rename_i entry next hentry
      exact (ih next).trans (attributeAt?_suffix hentry)

theorem afterAttributes_suffix (text : List Char) :
    (attributesFrom text.length (skipGap ((text.takeWhile fun c => !endsTagName c).getLast?.getD '<')
      (text.dropWhile fun c => !endsTagName c))).2.rest <:+ text :=
  (attributesFrom_suffix _ _).trans ((skipGap_suffix _ _).trans (List.dropWhile_suffix _))

/-- A tag that is read has no number that is too long. -/
theorem eq_of_getD_overlong {digits? : Option Nat} {tag found : StartTag}
    (h : (digits?.map StartTag.overlong).getD tag = found) (hfound : ∀ digits, found ≠ .overlong digits) :
    tag = found := by
  cases digits? with
  | none => exact h
  | some digits => exact absurd h.symm (hfound digits)

/-- A start tag that is complete has its name at the head of the text, and what is left is an end of the text. -/
theorem name_of_startTag {name : String} {attributes : List Attribute} {selfClosed : Bool}
    (h : startTag text = .complete name attributes selfClosed rest) :
    rest <:+ text ∧ ∃ written, written <+: text ∧ String.ofList (Text.lower written) = name := by
  have hlast := afterAttributes_suffix text
  simp only [startTag] at h
  split at h
  · cases h
  · rename_i after hafter
    obtain ⟨hname, -, -, rfl⟩ := StartTag.complete.inj (eq_of_getD_overlong h fun _ => StartTag.noConfusion)
    exact ⟨(List.suffix_cons _ after).trans (hafter ▸ hlast), _, List.takeWhile_prefix _, hname⟩
  · rename_i after hafter
    obtain ⟨hname, -, -, rfl⟩ := StartTag.complete.inj (eq_of_getD_overlong h fun _ => StartTag.noConfusion)
    refine ⟨?_, _, List.takeWhile_prefix _, hname⟩
    exact ((List.suffix_cons _ after).trans (List.suffix_cons _ _)).trans (hafter ▸ hlast)
  · split at h
    · cases h
    · cases eq_of_getD_overlong h fun _ => StartTag.noConfusion

theorem broken_suffix (h : startTag text = .broken rest) : rest <:+ text := by
  have hlast := afterAttributes_suffix text
  simp only [startTag] at h
  split at h
  · cases h
  · cases eq_of_getD_overlong h fun _ => StartTag.noConfusion
  · cases eq_of_getD_overlong h fun _ => StartTag.noConfusion
  · rename_i c after _ _ hafter
    split at h
    · cases h
    · obtain rfl := StartTag.broken.inj (eq_of_getD_overlong h fun _ => StartTag.noConfusion)
      exact hafter ▸ hlast

end

/-! ## Readings -/

section

variable {text rest : List Char}

/-- A token that opens and closes nothing. -/
def Token.IsPlain (token : Token) : Prop := token.next? none = some none ∧ ∀ text, token.IsIn text

theorem upToBracket_isSound {make : List Char → Token} (hmake : ∀ s, (make s).IsPlain) (h : rest <:+ text) :
    (upToBracket make rest).IsSound none text := by
  unfold upToBracket
  split
  · rename_i inside after hcut
    exact .single ((cutAtFirst_suffix hcut).trans h) (hmake inside).1 ((hmake inside).2 text)
  · exact trivial

theorem sectionToken_isPlain (inside : List Char) : (sectionToken inside).IsPlain := by
  unfold sectionToken
  split <;> exact ⟨rfl, fun _ => trivial⟩

theorem readSection_isSound (whole : List Char) (h : rest <:+ text) : (readSection whole rest).IsSound none text := by
  have hsection : ∀ {ending : Pattern} {inside after : List Char}, cutAtPattern? ending rest = some (inside, after) →
      (Reading.go [sectionToken inside] none after).IsSound none text := by
    intro ending inside after hcut
    have hplain := sectionToken_isPlain inside
    exact .single ((cutAtPattern?_suffix hcut).trans h) hplain.1 (hplain.2 text)
  unfold readSection
  split
  · exact trivial
  · split
    · exact trivial
    · dsimp only
      split
      · exact trivial
      · split
        · split
          · rename_i hcut
            exact hsection hcut
          · exact trivial
        · split
          · split
            · rename_i hcut
              exact hsection hcut
            · exact trivial
          · exact trivial

theorem readDeclaration_isSound (h : rest <:+ text) : (readDeclaration rest).IsSound none text := by
  unfold readDeclaration
  split
  · rename_i behind
    split
    · rename_i inside after hcut
      have hbehind : behind <:+ '-' :: '-' :: behind := (List.suffix_cons _ _).trans (List.suffix_cons _ _)
      exact .single ((cutAtPattern?_suffix hcut).trans (hbehind.trans h)) rfl trivial
    · exact trivial
  · exact readSection_isSound _ ((List.suffix_cons _ _).trans h)
  · split
    · split
      · rename_i inside after hcut
        exact .single ((cutAtFirst_suffix hcut).trans ((List.drop_suffix 7 rest).trans h)) rfl trivial
      · exact trivial
    · exact upToBracket_isSound (fun _ => ⟨rfl, fun _ => trivial⟩) h

theorem readEndTag_isSound (raw : Option String) (h : rest <:+ text) : (readEndTag raw rest).IsSound raw text := by
  unfold readEndTag
  split
  · exact trivial
  · rename_i before after hcut
    have hafter : after <:+ text := (cutAtFirst_suffix hcut).trans h
    dsimp only
    split
    · -- only the element whose contents are raw is closed among them
      split
      · exact .ofText raw _ hafter
      · rename_i hsame
        refine .single hafter ?_ trivial
        rw [Token.next?, if_pos]
        cases raw with
        | none => rfl
        | some element => simpa using hsame
    · split
      · exact .ofText raw _ hafter
      · rename_i hnone
        obtain rfl : raw = none := by simpa using hnone
        split
        · exact .single hafter rfl trivial
        · split
          · exact .nothing none ((List.drop_suffix 1 _).trans ((List.drop_suffix 2 rest).trans h))
          · exact upToBracket_isSound (fun _ => ⟨rfl, fun _ => trivial⟩) ((List.drop_suffix 2 rest).trans h)

theorem readStartTag_isSound (h : '<' :: rest <:+ text) : (readStartTag ('<' :: rest)).IsSound none text := by
  unfold readStartTag
  rw [List.drop_succ_cons, List.drop_zero]
  have hrest : rest <:+ text := (List.suffix_cons _ _).trans h
  split
  · rename_i name attributes selfClosed after htag
    obtain ⟨hafter, written, hwritten, hname⟩ := name_of_startTag htag
    refine .single (hafter.trans hrest) rfl ⟨written, ?_, hname⟩
    exact (List.cons_prefix_cons.mpr ⟨rfl, hwritten⟩).isInfix.trans h.isInfix
  · exact trivial
  · rename_i after htag
    exact .ofText none _ ((broken_suffix htag).trans hrest)
  · exact trivial

theorem readMarkup_isSound (h : '<' :: rest <:+ text) : (readMarkup ('<' :: rest)).IsSound none text := by
  unfold readMarkup
  split
  · rename_i d c behind hsplit
    obtain ⟨rfl, rfl⟩ := List.cons.inj hsplit
    have hbehind : behind <:+ text := (List.suffix_cons c behind).trans ((List.suffix_cons _ _).trans h)
    split
    · exact readStartTag_isSound h
    · split
      · exact readEndTag_isSound none h
      · split
        · exact upToBracket_isSound (fun _ => ⟨rfl, fun _ => trivial⟩) hbehind
        · split
          · exact readDeclaration_isSound hbehind
          · exact .ofText none _ ((List.suffix_cons _ _).trans h)
  · exact .nothing none h

theorem afterReference_suffix (found : Match) (text : List Char) : afterReference found text <:+ text := by
  unfold afterReference
  split <;> exact List.drop_suffix _ text

theorem readReference_isSound (atEnd : Bool) (h : rest <:+ text) : (readReference atEnd rest).IsSound none text := by
  unfold readReference
  split
  · rename_i behind
    have hbehind : behind <:+ text := ((List.suffix_cons _ _).trans (List.suffix_cons _ _)).trans h
    split
    · split
      · exact trivial
      · exact .ofText none _ ((afterReference_suffix _ _).trans h)
    · split
      · exact .ofText none _ hbehind
      · exact .nothing none h
  · split
    · exact .ofText none _ ((afterReference_suffix _ _).trans h)
    · split
      · exact .nothing none h
      · rename_i c behind hdrop
        have hrest : c :: behind <:+ text := by
          rw [← hdrop]
          exact (List.drop_suffix 1 rest).trans h
        split
        · split
          · -- of an ampersand and a letter at the very end the letter is left
            rename_i hend
            have hone : [c] <:+ text := by
              simp only [Bool.and_eq_true, List.isEmpty_iff] at hend
              exact hend.2 ▸ hrest
            exact .nothing none hone
          · exact .nothing none h
        · exact .ofText none _ hrest

end

/-! ## Passes -/

theorem unfinished_suffix (text : List Char) : (unfinished text).2 <:+ text := by
  unfold unfinished
  split
  · rename_i inside rest hcut
    exact (cutAtFirst_suffix hcut).trans (List.drop_suffix 1 text)
  · dsimp only
    split
    · exact List.drop_suffix 1 text
    · exact (List.dropWhile_suffix _).trans (List.drop_suffix 1 text)

/-- The text that is passed over before something is read at a place. -/
def plainText? (raw : Option String) (text : List Char) : Option (List Char) :=
  match raw with
  | some element => (cutAtPattern? (rawEnd element) text).map (·.1)
  | none => some (text.takeWhile fun c => c != '&' && c != '<')

/-- What is read at a place, where the rest of the text is not empty. -/
def readHere (atEnd : Bool) (raw : Option String) (here : List Char) : Reading :=
  match here with
  | [] => .stop [] []
  | '&' :: _ => readReference atEnd here
  | _ => if raw.isSome then readEndTag raw here else readMarkup here

/-- Behind plain text there is nothing, or an angle bracket, or an ampersand outside of raw contents. -/
theorem head_of_plainText? {raw : Option String} {text plain : List Char} (h : plainText? raw text = some plain) :
    ∀ c, (text.drop plain.length).head? = some c → c = '<' ∨ raw = none ∧ c = '&' := by
  intro c hc
  cases raw with
  | some element =>
    obtain ⟨cut, hcut, rfl⟩ := Option.map_eq_some_iff.mp h
    obtain ⟨stretch, found, rfl, hreads⟩ := exists_of_cutAtPattern? hcut
    rw [rawEnd, reads_literal_cons] at hreads
    obtain ⟨tail, rfl, -⟩ := hreads
    rw [List.drop_left] at hc
    exact .inl (Option.some.inj hc).symm
  | none =>
    obtain rfl := Option.some.inj h
    have hdrop : ∀ passes : Char → Bool, text.drop (text.takeWhile passes).length = text.dropWhile passes := fun passes =>
      (congrArg (List.drop _) (List.takeWhile_append_dropWhile (p := passes)).symm).trans List.drop_left
    have hstop := List.head?_dropWhile_not (fun c => c != '&' && c != '<') text
    rw [hdrop] at hc
    rw [hc] at hstop
    simp only [Bool.and_eq_false_iff, bne_eq_false_iff_eq] at hstop
    exact hstop.symm.imp id fun hampersand => ⟨rfl, hampersand⟩

theorem readHere_isSound (atEnd : Bool) {raw : Option String} {text plain : List Char}
    (h : plainText? raw text = some plain) :
    (readHere atEnd raw (text.drop plain.length)).IsSound raw (text.drop plain.length) := by
  have hhead := head_of_plainText? h
  generalize text.drop plain.length = here at hhead
  unfold readHere
  split
  · exact .nothing raw (List.suffix_refl [])
  · rename_i rest
    obtain ⟨rfl, -⟩ := (hhead '&' rfl).resolve_left (by decide)
    exact readReference_isSound atEnd (List.suffix_refl _)
  · rename_i hne hampersand
    split
    · exact readEndTag_isSound raw (List.suffix_refl _)
    · rename_i hnone
      obtain rfl : raw = none := by simpa using hnone
      obtain ⟨c, rest, rfl⟩ := List.exists_cons_of_ne_nil hne
      rcases hhead c rfl with rfl | ⟨-, rfl⟩
      · exact readMarkup_isSound (List.suffix_refl _)
      · exact absurd rfl (hampersand rest)

/-- A pass in terms of what is read at a place. -/
theorem pass_succ (atEnd : Bool) (fuel : Nat) (raw : Option String) (text : List Char) :
    pass atEnd (fuel + 1) raw text =
      match plainText? raw text with
      | none => .ok ⟨[], raw, text⟩
      | some plain =>
        match readHere atEnd raw (text.drop plain.length) with
        | .go found next rest => (pass atEnd fuel next rest).map (Stop.after (textTokens plain ++ found))
        | .stop found rest => .ok ⟨textTokens plain ++ found, raw, rest⟩
        | .rejected message => .error message
        | .incomplete =>
          if atEnd then
            (pass atEnd fuel raw (unfinished (text.drop plain.length)).2).map
              (Stop.after (textTokens plain ++ [.text (unfinished (text.drop plain.length)).1]))
          else .ok ⟨textTokens plain, raw, text.drop plain.length⟩ := by
  cases raw <;> rfl

/-- The tokens of a pass are read from its text. -/
theorem areRead_of_pass {atEnd : Bool} {fuel : Nat} {raw : Option String} {text : List Char} {stop : Stop}
    (h : pass atEnd fuel raw text = .ok stop) : AreRead raw text stop.tokens stop.raw stop.rest := by
  induction fuel generalizing raw text stop with
  | zero =>
    obtain rfl := Except.ok.inj h
    exact .nothing raw (List.suffix_refl text)
  | succ fuel ih =>
    rw [pass_succ] at h
    split at h
    · obtain rfl := Except.ok.inj h
      exact .nothing raw (List.suffix_refl text)
    · rename_i plain hplain
      have hread := readHere_isSound atEnd hplain
      have htext : AreRead raw text (textTokens plain) raw (text.drop plain.length) :=
        .textTokens raw plain (List.drop_suffix _ text)
      -- reading goes on after a token and, at the end, after what is left unfinished
      have hlater : ∀ {found next rest}, AreRead raw (text.drop plain.length) found next rest →
          (pass atEnd fuel next rest).map (Stop.after (textTokens plain ++ found)) = .ok stop →
            AreRead raw text stop.tokens stop.raw stop.rest := by
        intro found next rest hfound hpass
        cases hrest : pass atEnd fuel next rest with
        | error message =>
          rw [hrest] at hpass
          cases hpass
        | ok last =>
          rw [hrest] at hpass
          obtain rfl := Except.ok.inj hpass
          exact (htext.trans hfound).trans (ih hrest)
      split at h
      · rename_i found next rest hgo
        rw [hgo] at hread
        exact hlater hread h
      · rename_i found rest hstop
        rw [hstop] at hread
        obtain rfl := Except.ok.inj h
        exact htext.trans hread
      · cases h
      · split at h
        · exact hlater (.ofText raw _ (unfinished_suffix _)) h
        · obtain rfl := Except.ok.inj h
          exact htext

/-- The tokens of a text may follow each other, and the names of start tags are written in the text. -/
theorem areRead_of_tokens {text : List Char} {found : List Token} (h : tokens text = .ok found) :
    ∃ next, AreRead none text found next [] := by
  rw [tokens] at h
  cases hfirst : pass false (text.length + 1) none text with
  | error message =>
    rw [hfirst] at h
    cases h
  | ok first =>
    simp only [hfirst, bind, Except.bind] at h
    cases hsecond : pass true (first.rest.length + 1) first.raw first.rest with
    | error message =>
      rw [hsecond] at h
      cases h
    | ok second =>
      simp only [hsecond, pure, Except.pure] at h
      obtain rfl := Except.ok.inj h
      refine ⟨second.raw, ((areRead_of_pass hfirst).trans (areRead_of_pass hsecond)).trans ?_⟩
      split
      · exact .textTokens second.raw second.rest List.nil_suffix
      · exact .nothing second.raw List.nil_suffix

/-- A tree is built from tokens that are read from its text. -/
theorem exists_areRead_of_nodes {text : String} {found : List Node} (h : nodes text = .ok found) :
    ∃ read next, AreRead none text.toList read next [] ∧ found = (read.foldl Builder.take Builder.empty).finish := by
  rw [nodes] at h
  cases htokens : tokens text.toList with
  | error message =>
    rw [htokens] at h
    cases h
  | ok read =>
    rw [htokens] at h
    obtain ⟨next, hread⟩ := areRead_of_tokens htokens
    exact ⟨read, next, hread, (Except.ok.inj h).symm⟩

end Showcase.Html
