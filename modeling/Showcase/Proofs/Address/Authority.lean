import Showcase.Proofs.Address.Parts
import Showcase.Proofs.Json.RoundTrip

/-!
# Authorities that are read again

An address that is given a query is put together again from its own text. The authority of that text falls into the same
parts: its port is the same number, and its host is the same host, but that letters in escapes become small. This takes
that hosts in their normal form have no characters that would end them early, whichever form it is.
-/

namespace Showcase

/-! ## Lower case of ASCII -/

namespace Text

theorem lowerChar_of_ascii {c : Char} (hc : c.toNat < 128) :
    (lowerChar c).toNat < 128 ∧ lowerChar (lowerChar c) = lowerChar c ∧
      (Address.mayStandInHost c = true → Address.mayStandInHost (lowerChar c) = true) :=
  of_ascii (p := fun c => (lowerChar c).toNat < 128 ∧ lowerChar (lowerChar c) = lowerChar c ∧
    (Address.mayStandInHost c = true → Address.mayStandInHost (lowerChar c) = true)) (by decide +kernel) hc

/-- Characters of ASCII become small one by one. -/
theorem lower_of_ascii {s : List Char} (hs : ∀ c ∈ s, c.toNat < 128) : lower s = s.map lowerChar := by
  refine lower_eq_map fun c hc => ?_
  have hascii := hs c hc
  omega

theorem lower_lower_of_ascii {s : List Char} (hs : ∀ c ∈ s, c.toNat < 128) : lower (lower s) = lower s := by
  have hsmall : ∀ c ∈ s.map lowerChar, c.toNat < 128 := by
    intro c hc
    obtain ⟨d, hd, rfl⟩ := List.mem_map.mp hc
    exact (lowerChar_of_ascii (hs d hd)).1
  rw [lower_of_ascii hs, lower_of_ascii hsmall, List.map_map]
  apply List.map_congr_left
  intro c hc
  exact (lowerChar_of_ascii (hs c hc)).2.1

end Text

namespace Address

/-! ## Hosts of plain characters -/

theorem isPlain_nil : IsPlain [] := fun _ h => absurd h List.not_mem_nil

theorem isPlain_of_all {s : List Char} (h : s.all mayStandInHost = true) : IsPlain s := List.all_eq_true.mp h

theorem isPlain_append {s t : List Char} : IsPlain (s ++ t) ↔ IsPlain s ∧ IsPlain t := List.forall_mem_append

theorem ascii_of_isPlain {s : List Char} (h : IsPlain s) : ∀ c ∈ s, c.toNat < 128 :=
  fun c hc => ascii_of_mayStandInHost (h c hc)

theorem isPlain_lower {s : List Char} (h : IsPlain s) : IsPlain (Text.lower s) := by
  rw [Text.lower_of_ascii (ascii_of_isPlain h)]
  intro c hc
  obtain ⟨d, hd, rfl⟩ := List.mem_map.mp hc
  exact (Text.lowerChar_of_ascii (ascii_of_isPlain h d hd)).2.2 (h d hd)

/-- What separates the parts of an authority stands in no plain host. -/
theorem not_mem_of_isPlain {s : List Char} (h : IsPlain s) : '@' ∉ s ∧ ':' ∉ s ∧ '[' ∉ s := by
  refine ⟨fun hmem => ?_, fun hmem => ?_, fun hmem => ?_⟩
  · exact absurd (h _ hmem) (by decide)
  · exact absurd (h _ hmem) (by decide)
  · exact absurd (h _ hmem) (by decide)

theorem mayStandInHost_of_isUnreserved {c : Char} (hc : isUnreserved c = true) : mayStandInHost c = true := by
  rw [mayStandInHost, hc, Bool.true_or]

theorem mayStandInHost_of_hexValue? {c : Char} (hc : (Text.hexValue? c).isSome = true) : mayStandInHost c = true :=
  mayStandInHost_of_isUnreserved (isUnreserved_of_hexValue? hc)

theorem isPlain_encodePart (s : List Char) : IsPlain (encodePart mayStandInHost s) := by
  intro c hc
  rcases mem_encodePart hc with ⟨-, hstands⟩ | rfl | hhex
  · exact hstands
  · decide
  · exact mayStandInHost_of_hexValue? hhex

theorem isPlain_of_isFourOctets {host : List Char} (h : isFourOctets host = true) : IsPlain host := by
  intro c hc
  rcases char_of_isFourOctets h hc with rfl | hdigit
  · decide
  · exact mayStandInHost_of_isUnreserved (by simp [isUnreserved, hdigit])

/-! ## Hosts that were outside ASCII -/

namespace Unicode

theorem threshold_le (position bias : Nat) : threshold position bias ≤ 26 := by
  unfold threshold
  split
  · omega
  · split
    · omega
    · omega

theorem isUnreserved_digit {n : Nat} (h : n < 36) : isUnreserved (digit n) = true := by
  have hall : ∀ n < 36, isUnreserved (digit n) = true := by decide
  exact hall n h

theorem isPlain_distanceDigits (bias fuel position distance : Nat) :
    IsPlain (distanceDigits bias fuel position distance) := by
  induction fuel generalizing position distance with
  | zero =>
    intro c hc
    rw [distanceDigits, List.mem_singleton] at hc
    subst hc
    exact mayStandInHost_of_isUnreserved (isUnreserved_digit (Nat.mod_lt _ (by decide)))
  | succ fuel ih =>
    have hleast := threshold_le position bias
    rw [distanceDigits]
    split
    · rename_i hsmall
      intro c hc
      rw [List.mem_singleton.mp hc]
      exact mayStandInHost_of_isUnreserved (isUnreserved_digit (by omega))
    · intro c hc
      rcases List.mem_cons.mp hc with rfl | hlater
      · have hdigit := Nat.mod_lt (distance - threshold position bias) (show 36 - threshold position bias > 0 by omega)
        exact mayStandInHost_of_isUnreserved (isUnreserved_digit (by omega))
      · exact ih _ _ c hlater

theorem Progress.isPlain_pass {basicCount code : Nat} {progress : Progress} (h : IsPlain progress.written) (c : Char) :
    IsPlain (progress.pass basicCount code c).written := by
  unfold Progress.pass
  split
  · exact h
  · split
    · exact isPlain_append.mpr ⟨h, isPlain_distanceDigits _ _ _ _⟩
    · exact h

/-- A pass over the label keeps what is written plain. -/
theorem isPlain_passes (basicCount code : Nat) (chars : List Char) {progress : Progress} (h : IsPlain progress.written) :
    IsPlain (chars.foldl (Progress.pass basicCount code) progress).written := by
  induction chars generalizing progress with
  | nil => exact h
  | cons c chars ih => exact ih (Progress.isPlain_pass h c)

theorem isPlain_insertAll (label : List Char) (basicCount least : Nat) (codes : List Nat) {progress : Progress}
    (h : IsPlain progress.written) : IsPlain (insertAll label basicCount least codes progress).written := by
  induction codes generalizing least progress with
  | nil => exact h
  | cons code codes ih =>
    rw [insertAll]
    exact ih _ (isPlain_passes basicCount code label h)

/-- A label that is written in ASCII is so after its mark: first its characters of ASCII, then digits for the others. -/
theorem isPlain_encodeLabel {label : List Char} (hlabel : ∀ c ∈ label, c.toNat < 128 → mayStandInHost c = true) :
    IsPlain (encodeLabel label) := by
  have hbegin : IsPlain "xn--".toList := isPlain_of_all (by decide)
  have hbasic : IsPlain (label.filter fun c => c.toNat < 128) := by
    intro c hc
    rw [List.mem_filter, decide_eq_true_eq] at hc
    exact hlabel c hc.1 hc.2
  have hhyphen : IsPlain (if (label.filter fun c => c.toNat < 128).isEmpty then [] else ['-']) := by
    split
    · exact isPlain_nil
    · exact isPlain_of_all (by decide)
  exact isPlain_append.mpr ⟨isPlain_append.mpr ⟨isPlain_append.mpr ⟨hbegin, hbasic⟩, hhyphen⟩,
    isPlain_insertAll _ _ _ _ isPlain_nil⟩

/-! ## Labels that are read -/

/-- In ASCII, small letters, digits and the hyphen may stand in a label, and no neighbour lets another one in. -/
theorem isFree_of_mayStand {label before after : List Nat} {n : Nat} (h : Label.mayStand label before n after = true)
    (hascii : n < 128) : Label.isFree n = true := by
  by_contra hfree
  have hplaces : n ≠ 0x200C ∧ n ≠ 0x200D ∧ n ≠ 0xB7 ∧ n ≠ 0x375 ∧ n ≠ 0x5F3 ∧ n ≠ 0x5F4 ∧ n ≠ 0x30FB ∧
      ¬0x660 ≤ n ∧ ¬0x6F0 ≤ n := by omega
  simp [Label.mayStand, hfree, hplaces] at h

theorem isFree_of_allStand {label before points : List Nat} (h : Label.allStand label before points = true) :
    ∀ n ∈ points, n < 128 → Label.isFree n = true := by
  induction points generalizing before with
  | nil => exact fun _ hn => absurd hn List.not_mem_nil
  | cons first others ih =>
    rw [Label.allStand, Bool.and_eq_true] at h
    exact List.forall_mem_cons.mpr ⟨isFree_of_mayStand h.1, ih h.2⟩

theorem mayStandInHost_of_isLabel {points : List Nat} (h : Label.isLabel points = true) {c : Char}
    (hc : c.toNat ∈ points) (hascii : c.toNat < 128) : mayStandInHost c = true := by
  have hstand : Label.allStand points [] points = true := by
    simp only [Label.isLabel, Bool.and_eq_true] at h
    exact h.1.2
  have hall : ∀ c : Char, c.toNat < 128 → Label.isFree c.toNat = true → mayStandInHost c = true :=
    fun _ => Text.of_ascii (p := fun c => Label.isFree c.toNat = true → mayStandInHost c = true) (by decide +kernel)
  exact hall c hascii (isFree_of_allStand hstand _ hc hascii)

theorem mayStandInHost_of_digitValue? {c : Char} {n : Nat} (h : digitValue? c = some n) : mayStandInHost c = true := by
  apply mayStandInHost_of_isUnreserved
  unfold digitValue? at h
  split at h
  · rename_i hsmall
    simp only [isUnreserved, Text.isLetter, hsmall, Bool.true_or]
  · split at h
    · rename_i hdigit
      simp only [isUnreserved, hdigit, Bool.or_true, Bool.true_or]
    · cases h

/-- An insertion moves code points and takes none away. -/
theorem Decoding.subset_of_insert? {decoding next : Decoding} {distance : Nat}
    (h : decoding.insert? distance = some next) : decoding.points ⊆ next.points := by
  intro n hn
  unfold Decoding.insert? at h
  dsimp only at h
  rw [Option.ite_none_left_eq_some] at h
  obtain ⟨-, h⟩ := h
  generalize (decoding.place + distance) % (decoding.points.length + 1) = place at h
  rw [← Option.some.inj h, List.mem_append, List.mem_cons]
  rw [← List.take_append_drop place decoding.points, List.mem_append] at hn
  exact hn.imp_right .inr

theorem Decoding.subset_of_read? {decoding next : Decoding} {digit : Nat} (h : decoding.read? digit = some next) :
    decoding.points ⊆ next.points := by
  unfold Decoding.read? at h
  dsimp only at h
  split at h
  · exact subset_of_insert? h
  · rw [← Option.some.inj h]
    exact List.Subset.refl _

theorem Decoding.subset_of_foldlM {digits : List Nat} {decoding last : Decoding}
    (h : digits.foldlM read? decoding = some last) : decoding.points ⊆ last.points := by
  induction digits generalizing decoding with
  | nil =>
    cases h
    exact List.Subset.refl _
  | cons digit digits ih =>
    rw [List.foldlM_cons] at h
    obtain ⟨next, hnext, hothers⟩ := Option.bind_eq_some_iff.mp h
    exact List.Subset.trans (subset_of_read? hnext) (ih hothers)

/-- What is read of a label: each of its characters is one of the label, a hyphen or a digit. -/
theorem char_of_decodeLabel? {content : List Char} {points : List Nat} (h : decodeLabel? content = some points) :
    ∀ c ∈ content, c.toNat ∈ points ∨ c = '-' ∨ ∃ value, digitValue? c = some value := by
  have hcut : ∀ c ∈ content, c ∈ (Text.cutAtFirst '-' content.reverse).1 ∨ c = '-' ∨
      c ∈ (Text.cutAtFirst '-' content.reverse).2.getD [] := by
    intro c hc
    rw [← List.mem_reverse] at hc
    by_cases hhyphen : '-' ∈ content.reverse
    · obtain ⟨before, after, -, hsplit, hcut⟩ := Text.cutAtFirst_of_mem hhyphen
      rw [hcut]
      rwa [hsplit, List.mem_append, List.mem_cons] at hc
    · rw [Text.cutAtFirst_of_not_mem hhyphen]
      exact .inl hc
  unfold decodeLabel? at h
  revert h hcut
  rcases Text.cutAtFirst '-' content.reverse with ⟨digits, basic?⟩
  intro h hcut c hc
  dsimp only at h hcut
  rw [Option.ite_none_left_eq_some] at h
  obtain ⟨values, hvalues, h⟩ := Option.bind_eq_some_iff.mp h.2
  obtain ⟨decoding, hdecoding, h⟩ := Option.bind_eq_some_iff.mp h
  rw [Option.ite_none_right_eq_some] at h
  obtain rfl := Option.some.inj h.2
  rcases hcut c hc with hdigit | hhyphen | hbasic
  · exact .inr (.inr (exists_of_mapM hvalues c (List.mem_reverse.mpr hdigit)))
  · exact .inr (.inl hhyphen)
  · refine .inl (Decoding.subset_of_foldlM hdecoding ?_)
    exact List.mem_map_of_mem (List.mem_reverse.mpr hbasic)

/-- A label of ASCII is plain, whether it stands for itself or for another one. -/
theorem isPlain_of_pointsOf? {label : List Char} {points : List Nat} (hpoints : pointsOf? label = some points)
    (hlabel : Label.isLabel points = true) : ∀ c ∈ label, c.toNat < 128 → mayStandInHost c = true := by
  intro c hc hascii
  unfold pointsOf? at hpoints
  split at hpoints
  · rename_i hread
    rw [Bool.and_eq_true, List.isPrefixOf_iff_prefix] at hread
    obtain ⟨content, rfl⟩ := hread.2
    rcases List.mem_append.mp hc with hbegin | hcontent
    · exact isPlain_of_all (s := "xn--".toList) (by decide) c hbegin
    · rcases char_of_decodeLabel? hpoints c hcontent with hpoint | rfl | ⟨value, hvalue⟩
      · exact mayStandInHost_of_isLabel hlabel hpoint hascii
      · decide
      · exact mayStandInHost_of_digitValue? hvalue
  · obtain rfl := Option.some.inj hpoints
    exact mayStandInHost_of_isLabel hlabel (List.mem_map_of_mem hc) hascii

theorem isPlain_of_asciiLabel? {label written : List Char} (h : asciiLabel? label = some written) :
    IsPlain written := by
  obtain ⟨⟨points, hpoints, hlabel⟩, rfl⟩ := label_of_asciiLabel? h
  have hchars := isPlain_of_pointsOf? hpoints hlabel
  split
  · rename_i hall
    exact fun c hc => hchars c hc (of_decide_eq_true (List.all_eq_true.mp hall c hc))
  · exact isPlain_encodeLabel hchars

theorem isPlain_of_asciiLabels {written labels : List (List Char)}
    (h : List.Forall₂ (fun piece label => asciiLabel? label = some piece) written labels) :
    ∀ piece ∈ written, IsPlain piece := by
  induction h with
  | nil => exact fun _ hpiece => absurd hpiece List.not_mem_nil
  | cons hfirst _ ih => exact List.forall_mem_cons.mpr ⟨isPlain_of_asciiLabel? hfirst, ih⟩

theorem isPlain_intercalate {pieces : List (List Char)} (h : ∀ piece ∈ pieces, IsPlain piece) :
    IsPlain (List.intercalate ['.'] pieces) := by
  induction pieces with
  | nil => exact isPlain_nil
  | cons piece pieces ih =>
    obtain ⟨hfirst, hothers⟩ := List.forall_mem_cons.mp h
    by_cases hnil : pieces = []
    · subst hnil
      simpa using hfirst
    · rw [Text.intercalate_cons_of_ne_nil hnil]
      intro c hc
      rcases List.mem_append.mp hc with hc | hc
      · exact hfirst c hc
      · rcases List.mem_cons.mp hc with rfl | hc
        · decide
        · exact ih hothers c hc

theorem isPlain_of_asciiHost? {host normal : List Char} (h : asciiHost? host = some normal) : IsPlain normal := by
  unfold asciiHost? at h
  dsimp only at h
  generalize Text.splitAtChar '.' _ = labels at h
  generalize (if labels.getLast? == some [] then labels.dropLast else labels) = named at h
  split at h
  · cases h
  obtain ⟨written, hwritten, rfl⟩ := Option.map_eq_some_iff.mp (Option.filter_eq_some_iff.mp h).1
  have hlabels := isPlain_of_asciiLabels (forall₂_of_mapM hwritten)
  apply isPlain_intercalate
  intro piece hpiece
  rcases List.mem_append.mp hpiece with hlabel | hlast
  · exact hlabels piece hlabel
  · split at hlast
    · rw [List.mem_singleton.mp hlast]
      exact isPlain_nil
    · cases hlast

end Unicode

/-! ## Normal forms that are read again -/

/-- A host in its normal form: of plain characters, or a number in groups, which has colons in it. -/
inductive IsNormal (host : List Char) : Prop where
  | plain (hplain : IsPlain host)
  | groups (hcolon : ':' ∈ host) (huser : '@' ∉ host)

/-- A number in groups has two colons at least. -/
theorem mem_colon_of_isGroups {s : List Char} (h : isGroups s = true) : ':' ∈ s := by
  by_contra hnone
  have hone : (Text.splitAtChar ':' s).length < 3 := by
    rw [Text.splitAtChar_of_not_mem hnone, List.length_singleton]
    omega
  unfold isGroups at h
  split at h
  · cases h
  · rw [if_pos (by simp [hone])] at h
    cases h

theorem mem_colon_of_isZonedGroups {s : List Char} (h : isZonedGroups s = true) : ':' ∈ s := by
  have hbefore : ∀ c ∈ (Text.cutAtFirst '%' s).1, c ∈ s := by
    intro c hc
    rw [Text.cutAtFirst_fst] at hc
    exact (List.takeWhile_sublist _).subset hc
  unfold isZonedGroups at h
  split at h
  · rename_i groups zone hcut
    rw [hcut] at hbefore
    simp only [Bool.and_eq_true] at h
    exact hbefore _ (mem_colon_of_isGroups h.1.1)
  · rename_i groups hcut
    rw [hcut] at hbefore
    exact hbefore _ (mem_colon_of_isGroups h)

theorem NormalForm.isNormal {host normal : List Char} (h : NormalForm host normal) (huser : '@' ∉ host) :
    IsNormal normal := by
  cases h with
  | empty => exact .plain isPlain_nil
  | octets hoctets => exact .plain (isPlain_of_isFourOctets hoctets)
  | groups inside hwritten hgroups =>
    refine .groups (mem_colon_of_isZonedGroups hgroups) fun hmem => huser ?_
    rw [hwritten]
    simp [hmem]
  | encoded => exact .plain (isPlain_encodePart _)
  | written normal hascii => exact .plain (Unicode.isPlain_of_asciiHost? hascii)

/-- A host as it stands in an address: in brackets if it has a colon. -/
def hostText (host : List Char) : List Char := if ':' ∈ host then '[' :: (host ++ [']']) else host

/-- A host that is read again is the same, but that its letters are small. -/
theorem lower_of_normalHost_hostText {host again : List Char} (hhost : IsNormal host)
    (h : normalHost (hostText host) = .ok again) : Text.lower again = Text.lower host := by
  have hform := normalHost_form h
  by_cases hcolon : ':' ∈ host
  · rw [hostText, if_pos hcolon] at hform
    rw [hform.of_brackets]
  · rw [hostText, if_neg hcolon] at hform
    have hplain : IsPlain host := by
      cases hhost with
      | plain hplain => exact hplain
      | groups hmem => exact absurd hmem hcolon
    have hlower := Text.lower_lower_of_ascii (ascii_of_isPlain hplain)
    cases hform with
    | empty hempty => rw [hempty]
    | octets => rfl
    | groups inside hwritten =>
      have hmem : '[' ∈ host := by
        rw [hwritten]
        exact List.mem_cons_self
      exact absurd hmem (not_mem_of_isPlain hplain).2.2
    | encoded => rw [encodePart_eq_self (isPlain_lower hplain), hlower]
    | written again hascii => rw [asciiHost?_plain (isPlain_lower hplain) hascii, hlower]

/-! ## Ports -/

/-- A port as digits, none if there is no port. -/
def portDigits : Option Int → List Char
  | some number => (toString number).toList
  | none => []

theorem char_of_toString {number : Int} {c : Char} (hc : c ∈ (toString number).toList) :
    c = '-' ∨ Text.isDigit c = true := by
  rw [Json.toList_toString] at hc
  split at hc
  · rcases List.mem_cons.mp hc with rfl | hdigit
    · exact .inl rfl
    · exact .inr (Json.isDigit_toDigits _ c hdigit)
  · exact .inr (Json.isDigit_toDigits _ c hc)

theorem isBlank_of_isDigit {c : Char} (hc : Text.isDigit c = true) : Text.isBlank c = false := by
  have hbounds := Json.toNat_of_isDigit hc
  have hall : ∀ n < 58, 48 ≤ n → Text.isBlank (Char.ofNat n) = false := by decide
  have hone := hall c.toNat (by omega) hbounds.1
  rwa [Char.ofNat_toNat] at hone

/-- A text without blanks is trimmed already. -/
theorem portDigits?_of_digits {s : List Char} (hnil : s ≠ []) (hs : ∀ c ∈ s, Text.isDigit c = true) :
    portDigits? s = some s := by
  have hdecimal : ∀ {c : Char}, Text.isDigit c = true → Text.isDecimal c = true := by
    intro c hc
    have hbounds := Json.toNat_of_isDigit hc
    rw [Text.isDecimal, if_pos (by omega), hc]
  induction s with
  | nil => exact absurd rfl hnil
  | cons c rest ih =>
    obtain ⟨hc, hrest⟩ := List.forall_mem_cons.mp hs
    rcases rest with _ | ⟨d, later⟩
    · rw [portDigits?, if_pos (hdecimal hc)]
    · have hline : d ≠ '_' := by
        rintro rfl
        exact absurd (hrest '_' List.mem_cons_self) (by decide)
      rw [portDigits?, if_pos (hdecimal hc), ih (by simp) hrest]
      · rfl
      · simp
      · intro other heq
        exact absurd (List.cons.inj heq).1 hline

theorem foldl_digitValue_from {s : List Char} (hs : ∀ c ∈ s, Text.isDigit c = true) (start : Nat) :
    s.foldl (fun n c => n * 10 + digitValue c) start = s.foldl (fun n c => n * 10 + (c.toNat - 48)) start := by
  induction s generalizing start with
  | nil => rfl
  | cons c rest ih =>
    have hc : digitValue c = c.toNat - 48 := by rw [digitValue, if_pos (hs c List.mem_cons_self)]
    rw [List.foldl_cons, List.foldl_cons, hc, ih fun d hd => hs d (List.mem_cons_of_mem c hd)]

theorem foldl_digitValue {s : List Char} (hs : ∀ c ∈ s, Text.isDigit c = true) :
    s.foldl (fun n c => n * 10 + digitValue c) 0 = Text.decimalNumber s := foldl_digitValue_from hs 0

/-- A number that is read as a port is read back from its digits. -/
theorem eq_of_portNumber?_toString {number read : Int}
    (h : portNumber? (toString number).toList = some read) : read = number := by
  have hblanks : ∀ c ∈ (toString number).toList, Text.isBlank c = false := by
    intro c hc
    rcases char_of_toString hc with rfl | hdigit
    · decide
    · exact isBlank_of_isDigit hdigit
  have hdigits := Json.isDigit_toDigits number.natAbs
  unfold portNumber? at h
  rw [Text.trim_eq_self hblanks, Json.toList_toString] at h
  by_cases hnegative : number < 0
  · rw [if_pos hnegative] at h
    simp only [portDigits?_of_digits Nat.toDigits_ne_nil hdigits, foldl_digitValue hdigits,
      Json.decimalNumber_toDigits, Option.bind_some] at h
    split at h
    · cases h
    · have hread := Option.some.inj h
      rw [if_pos trivial] at hread
      omega
  · -- the first digit is no sign
    obtain ⟨c, others, hfirst, hc⟩ := Json.toDigits_head number.natAbs
    rw [if_neg hnegative] at h
    rw [hfirst] at h hdigits
    have hvalue : Text.decimalNumber (c :: others) = number.natAbs := by
      rw [← hfirst, Json.decimalNumber_toDigits]
    split at h
    rename_i negative unsigned heq
    split at heq
    · rename_i rest hsign
      rw [(List.cons.inj hsign).1] at hc
      cases hc
    · rename_i rest hsign
      rw [(List.cons.inj hsign).1] at hc
      cases hc
    · cases heq
      simp only [portDigits?_of_digits (List.cons_ne_nil c others) hdigits, foldl_digitValue hdigits, hvalue,
        Option.bind_some] at h
      split at h
      · cases h
      · have hread := Option.some.inj h
        rw [if_neg Bool.false_ne_true] at hread
        omega

/-- The port that counts: the one that is given, or else that of the scheme. -/
def effectivePort (scheme : String) (port : Option Int) : Option Int := port.or (standardPorts.lookup scheme)

/-- A port that is read again counts as before. -/
theorem effectivePort_of_normalPort {scheme : List Char} {port again : Option Int}
    (h : normalPort scheme (portDigits port) = .ok again) :
    effectivePort (String.ofList scheme) again = effectivePort (String.ofList scheme) port := by
  cases port with
  | none =>
    cases h
    rfl
  | some number =>
    have hfilled : (toString number).toList.isEmpty = false := by
      obtain ⟨c, others, hfirst, -⟩ := Json.toDigits_head number.natAbs
      rw [Json.toList_toString, hfirst]
      split <;> rfl
    rw [normalPort, portDigits, hfilled, if_neg Bool.false_ne_true] at h
    split at h
    · cases h
    rename_i read hread
    obtain rfl := eq_of_portNumber?_toString hread
    cases h
    by_cases hstandard : standardPorts.lookup (String.ofList scheme) = some read
    · rw [if_pos (by simp [hstandard])]
      simp [effectivePort, hstandard]
    · rw [if_neg (by simpa using hstandard)]

/-! ## Authorities -/

/-- A port as it stands in an address, none if there is no port. -/
def portText : Option Int → List Char
  | some number => ':' :: (toString number).toList
  | none => []

theorem char_of_portText {port : Option Int} : ∀ c ∈ portText port, c = ':' ∨ c = '-' ∨ Text.isDigit c = true := by
  intro c hc
  cases port with
  | none => cases hc
  | some number =>
    rcases List.mem_cons.mp hc with rfl | hdigit
    · exact .inl rfl
    · exact .inr (char_of_toString hdigit)

theorem not_mem_portText {port : Option Int} : '@' ∉ portText port ∧ ']' ∉ portText port := by
  refine ⟨fun hmem => ?_, fun hmem => ?_⟩
  · exact absurd (char_of_portText _ hmem) (by decide)
  · exact absurd (char_of_portText _ hmem) (by decide)

theorem occursIn_singleton (c : Char) (s : List Char) : Text.occursIn [c] s = true ↔ c ∈ s := by
  induction s with
  | nil => simp [Text.occursIn]
  | cons first rest ih =>
    rw [Text.occursIn, Bool.or_eq_true, ih, List.mem_cons, List.isPrefixOf_iff_prefix, List.cons_prefix_cons]
    simp

theorem toList_authority (address : Address) :
    address.authority.toList = (if address.user.isEmpty then [] else address.user.toList ++ ['@']) ++
      (hostText address.host.toList ++ portText address.port) := by
  have hhost : (if contains address.host ":" then "[" ++ address.host ++ "]" else address.host).toList =
      hostText address.host.toList := by
    have hcolon : contains address.host ":" = true ↔ ':' ∈ address.host.toList := occursIn_singleton ':' _
    by_cases hmem : ':' ∈ address.host.toList
    · rw [if_pos (hcolon.mpr hmem), hostText, if_pos hmem]
      simp [String.toList_append]
    · rw [if_neg (fun h => hmem (hcolon.mp h)), hostText, if_neg hmem]
  have hport : ∀ port : Option Int, (match port with
      | some port => ":" ++ toString port
      | none => "").toList = portText port := by
    intro port
    cases port with
    | none => rfl
    | some number => simp [portText, String.toList_append]
  have huser : (if address.user.isEmpty then "" else address.user ++ "@").toList =
      if address.user.isEmpty then [] else address.user.toList ++ ['@'] := by
    split
    · rfl
    · simp [String.toList_append]
  calc address.authority.toList
      = (if address.user.isEmpty then "" else address.user ++ "@").toList ++
          (if contains address.host ":" then "[" ++ address.host ++ "]" else address.host).toList ++
            portText address.port := by
        rw [authority, String.toList_append, String.toList_append]
        exact congrArg (HAppend.hAppend _) (hport address.port)
    _ = _ := by rw [huser, hhost, List.append_assoc]

/-- Host and port stand after the user, also when they are read again. -/
theorem hostAndPort_authority {address : Address} (hhost : '@' ∉ address.host.toList) :
    Text.afterLast '@' address.authority.toList = hostText address.host.toList ++ portText address.port := by
  have hnone : '@' ∉ hostText address.host.toList ++ portText address.port := by
    rw [List.mem_append, not_or]
    refine ⟨?_, not_mem_portText.1⟩
    unfold hostText
    split
    · simp [hhost]
    · exact hhost
  rw [toList_authority]
  split
  · rw [List.nil_append, Text.afterLast_of_not_mem hnone]
  · rw [List.append_assoc, List.singleton_append, Text.afterLast_append, Text.afterLast_of_not_mem hnone]

/-- A host of plain characters, whatever its port is, is in no brackets. -/
theorem bracketedHost?_of_plain {host : List Char} (h : IsPlain host) (port : Option Int) :
    bracketedHost? (host ++ portText port) = none := by
  have hbracket : (host ++ portText port).head? ≠ some '[' := by
    intro hhead
    rcases List.mem_append.mp (List.mem_of_head? hhead) with hin | hin
    · exact (not_mem_of_isPlain h).2.2 hin
    · exact absurd (char_of_portText _ hin) (by decide)
  rw [bracketedHost?, beq_eq_false_iff_ne.mpr hbracket]
  rfl

/-- Host and port are told apart again: after the brackets, if there are any, and at the first colon otherwise. -/
theorem writtenAuthority_authority {address : Address} (hhost : IsNormal address.host.toList) :
    (writtenAuthority address.authority.toList).host = hostText address.host.toList ∧
      (writtenAuthority address.authority.toList).port = portDigits address.port := by
  have huser : '@' ∉ address.host.toList := by
    cases hhost with
    | plain hplain => exact (not_mem_of_isPlain hplain).1
    | groups _ huser => exact huser
  have hport : (if (portText address.port).head? == some ':' then (portText address.port).drop 1
      else portText address.port) = portDigits address.port := by
    cases address.port <;> rfl
  unfold writtenAuthority
  dsimp only
  rw [hostAndPort_authority huser]
  -- a host with a colon is written in brackets, and a port is read behind them; any other is read up to the first colon
  by_cases hcolon : ':' ∈ address.host.toList
  · have hread : bracketedHost? (hostText address.host.toList ++ portText address.port) =
        some (hostText address.host.toList, portText address.port) := by
      rw [hostText, if_pos hcolon, ← List.cons_append, List.append_assoc, List.singleton_append]
      exact bracketedHost?_of_append rfl not_mem_portText.2
    rw [hread]
    exact ⟨rfl, hport⟩
  · have hplain : IsPlain address.host.toList := by
      cases hhost with
      | plain hplain => exact hplain
      | groups hmem => exact absurd hmem hcolon
    have hpass : ∀ c ∈ address.host.toList, (c != ':') = true := by
      intro c hc
      simp only [bne_iff_ne, ne_eq]
      rintro rfl
      exact hcolon hc
    have hstop : (portText address.port).takeWhile (· != ':') = [] ∧
        (portText address.port).dropWhile (· != ':') = portText address.port := by
      cases address.port with
      | none => exact ⟨rfl, rfl⟩
      | some number => exact ⟨rfl, rfl⟩
    rw [hostText, if_neg hcolon, bracketedHost?_of_plain hplain]
    simp only [Option.getD_none, List.takeWhile_append_of_pos hpass, List.dropWhile_append_of_pos hpass, hstop,
      List.append_nil, hport, and_self]

end Address

end Showcase
