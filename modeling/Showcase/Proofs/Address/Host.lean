import Mathlib.Data.List.Forall2
import Showcase.Proofs.Address.Escape
import Showcase.Proofs.Text.Split

/-!
# Normal forms of hosts

A host that is brought into its normal form stays under the host that it lies under: what stands after a point is
encoded, or written in ASCII, on its own, and a text of plain characters is left as it is.
-/

namespace Showcase.Address

/-! ## Plain texts -/

/-- All characters are of ASCII and may stand in a host. -/
def IsPlain (s : List Char) : Prop := ∀ c ∈ s, mayStandInHost c = true

theorem ascii_of_isUnreserved {c : Char} (hc : isUnreserved c = true) : c.toNat < 128 := by
  simp only [isUnreserved, Text.isLetter, Text.isDigit, Bool.or_eq_true, Bool.and_eq_true, decide_eq_true_eq,
    beq_iff_eq] at hc
  rcases hc with (((((⟨-, hle⟩ | ⟨-, hle⟩) | ⟨-, hle⟩) | rfl) | rfl) | rfl) | rfl
  · exact Nat.lt_of_le_of_lt (Text.toNat_le_of_le hle) (by decide)
  · exact Nat.lt_of_le_of_lt (Text.toNat_le_of_le hle) (by decide)
  · exact Nat.lt_of_le_of_lt (Text.toNat_le_of_le hle) (by decide)
  · decide
  · decide
  · decide
  · decide

theorem ascii_of_mayStandInHost {c : Char} (hc : mayStandInHost c = true) : c.toNat < 128 := by
  rw [mayStandInHost, Bool.or_eq_true] at hc
  rcases hc with hunreserved | hmark
  · exact ascii_of_isUnreserved hunreserved
  · have hall : ("!$&'()*+,;=\"\x60\x7b\x7d%|\\".toList.all fun d => d.toNat < 128) = true := rfl
    exact of_decide_eq_true (List.all_eq_true.mp hall c (List.contains_iff_mem.mp hmark))

/-! ## Hosts outside ASCII -/

/-- How a label may be written: as it is if it is of ASCII, and never as nothing. -/
structure Writes (written label : List Char) : Prop where
  ascii : (∀ c ∈ label, c.toNat < 128) → written = label
  filled : label ≠ [] → written ≠ []

theorem Writes.nil : Writes [] [] := ⟨fun _ => rfl, fun h => absurd rfl h⟩

/-- A label that is written is one, or one of ASCII stands for it. -/
theorem label_of_asciiLabel? {label written : List Char} (h : Unicode.asciiLabel? label = some written) :
    (∃ points, Unicode.pointsOf? label = some points ∧ Label.isLabel points = true) ∧
      written = if label.all (·.toNat < 128) then label else Unicode.encodeLabel label := by
  unfold Unicode.asciiLabel? at h
  dsimp only at h
  generalize (if label.all fun c => decide (c.toNat < 128) then label else Unicode.encodeLabel label) = form at h ⊢
  rw [Option.ite_none_right_eq_some, Bool.and_eq_true, Option.any_eq_true] at h
  exact ⟨h.1.1, (Option.some.inj h.2).symm⟩

/-- The empty text is no label and stands for none. -/
theorem ne_nil_of_pointsOf? {label : List Char} {points : List Nat} (hpoints : Unicode.pointsOf? label = some points)
    (hlabel : Label.isLabel points = true) : label ≠ [] := by
  rintro rfl
  cases hpoints
  cases hlabel

theorem writes_of_asciiLabel? {label written : List Char} (h : Unicode.asciiLabel? label = some written) :
    Writes written label ∧ written ≠ [] := by
  obtain ⟨⟨points, hpoints, hlabel⟩, rfl⟩ := label_of_asciiLabel? h
  have hfilled := ne_nil_of_pointsOf? hpoints hlabel
  by_cases hall : label.all (fun c => decide (c.toNat < 128)) = true
  · rw [if_pos hall]
    exact ⟨⟨fun _ => rfl, id⟩, hfilled⟩
  · rw [if_neg hall]
    have hencoded : Unicode.encodeLabel label ≠ [] := by simp [Unicode.encodeLabel]
    refine ⟨⟨fun hascii => absurd ?_ hall, fun _ => hencoded⟩, hencoded⟩
    simpa using hascii

theorem forall₂_of_mapM {α β : Type} {f : α → Option β} {items : List α} {results : List β}
    (h : items.mapM f = some results) : List.Forall₂ (fun result item => f item = some result) results items := by
  induction items generalizing results with
  | nil =>
    simp only [List.mapM_nil, Option.pure_def, Option.some.injEq] at h
    subst h
    exact .nil
  | cons item items ih =>
    simp only [List.mapM_cons, Option.bind_eq_bind, Option.bind_eq_some_iff, Option.pure_def, Option.some.injEq] at h
    obtain ⟨result, hresult, others, hothers, rfl⟩ := h
    exact .cons hresult (ih hothers)

/-- Where all items have a result, each has one. -/
theorem exists_of_mapM {α β : Type} {f : α → Option β} {items : List α} {results : List β}
    (h : items.mapM f = some results) : ∀ item ∈ items, ∃ result, f item = some result := by
  have hall := forall₂_of_mapM h
  clear h
  induction hall with
  | nil => exact fun _ hitem => absurd hitem List.not_mem_nil
  | cons hfirst _ ih => exact List.forall_mem_cons.mpr ⟨⟨_, hfirst⟩, ih⟩

/-- The labels of a host, the points of all scripts taken for points. -/
def labelsOf (host : List Char) : List (List Char) :=
  Text.splitAtChar '.' (host.map fun c => if [0x3002, 0xFF0E, 0xFF61].contains c.toNat then '.' else c)

/-- A host is written label by label. -/
theorem asciiHost?_cases {host normal : List Char} (h : Unicode.asciiHost? host = some normal) :
    ∃ written, List.Forall₂ Writes written (labelsOf host) ∧ normal = List.intercalate ['.'] written ∧
      normal ≠ [] := by
  have hjoined : ∀ {first : List Char} {others : List (List Char)}, first ≠ [] →
      List.intercalate ['.'] (first :: others) ≠ [] := by
    intro first others hfirst
    rcases others with _ | ⟨next, more⟩
    · simpa using hfirst
    · rw [Text.intercalate_cons_of_ne_nil (by simp)]
      simp
  have hwrites : ∀ {named written : List (List Char)}, named ≠ [] → named.mapM Unicode.asciiLabel? = some written →
      List.Forall₂ Writes written named ∧ ∃ first others, written = first :: others ∧ first ≠ [] := by
    intro named written hnamed hmap
    have hall := forall₂_of_mapM hmap
    refine ⟨hall.imp fun _ _ hlabel => (writes_of_asciiLabel? hlabel).1, ?_⟩
    cases hall with
    | nil => exact absurd rfl hnamed
    | cons hfirst => exact ⟨_, _, rfl, (writes_of_asciiLabel? hfirst).2⟩
  unfold Unicode.asciiHost? at h
  dsimp only at h
  rw [show (Text.splitAtChar '.' _) = labelsOf host from rfl] at h
  by_cases hlast : (labelsOf host).getLast? = some []
  · -- the empty label at the end is left out, and put back
    have hback : labelsOf host = (labelsOf host).dropLast ++ [[]] := (List.dropLast_append_getLast? [] hlast).symm
    simp only [hlast, beq_self_eq_true, if_true] at h
    split at h
    · cases h
    rename_i hnamed
    obtain ⟨written, hmap, rfl⟩ := Option.map_eq_some_iff.mp (Option.filter_eq_some_iff.mp h).1
    obtain ⟨hall, first, others, rfl, hfirst⟩ := hwrites (by simpa using hnamed) hmap
    rw [if_pos (by rw [hback]; simp)]
    refine ⟨first :: others ++ [[]], ?_, rfl, hjoined hfirst⟩
    rw [hback]
    exact List.rel_append hall (.cons .nil .nil)
  · have hnamed : ((labelsOf host).getLast? == some []) = false := by simpa using hlast
    simp only [hnamed, Bool.false_eq_true, if_false] at h
    split at h
    · cases h
    rename_i hnamed
    obtain ⟨written, hmap, rfl⟩ := Option.map_eq_some_iff.mp (Option.filter_eq_some_iff.mp h).1
    obtain ⟨hall, first, others, rfl, hfirst⟩ := hwrites (by simpa using hnamed) hmap
    rw [if_neg (Nat.lt_irrefl _), List.append_nil]
    exact ⟨first :: others, hall, rfl, hjoined hfirst⟩

/-- Labels of ASCII are written as they are. -/
theorem eq_of_writes {written labels : List (List Char)} (h : List.Forall₂ Writes written labels)
    (hascii : ∀ label ∈ labels, ∀ c ∈ label, c.toNat < 128) : written = labels := by
  induction h with
  | nil => rfl
  | cons hlabel hothers ih =>
    rw [hlabel.ascii (hascii _ List.mem_cons_self), ih fun label hmem => hascii label (List.mem_cons_of_mem _ hmem)]

theorem ascii_of_piece {known piece : List Char} (hplain : IsPlain known) (hpiece : piece ∈ Text.splitAtChar '.' known) :
    ∀ c ∈ piece, c.toNat < 128 :=
  fun c hc => ascii_of_mayStandInHost (hplain c (Text.mem_of_mem_piece hpiece hc))

theorem map_point_of_plain {known : List Char} (hplain : IsPlain known) :
    (known.map fun c => if [0x3002, 0xFF0E, 0xFF61].contains c.toNat then '.' else c) = known := by
  conv_rhs => rw [← List.map_id known]
  apply List.map_congr_left
  intro c hc
  have hascii := ascii_of_mayStandInHost (hplain c hc)
  have hpoint : [0x3002, 0xFF0E, 0xFF61].contains c.toNat = false := by
    simp only [List.contains_eq_mem, List.mem_cons, List.not_mem_nil, or_false, decide_eq_false_iff_not]
    omega
  rw [hpoint]
  rfl

theorem labelsOf_plain {known : List Char} (hplain : IsPlain known) : labelsOf known = Text.splitAtChar '.' known := by
  rw [labelsOf, map_point_of_plain hplain]

theorem labelsOf_append {known : List Char} (hplain : IsPlain known) (s : List Char) :
    labelsOf (s ++ '.' :: known) = labelsOf s ++ Text.splitAtChar '.' known := by
  rw [labelsOf, List.map_append, List.map_cons, map_point_of_plain hplain]
  exact Text.splitAtChar_append '.' _ known

/-- A plain host is written as it is. -/
theorem asciiHost?_plain {known normal : List Char} (hplain : IsPlain known)
    (h : Unicode.asciiHost? known = some normal) : normal = known := by
  obtain ⟨written, hall, rfl, -⟩ := asciiHost?_cases h
  rw [labelsOf_plain hplain] at hall
  rw [eq_of_writes hall fun label hlabel => ascii_of_piece hplain hlabel, Text.intercalate_splitAtChar]

/-- A host under a plain host is written under it. -/
theorem asciiHost?_under {s known normal : List Char} (hplain : IsPlain known)
    (h : Unicode.asciiHost? (s ++ '.' :: known) = some normal) : ∃ t, normal = t ++ '.' :: known := by
  obtain ⟨written, hall, rfl, -⟩ := asciiHost?_cases h
  rw [labelsOf_append hplain] at hall
  have hfirst := List.forall₂_take_append _ _ _ hall
  have hsecond := List.forall₂_drop_append _ _ _ hall
  have hsame := eq_of_writes hsecond fun label hlabel => ascii_of_piece hplain hlabel
  have hfilled : written.take (labelsOf s).length ≠ [] := by
    intro hnil
    rw [hnil] at hfirst
    exact Text.splitAtChar_ne_nil '.' _ (List.forall₂_nil_left_iff.mp hfirst)
  refine ⟨List.intercalate ['.'] (written.take (labelsOf s).length), ?_⟩
  calc List.intercalate ['.'] written
      = List.intercalate ['.'] (written.take (labelsOf s).length ++ written.drop (labelsOf s).length) := by
        rw [List.take_append_drop]
    _ = List.intercalate ['.'] (written.take (labelsOf s).length) ++ '.' ::
          List.intercalate ['.'] (Text.splitAtChar '.' known) := by
        rw [hsame, Text.intercalate_append hfilled (Text.splitAtChar_ne_nil '.' known)]
    _ = List.intercalate ['.'] (written.take (labelsOf s).length) ++ '.' :: known := by
        rw [Text.intercalate_splitAtChar]

/-! ## Normal forms -/

/-- What the normal form of a host may be. -/
inductive NormalForm (host : List Char) : List Char → Prop where
  | empty (hhost : host = []) : NormalForm host []
  /-- A number in octets stays as it is. -/
  | octets (hoctets : isFourOctets host = true) : NormalForm host host
  /-- A number in groups leaves its brackets. -/
  | groups (inside : List Char) (hhost : host = '[' :: (inside ++ [']'])) (hgroups : isZonedGroups inside = true) :
      NormalForm host inside
  /-- A host of ASCII is encoded. -/
  | encoded (hhost : host ≠ []) (hbare : ¬(host.head? = some '[' ∧ host.getLast? = some ']')) :
      NormalForm host (encodePart mayStandInHost (Text.lower host))
  /-- Any other host is written in ASCII. -/
  | written (normal : List Char) (hascii : Unicode.asciiHost? (Text.lower host) = some normal)
      (hbare : ¬(host.head? = some '[' ∧ host.getLast? = some ']')) : NormalForm host normal

/-- A text between brackets. -/
theorem eq_of_brackets {s : List Char} (hhead : s.head? = some '[') (hlast : s.getLast? = some ']') :
    s = '[' :: ((s.drop 1).dropLast ++ [']']) := by
  rcases s with _ | ⟨first, rest⟩
  · cases hhead
  · cases hhead
    rcases hrest : rest.getLast? with _ | last
    · rw [List.getLast?_eq_none_iff.mp hrest] at hlast
      cases hlast
    · simp only [List.getLast?_cons, hrest, Option.getD_some, Option.some.injEq] at hlast
      subst hlast
      rw [List.drop_one, List.tail_cons, List.dropLast_append_getLast? _ hrest]

theorem normalHost_form {host normal : List Char} (h : normalHost host = .ok normal) : NormalForm host normal := by
  unfold normalHost at h
  dsimp only at h
  split at h
  · rename_i hempty
    cases h
    exact .empty (List.isEmpty_iff.mp hempty)
  rename_i hfilled
  -- a number in octets, a number between brackets, or a name, of ASCII or not
  split at h
  · split at h
    · rename_i hoctets
      cases h
      exact .octets hoctets
    · cases h
  split at h
  · rename_i hbracket
    split at h
    · rename_i hgroups
      cases h
      simp only [Bool.and_eq_true, beq_iff_eq] at hbracket
      exact .groups _ (eq_of_brackets hbracket.1.1 hbracket.1.2) hgroups
    · cases h
  rename_i hbracket
  have hbare : ¬(host.head? = some '[' ∧ host.getLast? = some ']') := by
    rintro ⟨hhead, hlast⟩
    apply hbracket
    have hlength : 2 ≤ host.length := by
      rw [eq_of_brackets hhead hlast]
      simp
    simp [hhead, hlast, hlength]
  split at h
  · cases h
    exact .encoded (by simpa using hfilled) hbare
  · split at h
    · rename_i ascii hascii
      cases h
      exact .written _ hascii hbare
    · cases h

/-- Four octets are made of digits and points. -/
theorem char_of_isFourOctets {host : List Char} (h : isFourOctets host = true) {c : Char} (hc : c ∈ host) :
    c = '.' ∨ Text.isDigit c = true := by
  rcases Text.mem_splitAtChar '.' hc with rfl | ⟨octet, hoctet, hin⟩
  · exact .inl rfl
  · simp only [isFourOctets, Bool.and_eq_true, List.all_eq_true] at h
    have hdigits := h.2 octet hoctet
    simp only [isOctet, Bool.and_eq_true, List.all_eq_true] at hdigits
    exact .inr (hdigits.1.1.1.2 c hin)

/-- Four octets are their own lower case. -/
theorem lower_of_isFourOctets {host : List Char} (h : isFourOctets host = true) : Text.lower host = host := by
  apply Text.lower_of_small
  intro c hc
  rcases char_of_isFourOctets h hc with rfl | hdigit
  · decide
  · simp only [Text.isDigit, Bool.and_eq_true, decide_eq_true_eq] at hdigit
    have hle : c.toNat ≤ 57 := Text.toNat_le_of_le hdigit.2
    refine ⟨by omega, ?_⟩
    apply Bool.eq_false_iff.mpr
    intro hcapital
    simp only [Text.isCapital, Bool.and_eq_true, decide_eq_true_eq] at hcapital
    have hge : 65 ≤ c.toNat := Text.toNat_le_of_le hcapital.1
    omega

/-- A host in brackets loses them. -/
theorem NormalForm.of_brackets {inner normal : List Char} (h : NormalForm ('[' :: (inner ++ [']'])) normal) :
    normal = inner := by
  have hbrackets : ('[' :: (inner ++ [']'])).head? = some '[' ∧ ('[' :: (inner ++ [']'])).getLast? = some ']' :=
    ⟨rfl, by rw [← List.cons_append, List.getLast?_concat]⟩
  generalize hhost : '[' :: (inner ++ [']']) = host at h hbrackets
  cases h with
  | empty hempty =>
    subst hempty
    cases hhost
  | octets hoctets =>
    have hchar := char_of_isFourOctets hoctets (List.mem_of_head? hbrackets.1)
    exact absurd hchar (by decide)
  | groups inside hwritten =>
    rw [hwritten] at hhost
    exact (List.append_cancel_right (List.cons.inj hhost).2).symm
  | encoded _ hbare => exact absurd hbrackets hbare
  | written normal _ hbare => exact absurd hbrackets hbare

theorem NormalForm.ne_nil {host normal : List Char} (h : NormalForm host normal) (hhost : host ≠ []) :
    normal ≠ [] := by
  cases h with
  | empty hempty => exact absurd hempty hhost
  | octets => exact hhost
  | groups inside hwritten hgroups =>
    rintro rfl
    cases hgroups
  | encoded => exact encodePart_ne_nil _ (Text.lower_ne_nil hhost)
  | written normal hascii =>
    obtain ⟨-, -, -, hfilled⟩ := asciiHost?_cases hascii
    exact hfilled

/-- A host in its normal form is a plain host if its lower case is. -/
theorem NormalForm.plain {host normal known : List Char} (h : NormalForm host normal) (hbracket : host.head? ≠ some '[')
    (hplain : IsPlain known) (hknown : Text.lower host = known) : normal = known := by
  cases h with
  | empty hempty =>
    subst hempty
    exact hknown
  | octets hoctets => rw [← hknown, lower_of_isFourOctets hoctets]
  | groups inside hwritten => exact absurd (by rw [hwritten]; rfl) hbracket
  | encoded => rw [hknown, encodePart_eq_self hplain]
  | written normal hascii => exact asciiHost?_plain hplain (hknown ▸ hascii)

/-- A host in its normal form lies under a plain host if its lower case does. -/
theorem NormalForm.under {host normal known : List Char} (h : NormalForm host normal) (hbracket : host.head? ≠ some '[')
    (hplain : IsPlain known) {s : List Char} (hknown : Text.lower host = s ++ '.' :: known) :
    ∃ t, normal = t ++ '.' :: known := by
  cases h with
  | empty hempty =>
    subst hempty
    exact ⟨s, hknown⟩
  | octets hoctets => exact ⟨s, by rw [← hknown, lower_of_isFourOctets hoctets]⟩
  | groups inside hwritten => exact absurd (by rw [hwritten]; rfl) hbracket
  | encoded =>
    have hdot : IsPlain ('.' :: known) := by
      intro c hc
      rcases List.mem_cons.mp hc with rfl | hlater
      · decide
      · exact hplain c hlater
    refine ⟨encodePart mayStandInHost s, ?_⟩
    rw [hknown, encodePart_append mayStandInHost (by decide), encodePart_eq_self hdot]
  | written normal hascii => exact asciiHost?_under hplain (hknown ▸ hascii)

end Showcase.Address
