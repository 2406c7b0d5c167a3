import Mathlib.Data.List.Infix
import Showcase.Address.Basic
import Showcase.Proofs.Text.Utf8

/-!
# Escapes

A part of an address is encoded character by character, but for what is an escape already, and stands for the same bytes
as before. A text without escapes stands for its own bytes in UTF-8; every escape makes what it stands for shorter.
-/

namespace Showcase.Address

/-! ## Where escapes are -/

/-- Whether a text begins with an escape: a percent sign and two hexadecimal digits. -/
def beginsEscape : List Char → Bool
  | '%' :: a :: b :: _ => (Text.hexValue? a).isSome && (Text.hexValue? b).isSome
  | _ => false

/-- A text in which no escape begins anywhere. -/
def IsUnescaped (s : List Char) : Prop := ∀ rest, rest <:+ s → beginsEscape rest = false

theorem beginsEscape_of_ne {c : Char} (hc : c ≠ '%') (rest : List Char) : beginsEscape (c :: rest) = false := by
  unfold beginsEscape
  split
  · rename_i heq
    exact absurd (List.cons.inj heq).1 hc
  · rfl

/-- What stands after the first three characters does not matter. -/
theorem beginsEscape_percent (a b : Char) (rest : List Char) :
    beginsEscape ('%' :: a :: b :: rest) = ((Text.hexValue? a).isSome && (Text.hexValue? b).isSome) := rfl

theorem isUnescaped_nil : IsUnescaped [] := by
  intro rest hrest
  rw [List.suffix_nil.mp hrest]
  rfl

theorem isUnescaped_cons {c : Char} {rest : List Char} :
    IsUnescaped (c :: rest) ↔ beginsEscape (c :: rest) = false ∧ IsUnescaped rest := by
  constructor
  · intro h
    exact ⟨h _ (List.suffix_refl _), fun later hlater => h later (hlater.trans (List.suffix_cons c rest))⟩
  · rintro ⟨hfirst, hrest⟩ later hlater
    rcases List.suffix_cons_iff.mp hlater with rfl | hlater
    · exact hfirst
    · exact hrest later hlater

theorem isUnescaped_of_not_mem {s : List Char} (h : '%' ∉ s) : IsUnescaped s := by
  intro rest hrest
  rcases rest with _ | ⟨c, later⟩
  · rfl
  · refine beginsEscape_of_ne ?_ later
    rintro rfl
    exact h (hrest.subset List.mem_cons_self)

/-- A text is empty, or begins with an escape, or with a character that stands alone. -/
@[elab_as_elim]
theorem escape_induction {motive : List Char → Prop} (nil : motive [])
    (escape : ∀ a b rest, beginsEscape ('%' :: a :: b :: rest) = true → motive rest → motive ('%' :: a :: b :: rest))
    (alone : ∀ c rest, beginsEscape (c :: rest) = false → motive rest → motive (c :: rest)) (s : List Char) :
    motive s := by
  induction s using encodePart.induct with
  | case1 a b rest hhex ih => exact escape a b rest hhex ih
  | case2 a b rest hhex ih => exact alone '%' (a :: b :: rest) (Bool.eq_false_iff.mpr hhex) ih
  | case3 c rest hplain ih =>
    refine alone c rest ?_ ih
    by_cases hc : c = '%'
    · subst hc
      unfold beginsEscape
      split
      · rename_i a b later heq
        exact (hplain a b later rfl (List.cons.inj heq).2).elim
      · rfl
    · exact beginsEscape_of_ne hc rest
  | case4 => exact nil

/-- A character that is no hexadecimal digit ends every escape before it. -/
theorem beginsEscape_append {separator : Char} (hseparator : Text.hexValue? separator = none) {c : Char}
    {rest : List Char} (h : beginsEscape (c :: rest) = false) (t : List Char) :
    beginsEscape (c :: (rest ++ separator :: t)) = false := by
  by_cases hc : c = '%'
  · subst hc
    rcases rest with _ | ⟨a, _ | ⟨b, later⟩⟩
    · cases t with
      | nil => rfl
      | cons first t => simp [beginsEscape, hseparator]
    · simp [beginsEscape, hseparator]
    · exact h
  · exact beginsEscape_of_ne hc _

theorem isUnescaped_append {separator : Char} (hseparator : Text.hexValue? separator = none)
    (hpercent : separator ≠ '%') {s t : List Char} :
    IsUnescaped (s ++ separator :: t) ↔ IsUnescaped s ∧ IsUnescaped t := by
  induction s with
  | nil =>
    rw [List.nil_append, isUnescaped_cons]
    simp only [beginsEscape_of_ne hpercent, isUnescaped_nil, true_and]
  | cons c rest ih =>
    rw [List.cons_append, isUnescaped_cons, isUnescaped_cons, ih, and_assoc]
    constructor
    · rintro ⟨hfirst, hrest, ht⟩
      refine ⟨?_, hrest, ht⟩
      by_cases hc : c = '%'
      · subst hc
        rcases rest with _ | ⟨a, _ | ⟨b, later⟩⟩
        · rfl
        · rfl
        · exact hfirst
      · exact beginsEscape_of_ne hc rest
    · rintro ⟨hfirst, hrest, ht⟩
      exact ⟨beginsEscape_append hseparator hfirst t, hrest, ht⟩

/-! ## Encoding -/

section

variable (mayStand : Char → Bool)

@[simp] theorem encodePart_nil : encodePart mayStand [] = [] := rfl

theorem encodePart_of_escape {a b : Char} {rest : List Char} (h : beginsEscape ('%' :: a :: b :: rest) = true) :
    encodePart mayStand ('%' :: a :: b :: rest) = '%' :: a :: b :: encodePart mayStand rest := by
  rw [beginsEscape_percent] at h
  rw [encodePart, if_pos h]

theorem encodePart_of_alone {c : Char} {rest : List Char} (h : beginsEscape (c :: rest) = false) :
    encodePart mayStand (c :: rest) = (if mayStand c then [c] else percentEncode c) ++ encodePart mayStand rest := by
  by_cases hc : c = '%'
  · subst hc
    rcases rest with _ | ⟨a, _ | ⟨b, later⟩⟩
    · simp [encodePart]
    · simp [encodePart]
    · rw [beginsEscape_percent] at h
      rw [encodePart, if_neg (Bool.eq_false_iff.mp h)]
  · rw [encodePart]
    intro a b later hpercent
    exact absurd hpercent hc

theorem percentEncode_eq (c : Char) : percentEncode c = (String.utf8EncodeChar c).flatMap percentByte := by
  have hbytes := Text.utf8Bytes_ofList [c]
  rw [List.flatMap_singleton] at hbytes
  exact congrArg (List.flatMap percentByte) hbytes

theorem percentEncode_ne_nil (c : Char) : percentEncode c ≠ [] := by
  rw [percentEncode_eq]
  intro hnil
  have hlength : (String.utf8EncodeChar c).length = 0 := by
    rcases hencoded : String.utf8EncodeChar c with _ | ⟨byte, bytes⟩
    · rfl
    · simp [hencoded, percentByte] at hnil
  rw [String.length_utf8EncodeChar] at hlength
  exact absurd hlength (Nat.ne_of_gt (Char.utf8Size_pos c))

theorem encodePart_ne_nil {s : List Char} (hs : s ≠ []) : encodePart mayStand s ≠ [] := by
  cases s using escape_induction with
  | nil => exact absurd rfl hs
  | escape a b rest h ih => simp [encodePart_of_escape mayStand h]
  | alone c rest h ih =>
    rw [encodePart_of_alone mayStand h]
    intro hnil
    have hone := (List.append_eq_nil_iff.mp hnil).1
    split at hone
    · cases hone
    · exact percentEncode_ne_nil c hone

/-- A character that is no hexadecimal digit ends every escape, so what stands before and after it is encoded on its
own. -/
theorem encodePart_append {separator : Char} (hseparator : Text.hexValue? separator = none) (s t : List Char) :
    encodePart mayStand (s ++ separator :: t) =
      encodePart mayStand s ++ encodePart mayStand (separator :: t) := by
  induction s using escape_induction with
  | nil => rfl
  | escape a b rest h ih =>
    have h' : beginsEscape ('%' :: a :: b :: (rest ++ separator :: t)) = true := h
    simp only [List.cons_append]
    rw [encodePart_of_escape mayStand h', ih, encodePart_of_escape mayStand h]
    rfl
  | alone c rest h ih =>
    rw [List.cons_append, encodePart_of_alone mayStand (beginsEscape_append hseparator h t), ih,
      encodePart_of_alone mayStand h, List.append_assoc]

end

section

variable {mayStand : Char → Bool}

/-- A text of characters that may stand there is left as it is. -/
theorem encodePart_eq_self {s : List Char} (hs : ∀ c ∈ s, mayStand c = true) : encodePart mayStand s = s := by
  induction s using escape_induction with
  | nil => rfl
  | escape a b rest h ih => rw [encodePart_of_escape mayStand h, ih fun c hc => hs c (by simp [hc])]
  | alone c rest h ih =>
    rw [encodePart_of_alone mayStand h, hs c (by simp), if_pos rfl, ih fun d hd => hs d (List.mem_cons_of_mem _ hd)]
    rfl

theorem upperHexDigit_cases : ∀ n < 16, Text.hexValue? (Text.upperHexDigit n) = some n := by decide

theorem isSome_hexValue?_upperHexDigit {n : Nat} (h : n < 16) :
    (Text.hexValue? (Text.upperHexDigit n)).isSome = true := by
  rw [upperHexDigit_cases n h]
  rfl

theorem isUnreserved_of_hexValue? {c : Char} (hc : (Text.hexValue? c).isSome = true) : isUnreserved c = true := by
  unfold Text.hexValue? at hc
  split at hc
  · rename_i hdigit
    simp [isUnreserved, Text.isDigit, hdigit]
  split at hc
  · rename_i hsmall
    rw [Bool.and_eq_true, decide_eq_true_eq, decide_eq_true_eq] at hsmall
    have hle : c ≤ 'z' := Char.le_trans hsmall.2 (by decide)
    simp [isUnreserved, Text.isLetter, hsmall.1, hle]
  split at hc
  · rename_i hcapital
    rw [Bool.and_eq_true, decide_eq_true_eq, decide_eq_true_eq] at hcapital
    have hle : c ≤ 'Z' := Char.le_trans hcapital.2 (by decide)
    simp [isUnreserved, Text.isLetter, hcapital.1, hle]
  · cases hc

theorem mem_percentEncode {c d : Char} (h : d ∈ percentEncode c) :
    d = '%' ∨ (Text.hexValue? d).isSome = true := by
  rw [percentEncode_eq] at h
  obtain ⟨byte, -, hbyte⟩ := List.mem_flatMap.mp h
  have hsmall : byte.toNat < 256 := byte.toNat_lt
  simp only [percentByte, List.mem_cons, List.not_mem_nil, or_false] at hbyte
  rcases hbyte with rfl | rfl | rfl
  · exact .inl rfl
  · exact .inr (isSome_hexValue?_upperHexDigit (by omega))
  · exact .inr (isSome_hexValue?_upperHexDigit (by omega))

/-- The characters of an encoded text are those of the text that may stand there, or belong to escapes. -/
theorem mem_encodePart {s : List Char} {d : Char} (h : d ∈ encodePart mayStand s) :
    (d ∈ s ∧ mayStand d = true) ∨ d = '%' ∨ (Text.hexValue? d).isSome = true := by
  -- the text goes by escapes, which are kept, and by characters on their own
  induction s using escape_induction with
  | nil => cases h
  | escape a b rest hescape ih =>
    rw [encodePart_of_escape mayStand hescape] at h
    rw [beginsEscape_percent, Bool.and_eq_true] at hescape
    simp only [List.mem_cons] at h
    rcases h with rfl | rfl | rfl | hrest
    · exact .inr (.inl rfl)
    · exact .inr (.inr hescape.1)
    · exact .inr (.inr hescape.2)
    · rcases ih hrest with ⟨hmem, hstands⟩ | hother
      · exact .inl ⟨by simp [hmem], hstands⟩
      · exact .inr hother
  | alone c rest halone ih =>
    rw [encodePart_of_alone mayStand halone] at h
    rcases List.mem_append.mp h with hone | hrest
    · by_cases hc : mayStand c = true
      · rw [if_pos hc] at hone
        rw [List.mem_singleton.mp hone]
        exact .inl ⟨List.mem_cons_self, hc⟩
      · rw [if_neg hc] at hone
        exact .inr (mem_percentEncode hone)
    · rcases ih hrest with ⟨hmem, hstands⟩ | hother
      · exact .inl ⟨List.mem_cons_of_mem c hmem, hstands⟩
      · exact .inr hother

/-- Without a percent sign nothing was encoded. -/
theorem encodePart_eq_of_not_mem {s : List Char} (h : '%' ∉ encodePart mayStand s) : encodePart mayStand s = s := by
  induction s using escape_induction with
  | nil => rfl
  | escape a b rest hescape ih =>
    rw [encodePart_of_escape mayStand hescape] at h
    exact absurd List.mem_cons_self h
  | alone c rest halone ih =>
    rw [encodePart_of_alone mayStand halone] at h ⊢
    rw [List.mem_append, not_or] at h
    rw [ih h.2]
    by_cases hc : mayStand c = true
    · rw [if_pos hc]
      rfl
    · rw [if_neg hc, percentEncode_eq] at h
      rcases hencoded : String.utf8EncodeChar c with _ | ⟨byte, bytes⟩
      · exact absurd (by rw [percentEncode_eq, hencoded]; rfl) (percentEncode_ne_nil c)
      · exact absurd (by simp [hencoded, percentByte]) h.1

/-- A hexadecimal digit at the head of an encoded text was at its head before. -/
theorem eq_cons_of_encodePart {s : List Char} {d : Char} {t : List Char} (h : encodePart mayStand s = d :: t)
    (hd : (Text.hexValue? d).isSome = true) : ∃ rest, s = d :: rest ∧ t = encodePart mayStand rest := by
  have hpercent : d ≠ '%' := by
    rintro rfl
    cases hd
  cases s using escape_induction with
  | nil => cases h
  | escape a b rest hescape ih =>
    rw [encodePart_of_escape mayStand hescape] at h
    exact absurd (List.cons.inj h).1.symm hpercent
  | alone c rest halone ih =>
    rw [encodePart_of_alone mayStand halone] at h
    by_cases hc : mayStand c = true
    · rw [if_pos hc, List.singleton_append] at h
      obtain ⟨rfl, rfl⟩ := List.cons.inj h
      exact ⟨rest, rfl, rfl⟩
    · -- what is encoded begins with a percent sign
      rw [if_neg hc, percentEncode_eq] at h
      rcases hencoded : String.utf8EncodeChar c with _ | ⟨byte, bytes⟩
      · exact absurd (by rw [percentEncode_eq, hencoded]; rfl) (percentEncode_ne_nil c)
      · rw [hencoded, List.flatMap_cons, percentByte] at h
        exact absurd (List.cons.inj h).1.symm hpercent

/-- Encoding makes no new escapes. -/
theorem beginsEscape_encodePart {c : Char} {rest : List Char} (h : beginsEscape (c :: rest) = false) :
    beginsEscape (c :: encodePart mayStand rest) = false := by
  by_cases hc : c = '%'
  · subst hc
    by_contra hescape
    rw [Bool.not_eq_false] at hescape
    rcases hencoded : encodePart mayStand rest with _ | ⟨a, _ | ⟨b, later⟩⟩
    · rw [hencoded] at hescape
      cases hescape
    · rw [hencoded] at hescape
      cases hescape
    · rw [hencoded, beginsEscape_percent, Bool.and_eq_true] at hescape
      obtain ⟨others, rfl, hothers⟩ := eq_cons_of_encodePart hencoded hescape.1
      obtain ⟨last, rfl, -⟩ := eq_cons_of_encodePart hothers.symm hescape.2
      rw [beginsEscape_percent, Bool.and_eq_false_iff] at h
      rcases h with h | h
      · rw [hescape.1] at h
        cases h
      · rw [hescape.2] at h
        cases h
  · exact beginsEscape_of_ne hc _

end

/-! ## What escapes stand for -/

@[simp] theorem decodedBytes_nil : decodedBytes [] = [] := rfl

theorem decodedBytes_of_alone {c : Char} {rest : List Char} (h : beginsEscape (c :: rest) = false) :
    decodedBytes (c :: rest) = String.utf8EncodeChar c ++ decodedBytes rest := by
  have hbytes : (String.singleton c).toUTF8.toList = String.utf8EncodeChar c := by
    have hone := Text.utf8Bytes_ofList [c]
    rw [List.flatMap_singleton] at hone
    exact hone
  by_cases hc : c = '%'
  · subst hc
    rcases rest with _ | ⟨a, _ | ⟨b, later⟩⟩
    · rw [decodedBytes, hbytes]
      simp
    · rw [decodedBytes, hbytes]
      simp
    · rw [beginsEscape_percent, Bool.and_eq_false_iff] at h
      rw [decodedBytes]
      rcases ha : Text.hexValue? a with _ | high
      · rfl
      · rcases hb : Text.hexValue? b with _ | low
        · rfl
        · simp [ha, hb] at h
  · rw [decodedBytes, hbytes]
    intro a b later hpercent
    exact absurd hpercent hc

theorem decodedBytes_of_escape {a b : Char} {high low : Nat} (ha : Text.hexValue? a = some high)
    (hb : Text.hexValue? b = some low) (rest : List Char) :
    decodedBytes ('%' :: a :: b :: rest) = UInt8.ofNat (high * 16 + low) :: decodedBytes rest := by
  rw [decodedBytes, ha, hb]

theorem decodedBytes_percentByte (byte : UInt8) (rest : List Char) :
    decodedBytes (percentByte byte ++ rest) = byte :: decodedBytes rest := by
  have hsmall : byte.toNat < 256 := byte.toNat_lt
  have hhigh := upperHexDigit_cases (byte.toNat / 16) (by omega)
  have hlow := upperHexDigit_cases (byte.toNat % 16) (by omega)
  have hbyte : byte.toNat / 16 * 16 + byte.toNat % 16 = byte.toNat := Nat.div_add_mod' byte.toNat 16
  simp only [percentByte, List.cons_append, List.nil_append]
  rw [decodedBytes_of_escape hhigh hlow, hbyte, UInt8.ofNat_toNat]

theorem decodedBytes_percentEncode (c : Char) (rest : List Char) :
    decodedBytes (percentEncode c ++ rest) = String.utf8EncodeChar c ++ decodedBytes rest := by
  rw [percentEncode_eq]
  generalize String.utf8EncodeChar c = bytes
  induction bytes with
  | nil => rfl
  | cons byte bytes ih => rw [List.flatMap_cons, List.append_assoc, decodedBytes_percentByte, ih, List.cons_append]

/-- Encoding does not change what a text stands for. -/
theorem decodedBytes_encodePart (mayStand : Char → Bool) (s : List Char) :
    decodedBytes (encodePart mayStand s) = decodedBytes s := by
  induction s using escape_induction with
  | nil => rfl
  | escape a b rest h ih =>
    rw [encodePart_of_escape mayStand h]
    rw [beginsEscape_percent, Bool.and_eq_true] at h
    obtain ⟨high, hhigh⟩ := Option.isSome_iff_exists.mp h.1
    obtain ⟨low, hlow⟩ := Option.isSome_iff_exists.mp h.2
    rw [decodedBytes_of_escape hhigh hlow, decodedBytes_of_escape hhigh hlow, ih]
  | alone c rest h ih =>
    rw [encodePart_of_alone mayStand h, decodedBytes_of_alone h]
    by_cases hc : mayStand c = true
    · rw [if_pos hc, List.singleton_append, decodedBytes_of_alone (beginsEscape_encodePart h), ih]
    · rw [if_neg hc, decodedBytes_percentEncode, ih]

/-- What stands before and after a character that is no hexadecimal digit stands for bytes of its own. -/
theorem decodedBytes_append {separator : Char} (hseparator : Text.hexValue? separator = none)
    (hpercent : separator ≠ '%') (s t : List Char) :
    decodedBytes (s ++ separator :: t) =
      decodedBytes s ++ (String.utf8EncodeChar separator ++ decodedBytes t) := by
  induction s using escape_induction with
  | nil => rw [List.nil_append, decodedBytes_of_alone (beginsEscape_of_ne hpercent t), decodedBytes_nil, List.nil_append]
  | escape a b rest h ih =>
    rw [beginsEscape_percent, Bool.and_eq_true] at h
    obtain ⟨high, hhigh⟩ := Option.isSome_iff_exists.mp h.1
    obtain ⟨low, hlow⟩ := Option.isSome_iff_exists.mp h.2
    simp only [List.cons_append]
    rw [decodedBytes_of_escape hhigh hlow, decodedBytes_of_escape hhigh hlow, ih, List.cons_append]
  | alone c rest h ih =>
    rw [List.cons_append, decodedBytes_of_alone (beginsEscape_append hseparator h t), ih, decodedBytes_of_alone h,
      List.append_assoc]

/-- A text without escapes stands for its own bytes. -/
theorem decodedBytes_of_unescaped {s : List Char} (h : IsUnescaped s) :
    decodedBytes s = s.flatMap String.utf8EncodeChar := by
  induction s with
  | nil => rfl
  | cons c rest ih =>
    obtain ⟨hfirst, hrest⟩ := isUnescaped_cons.mp h
    rw [decodedBytes_of_alone hfirst, ih hrest, List.flatMap_cons]

theorem length_utf8EncodeChar_pos (c : Char) : 0 < (String.utf8EncodeChar c).length := by
  rw [String.length_utf8EncodeChar]
  exact Char.utf8Size_pos c

/-- Each escape makes what a text stands for shorter than the text. -/
theorem length_decodedBytes (s : List Char) :
    (decodedBytes s).length ≤ (s.flatMap String.utf8EncodeChar).length ∧
      ((decodedBytes s).length = (s.flatMap String.utf8EncodeChar).length → IsUnescaped s) := by
  induction s using escape_induction with
  | nil => exact ⟨Nat.le_refl _, fun _ => isUnescaped_nil⟩
  | escape a b rest h ih =>
    rw [beginsEscape_percent, Bool.and_eq_true] at h
    obtain ⟨high, hhigh⟩ := Option.isSome_iff_exists.mp h.1
    obtain ⟨low, hlow⟩ := Option.isSome_iff_exists.mp h.2
    have hlength := ih.1
    have ha := length_utf8EncodeChar_pos a
    have hb := length_utf8EncodeChar_pos b
    have hp := length_utf8EncodeChar_pos '%'
    rw [decodedBytes_of_escape hhigh hlow]
    simp only [List.flatMap_cons, List.length_append, List.length_cons]
    exact ⟨by omega, fun heq => by omega⟩
  | alone c rest h ih =>
    rw [decodedBytes_of_alone h]
    simp only [List.flatMap_cons, List.length_append]
    refine ⟨Nat.add_le_add_left ih.1 _, fun heq => isUnescaped_cons.mpr ⟨h, ih.2 ?_⟩⟩
    exact Nat.add_left_cancel heq

end Showcase.Address
