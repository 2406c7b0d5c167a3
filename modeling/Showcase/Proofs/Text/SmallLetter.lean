import Showcase.Pattern.AnyCase
import Showcase.Proofs.Text.Stretch

/-!
# Letters in any case

Which characters stand for a small letter of ASCII when letter case does not count. Each of them belongs to a word, and
lower case gives the letter for all of them but three: the dotted capital I, the dotless i and the long s. In lower case a
text with one of these three is no text of ASCII.
-/

namespace Showcase

namespace Text

/-- The small letters of ASCII. -/
def isSmall (c : Char) : Bool := 'a' ≤ c && c ≤ 'z'

/-- The dotted capital I, the dotless i and the long s. They match a letter of ASCII that is not their lower case. -/
def isStray (c : Char) : Bool := c.toNat == 0x130 || c.toNat == 0x131 || c.toNat == 0x17F

theorem toNat_of_isSmall {c : Char} (h : isSmall c = true) : 97 ≤ c.toNat ∧ c.toNat ≤ 122 := by
  simp only [isSmall, Bool.and_eq_true, decide_eq_true_eq] at h
  exact ⟨toNat_le_of_le h.1, toNat_le_of_le h.2⟩

theorem eq_ofNat {c : Char} {n : Nat} (h : c.toNat = n) : c = Char.ofNat n := by
  rw [← h, Char.ofNat_toNat]

/-- What is no code point of a character counts as the first one. -/
theorem toNat_ofNat_cases (n : Nat) : (Char.ofNat n).toNat = n ∨ (Char.ofNat n).toNat = 0 := by
  rw [Char.ofNat]
  by_cases hvalid : n.isValidChar
  · rw [dif_pos hvalid]
    exact .inl rfl
  · rw [dif_neg hvalid]
    exact .inr rfl

/-! ## Lower case of a character -/

/-- A letter above ASCII whose lower case is a letter of ASCII is the dotted capital I or the sign of Kelvin. -/
theorem toNat_of_isSmall_lowerChar {c : Char} (hascii : ¬c.toNat < 128) (h : isSmall (lowerChar c) = true) :
    c.toNat = 0x130 ∨ c.toNat = 0x212A := by
  have hbounds := toNat_of_isSmall h
  rw [lowerChar, if_neg hascii] at hbounds
  split at hbounds
  · rename_i hdotted
    exact .inl (beq_iff_eq.mp hdotted)
  · cases hrun : Table.lowerRuns.findSome? fun run => run.apply c.toNat with
    | none =>
      rw [hrun, Option.getD_none] at hbounds
      omega
    | some d =>
      rw [hrun, Option.getD_some] at hbounds
      obtain ⟨run, hmem, happly⟩ := List.exists_of_findSome?_eq_some hrun
      -- every run but one stays above ASCII
      have htable : ∀ run ∈ Table.lowerRuns,
          128 ≤ (run.first : Int) + run.distance ∨ run.first = 0x212A ∧ run.last = 0x212A := by decide +kernel
      obtain ⟨hon, hd⟩ := Option.ite_none_right_eq_some.mp happly
      obtain rfl := Option.some.inj hd
      simp only [Bool.and_eq_true, decide_eq_true_eq] at hon
      have hcode := toNat_ofNat_cases (Int.toNat (c.toNat + run.distance))
      rcases htable run hmem with hhigh | ⟨hfirst, hlast⟩
      · omega
      · exact .inr (by omega)

/-- What matches a small letter belongs to a word. -/
theorem isWord_of_isSmall_matchedLetter {c : Char} (h : isSmall (Pattern.matchedLetter c) = true) : isWord c = true := by
  by_cases hascii : c.toNat < 128
  · exact of_ascii (p := fun c => isSmall (Pattern.matchedLetter c) = true → isWord c = true) (by decide) hascii h
  · rw [Pattern.matchedLetter] at h
    split at h
    · rename_i hdotless
      rw [eq_ofNat (beq_iff_eq.mp hdotless)]
      decide
    · split at h
      · rename_i hlong
        rw [eq_ofNat (beq_iff_eq.mp hlong)]
        decide
      · rcases toNat_of_isSmall_lowerChar hascii h with hdotted | hkelvin
        · rw [eq_ofNat hdotted]
          decide
        · rw [eq_ofNat hkelvin]
          decide +kernel

theorem matchedLetter_of_not_isStray {c : Char} (h : isStray c = false) : Pattern.matchedLetter c = lowerChar c := by
  simp only [isStray, Bool.or_eq_false_iff] at h
  rw [Pattern.matchedLetter, h.1.2, h.2]
  rfl

/-! ## Lower case of a text -/

theorem exists_mem_lowerAfter_of_isStray {c : Char} {s : List Char} (hc : c ∈ s) (hstray : isStray c = true)
    (before : List Char) : ∃ d ∈ lowerAfter before s, 128 ≤ d.toNat := by
  induction s generalizing before with
  | nil => cases hc
  | cons first rest ih =>
    rw [lowerAfter]
    rcases List.mem_cons.mp hc with rfl | hrest
    · -- what the letter becomes is above ASCII
      simp only [isStray, Bool.or_eq_true, beq_iff_eq] at hstray
      have hbecomes : ∃ d ∈ (if c.toNat == 0x3A3 then
          [if startsCased before && !startsCased rest then Char.ofNat 0x3C2 else Char.ofNat 0x3C3]
          else if c.toNat == 0x130 then ['i', Char.ofNat 0x307] else [lowerChar c]), 128 ≤ d.toNat := by
        rcases hstray with (hdotted | hdotless) | hlong
        · rw [eq_ofNat hdotted]
          exact ⟨Char.ofNat 0x307, by simp, by decide⟩
        · rw [eq_ofNat hdotless]
          exact ⟨lowerChar (Char.ofNat 0x131), by simp, by decide⟩
        · rw [eq_ofNat hlong]
          exact ⟨lowerChar (Char.ofNat 0x17F), by simp, by decide⟩
      obtain ⟨d, hd, hhigh⟩ := hbecomes
      exact ⟨d, List.mem_append_left _ hd, hhigh⟩
    · obtain ⟨d, hd, hhigh⟩ := ih hrest (first :: before)
      exact ⟨d, List.mem_append_right _ hd, hhigh⟩

/-- In lower case a text with one of the three letters is no text of ASCII. -/
theorem exists_mem_lower_of_isStray {c : Char} {s : List Char} (hc : c ∈ s) (hstray : isStray c = true) :
    ∃ d ∈ lower s, 128 ≤ d.toNat := exists_mem_lowerAfter_of_isStray hc hstray []

end Text

end Showcase
