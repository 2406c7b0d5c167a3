import Showcase.Proofs.Text.Split

/-!
# Words in lower case

Lower case goes over a text with a view to what stands around each character, and one character may become two. None of
this shows in a word of ASCII: it is in the lower case of a text exactly if it is there when every character is put in
lower case for itself. Taken so, what is in two texts put together is in one of them or across the seam.
-/

namespace Showcase.Text

theorem occursIn_iff {part s : List Char} : occursIn part s = true ↔ part <:+: s := by
  induction s with
  | nil => simp [occursIn]
  | cons c rest ih => rw [occursIn, Bool.or_eq_true, List.isPrefixOf_iff_prefix, ih, List.infix_cons_iff]

/-- What is in two texts put together is in one of them, or across the seam. -/
theorem infix_append_cases {α : Type} {part s t : List α} (h : part <:+: s ++ t) :
    part <:+: s ∨ part <:+: t ∨
      ∃ first second, part = first ++ second ∧ first ≠ [] ∧ second ≠ [] ∧ first <:+ s ∧ second <+: t := by
  induction s with
  | nil => exact .inr (.inl h)
  | cons c s ih =>
    rw [List.cons_append, List.infix_cons_iff] at h
    rcases h with hprefix | hlater
    · rcases List.prefix_or_prefix_of_prefix hprefix (List.prefix_append (c :: s) t) with hinside | ⟨second, hsplit⟩
      · exact .inl hinside.isInfix
      · cases second with
        | nil => exact .inl ⟨[], [], by simpa using hsplit.symm⟩
        | cons d second =>
          rw [← hsplit, ← List.cons_append, List.prefix_append_right_inj] at hprefix
          exact .inr (.inr ⟨c :: s, d :: second, hsplit.symm, List.cons_ne_nil _ _, List.cons_ne_nil _ _,
            List.suffix_refl _, hprefix⟩)
    · rcases ih hlater with hin | hin | ⟨first, second, hsplit, hfirst, hsecond, hbefore, hbehind⟩
      · exact .inl (hin.trans (List.suffix_cons c s).isInfix)
      · exact .inr (.inl hin)
      · exact .inr (.inr ⟨first, second, hsplit, hfirst, hsecond, hbefore.trans (List.suffix_cons c s), hbehind⟩)

/-! ## Lower case of a text and of its characters -/

/-- A character that lower case may add or change with a view to its surroundings: one outside of ASCII, or the letter
that is left of a dotted one. -/
def IsForeign (c : Char) : Prop := 128 ≤ c.toNat ∨ c = 'i'

/-- Two texts that are the same but for stretches of foreign characters. -/
inductive Agrees : List Char → List Char → Prop where
  | nil : Agrees [] []
  | same {c : Char} {s t : List Char} (h : Agrees s t) : Agrees (c :: s) (c :: t)
  | apart {first second s t : List Char} (hfirst : first ≠ []) (hsecond : second ≠ [])
      (hfirsts : ∀ c ∈ first, IsForeign c) (hseconds : ∀ c ∈ second, IsForeign c) (h : Agrees s t) :
      Agrees (first ++ s) (second ++ t)

variable {word s t : List Char}

theorem Agrees.symm (h : Agrees s t) : Agrees t s := by
  induction h with
  | nil => exact .nil
  | same _ ih => exact .same ih
  | apart hfirst hsecond hfirsts hseconds _ ih => exact .apart hsecond hfirst hseconds hfirsts ih

theorem Agrees.prefix_of (h : Agrees s t) (hword : ∀ c ∈ word, ¬IsForeign c) (hs : word <+: s) : word <+: t := by
  induction h generalizing word with
  | nil => exact hs
  | same _ ih =>
    cases word with
    | nil => exact List.nil_prefix
    | cons d word =>
      obtain ⟨rfl, hrest⟩ := List.cons_prefix_cons.mp hs
      exact List.cons_prefix_cons.mpr ⟨rfl, ih (fun c hc => hword c (List.mem_cons_of_mem d hc)) hrest⟩
  | @apart first second s t hfirst _ hfirsts _ _ _ =>
    cases word with
    | nil => exact List.nil_prefix
    | cons d word =>
      obtain ⟨c, first, rfl⟩ := List.exists_cons_of_ne_nil hfirst
      obtain ⟨rfl, -⟩ := List.cons_prefix_cons.mp hs
      exact absurd (hfirsts d List.mem_cons_self) (hword d List.mem_cons_self)

/-- No word begins in a stretch of foreign characters. -/
theorem infix_of_foreign_append (hne : word ≠ []) (hword : ∀ c ∈ word, ¬IsForeign c) (hs : ∀ c ∈ s, IsForeign c)
    (h : word <:+: s ++ t) : word <:+: t := by
  induction s with
  | nil => exact h
  | cons c s ih =>
    obtain ⟨hc, hs⟩ := List.forall_mem_cons.mp hs
    rw [List.cons_append, List.infix_cons_iff] at h
    refine ih hs (h.resolve_left ?_)
    intro hprefix
    obtain ⟨d, word, rfl⟩ := List.exists_cons_of_ne_nil hne
    obtain ⟨rfl, -⟩ := List.cons_prefix_cons.mp hprefix
    exact hword d List.mem_cons_self hc

theorem Agrees.infix_of (h : Agrees s t) (hne : word ≠ []) (hword : ∀ c ∈ word, ¬IsForeign c) (hs : word <:+: s) :
    word <:+: t := by
  induction h with
  | nil => exact hs
  | @same c s t h ih =>
    rw [List.infix_cons_iff] at hs ⊢
    exact hs.imp (fun hprefix => h.same.prefix_of hword hprefix) ih
  | apart _ _ hfirsts _ _ ih =>
    exact List.infix_append_of_infix_right (ih (infix_of_foreign_append hne hword hfirsts hs))

/-- Lower case of a text agrees with lower case of its characters. -/
theorem agrees_lowerAfter (before s : List Char) : Agrees (lowerAfter before s) (s.map lowerChar) := by
  induction s generalizing before with
  | nil => exact .nil
  | cons c rest ih =>
    have hforeign : ∀ {first : List Char} {second : Char}, first ≠ [] → (∀ d ∈ first, IsForeign d) → IsForeign second →
        Agrees (first ++ lowerAfter (c :: before) rest) (second :: rest.map lowerChar) := by
      intro first second hfirst hfirsts hsecond
      exact .apart hfirst (List.cons_ne_nil second []) hfirsts (by simpa using hsecond) (ih (c :: before))
    rw [List.map_cons, lowerAfter]
    split
    · rename_i hsigma
      -- a sigma becomes one of two small ones, neither of ASCII
      obtain rfl : c = Char.ofNat 0x3A3 := by rw [← Char.ofNat_toNat c, beq_iff_eq.mp hsigma]
      refine hforeign (List.cons_ne_nil _ _) ?_ (.inl (by decide))
      split <;> simp [IsForeign]
    · split
      · rename_i hdotted
        obtain rfl : c = Char.ofNat 0x130 := by rw [← Char.ofNat_toNat c, beq_iff_eq.mp hdotted]
        refine hforeign (List.cons_ne_nil _ _) ?_ (.inr (by decide))
        simp [IsForeign]
      · exact .same (ih (c :: before))

/-- A word without foreign characters is in the lower case of a text if it is in the lower case of its characters. -/
theorem infix_lower_iff (hne : word ≠ []) (hword : ∀ c ∈ word, ¬IsForeign c) :
    word <:+: lower s ↔ word <:+: s.map lowerChar :=
  ⟨(agrees_lowerAfter [] s).infix_of hne hword, (agrees_lowerAfter [] s).symm.infix_of hne hword⟩

end Showcase.Text
