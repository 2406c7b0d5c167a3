import Showcase.Proofs.Text.Stretch
import Showcase.Repository.Reference

/-!
# References and what they name

Whatever a text is that names a repository, the names it gives can be put together with a slash, and that shorthand names
the same repository: it has one slash only, and an address has two. In the other direction, an address is read by its
first mention of the host, since nothing that stands before it has the letter that the host begins with; what follows the
names ends them.
-/

namespace Showcase.Repository.Reference

open Text

variable {owner repo rest text : List Char}

/-! ## Names -/

/-- An owner or a repository: there is something of it, and no slash or blank in it. -/
def IsName (name : List Char) : Prop := name ≠ [] ∧ ∀ c ∈ name, c ≠ '/' ∧ isBlank c = false

/-- An owner or a repository that can stand in an address, where a query or a fragment may follow it. -/
def IsAddressName (name : List Char) : Prop := IsName name ∧ ∀ c ∈ name, c ≠ '?' ∧ c ≠ '#'

theorem isAddressName_iff {name : List Char} : IsAddressName name ↔ name ≠ [] ∧ ∀ c ∈ name, isNameChar c = true := by
  simp only [IsAddressName, IsName, isNameChar, Bool.and_eq_true, bne_iff_ne, Bool.not_eq_true', and_assoc, ← forall₂_and]

theorem IsName.slash_not_mem {name : List Char} (h : IsName name) : '/' ∉ name := fun hmem => (h.2 _ hmem).1 rfl

/-! ## Addresses -/

theorem namesAtHead?_append (howner : IsAddressName owner) (hrepo : IsAddressName repo)
    (hrest : ∀ c, rest.head? = some c → isNameChar c = false) :
    namesAtHead? (owner ++ '/' :: (repo ++ rest)) = some (owner, repo) := by
  obtain ⟨howner, hpasses⟩ := isAddressName_iff.mp howner
  obtain ⟨hrepo, hpass⟩ := isAddressName_iff.mp hrepo
  have hslash : isNameChar '/' = false := by decide
  obtain ⟨htaken, hleft⟩ := takeWhile_append_stop hslash hpasses (repo ++ rest)
  have hname := takeWhile_stretch hpass hrest
  simp [namesAtHead?, hleft, htaken, hname, howner, hrepo]

theorem of_namesAtHead? (h : namesAtHead? text = some (owner, repo)) :
    IsAddressName owner ∧ IsAddressName repo ∧ ∃ rest, text = owner ++ '/' :: (repo ++ rest) := by
  unfold namesAtHead? at h
  split at h
  · rename_i after hafter
    split at h
    · cases h
    · rename_i hnonempty
      obtain ⟨rfl, rfl⟩ := Prod.mk.inj (Option.some.inj h)
      obtain ⟨howner, hrepo⟩ : text.takeWhile isNameChar ≠ [] ∧ after.takeWhile isNameChar ≠ [] := by
        simpa [not_or] using hnonempty
      refine ⟨isAddressName_iff.mpr ⟨howner, fun c hc => List.mem_takeWhile_imp hc⟩,
        isAddressName_iff.mpr ⟨hrepo, fun c hc => List.mem_takeWhile_imp hc⟩, after.dropWhile isNameChar, ?_⟩
      rw [List.takeWhile_append_dropWhile, ← hafter, List.takeWhile_append_dropWhile]
  · cases h

/-- The first mention of the host is the one behind a text without its first letter. -/
theorem namesInAddress?_append {before : List Char} (hbefore : 'g' ∉ before)
    (h : namesAtHead? rest = some (owner, repo)) : namesInAddress? (before ++ (host ++ rest)) = some (owner, repo) := by
  induction before with
  | nil =>
    have hhost : host.isPrefixOf? (host ++ rest) = some rest := by
      simp [List.isPrefixOf?_eq_some_iff_append_eq]
    have hcons : host ++ rest = 'g' :: ("ithub.com/".toList ++ rest) := rfl
    rw [List.nil_append, hcons, namesInAddress?, ← hcons, hhost, Option.bind_some, h]
  | cons c before ih =>
    have hc : 'g' ≠ c := List.ne_of_not_mem_cons hbefore
    have hlater : 'g' ∉ before := List.not_mem_of_not_mem_cons hbefore
    have hhost : host.isPrefixOf? (c :: (before ++ (host ++ rest))) = none := by
      have hfirst : host = 'g' :: "ithub.com/".toList := rfl
      rw [hfirst, List.isPrefixOf?, if_neg (by simpa using hc)]
    rw [List.cons_append, namesInAddress?, hhost]
    exact ih hlater

theorem of_namesInAddress? (h : namesInAddress? text = some (owner, repo)) :
    IsAddressName owner ∧ IsAddressName repo ∧
      ∃ before rest, text = before ++ (host ++ (owner ++ '/' :: (repo ++ rest))) := by
  induction text with
  | nil => cases h
  | cons c later ih =>
    rw [namesInAddress?] at h
    split at h
    · rename_i names hnames
      cases h
      obtain ⟨after, hafter, hhead⟩ := Option.bind_eq_some_iff.mp hnames
      obtain ⟨howner, hrepo, rest, rfl⟩ := of_namesAtHead? hhead
      exact ⟨howner, hrepo, [], rest, (List.isPrefixOf?_eq_some_iff_append_eq.mp hafter).symm⟩
    · obtain ⟨howner, hrepo, before, rest, rfl⟩ := ih h
      exact ⟨howner, hrepo, c :: before, rest, rfl⟩

/-- An address has two slashes at least: one ends the host, and one stands between the names. -/
theorem namesInAddress?_eq_none (h : text.count '/' < 2) : namesInAddress? text = none := by
  by_contra hsome
  obtain ⟨⟨owner, repo⟩, hnames⟩ := Option.ne_none_iff_exists'.mp hsome
  obtain ⟨-, -, before, rest, rfl⟩ := of_namesInAddress? hnames
  have hhost : host.count '/' = 1 := by decide
  simp only [List.count_append, List.count_cons_self, hhost] at h
  omega

/-! ## Clone addresses -/

theorem withoutCloneEnding_append (repo : List Char) : withoutCloneEnding (repo ++ ".git".toList) = repo := by
  have hending : ".git".toList.isSuffixOf (repo ++ ".git".toList) = true := by simp
  rw [withoutCloneEnding, if_pos hending, List.length_append]
  exact List.take_left

theorem withoutCloneEnding_eq_self (h : ".git".toList.isSuffixOf repo = false) : withoutCloneEnding repo = repo := by
  rw [withoutCloneEnding, h]
  rfl

theorem withoutCloneEnding_subset (repo : List Char) : withoutCloneEnding repo ⊆ repo := by
  unfold withoutCloneEnding
  split
  · exact List.take_subset _ _
  · exact List.Subset.refl _

/-! ## Shorthands -/

theorem shorthand?_eq_some : shorthand? text = some (owner, repo) ↔
    IsName owner ∧ IsName repo ∧ text = owner ++ '/' :: repo := by
  constructor
  · intro h
    unfold shorthand? at h
    split at h
    · rename_i first second hcut
      split at h
      · cases h
      · rename_i hnames
        obtain ⟨rfl, rfl⟩ := Prod.mk.inj (Option.some.inj h)
        -- the cut is at the first slash, so only the part behind it has to be looked at for others
        have hmem : '/' ∈ text := by
          by_contra hmem
          rw [cutAtFirst_of_not_mem hmem] at hcut
          cases hcut
        obtain ⟨before, after, hbefore, rfl, hsame⟩ := cutAtFirst_of_mem hmem
        rw [hsame] at hcut
        obtain ⟨rfl, hafter⟩ := Prod.mk.inj hcut
        obtain rfl := Option.some.inj hafter
        simp only [Bool.or_eq_true, List.isEmpty_iff, List.any_eq_true, List.contains_eq_mem, decide_eq_true_eq,
          not_or, not_exists, not_and, Bool.not_eq_true] at hnames
        obtain ⟨⟨⟨hfirst, hsecond⟩, hblank⟩, hslash⟩ := hnames
        refine ⟨⟨hfirst, fun c hc => ⟨?_, hblank c (List.mem_append_left _ hc)⟩⟩,
          ⟨hsecond, fun c hc => ⟨?_, hblank c (List.mem_append_right _ (List.mem_cons_of_mem _ hc))⟩⟩, rfl⟩
        · rintro rfl
          exact hbefore hc
        · rintro rfl
          exact hslash hc
    · cases h
  · rintro ⟨howner, hrepo, rfl⟩
    have hblank : (owner ++ '/' :: repo).any isBlank = false := by
      rw [List.any_eq_false]
      intro c hc
      rw [Bool.not_eq_true]
      rcases List.mem_append.mp hc with hc | hc
      · exact (howner.2 c hc).2
      · rcases List.mem_cons.mp hc with rfl | hc
        · decide
        · exact (hrepo.2 c hc).2
    rw [shorthand?, cutAtFirst_append howner.slash_not_mem]
    simp [howner.1, hrepo.1, hblank, hrepo.slash_not_mem]

/-! ## References -/

/-- Both names of a reference are names. -/
theorem isName_of_ofText? {text : String} {reference : Reference} (h : ofText? text = some reference) :
    IsName reference.owner.toList ∧ IsName reference.repo.toList := by
  unfold ofText? at h
  dsimp only at h
  split at h
  · rename_i owner repo hnames
    obtain ⟨howner, hrepo, -⟩ := of_namesInAddress? hnames
    split at h
    · cases h
    · rename_i hnonempty
      cases h
      rw [String.toList_ofList, String.toList_ofList]
      refine ⟨howner.1, by simpa using hnonempty, fun c hc => ?_⟩
      exact hrepo.1.2 c (withoutCloneEnding_subset repo hc)
  · obtain ⟨⟨owner, repo⟩, hnames, rfl⟩ := Option.map_eq_some_iff.mp h
    obtain ⟨howner, hrepo, -⟩ := shorthand?_eq_some.mp hnames
    dsimp only
    rw [String.toList_ofList, String.toList_ofList]
    exact ⟨howner, hrepo⟩

/-- A shorthand names what it says. -/
theorem ofText?_shorthand {owner repo : String} (howner : IsName owner.toList) (hrepo : IsName repo.toList) :
    ofText? (owner ++ "/" ++ repo) = some ⟨owner, repo⟩ := by
  have htext : (owner ++ "/" ++ repo).toList = owner.toList ++ '/' :: repo.toList := by simp
  have hshort := shorthand?_eq_some.mpr ⟨howner, hrepo, rfl⟩
  have htrim : trim (owner.toList ++ '/' :: repo.toList) = owner.toList ++ '/' :: repo.toList := by
    refine trim_eq_self fun c hc => ?_
    rcases List.mem_append.mp hc with hc | hc
    · exact (howner.2 c hc).2
    · rcases List.mem_cons.mp hc with rfl | hc
      · decide
      · exact (hrepo.2 c hc).2
  -- with one slash there is no address in it
  have haddress : namesInAddress? (owner.toList ++ '/' :: repo.toList) = none := by
    refine namesInAddress?_eq_none ?_
    rw [List.count_append, List.count_cons_self, List.count_eq_zero_of_not_mem howner.slash_not_mem,
      List.count_eq_zero_of_not_mem hrepo.slash_not_mem]
    decide
  rw [ofText?, htext, htrim, haddress, hshort]
  simp [String.ofList_toList]

/-! ## Addresses in texts -/

/-- What may stand before the host in an address. -/
def schemes : List String := ["https://", "http://", "https://www.", ""]

/-- What may follow the names in an address: nothing, or a path, a query or a fragment. -/
def IsTail (tail : List Char) : Prop :=
  (∀ c, tail.head? = some c → c = '/' ∨ c = '?' ∨ c = '#') ∧ ∀ c ∈ tail, isBlank c = false

/-- The ending of a clone address is no part of the name, and no other ending is taken off. -/
theorem withoutCloneEnding_of_mem {ending : String} (hending : ending ∈ ["", ".git"])
    (hrepo : ".git".toList.isSuffixOf repo = false) : withoutCloneEnding (repo ++ ending.toList) = repo := by
  rcases List.mem_pair.mp hending with rfl | rfl
  · rw [String.toList_empty, List.append_nil, withoutCloneEnding_eq_self hrepo]
  · exact withoutCloneEnding_append repo

theorem IsAddressName.append_ending (h : IsAddressName repo) {ending : String} (hending : ending ∈ ["", ".git"]) :
    IsAddressName (repo ++ ending.toList) := by
  have hpasses : ∀ c ∈ ending.toList, isNameChar c = true := by
    rcases List.mem_pair.mp hending with rfl | rfl <;> exact Text.forall_mem_of_all (by decide)
  obtain ⟨hne, hall⟩ := isAddressName_iff.mp h
  refine isAddressName_iff.mpr ⟨List.append_ne_nil_of_left_ne_nil hne _, fun c hc => ?_⟩
  exact (List.mem_append.mp hc).elim (hall c) (hpasses c)

/-- An address between blanks names its owner and its repository. -/
theorem ofText?_address {owner repo before scheme ending tail after : String} (howner : IsAddressName owner.toList)
    (hrepo : IsAddressName repo.toList) (hclone : endsWith repo ".git" = false)
    (hbefore : ∀ c ∈ before.toList, isBlank c = true) (hscheme : scheme ∈ schemes) (hending : ending ∈ ["", ".git"])
    (htail : IsTail tail.toList) (hafter : ∀ c ∈ after.toList, isBlank c = true) :
    ofText? (before ++ scheme ++ "github.com/" ++ owner ++ "/" ++ repo ++ ending ++ tail ++ after) =
      some ⟨owner, repo⟩ := by
  have hname := hrepo.append_ending hending
  let address := scheme.toList ++ (host ++ (owner.toList ++ '/' :: (repo.toList ++ ending.toList ++ tail.toList)))
  have htext : (before ++ scheme ++ "github.com/" ++ owner ++ "/" ++ repo ++ ending ++ tail ++ after).toList =
      before.toList ++ (address ++ after.toList) := by
    have hslash : "/".toList = ['/'] := rfl
    have hhost : "github.com/".toList = host := rfl
    simp only [String.toList_append, hslash, hhost, List.append_assoc, List.cons_append, List.nil_append, address]
  -- nothing in the address is a blank, so what is trimmed are the blanks around it
  have hletters : 'g' ∉ scheme.toList ∧ ∀ c ∈ scheme.toList, isBlank c = false := by
    simp only [schemes, List.mem_cons, List.not_mem_nil, or_false] at hscheme
    rcases hscheme with rfl | rfl | rfl | rfl <;> exact ⟨by decide, Text.forall_mem_of_all (by decide)⟩
  have hhost : ∀ c ∈ host, isBlank c = false := Text.forall_mem_of_all (by decide)
  have hsolid : ∀ c ∈ address, isBlank c = false := by
    simp only [address, List.mem_append, List.mem_cons]
    rintro c (hc | hc | hc | rfl | hc | hc)
    · exact hletters.2 c hc
    · exact hhost c hc
    · exact (howner.1.2 c hc).2
    · decide
    · exact (hname.1.2 c (List.mem_append.mpr hc)).2
    · exact htail.2 c hc
  have htrim : trim (before.toList ++ (address ++ after.toList)) = address := by
    rw [trim, stripWhile_append_left hbefore, stripWhile_append_right hafter]
    exact trim_eq_self hsolid
  have hends : ∀ c, tail.toList.head? = some c → isNameChar c = false := by
    intro c hc
    rcases htail.1 c hc with rfl | rfl | rfl <;> decide
  have hnames := namesInAddress?_append hletters.1 (namesAtHead?_append howner hname hends)
  rw [ofText?, htext, htrim, hnames]
  dsimp only
  rw [withoutCloneEnding_of_mem hending hclone, List.isEmpty_eq_false_iff.mpr hrepo.1.1]
  simp [String.ofList_toList]

/-! ## Main result -/

/-- The names of every reference that is read from a text are not empty and have no slash and no blank, and with a slash
between them they name the same. And for an owner and a repository that can stand in an address, the latter without the
ending of a clone address, every address of them is read as naming them, with or without blanks around it, a scheme, that
ending, and a path, a query or a fragment. -/
theorem ofText?_normal :
    (∀ (text : String) (reference : Reference), ofText? text = some reference →
      IsName reference.owner.toList ∧ IsName reference.repo.toList ∧
        ofText? (reference.owner ++ "/" ++ reference.repo) = some reference) ∧
    ∀ owner repo : String, IsAddressName owner.toList → IsAddressName repo.toList → endsWith repo ".git" = false →
      ∀ before scheme ending tail after : String, (∀ c ∈ before.toList, isBlank c = true) → scheme ∈ schemes →
        ending ∈ ["", ".git"] → IsTail tail.toList → (∀ c ∈ after.toList, isBlank c = true) →
        ofText? (before ++ scheme ++ "github.com/" ++ owner ++ "/" ++ repo ++ ending ++ tail ++ after) =
          some ⟨owner, repo⟩ := by
  constructor
  · intro text reference h
    obtain ⟨howner, hrepo⟩ := isName_of_ofText? h
    exact ⟨howner, hrepo, ofText?_shorthand howner hrepo⟩
  · intro owner repo howner hrepo hclone before scheme ending tail after hbefore hscheme hending htail hafter
    exact ofText?_address howner hrepo hclone hbefore hscheme hending htail hafter

/-- The address of a branch of a clone, with blanks around it, and the shorthand of what it names. -/
theorem ofText?_normal_of_clone :
    ofText? " https://www.github.com/acme/widgets.git/tree/main\n" = some ⟨"acme", "widgets"⟩ ∧
      ofText? "acme/widgets" = some ⟨"acme", "widgets"⟩ := by
  have hname : IsAddressName "acme".toList ∧ IsAddressName "widgets".toList := by
    rw [isAddressName_iff, isAddressName_iff]
    exact ⟨⟨by decide, Text.forall_mem_of_all (by decide)⟩, ⟨by decide, Text.forall_mem_of_all (by decide)⟩⟩
  have haddress := ofText?_normal.2 "acme" "widgets" hname.1 hname.2 (by decide) " " "https://www." ".git" "/tree/main"
    "\n" (Text.forall_mem_of_all (by decide)) (by decide) (by decide)
    ⟨of_head_cons (.inl rfl) _, Text.forall_mem_of_all (by decide)⟩ (Text.forall_mem_of_all (by decide))
  exact ⟨haddress, (ofText?_normal.1 _ _ haddress).2.2⟩

end Showcase.Repository.Reference
