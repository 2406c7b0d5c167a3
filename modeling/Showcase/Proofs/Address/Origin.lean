import Showcase.Proofs.Address.Authority

/-!
# Origins of addresses

The origin of an address is its scheme, its host and the port that counts. Giving an address a query does not change its
origin, and neither does going on after a slash: the address of a listing has the origin of the address that it begins
with, whatever follows.
-/

namespace Showcase.Address

/-- Scheme, host and port of an address with a host. Letter case does not tell hosts apart. -/
def origin? (address : Address) : Option (String × String × Option Int) :=
  if address.isAbsolute then
    some (address.scheme, lowercase address.host, effectivePort address.scheme address.port)
  else none

/-- The origin depends on nothing but these parts. -/
theorem origin?_congr {address other : Address} (hscheme : address.scheme = other.scheme)
    (hhost : Text.lower address.host.toList = Text.lower other.host.toList)
    (hport : effectivePort address.scheme address.port = effectivePort other.scheme other.port) :
    address.origin? = other.origin? := by
  have hempty : address.host.isEmpty = other.host.isEmpty := by
    have hlower := isEmpty_lower address.host.toList
    rw [hhost, isEmpty_lower] at hlower
    have hlist : ∀ s : String, s.isEmpty = s.toList.isEmpty := by
      intro s
      rw [Bool.eq_iff_iff, String.isEmpty_iff, List.isEmpty_iff, String.toList_eq_nil_iff]
    rw [hlist, hlist, hlower]
  rw [origin?, origin?, isAbsolute, isAbsolute, hscheme, hempty, lowercase, lowercase, hhost, ← hport, hscheme]

/-! ## Addresses that were read -/

theorem not_mem_afterLast (separator : Char) (s : List Char) : separator ∉ Text.afterLast separator s := by
  intro hmem
  rw [Text.afterLast, List.mem_reverse] at hmem
  have hpassed := List.mem_takeWhile_imp hmem
  simp at hpassed

theorem mem_of_mem_withoutPort {text : List Char} {c : Char} (hc : c ∈ withoutPort text) : c ∈ text := by
  unfold withoutPort bracketedHost? at hc
  dsimp only at hc
  split at hc
  · exact List.mem_of_mem_take hc
  · exact (List.takeWhile_sublist _).subset hc

/-- The host of an address that was put together is in its normal form. -/
theorem Consists.isNormal {parts : WrittenParts} {address : Address} (h : Consists parts address) :
    IsNormal address.host.toList := by
  refine (normalHost_form h.host).isNormal ?_
  rw [writtenAuthority_host]
  exact fun hmem => not_mem_afterLast '@' _ (mem_of_mem_withoutPort hmem)

theorem cutScheme_suffix (text : List Char) : (cutScheme text).2 <:+ text := by
  unfold cutScheme
  split
  · rename_i scheme rest hcut
    split
    · by_cases hcolon : ':' ∈ text
      · obtain ⟨before, after, -, rfl, hcut'⟩ := Text.cutAtFirst_of_mem hcolon
        rw [hcut'] at hcut
        cases hcut
        exact (List.suffix_cons _ _).trans (List.suffix_append _ _)
      · rw [Text.cutAtFirst_of_not_mem hcolon] at hcut
        cases hcut
    · exact List.suffix_refl _
  · exact List.suffix_refl _

theorem isSchemeChar_of_mem {text : List Char} {c : Char} (hc : c ∈ (cutScheme text).1) : isSchemeChar c = true := by
  unfold cutScheme at hc
  split at hc
  · rename_i scheme rest hcut
    split at hc
    · rename_i hscheme
      rw [Bool.or_eq_true, List.isEmpty_iff, Bool.and_eq_true] at hscheme
      rcases hscheme with rfl | ⟨-, hall⟩
      · cases hc
      · exact List.all_eq_true.mp hall c hc
    · cases hc
  · cases hc

theorem ascii_of_isSchemeChar {c : Char} (hc : isSchemeChar c = true) : c.toNat < 128 := by
  by_cases hplus : c = '+'
  · rw [hplus]
    decide
  · have hreserved : isUnreserved c = true := by
      simp only [isSchemeChar, Bool.or_eq_true, beq_iff_eq, hplus, or_false] at hc
      rcases hc with (((hletter | hdigit) | hhyphen) | hdot)
      · simp [isUnreserved, hletter]
      · simp [isUnreserved, hdigit]
      · simp [isUnreserved, hhyphen]
      · simp [isUnreserved, hdot]
    exact ascii_of_isUnreserved hreserved

/-- The scheme of an address that was read is in small letters. -/
theorem Consists.lower_scheme {text : List Char} {address : Address} (h : Consists (writtenParts text) address) :
    Text.lower address.scheme.toList = address.scheme.toList := by
  rw [h.scheme, String.toList_ofList, (writtenParts_authority text).1]
  exact Text.lower_lower_of_ascii fun c hc => ascii_of_isSchemeChar (isSchemeChar_of_mem hc)

/-- An address that was read keeps its origin when it is given a query. -/
theorem withQuery_origin {text : List Char} {written address : Address} {name value : String}
    (hwritten : Consists (writtenParts text) written) (h : written.withQuery name value = .ok address) :
    address.origin? = written.origin? := by
  have hparts := (ofSizedParts_eq_ok.mp h).2
  obtain ⟨hreadHost, hreadPort⟩ := writtenAuthority_authority hwritten.isNormal
  have hscheme : address.scheme = written.scheme := by
    have hlower := hparts.scheme
    rw [hwritten.lower_scheme, String.ofList_toList] at hlower
    exact hlower
  have hhost := hparts.host
  rw [hreadHost] at hhost
  have hport := hparts.port
  rw [hreadPort] at hport
  have heffective := effectivePort_of_normalPort hport
  rw [String.ofList_toList] at heffective
  exact origin?_congr hscheme (lower_of_normalHost_hostText hwritten.isNormal hhost) (by rw [hscheme, heffective])

/-! ## Addresses that go on -/

/-- A text that is an address when it goes on after a slash is an address already, with the same scheme and
authority. -/
theorem Consists.of_append {text rest : List Char} {address : Address} (htext : text.getLast? ≠ some '/')
    (hrest : rest.head? ≠ some '/') (h : Consists (writtenParts (text ++ '/' :: rest)) address) :
    ∃ base, Consists (writtenParts text) base ∧ base.scheme = address.scheme ∧ base.user = address.user ∧
      base.host = address.host ∧ base.port = address.port := by
  have hafter : (cutScheme text).2 ≠ ['/'] := by
    intro hslash
    apply htext
    have hsuffix : (cutScheme text).2 <:+ text := cutScheme_suffix text
    rw [hslash] at hsuffix
    obtain ⟨before, hbefore⟩ := hsuffix
    rw [← hbefore, List.getLast?_concat]
  obtain ⟨hscheme, hsame, hfollows⟩ := writtenParts_append hafter fun _ => hrest
  -- the path goes on, or ends at a mark before the slash
  have hpath : (writtenParts text).path <+: (writtenParts (text ++ '/' :: rest)).path := by
    rw [path_writtenParts, path_writtenParts, hfollows, unmarkedPart_append]
    split
    · rename_i hkept
      rw [hkept]
      exact List.prefix_append _ _
    · exact List.prefix_refl _
  have hhead : (writtenParts text).path = [] ∨
      (writtenParts (text ++ '/' :: rest)).path.head? = (writtenParts text).path.head? := by
    obtain ⟨later, hlater⟩ := hpath
    rw [← hlater]
    rcases (writtenParts text).path with _ | ⟨first, others⟩
    · exact .inl rfl
    · exact .inr rfl
  refine ⟨⟨address.scheme, address.user, address.host, address.port,
    encoded pathExclusions (if address.isBare then (writtenParts text).path else normalPath (writtenParts text).path),
    (writtenParts text).query.map (encoded queryExclusions),
    (writtenParts text).fragment.map (encoded fragmentExclusions)⟩, ?_, rfl, rfl, rfl, rfl⟩
  refine ⟨?_, ?_, ?_, ?_, rfl, rfl, rfl, fun howned => ?_, fun hbare => ⟨fun hslashes => ?_, fun hcolon => ?_⟩⟩
  · exact hscheme ▸ h.scheme
  · exact hsame ▸ h.user
  · exact hsame ▸ h.host
  · exact hscheme ▸ hsame ▸ h.port
  · rcases hhead with hnil | hhead
    · exact .inl hnil
    · rcases h.rooted howned with hnil | hroot
      · rw [hnil] at hpath
        exact .inl (List.prefix_nil.mp hpath)
      · exact .inr (hhead ▸ hroot)
  · exact (h.plain hbare).1 (hslashes.trans hpath)
  · rcases hhead with hnil | hhead
    · rw [hnil] at hcolon
      cases hcolon
    · exact (h.plain hbare).2 (hhead.trans hcolon)

/-- The address of a listing has the origin of the address of the interface. -/
theorem listing_origin {text longer : String} {rest : List Char} (hlonger : longer.toList = text.toList ++ '/' :: rest)
    (htext : text.toList.getLast? ≠ some '/') (hrest : rest.head? ≠ some '/') {written address : Address}
    {name value : String} (hwritten : ofText longer = .ok written) (h : written.withQuery name value = .ok address) :
    ∃ base, ofWritten text.toList = .ok base ∧ address.origin? = base.origin? := by
  simp only [ofText, bind, Except.bind] at hwritten
  rcases hdirect : ofWritten longer.toList with failure | direct
  · rw [hdirect] at hwritten
    cases hwritten
  rw [hdirect] at hwritten
  dsimp only at hwritten
  obtain ⟨hlength, hcontrol, hparts⟩ := ofWritten_eq_ok.mp hdirect
  rw [hlonger] at hlength hcontrol hparts
  obtain ⟨base, hbase, hscheme, -, hhost, hport⟩ := hparts.of_append htext hrest
  refine ⟨base, ofWritten_eq_ok.mpr ⟨?_, ?_, hbase⟩, ?_⟩
  · rw [List.length_append] at hlength
    omega
  · exact fun c hc => hcontrol c (List.mem_append_left _ hc)
  · have hsame : base.origin? = direct.origin? := origin?_congr hscheme (by rw [hhost]) (by rw [hscheme, hport])
    rw [hsame]
    by_cases habsolute : direct.isAbsolute = true
    · rw [fromRoot, if_pos habsolute] at hwritten
      cases hwritten
      exact withQuery_origin hparts h
    · -- a path from the root has no origin, with a query or without
      rw [fromRoot, if_neg habsolute] at hwritten
      have hnone := (ofSizedParts_eq_ok.mp hwritten).2.scheme
      have hnone' := (ofSizedParts_eq_ok.mp h).2.scheme
      rw [hnone] at hnone'
      have hrelative : address.isAbsolute = false := by
        rw [isAbsolute, hnone']
        rfl
      rw [origin?, origin?, hrelative, if_neg habsolute]
      rfl

end Showcase.Address
