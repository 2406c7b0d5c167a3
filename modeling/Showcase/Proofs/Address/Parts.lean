import Showcase.Proofs.Address.Trust

/-!
# What an address consists of

An address is put together from its written parts: the host and the port are brought into their normal forms, the other
parts are encoded, and a path is resolved unless nothing else says where it belongs. Whatever cannot be put together is
refused as a bad address. A text that goes on after a slash goes on in its path, its query or its fragment.
-/

namespace Showcase.Address

/-! ## Refusals -/

/-- The failures that addresses end in. -/
def IsRefusal (failure : Failure) : Prop := ∃ message, failure = .badAddress message

theorem isRefusal_badAddress (message : String) : IsRefusal (.badAddress message) := ⟨message, rfl⟩

theorem isRefusal_of_refused {α : Type} {message : String} {failure : Failure}
    (h : (refused message : Fallible α) = .error failure) : IsRefusal failure := by
  cases h
  exact isRefusal_badAddress message

theorem normalHost_error {host : List Char} {failure : Failure} (h : normalHost host = .error failure) :
    IsRefusal failure := by
  unfold normalHost at h
  dsimp only at h
  split at h
  · cases h
  split at h
  · split at h
    · cases h
    · exact isRefusal_of_refused h
  split at h
  · split at h
    · cases h
    · exact isRefusal_of_refused h
  split at h
  · cases h
  · split at h
    · cases h
    · exact isRefusal_of_refused h

theorem normalPort_error {scheme port : List Char} {failure : Failure} (h : normalPort scheme port = .error failure) :
    IsRefusal failure := by
  unfold normalPort at h
  split at h
  · cases h
  · split at h
    · exact isRefusal_of_refused h
    · cases h

/-! ## Putting an address together -/

/-- Whether an address has any part of an authority. -/
def hasAuthority (address : Address) : Bool := !address.user.isEmpty || !address.host.isEmpty || address.port.isSome

/-- Whether an address has nothing before its path. -/
def isBare (address : Address) : Bool := address.scheme.isEmpty && !address.hasAuthority

/-- What an address consists of that was put together from written parts. -/
structure Consists (parts : WrittenParts) (address : Address) : Prop where
  scheme : address.scheme = String.ofList (Text.lower parts.scheme)
  user : address.user = encoded userExclusions (writtenAuthority parts.authority).user
  host : normalHost (writtenAuthority parts.authority).host = .ok address.host.toList
  port : normalPort parts.scheme (writtenAuthority parts.authority).port = .ok address.port
  path : address.path = encoded pathExclusions (if address.isBare then parts.path else normalPath parts.path)
  query : address.query = parts.query.map (encoded queryExclusions)
  fragment : address.fragment = parts.fragment.map (encoded fragmentExclusions)
  /-- After an authority a path begins at the root. -/
  rooted : address.hasAuthority = true → parts.path = [] ∨ parts.path.head? = some '/'
  /-- Without anything before it a path is not taken for an authority or for what follows a scheme. -/
  plain : address.isBare = true → ¬['/', '/'] <+: parts.path ∧ parts.path.head? ≠ some ':'

theorem isEmpty_lower (s : List Char) : (String.ofList (Text.lower s)).isEmpty = s.isEmpty := by
  cases s with
  | nil => rfl
  | cons c rest =>
    have hfilled : Text.lower (c :: rest) ≠ [] := Text.lower_ne_nil (by simp)
    rw [List.isEmpty_cons, Bool.eq_false_iff]
    intro hempty
    exact hfilled (by simpa using hempty)

/-- What is put together of written parts, whether or not it may be. -/
structure Assembled (parts : WrittenParts) (address : Address) : Prop where
  scheme : address.scheme = String.ofList (Text.lower parts.scheme)
  user : address.user = encoded userExclusions (writtenAuthority parts.authority).user
  host : normalHost (writtenAuthority parts.authority).host = .ok address.host.toList
  port : normalPort parts.scheme (writtenAuthority parts.authority).port = .ok address.port
  path : address.path = encoded pathExclusions (if address.isBare then parts.path else normalPath parts.path)
  query : address.query = parts.query.map (encoded queryExclusions)
  fragment : address.fragment = parts.fragment.map (encoded fragmentExclusions)

section

variable {parts others : WrittenParts} {address other : Address}

theorem Consists.assembled (h : Consists parts address) : Assembled parts address :=
  ⟨h.scheme, h.user, h.host, h.port, h.path, h.query, h.fragment⟩

/-- Parts with the same scheme and authority make the same of them. -/
theorem Assembled.same (h : Assembled parts address) (h' : Assembled others other) (hscheme : parts.scheme = others.scheme)
    (hauthority : parts.authority = others.authority) :
    address.scheme = other.scheme ∧ address.user = other.user ∧ address.host = other.host ∧
      address.port = other.port := by
  have hhost : address.host.toList = other.host.toList := by
    have hboth := h.host
    rw [hauthority, h'.host] at hboth
    exact (Except.ok.inj hboth).symm
  have hport : address.port = other.port := by
    have hboth := h.port
    rw [hscheme, hauthority, h'.port] at hboth
    exact (Except.ok.inj hboth).symm
  refine ⟨?_, ?_, String.toList_inj.mp hhost, hport⟩
  · rw [h.scheme, h'.scheme, hscheme]
  · rw [h.user, h'.user, hauthority]

/-- No two addresses are put together of the same parts. -/
theorem Assembled.unique (h : Assembled parts address) (h' : Assembled parts other) : address = other := by
  obtain ⟨hscheme, huser, hhost, hport⟩ := h.same h' rfl rfl
  have hbare : address.isBare = other.isBare := by
    rw [isBare, isBare, hasAuthority, hasAuthority, hscheme, huser, hhost, hport]
  have hpath : address.path = other.path := by rw [h.path, h'.path, hbare]
  have hquery : address.query = other.query := by rw [h.query, h'.query]
  have hfragment : address.fragment = other.fragment := by rw [h.fragment, h'.fragment]
  cases address
  cases other
  rw [mk.injEq]
  exact ⟨hscheme, huser, hhost, hport, hpath, hquery, hfragment⟩

/-- What is put together of a host and a port in their normal forms. -/
theorem ofParts_eq {host : List Char} {port : Option Int}
    (hhost : normalHost (writtenAuthority parts.authority).host = .ok host)
    (hport : normalPort parts.scheme (writtenAuthority parts.authority).port = .ok port) :
    ∃ made : Address, Assembled parts made ∧
      ofParts parts =
        if made.hasAuthority && !parts.path.isEmpty && parts.path.head? != some '/' then
          refused "For absolute URLs, path must be empty or begin with '/'"
        else if made.isBare && ['/', '/'].isPrefixOf parts.path then
          refused "Relative URLs cannot have a path starting with '//'"
        else if made.isBare && parts.path.head? == some ':' then
          refused "Relative URLs cannot have a path starting with ':'"
        else .ok made := by
  have hempty : (String.ofList host).isEmpty = host.isEmpty := by
    cases host <;> simp
  let user := encoded userExclusions (writtenAuthority parts.authority).user
  let owned := !user.isEmpty || !host.isEmpty || port.isSome
  let path := if parts.scheme.isEmpty && !owned then parts.path else normalPath parts.path
  refine ⟨⟨String.ofList (Text.lower parts.scheme), user, String.ofList host, port, encoded pathExclusions path,
    parts.query.map (encoded queryExclusions), parts.fragment.map (encoded fragmentExclusions)⟩,
    ⟨rfl, rfl, ?_, hport, ?_, rfl, rfl⟩, ?_⟩
  · rw [hhost, String.toList_ofList]
  · simp only [isBare, hasAuthority, isEmpty_lower, hempty, path, owned]
  · simp only [ofParts, hhost, hport, bind, Except.bind, pure, Except.pure, isBare, hasAuthority, isEmpty_lower,
      hempty, path, owned, user]

/-- What is put together may be put together exactly if none of the three checks stops it. -/
theorem Assembled.consists_iff (h : Assembled parts address) :
    Consists parts address ↔
      (address.hasAuthority && !parts.path.isEmpty && parts.path.head? != some '/') = false ∧
      (address.isBare && ['/', '/'].isPrefixOf parts.path) = false ∧
      (address.isBare && parts.path.head? == some ':') = false := by
  have hrooted : (address.hasAuthority && !parts.path.isEmpty && parts.path.head? != some '/') = false ↔
      (address.hasAuthority = true → parts.path = [] ∨ parts.path.head? = some '/') := by
    cases address.hasAuthority with
    | false => simp
    | true => simp [Classical.or_iff_not_imp_left]
  have hplain : (address.isBare && ['/', '/'].isPrefixOf parts.path) = false ∧
        (address.isBare && parts.path.head? == some ':') = false ↔
      (address.isBare = true → ¬['/', '/'] <+: parts.path ∧ parts.path.head? ≠ some ':') := by
    cases address.isBare with
    | false => simp
    | true => simp [Bool.eq_false_iff]
  rw [hrooted, hplain]
  constructor
  · intro hconsists
    exact ⟨hconsists.rooted, hconsists.plain⟩
  · rintro ⟨hrooted, hplain⟩
    exact ⟨h.scheme, h.user, h.host, h.port, h.path, h.query, h.fragment, hrooted, hplain⟩

theorem ofParts_eq_ok : ofParts parts = .ok address ↔ Consists parts address := by
  rcases hhost : normalHost (writtenAuthority parts.authority).host with failure | host
  · refine iff_of_false (fun h => ?_) fun h => ?_
    · simp only [ofParts, hhost, bind, Except.bind] at h
      cases h
    · rw [h.host] at hhost
      cases hhost
  rcases hport : normalPort parts.scheme (writtenAuthority parts.authority).port with failure | port
  · refine iff_of_false (fun h => ?_) fun h => ?_
    · simp only [ofParts, hhost, hport, bind, Except.bind] at h
      cases h
    · rw [h.port] at hport
      cases hport
  obtain ⟨made, hmade, heq⟩ := ofParts_eq hhost hport
  constructor
  · intro h
    rw [heq] at h
    split at h
    · cases h
    rename_i hrooted
    split at h
    · cases h
    rename_i hslashes
    split at h
    · cases h
    rename_i hcolon
    cases h
    exact hmade.consists_iff.mpr
      ⟨Bool.eq_false_iff.mpr hrooted, Bool.eq_false_iff.mpr hslashes, Bool.eq_false_iff.mpr hcolon⟩
  · intro h
    -- the address is the one that was put together, and it passes the checks
    obtain rfl : made = address := hmade.unique h.assembled
    obtain ⟨hrooted, hslashes, hcolon⟩ := hmade.consists_iff.mp h
    rw [heq, hrooted, hslashes, hcolon]
    rfl

end

theorem ofParts_error {parts : WrittenParts} {failure : Failure} (h : ofParts parts = .error failure) :
    IsRefusal failure := by
  rcases hhost : normalHost (writtenAuthority parts.authority).host with other | host
  · simp only [ofParts, hhost, bind, Except.bind] at h
    cases h
    exact normalHost_error hhost
  rcases hport : normalPort parts.scheme (writtenAuthority parts.authority).port with other | port
  · simp only [ofParts, hhost, hport, bind, Except.bind] at h
    cases h
    exact normalPort_error hport
  obtain ⟨made, -, heq⟩ := ofParts_eq hhost hport
  rw [heq] at h
  split at h
  · exact isRefusal_of_refused h
  split at h
  · exact isRefusal_of_refused h
  split at h
  · exact isRefusal_of_refused h
  · cases h

/-! ## Reading an address -/

theorem ofWritten_eq_ok {text : List Char} {address : Address} :
    ofWritten text = .ok address ↔
      text.length ≤ longest ∧ (∀ c ∈ text, isControl c = false) ∧ Consists (writtenParts text) address := by
  rw [← ofParts_eq_ok, ofWritten]
  by_cases hlong : text.length > longest
  · rw [if_pos hlong]
    refine iff_of_false (fun h => ?_) fun h => absurd h.1 (by omega)
    cases h
  · rw [if_neg hlong]
    cases hcontrol : text.findIdx? isControl with
    | some index =>
      obtain ⟨hindex, hfound, -⟩ := List.findIdx?_eq_some_iff_getElem.mp hcontrol
      refine iff_of_false (fun h => ?_) fun h => ?_
      · cases h
      · rw [h.2.1 _ (List.getElem_mem hindex)] at hfound
        cases hfound
    | none =>
      have hnone := List.findIdx?_eq_none_iff.mp hcontrol
      simp only [Nat.not_lt.mp hlong, true_and]
      exact ⟨fun h => ⟨hnone, h⟩, fun h => h.2⟩

theorem ofWritten_error {text : List Char} {failure : Failure} (h : ofWritten text = .error failure) :
    IsRefusal failure := by
  unfold ofWritten at h
  split at h
  · exact isRefusal_of_refused h
  split at h
  · exact isRefusal_of_refused h
  · exact ofParts_error h

/-- Parts of which none is longer than an address may be. -/
structure IsSized (parts : WrittenParts) : Prop where
  scheme : parts.scheme.length ≤ longest
  authority : parts.authority.length ≤ longest
  path : parts.path.length ≤ longest
  query : ∀ query, parts.query = some query → query.length ≤ longest
  fragment : ∀ fragment, parts.fragment = some fragment → fragment.length ≤ longest

theorem ofSizedParts_eq_ok {parts : WrittenParts} {address : Address} :
    ofSizedParts parts = .ok address ↔ IsSized parts ∧ Consists parts address := by
  have hsized : IsSized parts ↔ ∀ part ∈ [("scheme", some parts.scheme), ("authority", some parts.authority),
      ("path", some parts.path), ("query", parts.query), ("fragment", parts.fragment)],
      ¬(part.2.any fun written => longest < written.length) = true := by
    simp only [List.forall_mem_cons, List.not_mem_nil, false_implies, implies_true, and_true, Option.any_eq_true,
      decide_eq_true_eq, not_exists, not_and, Nat.not_lt, Option.some.injEq, forall_eq']
    constructor
    · intro h
      exact ⟨h.scheme, h.authority, h.path, h.query, h.fragment⟩
    · rintro ⟨hscheme, hauthority, hpath, hquery, hfragment⟩
      exact ⟨hscheme, hauthority, hpath, hquery, hfragment⟩
  rw [ofSizedParts, hsized, ← ofParts_eq_ok]
  split
  · rename_i name written hfound
    have hlong : (written.any fun part => longest < part.length) = true :=
      @List.find?_some _ (fun part : String × Option (List Char) => part.2.any fun w => longest < w.length) _ _ hfound
    refine iff_of_false (fun h => ?_) fun h => h.1 _ (List.mem_of_find?_eq_some hfound) hlong
    cases h
  · rename_i hnone
    exact ⟨fun h => ⟨List.find?_eq_none.mp hnone, h⟩, fun h => h.2⟩

theorem ofSizedParts_error {parts : WrittenParts} {failure : Failure} (h : ofSizedParts parts = .error failure) :
    IsRefusal failure := by
  unfold ofSizedParts at h
  dsimp only at h
  split at h
  · exact isRefusal_of_refused h
  · exact ofParts_error h

theorem fromRoot_error {address : Address} {failure : Failure} (h : address.fromRoot = .error failure) :
    IsRefusal failure := by
  unfold fromRoot at h
  split at h
  · cases h
  · exact ofSizedParts_error h

theorem ofText_error {text : String} {failure : Failure} (h : ofText text = .error failure) : IsRefusal failure := by
  simp only [ofText, bind, Except.bind] at h
  rcases hwritten : ofWritten text.toList with other | direct
  · rw [hwritten] at h
    cases h
    exact ofWritten_error hwritten
  · rw [hwritten] at h
    exact fromRoot_error h

theorem withQuery_error {address : Address} {name value : String} {failure : Failure}
    (h : address.withQuery name value = .error failure) : IsRefusal failure := ofSizedParts_error h

/-! ## Texts that go on -/

/-- What follows the authority. -/
def afterAuthority : List Char → List Char
  | '/' :: '/' :: rest => rest.dropWhile fun c => !endsAuthority c
  | after => after

theorem afterAuthority_of_ne {after : List Char} (hnone : ∀ rest, after ≠ '/' :: '/' :: rest) :
    afterAuthority after = after := by
  unfold afterAuthority
  split
  · rename_i rest
    exact absurd rfl (hnone rest)
  · rfl

/-- What stands between the authority and the fragment. -/
def beforeFragment (text : List Char) : List Char := (Text.cutAtFirst '#' (afterAuthority (cutScheme text).2)).1

theorem writtenParts_eq (text : List Char) :
    writtenParts text =
      ⟨(cutScheme text).1, authorityOf (cutScheme text).2, (Text.cutAtFirst '?' (beforeFragment text)).1,
        (Text.cutAtFirst '?' (beforeFragment text)).2, (Text.cutAtFirst '#' (afterAuthority (cutScheme text).2)).2⟩ := by
  unfold writtenParts beforeFragment
  rcases cutScheme text with ⟨scheme, after⟩
  by_cases hslashes : ∃ rest, after = '/' :: '/' :: rest
  · obtain ⟨rest, rfl⟩ := hslashes
    rfl
  · have hnone : ∀ rest, after ≠ '/' :: '/' :: rest := fun rest hrest => hslashes ⟨rest, hrest⟩
    dsimp only
    rw [authorityOf_eq_nil hnone, afterAuthority_of_ne hnone]
    split
    · rename_i rest
      exact absurd rfl (hnone rest)
    · rfl

/-- The scheme ends before every slash. -/
theorem cutScheme_append (text rest : List Char) :
    cutScheme (text ++ '/' :: rest) = ((cutScheme text).1, (cutScheme text).2 ++ '/' :: rest) := by
  by_cases hcolon : ':' ∈ text
  · obtain ⟨before, after, hbefore, rfl, hcut⟩ := Text.cutAtFirst_of_mem hcolon
    have hlonger : Text.cutAtFirst ':' ((before ++ ':' :: after) ++ '/' :: rest) =
        (before, some (after ++ '/' :: rest)) := by
      rw [List.append_assoc, List.cons_append]
      exact Text.cutAtFirst_append hbefore _
    simp only [cutScheme, hcut, hlonger]
    split <;> rfl
  · have hnone : cutScheme text = ([], text) := by
      simp only [cutScheme, Text.cutAtFirst_of_not_mem hcolon]
    rw [hnone]
    by_cases hlater : ':' ∈ rest
    · -- a slash stands before the first colon, so this ends no scheme
      obtain ⟨before, after, hbefore, rfl, -⟩ := Text.cutAtFirst_of_mem hlater
      have hcut : Text.cutAtFirst ':' (text ++ '/' :: (before ++ ':' :: after)) =
          (text ++ '/' :: before, some after) := by
        rw [show text ++ '/' :: (before ++ ':' :: after) = (text ++ '/' :: before) ++ ':' :: after by simp]
        apply Text.cutAtFirst_append
        simp [hcolon, hbefore]
      have hslash : (text ++ '/' :: before).all isSchemeChar = false := by
        rw [List.all_eq_false]
        exact ⟨'/', by simp, by decide⟩
      simp only [cutScheme, hcut, hslash, Bool.and_false, Bool.or_false]
      rw [if_neg (by simp)]
    · have hcut : Text.cutAtFirst ':' (text ++ '/' :: rest) = (text ++ '/' :: rest, none) := by
        apply Text.cutAtFirst_of_not_mem
        simp [hcolon, hlater]
      simp only [cutScheme, hcut]

/-- A slash after an authority, or after anything but a slash, ends the authority. -/
theorem authorityOf_append {after : List Char} (hafter : after ≠ ['/']) {rest : List Char}
    (hrest : after = [] → rest.head? ≠ some '/') :
    authorityOf (after ++ '/' :: rest) = authorityOf after ∧
      afterAuthority (after ++ '/' :: rest) = afterAuthority after ++ '/' :: rest := by
  by_cases hslashes : ∃ later, after = '/' :: '/' :: later
  · obtain ⟨later, rfl⟩ := hslashes
    exact Text.takeWhile_append_cons (by decide) later rest
  · have hnone : ∀ later, after ≠ '/' :: '/' :: later := fun later hlater => hslashes ⟨later, hlater⟩
    have hlonger : ∀ later, after ++ '/' :: rest ≠ '/' :: '/' :: later := by
      intro later heq
      rcases after with _ | ⟨first, _ | ⟨second, others⟩⟩
      · rcases rest with _ | ⟨c, others⟩
        · simp at heq
        · simp only [List.nil_append, List.cons.injEq, true_and] at heq
          exact hrest rfl (by rw [heq.1]; rfl)
      · simp only [List.cons_append, List.nil_append, List.cons.injEq] at heq
        exact hafter (by rw [heq.1])
      · simp only [List.cons_append, List.cons.injEq] at heq
        exact hnone others (by rw [heq.1, heq.2.1])
    rw [authorityOf_eq_nil hnone, authorityOf_eq_nil hlonger, afterAuthority_of_ne hnone, afterAuthority_of_ne hlonger]
    exact ⟨rfl, rfl⟩

/-- What goes on after such a slash changes neither the scheme nor the authority. -/
theorem writtenParts_append {text rest : List Char} (hafter : (cutScheme text).2 ≠ ['/'])
    (hrest : (cutScheme text).2 = [] → rest.head? ≠ some '/') :
    (writtenParts (text ++ '/' :: rest)).scheme = (writtenParts text).scheme ∧
      (writtenParts (text ++ '/' :: rest)).authority = (writtenParts text).authority ∧
      afterAuthority (cutScheme (text ++ '/' :: rest)).2 = afterAuthority (cutScheme text).2 ++ '/' :: rest := by
  obtain ⟨hauthority, hfollows⟩ := authorityOf_append hafter hrest
  have hcut := cutScheme_append text rest
  refine ⟨?_, ?_, ?_⟩
  · rw [(writtenParts_authority _).1, (writtenParts_authority _).1, hcut]
  · rw [(writtenParts_authority _).2, (writtenParts_authority _).2, hcut, hauthority]
  · rw [hcut, hfollows]

/-- The part of a text before the marks of a query and a fragment. -/
def unmarkedPart (s : List Char) : List Char := s.takeWhile fun c => c != '#' && c != '?'

theorem unmarkedPart_eq_self {s : List Char} : unmarkedPart s = s ↔ '?' ∉ s ∧ '#' ∉ s := by
  rw [unmarkedPart, List.takeWhile_eq_self_iff]
  constructor
  · intro h
    refine ⟨fun hmem => ?_, fun hmem => ?_⟩
    · exact absurd (h _ hmem) (by decide)
    · exact absurd (h _ hmem) (by decide)
  · rintro ⟨hquery, hfragment⟩ c hc
    simp only [Bool.and_eq_true, bne_iff_ne]
    exact ⟨fun h => hfragment (h ▸ hc), fun h => hquery (h ▸ hc)⟩

theorem cutAtFirst_fst_fst (s : List Char) :
    (Text.cutAtFirst '?' (Text.cutAtFirst '#' s).1).1 = unmarkedPart s := by
  rw [Text.cutAtFirst_fst, Text.cutAtFirst_fst, List.takeWhile_takeWhile, unmarkedPart]
  congr 1
  funext c
  rw [Bool.decide_and, Bool.decide_eq_true, Bool.decide_eq_true, Bool.and_comm]

theorem unmarkedPart_append (s t : List Char) :
    unmarkedPart (s ++ '/' :: t) = if unmarkedPart s = s then s ++ '/' :: unmarkedPart t else unmarkedPart s := by
  rw [unmarkedPart, List.takeWhile_append]
  have hlength : (s.takeWhile fun c => c != '#' && c != '?').length = s.length ↔ unmarkedPart s = s :=
    ⟨fun h => List.IsPrefix.eq_of_length (List.takeWhile_prefix _) h, fun h => congrArg List.length h⟩
  by_cases hkept : unmarkedPart s = s
  · rw [if_pos (hlength.mpr hkept), if_pos hkept]
    rfl
  · rw [if_neg (fun h => hkept (hlength.mp h)), if_neg hkept]
    rfl

theorem path_writtenParts (text : List Char) :
    (writtenParts text).path = unmarkedPart (afterAuthority (cutScheme text).2) := by
  rw [writtenParts_eq, beforeFragment, cutAtFirst_fst_fst]

/-! ## Addresses with a host -/

/-- An address with a host is not bare, and begins with its authority. -/
theorem hasAuthority_of_isAbsolute {address : Address} (h : address.isAbsolute = true) :
    address.hasAuthority = true ∧ address.isBare = false := by
  rw [isAbsolute, Bool.and_eq_true, Bool.not_eq_true', Bool.not_eq_true'] at h
  refine ⟨by simp [hasAuthority, h.2], by simp [isBare, h.1]⟩

/-- An address with a host was written with a scheme, two slashes and an authority. -/
theorem Consists.absolute {text : List Char} {address : Address} (h : Consists (writtenParts text) address)
    (habsolute : address.isAbsolute = true) : ∃ rest, (cutScheme text).2 = '/' :: '/' :: rest := by
  have hhost : address.host.isEmpty = false := by
    rw [isAbsolute, Bool.and_eq_true, Bool.not_eq_true', Bool.not_eq_true'] at habsolute
    exact habsolute.2
  by_contra hnone
  have hauthority : (writtenParts text).authority = [] := by
    rw [(writtenParts_authority text).2]
    exact authorityOf_eq_nil fun rest hrest => hnone ⟨rest, hrest⟩
  have hnil := h.host
  rw [hauthority] at hnil
  have hempty : address.host.toList = [] := (Except.ok.inj hnil).symm
  rw [String.toList_eq_nil_iff] at hempty
  rw [hempty] at hhost
  cases hhost

/-- A text that is read as an address with a host is read as it is written. -/
theorem ofText_absolute {text : String} {address : Address} (h : ofText text = .ok address)
    (habsolute : address.isAbsolute = true) : ofWritten text.toList = .ok address := by
  simp only [ofText, bind, Except.bind] at h
  rcases hwritten : ofWritten text.toList with failure | direct
  · rw [hwritten] at h
    cases h
  rw [hwritten] at h
  dsimp only at h
  by_cases hdirect : direct.isAbsolute = true
  · rw [fromRoot, if_pos hdirect] at h
    exact h
  · -- a path from the root has no scheme
    rw [fromRoot, if_neg hdirect] at h
    have hscheme := (ofSizedParts_eq_ok.mp h).2.scheme
    rw [isAbsolute, hscheme] at habsolute
    cases habsolute

theorem ofText_of_absolute {text : String} {address : Address} (h : ofWritten text.toList = .ok address)
    (habsolute : address.isAbsolute = true) : ofText text = .ok address := by
  simp only [ofText, h, bind, Except.bind, fromRoot, habsolute, if_true]

/-- Behind an address with a host a slash ends the authority. -/
theorem Consists.goesOn {text : List Char} {base : Address} (h : Consists (writtenParts text) base)
    (habsolute : base.isAbsolute = true) (rest : List Char) :
    (writtenParts (text ++ '/' :: rest)).scheme = (writtenParts text).scheme ∧
      (writtenParts (text ++ '/' :: rest)).authority = (writtenParts text).authority ∧
      afterAuthority (cutScheme (text ++ '/' :: rest)).2 = afterAuthority (cutScheme text).2 ++ '/' :: rest := by
  obtain ⟨later, hlater⟩ := h.absolute habsolute
  apply writtenParts_append
  · rw [hlater]
    simp
  · rw [hlater]
    simp

/-- A text that goes on after an address with a host is an address with the same host. -/
theorem ofText_append {text longer : String} {rest : List Char} (hlonger : longer.toList = text.toList ++ '/' :: rest)
    {base address : Address} (hbase : ofText text = .ok base) (habsolute : base.isAbsolute = true)
    (h : ofText longer = .ok address) :
    Consists (writtenParts longer.toList) address ∧ address.isAbsolute = true ∧
      afterAuthority (cutScheme longer.toList).2 = afterAuthority (cutScheme text.toList).2 ++ '/' :: rest := by
  have hparts := (ofWritten_eq_ok.mp (ofText_absolute hbase habsolute)).2.2
  obtain ⟨hscheme, hauthority, hafter⟩ := hparts.goesOn habsolute rest
  rw [← hlonger] at hscheme hauthority hafter
  simp only [ofText, bind, Except.bind] at h
  rcases hwritten : ofWritten longer.toList with failure | direct
  · rw [hwritten] at h
    cases h
  rw [hwritten] at h
  dsimp only at h
  have hdirect := (ofWritten_eq_ok.mp hwritten).2.2
  obtain ⟨hsameScheme, -, hsameHost, -⟩ := hdirect.assembled.same hparts.assembled hscheme hauthority
  have hsame : direct.isAbsolute = true := by rwa [isAbsolute, hsameScheme, hsameHost]
  rw [fromRoot, if_pos hsame] at h
  cases h
  exact ⟨hdirect, hsame, hafter⟩

/-- A text that goes on after a slash, where nothing follows the authority so far, has its path from there on, up to the
marks of a query and a fragment. -/
theorem ofText_under {text longer : String} {rest : List Char} (hlonger : longer.toList = text.toList ++ '/' :: rest)
    {base : Address} (hbase : ofText text = .ok base) (habsolute : base.isAbsolute = true)
    (hnothing : afterAuthority (cutScheme text.toList).2 = []) (hlength : longer.toList.length ≤ longest)
    (hcontrol : ∀ c ∈ rest, isControl c = false) :
    ofText longer = .ok { base with
      path := encoded pathExclusions (normalPath ('/' :: unmarkedPart rest))
      query := (Text.cutAtFirst '?' (Text.cutAtFirst '#' ('/' :: rest)).1).2.map (encoded queryExclusions)
      fragment := (Text.cutAtFirst '#' ('/' :: rest)).2.map (encoded fragmentExclusions) } := by
  obtain ⟨-, hplain, hparts⟩ := ofWritten_eq_ok.mp (ofText_absolute hbase habsolute)
  obtain ⟨hscheme, hauthority, hafter⟩ := hparts.goesOn habsolute rest
  rw [← hlonger, hnothing, List.nil_append] at hafter
  rw [← hlonger] at hscheme hauthority
  have hwhole : writtenParts longer.toList =
      ⟨(writtenParts text.toList).scheme, (writtenParts text.toList).authority, '/' :: unmarkedPart rest,
        (Text.cutAtFirst '?' (Text.cutAtFirst '#' ('/' :: rest)).1).2, (Text.cutAtFirst '#' ('/' :: rest)).2⟩ := by
    have hpath : unmarkedPart ('/' :: rest) = '/' :: unmarkedPart rest := rfl
    rw [← hscheme, ← hauthority, (writtenParts_authority _).1, (writtenParts_authority _).2, writtenParts_eq,
      beforeFragment, hafter, cutAtFirst_fst_fst, hpath]
  have hbare := (hasAuthority_of_isAbsolute habsolute).2
  refine ofText_of_absolute (ofWritten_eq_ok.mpr ⟨hlength, ?_, ?_⟩) habsolute
  · intro c hc
    rw [hlonger] at hc
    rcases List.mem_append.mp hc with hold | hnew
    · exact hplain c hold
    · rcases List.mem_cons.mp hnew with rfl | hin
      · rfl
      · exact hcontrol c hin
  · rw [hwhole]
    have hkept : ∀ path query fragment, isBare { base with path := path, query := query, fragment := fragment } = false :=
      fun _ _ _ => hbare
    refine ⟨hparts.scheme, hparts.user, hparts.host, hparts.port, ?_, rfl, rfl, fun _ => .inr rfl, fun h => ?_⟩
    · rw [hkept, if_neg Bool.false_ne_true]
    · rw [hkept] at h
      cases h

end Showcase.Address
