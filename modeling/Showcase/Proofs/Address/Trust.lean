import Showcase.Client
import Showcase.Proofs.Address.Host
import Showcase.Proofs.Network.Remote

/-!
# Where trusted contents are fetched from

Whether an address is trusted is decided by one reading of it, and the request goes to what another reading makes of it.
The two agree on the host unless it stands in brackets: then only what stands between the first two brackets is
compared, with the name of a zone at its end, and the request may reach up to a later bracket.
-/

namespace Showcase.Address

open Network

/-! ## What is written -/

/-- Host and port as they are written: what stands in the authority of an address after the last `@`. -/
def hostAndPort (url : String) : List Char :=
  Text.afterLast '@' (authorityOf (splitScheme (url.toList.filter fun c => !isBreak c)).2)

/-- A host without the port that follows it. -/
def withoutPort (text : List Char) : List Char :=
  ((bracketedHost? text).map Prod.fst).getD (text.takeWhile (· != ':'))

/-- The host that is written in an address, in lower case. -/
def writtenHost (url : String) : String := String.ofList (Text.lower (withoutPort (hostAndPort url)))

theorem writtenAuthority_host (text : List Char) :
    (writtenAuthority text).host = withoutPort (Text.afterLast '@' text) := by
  unfold writtenAuthority withoutPort
  dsimp only
  rcases bracketedHost? (Text.afterLast '@' text) with _ | ⟨host, after⟩ <;> rfl

/-- A host in brackets reaches up to the last of them. -/
theorem bracketedHost?_of_append {s after : List Char} (hhead : (s ++ ']' :: after).head? = some '[')
    (hafter : ']' ∉ after) : bracketedHost? (s ++ ']' :: after) = some (s ++ [']'], after) := by
  have hlast : (((s ++ ']' :: after).reverse.takeWhile (· != ']')).reverse) = after := by
    have hpass : ∀ c ∈ after.reverse, (c != ']') = true := by
      intro c hc
      simp only [bne_iff_ne, ne_eq]
      rintro rfl
      exact hafter (List.mem_reverse.mp hc)
    rw [List.reverse_append, List.reverse_cons, List.append_assoc, List.takeWhile_append_of_pos hpass]
    simp
  unfold bracketedHost?
  dsimp only
  rw [hlast, if_pos (by simp [hhead])]
  rw [List.append_cons, List.length_append, Nat.add_sub_cancel, List.take_left]

theorem withoutPort_of_not_mem {text : List Char} (hbracket : '[' ∉ text) :
    withoutPort text = text.takeWhile (· != ':') := by
  have hhead : (text.head? == some '[') = false := by
    rw [beq_eq_false_iff_ne]
    exact fun hhead => hbracket (List.mem_of_head? hhead)
  simp [withoutPort, bracketedHost?, hhead]

/-- The port of a host in brackets is what stands after the last of them. -/
theorem withoutPort_of_append {s after : List Char} (hhead : (s ++ ']' :: after).head? = some '[')
    (hafter : ']' ∉ after) : withoutPort (s ++ ']' :: after) = s ++ [']'] := by
  rw [withoutPort, bracketedHost?_of_append hhead hafter]
  rfl

theorem withoutPort_ne_nil {text : List Char} (hhead : text.head? = some '[') : withoutPort text ≠ [] := by
  by_cases hclosed : ']' ∈ text
  · obtain ⟨before, after, rfl, hafter⟩ := Text.exists_last_of_mem hclosed
    rw [withoutPort_of_append hhead hafter]
    simp
  · rcases text with _ | ⟨first, rest⟩
    · cases hhead
    · obtain rfl : first = '[' := Option.some.inj hhead
      simp [withoutPort, bracketedHost?, hclosed]

/-! ## Trusted hosts -/

theorem isWithin_iff {trusted : List String} {host : String} :
    isWithin trusted host = true ↔
      ∃ known ∈ trusted, host = known ∨ ∃ s, host.toList = s ++ '.' :: known.toList := by
  have hsuffix : ∀ known : String, endsWith host ("." ++ known) = true ↔ ∃ s, host.toList = s ++ '.' :: known.toList := by
    intro known
    rw [endsWith, List.isSuffixOf_iff_suffix, String.toList_append]
    exact ⟨fun ⟨s, hs⟩ => ⟨s, hs.symm⟩, fun ⟨s, hs⟩ => ⟨s, hs.symm⟩⟩
  simp [isWithin, List.any_eq_true, hsuffix]

/-- What is known of an address that is trusted. -/
theorem isTrusted_cases {trusted : List String} {url : String} (h : isTrusted trusted url = true) :
    let parts := splitScheme (url.toList.filter fun c => !isBreak c)
    isSound (authorityOf parts.2) = true ∧ parts.1 ≠ [] ∧ hostOf (authorityOf parts.2) ≠ [] ∧
      isWithin trusted (String.ofList (Text.lower (hostOf (authorityOf parts.2)))) = true := by
  intro parts
  obtain ⟨host, hhost, hwithin⟩ := (Option.any_eq_true _ _).mp h
  unfold webHost? at hhost
  change (if isSound (authorityOf parts.2) && (parts.1 == "http".toList || parts.1 == "https".toList) &&
    !(hostOf (authorityOf parts.2)).isEmpty then _ else none) = some host at hhost
  split at hhost
  · rename_i hweb
    obtain rfl := Option.some.inj hhost
    simp only [Bool.and_eq_true, Bool.or_eq_true, beq_iff_eq, Bool.not_eq_true', List.isEmpty_eq_false_iff] at hweb
    refine ⟨hweb.1.1, ?_, hweb.2, hwithin⟩
    intro hnone
    rcases hweb.1.2 with hscheme | hscheme
    · rw [hnone] at hscheme
      exact absurd hscheme (by decide)
    · rw [hnone] at hscheme
      exact absurd hscheme (by decide)
  · cases hhost

/-- A host that ends with a bracket is none of the trusted ones. -/
theorem not_isWithin_of_bracket {trusted : List String} {host : String} (hlast : host.toList.getLast? = some ']')
    (hnone : ∀ known ∈ trusted, ']' ∉ known.toList) : isWithin trusted host = false := by
  apply Bool.eq_false_iff.mpr
  intro hwithin
  obtain ⟨known, hknown, rfl | ⟨s, hs⟩⟩ := isWithin_iff.mp hwithin
  · exact hnone host hknown (List.mem_of_getLast? hlast)
  · rw [hs, List.getLast?_append_of_ne_nil _ (by simp)] at hlast
    rcases List.mem_cons.mp (List.mem_of_getLast? hlast) with hdot | hin
    · cases hdot
    · exact hnone known hknown hin

/-! ## The reading that trust goes by -/

/-- Without brackets the host is the one that is written. -/
theorem hostOf_of_not_mem {authority : List Char} (hbracket : '[' ∉ Text.afterLast '@' authority) :
    hostOf authority = withoutPort (Text.afterLast '@' authority) := by
  unfold hostOf
  dsimp only
  rw [Text.cutAtFirst_of_not_mem hbracket, withoutPort_of_not_mem hbracket]
  exact Text.cutAtFirst_fst ':' _

/-- With brackets the host reaches from the first of them to the one that closes it, or to the end. -/
theorem hostOf_of_mem {authority : List Char} (hsound : isSound authority = true)
    (hbracket : '[' ∈ Text.afterLast '@' authority) :
    ∃ rest, Text.afterLast '@' authority = '[' :: (hostOf authority ++ rest) ∧ ']' ∉ hostOf authority ∧
      (rest = [] ∨ ∃ after, rest = ']' :: after) := by
  obtain ⟨before, bracketed, -, hsplit, hcut⟩ := Text.cutAtFirst_of_mem hbracket
  have hempty : before = [] := by
    have hcontains : authority.contains '[' = true := List.contains_iff_mem.mpr (Text.mem_of_mem_afterLast hbracket)
    simp only [isSound, hcontains, Bool.true_or, if_true, Bool.true_and, Bool.and_eq_true, hasBracketedHost, hcut,
      List.isEmpty_iff] at hsound
    exact hsound.1.2.1.1
  subst hempty
  have hhost : hostOf authority = (Text.cutAtFirst ']' bracketed).1 := by simp only [hostOf, hcut]
  rw [hsplit, hhost, List.nil_append]
  by_cases hclosed : ']' ∈ bracketed
  · obtain ⟨inner, after, hinner, rfl, hcut'⟩ := Text.cutAtFirst_of_mem hclosed
    rw [hcut']
    exact ⟨']' :: after, rfl, hinner, .inr ⟨after, rfl⟩⟩
  · rw [Text.cutAtFirst_of_not_mem hclosed]
    exact ⟨[], by rw [List.append_nil], hclosed, .inl rfl⟩

/-! ## The reading that requests go by -/

/-- The scheme and what follows it are the same in both readings. -/
theorem cutScheme_of_splitScheme {text : List Char} (hscheme : (splitScheme text).1 ≠ []) :
    Text.lower (cutScheme text).1 = (splitScheme text).1 ∧ (cutScheme text).2 = (splitScheme text).2 := by
  unfold splitScheme at hscheme ⊢
  unfold cutScheme
  rcases hcut : Text.cutAtFirst ':' text with ⟨scheme, _ | rest⟩
  · rw [hcut] at hscheme
    exact absurd rfl hscheme
  · rw [hcut] at hscheme
    dsimp only at hscheme ⊢
    by_cases hwritten : (scheme.head?.any Text.isLetter && scheme.all isSchemeChar) = true
    · rw [if_pos hwritten, if_pos (by rw [hwritten, Bool.or_true])]
      exact ⟨rfl, rfl⟩
    · rw [if_neg hwritten] at hscheme
      exact absurd rfl hscheme

/-- Without two slashes there is no authority. -/
theorem authorityOf_eq_nil {after : List Char} (hnone : ∀ rest, after ≠ '/' :: '/' :: rest) : authorityOf after = [] := by
  unfold authorityOf
  split
  · rename_i rest
    exact absurd rfl (hnone rest)
  · rfl

theorem writtenParts_authority (text : List Char) :
    (writtenParts text).scheme = (cutScheme text).1 ∧ (writtenParts text).authority = authorityOf (cutScheme text).2 := by
  unfold writtenParts
  rcases cutScheme text with ⟨scheme, after⟩
  refine ⟨rfl, ?_⟩
  by_cases hslashes : ∃ rest, after = '/' :: '/' :: rest
  · obtain ⟨rest, rfl⟩ := hslashes
    rfl
  · rw [authorityOf_eq_nil fun rest hrest => hslashes ⟨rest, hrest⟩]
    dsimp only
    split
    · rename_i rest
      exact absurd ⟨rest, rfl⟩ hslashes
    · rfl

theorem ofParts_ok {parts : WrittenParts} {address : Address} (h : ofParts parts = .ok address) :
    ∃ normal, normalHost (writtenAuthority parts.authority).host = .ok normal ∧ address.host = String.ofList normal ∧
      address.scheme = String.ofList (Text.lower parts.scheme) := by
  simp only [ofParts, bind, Except.bind, pure, Except.pure] at h
  rcases hnormal : normalHost (writtenAuthority parts.authority).host with failure | normal
  · rw [hnormal] at h
    cases h
  rw [hnormal] at h
  dsimp only at h
  split at h
  · cases h
  split at h
  · cases h
  split at h
  · cases h
  split at h
  · cases h
  cases h
  exact ⟨normal, rfl, rfl, rfl⟩

/-- Tabs and line breaks are refused like every control character. -/
theorem ofWritten_ok {text : List Char} {address : Address} (h : ofWritten text = .ok address) :
    (text.filter fun c => !isBreak c) = text ∧ ofParts (writtenParts text) = .ok address := by
  unfold ofWritten at h
  split at h
  · cases h
  split at h
  · cases h
  rename_i hnone
  refine ⟨?_, h⟩
  rw [List.filter_eq_self]
  intro c hc
  have hcontrol := List.findIdx?_eq_none_iff.mp hnone c hc
  rw [Bool.not_eq_true']
  apply Bool.eq_false_iff.mpr
  intro hbreak
  simp only [isBreak, Bool.or_eq_true, beq_iff_eq] at hbreak
  rcases hbreak with (rfl | rfl) | rfl
  · cases hcontrol
  · cases hcontrol
  · cases hcontrol

/-- A request goes to the normal form of the host that is written. -/
theorem ofText_ok {url : String} {address : Address} (h : ofText url = .ok address)
    (hscheme : (splitScheme (url.toList.filter fun c => !isBreak c)).1 ≠ [])
    (hhost : withoutPort (hostAndPort url) ≠ []) :
    normalHost (withoutPort (hostAndPort url)) = .ok address.host.toList := by
  simp only [ofText, bind, Except.bind] at h
  rcases hwritten : ofWritten url.toList with failure | direct
  · rw [hwritten] at h
    cases h
  rw [hwritten] at h
  dsimp only at h
  obtain ⟨hkept, hparts⟩ := ofWritten_ok hwritten
  obtain ⟨normal, hnormal, hdirect, hlower⟩ := ofParts_ok hparts
  obtain ⟨hsame, hauthority⟩ := writtenParts_authority url.toList
  rw [hkept] at hscheme
  obtain ⟨hcut, hafter⟩ := cutScheme_of_splitScheme hscheme
  rw [hauthority, hafter, writtenAuthority_host] at hnormal
  have hread : withoutPort (hostAndPort url) =
      withoutPort (Text.afterLast '@' (authorityOf (splitScheme url.toList).2)) := by rw [hostAndPort, hkept]
  rw [hread] at hhost ⊢
  -- an address with a scheme and a host is no path
  have habsolute : direct.isAbsolute = true := by
    have hfilled := (normalHost_form hnormal).ne_nil hhost
    rw [hsame, hcut] at hlower
    simp [isAbsolute, hlower, hdirect, hscheme, hfilled]
  rw [fromRoot, if_pos habsolute] at h
  cases h
  rw [hnormal, hdirect, String.toList_ofList]

/-! ## Both readings -/

/-- Without brackets a trusted address is written with a trusted host. -/
theorem isWithin_writtenHost {trusted : List String} {url : String} (h : isTrusted trusted url = true)
    (hbracket : '[' ∉ hostAndPort url) : isWithin trusted (writtenHost url) = true := by
  obtain ⟨-, -, -, hwithin⟩ := isTrusted_cases h
  rwa [hostOf_of_not_mem hbracket] at hwithin

/-- A request for a trusted address goes to the normal form of the host that is written. -/
theorem normalHost_of_trusted {trusted : List String} {url : String} {address : Address}
    (h : isTrusted trusted url = true) (haddress : ofText url = .ok address) :
    normalHost (withoutPort (hostAndPort url)) = .ok address.host.toList := by
  obtain ⟨hsound, hscheme, hhost, -⟩ := isTrusted_cases h
  refine ofText_ok haddress hscheme ?_
  by_cases hbracket : '[' ∈ hostAndPort url
  · obtain ⟨rest, hwritten, -, -⟩ := hostOf_of_mem hsound hbracket
    exact withoutPort_ne_nil (by rw [hostAndPort, hwritten]; rfl)
  · rwa [hostOf_of_not_mem hbracket] at hhost

/-- Plain trusted hosts are also the hosts that the request goes to. -/
theorem isWithin_of_written {trusted : List String} (hplain : ∀ known ∈ trusted, IsPlain known.toList)
    {host normal : List Char} (hbracket : host.head? ≠ some '[') (hnormal : normalHost host = .ok normal)
    (hwithin : isWithin trusted (String.ofList (Text.lower host)) = true) :
    isWithin trusted (String.ofList normal) = true := by
  have hform := normalHost_form hnormal
  obtain ⟨known, hknown, hsame | ⟨s, hs⟩⟩ := isWithin_iff.mp hwithin
  · have hlower : Text.lower host = known.toList := by rw [← hsame, String.toList_ofList]
    have hplainForm := hform.plain hbracket (hplain known hknown) hlower
    exact isWithin_iff.mpr ⟨known, hknown, .inl (by rw [hplainForm, String.ofList_toList])⟩
  · rw [String.toList_ofList] at hs
    obtain ⟨t, ht⟩ := hform.under hbracket (hplain known hknown) hs
    exact isWithin_iff.mpr ⟨known, hknown, .inr ⟨t, by rw [ht, String.toList_ofList]⟩⟩

/-- A host that is written in brackets ends with one, so it is none of the trusted ones. -/
theorem not_written_of_brackets {trusted : List String} {url : String} {rest : List Char}
    (hnone : ∀ known ∈ trusted, ']' ∉ known.toList) (hopen : hostAndPort url = '[' :: rest) (hclosed : ']' ∈ rest) :
    isWithin trusted (writtenHost url) = false := by
  obtain ⟨before, after, hsplit, hafter⟩ := Text.exists_last_of_mem (List.mem_cons_of_mem '[' hclosed)
  have hread : withoutPort (hostAndPort url) = before ++ [']'] := by
    rw [hopen, hsplit]
    exact withoutPort_of_append (by rw [← hsplit]; rfl) hafter
  obtain ⟨t, ht⟩ := Text.exists_lower_append (t := [']']) (Text.forall_mem_of_all (by decide)) before
  refine not_isWithin_of_bracket ?_ hnone
  rw [writtenHost, hread, ht, String.toList_ofList, List.getLast?_concat]

/-- A host in one pair of brackets loses them. -/
theorem host_of_brackets {inner after normal : List Char} (hafter : ']' ∉ after)
    (hnormal : normalHost (withoutPort ('[' :: (inner ++ ']' :: after))) = .ok normal) : normal = inner := by
  rw [← List.cons_append, withoutPort_of_append rfl hafter] at hnormal
  exact (normalHost_form hnormal).of_brackets

end Showcase.Address

namespace Showcase.Client

open Address Network

/-- What a direct client asks for is the address itself. -/
theorem address_of_fetch {client : Client} {token : Option String} {apiUrl : String}
    (hdirect : client.transport = .direct token apiUrl) {url : String} {request : Request}
    (hrequest : request ∈ Fetch.requests [client.fetch url]) : Address.ofText url = .ok request.address := by
  rcases haddress : Address.ofText url with failure | address
  · by_cases htrusted : isTrusted client.trustedHosts url = true
    · simp [fetch, hdirect, htrusted, contentRequest, haddress, asking, Fetch.requests, bind, Except.bind] at hrequest
    · simp [fetch, hdirect, htrusted, Fetch.requests] at hrequest
  · by_cases htrusted : isTrusted client.trustedHosts url = true
    · simp [fetch, hdirect, htrusted, contentRequest, haddress, asking, Fetch.requests, bind, Except.bind, pure,
        Except.pure] at hrequest
      rw [hrequest]
    · simp [fetch, hdirect, htrusted, Fetch.requests] at hrequest

/-- A direct client and the hosts that it trusts. It asks for nothing at an address that is not trusted, and fails.
Every request at a trusted address goes to the normal form of the host that is written. If the address has no brackets,
that host is trusted, and its normal form as well if the trusted hosts are plain. If it has brackets, only what stands
between the first of them and the one that closes it is trusted: then the host that is written is none of the trusted
ones, and if there is one pair of brackets, requests go to what stands between them. -/
theorem fetch_goes_to_trusted {client : Client} {token : Option String} {apiUrl : String}
    (hdirect : client.transport = .direct token apiUrl) (url : String) :
    (isTrusted client.trustedHosts url = false →
      Fetch.requests [client.fetch url] = [] ∧
        ∀ {σ : Type} (answer : σ → Request → Reply × σ) (state : σ),
          (client.fetch url).toRemote.run answer state =
            (fail .untrusted ("Refusing to fetch content from untrusted URL: " ++ url), state)) ∧
    (isTrusted client.trustedHosts url = true →
      (∀ request ∈ Fetch.requests [client.fetch url],
        normalHost (withoutPort (hostAndPort url)) = .ok request.address.host.toList) ∧
      ('[' ∉ hostAndPort url →
        isWithin client.trustedHosts (writtenHost url) = true ∧
          ((∀ known ∈ client.trustedHosts, IsPlain known.toList) →
            ∀ request ∈ Fetch.requests [client.fetch url],
              isWithin client.trustedHosts request.address.host = true)) ∧
      ('[' ∈ hostAndPort url →
        ∃ inner rest, hostAndPort url = '[' :: (inner ++ rest) ∧ ']' ∉ inner ∧
          (rest = [] ∨ ∃ after, rest = ']' :: after) ∧
          isWithin client.trustedHosts (String.ofList (Text.lower inner)) = true ∧
          ∀ after, rest = ']' :: after →
            ((∀ known ∈ client.trustedHosts, ']' ∉ known.toList) →
              isWithin client.trustedHosts (writtenHost url) = false) ∧
            (']' ∉ after → ∀ request ∈ Fetch.requests [client.fetch url], request.address.host.toList = inner))) := by
  constructor
  · intro hrefused
    have hfetch : client.fetch url =
        .ready (fail .untrusted ("Refusing to fetch content from untrusted URL: " ++ url)) := by
      simp [fetch, hdirect, hrefused]
    rw [hfetch]
    exact ⟨rfl, fun answer state => rfl⟩
  · intro htrusted
    have hsent : ∀ request ∈ Fetch.requests [client.fetch url],
        normalHost (withoutPort (hostAndPort url)) = .ok request.address.host.toList :=
      fun request hrequest => normalHost_of_trusted htrusted (address_of_fetch hdirect hrequest)
    refine ⟨hsent, ?_, ?_⟩
    · -- without brackets the host that is written is the one that was looked at
      intro hbracket
      have hwithin := isWithin_writtenHost htrusted hbracket
      refine ⟨hwithin, fun hplain request hrequest => ?_⟩
      have hhead : (withoutPort (hostAndPort url)).head? ≠ some '[' := by
        intro hhead
        rw [withoutPort_of_not_mem hbracket] at hhead
        exact hbracket ((List.takeWhile_sublist _).subset (List.mem_of_head? hhead))
      have hrequested := isWithin_of_written hplain hhead (hsent request hrequest) hwithin
      rwa [String.ofList_toList] at hrequested
    · -- with brackets only what stands behind the first of them was looked at
      intro hbracket
      obtain ⟨hsound, -, -, hwithin⟩ := isTrusted_cases htrusted
      obtain ⟨rest, hwritten, hinner, hrest⟩ := hostOf_of_mem hsound hbracket
      have hopen : hostAndPort url = _ := hwritten
      refine ⟨_, rest, hopen, hinner, hrest, hwithin, ?_⟩
      rintro after rfl
      refine ⟨fun hnone => not_written_of_brackets hnone hopen (by simp), fun hafter request hrequest => ?_⟩
      have hnormal := hsent request hrequest
      rw [hopen] at hnormal
      exact host_of_brackets hafter hnormal

/-- A client that trusts two hosts. -/
def trusting : Client := ⟨.direct none "https://api.github.com", ["githubusercontent.com", "github.com"], "main"⟩

/-- The address of a content of a repository is asked for at its own host. -/
theorem fetch_goes_to_raw_content :
    let url := "https://raw.githubusercontent.com/acme/widgets/main/index.html"
    isWithin trusting.trustedHosts (writtenHost url) = true ∧
      ∀ request ∈ Fetch.requests [trusting.fetch url], isWithin trusting.trustedHosts request.address.host = true := by
  intro url
  obtain ⟨hwithin, hsent⟩ := ((fetch_goes_to_trusted (show trusting.transport = .direct none _ from rfl) url).2
    (by decide)).2.1 (by decide)
  have hplain : ∀ known ∈ trusting.trustedHosts, known.toList.all mayStandInHost = true := by decide
  exact ⟨hwithin, hsent fun known hknown => List.all_eq_true.mp (hplain known hknown)⟩

/-- A numeric host whose zone ends like a trusted host is trusted, but it is none that is written, and a request may go
to it. -/
theorem not_fetch_goes_to_trusted :
    (¬∀ (trusted : List String) (url : String), isTrusted trusted url = true →
      isWithin trusted (writtenHost url) = true) ∧
    ¬∀ (client : Client) (token : Option String) (apiUrl url : String), client.transport = .direct token apiUrl →
      ∀ request ∈ Fetch.requests [client.fetch url], isWithin client.trustedHosts request.address.host = true := by
  constructor
  · intro h
    have hwithin := h trusting.trustedHosts "https://[::1%a.raw.githubusercontent.com]/x" (by decide)
    exact absurd hwithin (by decide)
  · intro h
    have hsent := h trusting none "https://api.github.com" "https://[::1%a.raw.githubusercontent.com]:]/x" rfl
    have hhosts : (Fetch.requests [trusting.fetch "https://[::1%a.raw.githubusercontent.com]:]/x"]).map
        (fun request => request.address.host) = ["::1%a.raw.githubusercontent.com]:"] := rfl
    have hwithin : ∀ host ∈ ["::1%a.raw.githubusercontent.com]:"], isWithin trusting.trustedHosts host = true := by
      rw [← hhosts]
      intro host hhost
      obtain ⟨request, hrequest, rfl⟩ := List.mem_map.mp hhost
      exact hsent request hrequest
    exact absurd (hwithin _ (List.mem_singleton.mpr rfl)) (by decide)

end Showcase.Client
