import Mathlib.Data.List.TakeWhile
import Mathlib.Tactic.Tauto
import SubmissionGate.Proofs.Gate.Checks
import SubmissionGate.Proofs.Text.LetterCase
import SubmissionGate.Proofs.Text.Spans

/-!
# The host that a browser contacts

A browser takes a backslash in an address for a slash, so it ends the authority there. The host of
a script address is the one that a browser contacts exactly if what stands in front of the backslash
has that host; elsewhere a script that seems to come from an allowed host may come from any other
one.
-/

namespace SubmissionGate.Url

open SubmissionGate.Text

/-! ## Authorities -/

/-- An authority in its parts. The user information ends with its last at sign, the port starts with
a colon, and both may be missing. -/
structure Authority where
  user : List Char
  host : List Char
  port : List Char
  bracketed : Bool

namespace Authority

def tail (parts : Authority) : List Char :=
  (if parts.bracketed then '[' :: parts.host ++ [']'] else parts.host) ++ parts.port

def text (parts : Authority) : List Char := parts.user ++ parts.tail

structure WellFormed (parts : Authority) : Prop where
  user : parts.user = [] ∨ ∃ name, parts.user = name ++ ['@']
  last : '@' ∉ parts.tail
  host : if parts.bracketed then ']' ∉ parts.host
    else ':' ∉ parts.host ∧ '[' ∉ parts.host ++ parts.port
  port : parts.port = [] ∨ ∃ digits, parts.port = ':' :: digits

end Authority

theorem takeWhile_ne_of_not_mem {c : Char} {text : List Char} (h : c ∉ text) :
    text.takeWhile (· != c) = text :=
  List.takeWhile_eq_self_iff.mpr fun x hx => by simpa using fun hSame : x = c => h (hSame ▸ hx)

theorem splitFirst_of_not_mem {c : Char} {text : List Char} (h : c ∉ text) :
    splitFirst c text = (text, none) := by
  simp [splitFirst, takeWhile_ne_of_not_mem h]

theorem splitFirst_append {c : Char} {before behind : List Char} (h : c ∉ before) :
    splitFirst c (before ++ c :: behind) = (before, some behind) := by
  simp [splitFirst, takeWhile_until h]

theorem splitFirst_cases (c : Char) (text : List Char) :
    (c ∉ text ∧ splitFirst c text = (text, none)) ∨
      ∃ before behind, c ∉ before ∧ text = before ++ c :: behind ∧
        splitFirst c text = (before, some behind) := by
  by_cases hMem : c ∈ text
  · obtain ⟨before, behind, rfl, hFirst⟩ := List.eq_append_cons_of_mem hMem
    exact .inr ⟨before, behind, hFirst, rfl, splitFirst_append hFirst⟩
  · exact .inl ⟨hMem, splitFirst_of_not_mem hMem⟩

theorem behindLast_append {c : Char} {user tail : List Char}
    (hUser : user = [] ∨ ∃ name, user = name ++ [c]) (hTail : c ∉ tail) :
    behindLast c (user ++ tail) = tail := by
  have hTail : c ∉ tail.reverse := by simpa using hTail
  rcases hUser with rfl | ⟨name, rfl⟩
  · rw [List.nil_append, behindLast, takeWhile_ne_of_not_mem hTail, List.reverse_reverse]
  · have hReverse : (name ++ [c] ++ tail).reverse = tail.reverse ++ c :: name.reverse := by simp
    rw [behindLast, hReverse, takeWhile_until hTail, List.reverse_reverse]

theorem behindLast_split (c : Char) (text : List Char) :
    c ∉ behindLast c text ∧ ∃ user, text = user ++ behindLast c text ∧
      (user = [] ∨ ∃ name, user = name ++ [c]) := by
  by_cases hMem : c ∈ text.reverse
  · obtain ⟨before, behind, hText, hFirst⟩ := List.eq_append_cons_of_mem hMem
    have hText : text = behind.reverse ++ [c] ++ before.reverse := by
      rw [← List.reverse_reverse text, hText]
      simp
    have hLast : c ∉ before.reverse := by simpa using hFirst
    have hBehind : behindLast c text = before.reverse := by
      rw [hText]
      exact behindLast_append (.inr ⟨_, rfl⟩) hLast
    rw [hBehind]
    exact ⟨hLast, _, hText, .inr ⟨_, rfl⟩⟩
  · have hMem : c ∉ text := by simpa using hMem
    have hBehind : behindLast c text = text := behindLast_append (.inl rfl) hMem
    rw [hBehind]
    exact ⟨hMem, [], rfl, .inl rfl⟩

/-- The host of a well-formed authority is the one that is taken from its text. -/
theorem Authority.WellFormed.hostOf_text {parts : Authority} (h : parts.WellFormed) :
    hostOf parts.text = parts.host := by
  obtain ⟨user, host, port, bracketed⟩ := parts
  have hBehind : behindLast '@' (Authority.text ⟨user, host, port, bracketed⟩) =
      Authority.tail ⟨user, host, port, bracketed⟩ := behindLast_append h.user h.last
  have hHost := h.host
  cases bracketed with
  | true =>
    have hTail : Authority.tail ⟨user, host, port, true⟩ = [] ++ '[' :: (host ++ ']' :: port) := by
      simp [Authority.tail]
    rw [hostOf, hBehind, hTail, splitFirst_append (by simp)]
    simp only [if_true] at hHost
    simp only [splitFirst_append hHost]
  | false =>
    simp only [Bool.false_eq_true, if_false] at hHost
    have hTail : Authority.tail ⟨user, host, port, false⟩ = host ++ port := rfl
    rw [hostOf, hBehind, hTail, splitFirst_of_not_mem hHost.2]
    rcases h.port with hNone | ⟨digits, hDigits⟩
    · simp only at hNone
      rw [hNone, List.append_nil, splitFirst_of_not_mem hHost.1]
    · simp only at hDigits
      rw [hDigits, splitFirst_append hHost.1]

def LeavesBracketOpen (authority : List Char) : Prop :=
  '[' ∈ behindLast '@' authority ∧ ']' ∉ behindLast '@' authority

instance (authority : List Char) : Decidable (LeavesBracketOpen authority) :=
  inferInstanceAs (Decidable (_ ∧ _))

theorem Authority.WellFormed.closesBracket {parts : Authority} (h : parts.WellFormed) :
    ¬ LeavesBracketOpen parts.text := by
  obtain ⟨user, host, port, bracketed⟩ := parts
  have hBehind : behindLast '@' (Authority.text ⟨user, host, port, bracketed⟩) =
      Authority.tail ⟨user, host, port, bracketed⟩ := behindLast_append h.user h.last
  rw [LeavesBracketOpen, hBehind]
  rintro ⟨hOpen, hNoClose⟩
  cases bracketed with
  | true => simp [Authority.tail] at hNoClose
  | false => exact h.host.2 hOpen

theorem exists_parts {authority : List Char} (hFormed : isWellFormed authority = true)
    (hClosed : ¬ LeavesBracketOpen authority) :
    ∃ parts : Authority, parts.WellFormed ∧ parts.text = authority := by
  obtain ⟨hLast, user, hText, hUser⟩ := behindLast_split '@' authority
  generalize hTail : behindLast '@' authority = tail at hLast hText
  rcases splitFirst_cases '[' tail with ⟨hPlain, -⟩ | ⟨before, bracketed, hBefore, rfl, hSplit⟩
  · rcases splitFirst_cases ':' tail with ⟨hNoPort, -⟩ | ⟨host, digits, hHost, rfl, -⟩
    · refine ⟨⟨user, tail, [], false⟩, ⟨hUser, ?_, ?_, .inl rfl⟩, ?_⟩
      · simpa [Authority.tail] using hLast
      · simpa using ⟨hNoPort, hPlain⟩
      · simp [Authority.text, Authority.tail, hText]
    · refine ⟨⟨user, host, ':' :: digits, false⟩, ⟨hUser, ?_, ?_, .inr ⟨digits, rfl⟩⟩, ?_⟩
      · simpa [Authority.tail] using hLast
      · exact ⟨hHost, hPlain⟩
      · simp [Authority.text, Authority.tail, hText]
  · have hOpen : '[' ∈ behindLast '@' authority := by simp [hTail]
    have hClose : ']' ∈ before ++ '[' :: bracketed := by
      by_contra hNone
      exact hClosed ⟨hOpen, hTail ▸ hNone⟩
    have hChecked : hasBracketedHost authority = true := by
      have hOpens : authority.contains '[' = true := by simp [hText]
      have hCloses : authority.contains ']' = true := by
        rw [hText, List.contains_iff_mem]
        exact List.mem_append_right _ hClose
      simp only [isWellFormed, hOpens, hCloses, Bool.and_self, if_true, Bool.and_eq_true]
        at hFormed
      exact hFormed.1
    simp only [hasBracketedHost, hTail, hSplit, Bool.and_eq_true, List.isEmpty_iff] at hChecked
    obtain ⟨⟨rfl, hPort⟩, -⟩ := hChecked
    have hClose : ']' ∈ bracketed := by simpa using hClose
    rcases splitFirst_cases ']' bracketed with ⟨hNone, -⟩ | ⟨host, port, hHost, rfl, hSplit⟩
    · exact absurd hClose hNone
    · refine ⟨⟨user, host, port, true⟩, ⟨hUser, ?_, ?_, ?_⟩, ?_⟩
      · simpa [Authority.tail] using hLast
      · simpa using hHost
      · simp only [hSplit, Option.getD_some, Bool.or_eq_true, List.isEmpty_iff] at hPort
        rcases hPort with rfl | hColon
        · exact .inl rfl
        · cases port with
          | nil => exact .inl rfl
          | cons c digits =>
            obtain rfl : c = ':' := by simpa using hColon
            exact .inr ⟨digits, rfl⟩
      · simp [Authority.text, Authority.tail, hText]

/-! ## Addresses -/

def endsAuthority (c : Char) : Bool := c == '/' || c == '\\' || c == '?' || c == '#'

/-- The authority that a browser reads behind the two slashes of an address. -/
def browserAuthority (rest : List Char) : List Char := rest.takeWhile fun c => !endsAuthority c

/-- The scheme of a script address with its colon: `http` or `https` in any case, or none. -/
def WebScheme (scheme : List Char) : Prop :=
  scheme = [] ∨ ∃ name, scheme = name ++ [':'] ∧
    name.map Char.toLower ∈ ["http".toList, "https".toList]

/-- The host that a browser contacts for a script address, in lower case. -/
def Contacts (address host : List Char) : Prop :=
  ∃ scheme rest, ∃ parts : Authority, cleaned address = scheme ++ '/' :: '/' :: rest ∧
    WebScheme scheme ∧ parts.WellFormed ∧ parts.text = browserAuthority rest ∧
    lower parts.host = host

def authorityOf (address : List Char) : List Char := authority (splitScheme (cleaned address)).2

def inFront (authority : List Char) : List Char := authority.takeWhile (· != '\\')

/-- A browser reads an authority alike: what stands in front of its first backslash has parts, and
the same host. -/
def ReadAlike (authority : List Char) : Prop :=
  ∃ parts : Authority, parts.WellFormed ∧ parts.text = inFront authority ∧
    lower parts.host = lower (hostOf authority)

/-- The authorities that a browser may read otherwise: they hold a backslash or leave a bracket
open. -/
def Doubtful (authority : List Char) : Prop := '\\' ∈ authority ∨ LeavesBracketOpen authority

instance (authority : List Char) : Decidable (Doubtful authority) :=
  inferInstanceAs (Decidable (_ ∨ _))

theorem browserAuthority_eq (rest : List Char) :
    browserAuthority rest =
      inFront (rest.takeWhile fun c => !(c == '/' || c == '?' || c == '#')) := by
  rw [inFront, List.takeWhile_takeWhile, browserAuthority]
  congr 1
  funext c
  rw [Bool.eq_iff_iff]
  simp only [endsAuthority, Bool.not_eq_true', Bool.or_eq_false_iff, beq_eq_false_iff_ne,
    bne_iff_ne, decide_eq_true_eq]
  tauto

theorem isSchemeChar_ascii {c : Char} (h : isSchemeChar c = true) : c.toNat < 128 := by
  have hBelow : ∀ top : Char, c.val ≤ top.val → top.toNat < 128 → c.toNat < 128 :=
    fun top hLe hTop => Nat.lt_of_le_of_lt (UInt32.le_iff_toNat_le.mp hLe) hTop
  change (c.isUpper || c.isLower || c.isDigit || c == '+' || c == '-' || c == '.') = true at h
  simp only [Bool.or_eq_true, beq_iff_eq] at h
  rcases h with (((((hUpper | hLower) | hDigit) | rfl) | rfl) | rfl)
  · exact hBelow 'Z' (of_decide_eq_true hUpper).2 (by decide)
  · exact hBelow 'z' (of_decide_eq_true ((Bool.and_eq_true _ _).mp hLower).2) (by decide)
  · exact hBelow '9' (of_decide_eq_true ((Bool.and_eq_true _ _).mp hDigit).2) (by decide)
  · decide
  · decide
  · decide

theorem splitScheme_cases (address : List Char) :
    splitScheme address = ([], address) ∨ ∃ name rest, address = name ++ ':' :: rest ∧
      name ≠ [] ∧ splitScheme address = (name.map Char.toLower, rest) := by
  rcases splitFirst_cases ':' address with ⟨-, hSplit⟩ | ⟨name, rest, -, hText, hSplit⟩
  · exact .inl (by simp [splitScheme, hSplit])
  · by_cases hScheme : (name.head?.any Char.isAlpha && name.all isSchemeChar) = true
    · refine .inr ⟨name, rest, hText, ?_, ?_⟩
      · rintro rfl
        simp at hScheme
      · have hAscii : ∀ c ∈ name, c.toNat < 128 := fun c hMem =>
          isSchemeChar_ascii (List.all_eq_true.mp (Bool.and_eq_true .. ▸ hScheme).2 c hMem)
        simp only [splitScheme, hSplit, hScheme, if_true, lower_ascii hAscii]
    · exact .inl (by simp [splitScheme, hSplit, hScheme])

theorem lower_zone (name zone : List Char) :
    lower (name ++ '%' :: zone) = lower name ++ '%' :: lower zone :=
  lower_append_mark (by decide +kernel) (by decide +kernel) (isLower_of_fixed (by decide +kernel))

theorem hostOfScript_eq {address : List Char} (h : hostOfScript address ≠ []) :
    isWellFormed (authorityOf address) = true ∧
      hostOfScript address = lower (hostOf (authorityOf address)) ∧
      ((splitScheme (cleaned address)).1 = [] ∨
        (splitScheme (cleaned address)).1 ∈ ["http".toList, "https".toList]) := by
  unfold hostOfScript at h ⊢
  unfold authorityOf
  simp only at h ⊢
  cases hFormed : isWellFormed (authority (splitScheme (cleaned address)).2) with
  | false => simp [hFormed] at h
  | true =>
    simp only [hFormed, Bool.not_true, Bool.false_eq_true, if_false] at h ⊢
    split at h
    · exact absurd rfl h
    · next hScheme =>
      rw [if_neg hScheme]
      refine ⟨trivial, ?_, ?_⟩
      · generalize hostOf (authority (splitScheme (cleaned address)).2) = host
        rcases splitFirst_cases '%' host with ⟨-, hSplit⟩ | ⟨name, zone, -, rfl, hSplit⟩
        · simp only [hSplit, List.append_nil, lower_lower]
        · simp only [hSplit, lower_zone, lower_lower]
      · by_contra hOther
        simp only [List.mem_cons, List.not_mem_nil, or_false, not_or] at hOther
        exact hScheme (by simpa [List.isEmpty_iff, and_assoc] using hOther)

theorem authority_ne_nil {rest : List Char} (h : authority rest ≠ []) :
    ∃ behind, rest = '/' :: '/' :: behind ∧
      authority rest = behind.takeWhile fun c => !(c == '/' || c == '?' || c == '#') := by
  unfold authority at h ⊢
  split at h
  · exact ⟨_, rfl, rfl⟩
  · exact absurd rfl h

theorem readAlike_of_plain {authority : List Char} (hFormed : isWellFormed authority = true)
    (hPlain : ¬ Doubtful authority) : ReadAlike authority := by
  rw [Doubtful, not_or] at hPlain
  obtain ⟨parts, hParts, hText⟩ := exists_parts hFormed hPlain.2
  refine ⟨parts, hParts, ?_, ?_⟩
  · rw [hText, inFront, takeWhile_ne_of_not_mem hPlain.1]
  · rw [← hText, hParts.hostOf_text]

/-! ## The host that is contacted -/

theorem isAlpha_of_webScheme {name : List Char}
    (hName : name.map Char.toLower ∈ ["http".toList, "https".toList]) {c : Char} (hMem : c ∈ name) :
    c.isAlpha = true := by
  have hLetters : (["http".toList, "https".toList].all fun scheme => scheme.all Char.isAlpha) =
      true := by decide
  have hAll := List.all_eq_true.mp (List.all_eq_true.mp hLetters _ hName)
  have hLower := hAll _ (List.mem_map_of_mem hMem)
  unfold Char.toLower at hLower
  split at hLower
  · next hUpper =>
    have hIs : c.isUpper = true := decide_eq_true hUpper
    exact (Bool.or_eq_true _ _).mpr (.inl hIs)
  · exact hLower

theorem WebScheme.splitScheme {scheme : List Char} (hScheme : WebScheme scheme)
    (rest : List Char) :
    (splitScheme (scheme ++ '/' :: '/' :: rest)).2 = '/' :: '/' :: rest := by
  rcases hScheme with rfl | ⟨name, rfl, hName⟩
  · rcases splitFirst_cases ':' ('/' :: '/' :: rest) with
      ⟨-, hSplit⟩ | ⟨before, behind, -, hText, hSplit⟩
    · simp [Url.splitScheme, hSplit]
    · have hSlash : before.head?.any Char.isAlpha = false := by
        cases before with
        | nil => rfl
        | cons c more =>
          obtain ⟨rfl, -⟩ := List.cons.inj hText
          rfl
      simp [Url.splitScheme, hSplit, hSlash]
  · have hAlpha := fun c (hMem : c ∈ name) => isAlpha_of_webScheme hName hMem
    have hColon : ':' ∉ name := fun hMem => absurd (hAlpha _ hMem) (by decide)
    have hSome : name ≠ [] := by
      rintro rfl
      revert hName
      decide
    have hHead : name.head?.any Char.isAlpha = true := by
      obtain ⟨c, more, rfl⟩ := List.exists_cons_of_ne_nil hSome
      exact hAlpha c List.mem_cons_self
    have hAll : name.all isSchemeChar = true := List.all_eq_true.mpr fun c hMem => by
      simp [isSchemeChar, Char.isAlphanum, hAlpha c hMem]
    rw [List.append_assoc, List.singleton_append]
    simp [Url.splitScheme, splitFirst_append hColon, hHead, hAll]

theorem contacts_iff {address : List Char} (hHost : hostOfScript address ≠ []) :
    Contacts address (hostOfScript address) ↔ ReadAlike (authorityOf address) := by
  obtain ⟨-, hLower, hScheme⟩ := hostOfScript_eq hHost
  constructor
  · rintro ⟨scheme, rest, parts, hText, hWeb, hFormed, hParts, hSame⟩
    refine ⟨parts, hFormed, ?_, hSame.trans hLower⟩
    rw [authorityOf, hText, hWeb.splitScheme rest, hParts, browserAuthority_eq]
    rfl
  · rintro ⟨parts, hFormed, hParts, hSame⟩
    rw [hLower, ← hSame]
    have hSome : authorityOf address ≠ [] := by
      intro hNone
      rw [hNone] at hLower
      exact hHost hLower
    obtain ⟨behind, hRest, hAuthority⟩ := authority_ne_nil hSome
    have hBrowser : parts.text = browserAuthority behind := by
      rw [hParts, browserAuthority_eq]
      exact congrArg inFront hAuthority
    rcases splitScheme_cases (cleaned address) with hSplit | ⟨name, rest, hText, hName, hSplit⟩
    · refine ⟨[], behind, parts, ?_, .inl rfl, hFormed, hBrowser, rfl⟩
      rw [← hRest, hSplit]
      rfl
    · rw [hSplit] at hRest hScheme
      have hRest : rest = '/' :: '/' :: behind := hRest
      refine ⟨name ++ [':'], behind, parts, ?_, .inr ⟨name, rfl, ?_⟩, hFormed, hBrowser, rfl⟩
      · rw [hText, hRest]
        simp
      · rcases hScheme with hNone | hWeb
        · exact absurd (List.map_eq_nil_iff.mp hNone) hName
        · exact hWeb

theorem Contacts.unique {address host other : List Char} (h : Contacts address host)
    (hOther : Contacts address other) : host = other := by
  obtain ⟨scheme, rest, parts, hText, hScheme, hFormed, hParts, rfl⟩ := h
  obtain ⟨scheme', rest', parts', hText', hScheme', hFormed', hParts', rfl⟩ := hOther
  have hRest : rest = rest' := by
    have hSame := hScheme.splitScheme rest
    rw [← hText, hText', hScheme'.splitScheme rest'] at hSame
    simpa using hSame.symm
  rw [← hFormed.hostOf_text, ← hFormed'.hostOf_text, hParts, hParts', hRest]

/-- The host of a script address is the one that a browser contacts exactly if the browser reads the
authority alike, as it does unless a backslash or an open bracket stands there. So a document whose
scripts nothing is reported about loads those from the one host that are read alike. -/
theorem script_hosts (address : List Char) :
    (hostOfScript address ≠ [] →
      (Contacts address (hostOfScript address) ↔ ReadAlike (authorityOf address)) ∧
      (¬ Doubtful (authorityOf address) → ReadAlike (authorityOf address))) ∧
    ∀ context document, context.document = some document → context.rules.cdnHost ≠ "" →
      Gate.externalScriptIssues context = [] → address ∈ document.scriptSources →
      (Contacts address context.rules.cdnHost.toList ↔ ReadAlike (authorityOf address)) := by
  refine ⟨fun hHost => ⟨contacts_iff hHost, readAlike_of_plain (hostOfScript_eq hHost).1⟩, ?_⟩
  intro context document hDocument hNamed hSilent hSource
  have hServed : hostOfScript address = context.rules.cdnHost.toList :=
    (Gate.externalScriptIssues_harmless_iff hDocument).mp (hSilent ▸ harmless_nil) address hSource
  rw [← hServed]
  refine contacts_iff fun hNone => hNamed ?_
  rw [hServed] at hNone
  exact String.toList_eq_nil_iff.mp hNone

def portedAddress : List Char := "https://user@CDN.jsdelivr.net:443/x.js".toList

def portedDocument : Markup.Document :=
  ⟨[⟨⟨"script", [("src", portedAddress)], false⟩, some []⟩]⟩

def portedContext : Context :=
  { Context.start .standard ⟨.empty, .default⟩ ⟨.html, "2d", 0, none, []⟩ with
    document := some portedDocument }

/-- With user information and a port the host is still the one that a browser contacts. -/
theorem script_hosts_ported :
    (hostOfScript portedAddress ≠ [] ∧ ¬ Doubtful (authorityOf portedAddress) ∧
      Contacts portedAddress (hostOfScript portedAddress)) ∧
    portedContext.document = some portedDocument ∧ portedContext.rules.cdnHost ≠ "" ∧
      Gate.externalScriptIssues portedContext = [] ∧
      portedAddress ∈ portedDocument.scriptSources ∧
      Contacts portedAddress "cdn.jsdelivr.net".toList := by
  have hSome : hostOfScript portedAddress ≠ [] := by decide +kernel
  have hPlain : ¬ Doubtful (authorityOf portedAddress) := by decide +kernel
  have hNamed : portedContext.rules.cdnHost ≠ "" := by decide +kernel
  have hSources : portedDocument.scriptSources = [portedAddress] := by decide +kernel
  have hSource : portedAddress ∈ portedDocument.scriptSources :=
    hSources ▸ List.mem_singleton_self _
  have hServed : hostOfScript portedAddress = portedContext.rules.cdnHost.toList := by
    decide +kernel
  have hSilent : Gate.externalScriptIssues portedContext = [] := by
    refine List.filterMap_eq_nil_iff.mpr fun source hMem => ?_
    have hMem : source ∈ portedDocument.scriptSources := hMem
    obtain rfl := List.mem_singleton.mp (hSources ▸ hMem)
    exact if_pos (beq_iff_eq.mpr hServed)
  obtain ⟨hAlone, hLoads⟩ := script_hosts portedAddress
  obtain ⟨hContacts, hAlike⟩ := hAlone hSome
  exact ⟨⟨hSome, hPlain, hContacts.mpr (hAlike hPlain)⟩, rfl, hNamed, hSilent, hSource,
    (hLoads portedContext portedDocument rfl hNamed hSilent hSource).mpr (hAlike hPlain)⟩

/-- An address that names another host in front of a backslash. -/
def disguisedAddress : List Char := "https://evil.example\\@cdn.jsdelivr.net/x.js".toList

/-- An address whose user information holds the bracket that its host leaves open. -/
def unclosedAddress : List Char := "//]@[::1/x.js".toList

theorem disguisedAddress_contacts : Contacts disguisedAddress "evil.example".toList := by
  refine ⟨"https:".toList, "evil.example\\@cdn.jsdelivr.net/x.js".toList,
    ⟨[], "evil.example".toList, [], false⟩, by decide +kernel, ?_, ?_, by decide +kernel,
    by decide +kernel⟩
  · exact .inr ⟨"https".toList, by decide +kernel, by decide +kernel⟩
  · exact ⟨.inl rfl, by decide +kernel, by decide +kernel, .inl rfl⟩

theorem unclosedAddress_contacts (host : List Char) : ¬ Contacts unclosedAddress host := by
  rintro ⟨scheme, rest, parts, hText, hScheme, hFormed, hParts, -⟩
  have hRest := hScheme.splitScheme rest
  rw [← hText, show (splitScheme (cleaned unclosedAddress)).2 = unclosedAddress from by
    decide +kernel] at hRest
  obtain rfl : unclosedAddress.drop 2 = rest := congrArg (List.drop 2) hRest
  have hClosed := hFormed.closesBracket
  rw [hParts] at hClosed
  exact hClosed (by decide +kernel)

/-- A browser contacts the host in front of the backslash, the gate sees the one behind it; and it
contacts none where a bracket is left open. -/
theorem script_hosts_misread :
    hostOfScript disguisedAddress = "cdn.jsdelivr.net".toList ∧
      Contacts disguisedAddress "evil.example".toList ∧
      ¬ Contacts disguisedAddress (hostOfScript disguisedAddress) ∧
      hostOfScript unclosedAddress = "::1".toList ∧
      ¬ Contacts unclosedAddress (hostOfScript unclosedAddress) := by
  have hHost : hostOfScript disguisedAddress = "cdn.jsdelivr.net".toList := by decide +kernel
  refine ⟨hHost, disguisedAddress_contacts, fun hContacts => ?_, by decide +kernel,
    unclosedAddress_contacts _⟩
  have hSame := hContacts.unique disguisedAddress_contacts
  rw [hHost] at hSame
  exact absurd hSame (by decide +kernel)

end SubmissionGate.Url
