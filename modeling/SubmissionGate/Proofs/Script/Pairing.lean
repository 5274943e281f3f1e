import Mathlib.Data.List.Nodup
import Mathlib.Data.List.Pairwise
import SubmissionGate.Proofs.Script.MemberGrammar

/-!
# Pairs of brackets

The pairs of brackets in tokens of any kind, nested or not. The brackets that are still open stand
one inside the other, and none of them stands inside a pair; so a pair that is closed goes around
the pairs behind its opener and stays clear of all the others. Where the brackets of some tokens
nest, each of them is paired with the partner that the nesting gives it, whatever stands around.
-/

namespace SubmissionGate.Script

def bracketTexts : List (String × String) := [("(", ")"), ("[", "]"), ("\x7b", "\x7d")]

def IsPair (tokens : List Token) (pair : Nat × Nat) : Prop :=
  pair.1 < pair.2 ∧ ∃ opener closer, tokens[pair.1]? = some opener ∧
    tokens[pair.2]? = some closer ∧ Partners opener closer

/-- Two spans of tokens, one in front of the other or one inside the other. -/
def Laminar (first second : Nat × Nat) : Prop :=
  first.2 < second.1 ∨ second.2 < first.1 ∨ (first.1 < second.1 ∧ second.2 < first.2) ∨
    (second.1 < first.1 ∧ first.2 < second.2)

theorem Laminar.symm {first second : Nat × Nat} (h : Laminar first second) :
    Laminar second first := by
  obtain hFront | hBehind | hInside | hAround := h
  · exact .inr (.inl hFront)
  · exact .inl hBehind
  · exact .inr (.inr (.inr hInside))
  · exact .inr (.inr (.inl hAround))

/-- The brackets at two indices nest: what stands between them is balanced. -/
def Encloses (tokens : List Token) (first last : Nat) : Prop :=
  ∃ before opener inner closer after, tokens = before ++ opener :: (inner ++ closer :: after) ∧
    first = before.length ∧ last = before.length + 1 + inner.length ∧ Partners opener closer ∧
    Balanced inner

theorem closes?_cases {token : Token} {kind : BracketKind} (h : token.closes? = some kind) :
    token.kind = .punctuation ∧ (kind = .round ∧ token.text = ")" ∨
      kind = .square ∧ token.text = "]" ∨ kind = .curly ∧ token.text = "\x7d") := by
  unfold Token.closes? at h
  split at h
  · cases h
  · next hKind =>
    refine ⟨by simpa using hKind, ?_⟩
    split at h
    · next hText =>
      cases h
      exact .inl ⟨rfl, by simpa using hText⟩
    · split at h
      · next hText =>
        cases h
        exact .inr (.inl ⟨rfl, by simpa using hText⟩)
      · split at h
        · next hText =>
          cases h
          exact .inr (.inr ⟨rfl, by simpa using hText⟩)
        · cases h

theorem partners_iff {opener closer : Token} :
    Partners opener closer ↔ opener.kind = .punctuation ∧ closer.kind = .punctuation ∧
      (opener.text, closer.text) ∈ bracketTexts := by
  constructor
  · rintro ⟨kind, hOpens, hCloses⟩
    obtain ⟨hOpener, hOpenerText⟩ := opens?_cases hOpens
    obtain ⟨hCloser, hCloserText⟩ := closes?_cases hCloses
    refine ⟨hOpener, hCloser, ?_⟩
    cases kind <;> simp_all [bracketTexts]
  · rintro ⟨hOpener, hCloser, hTexts⟩
    simp only [bracketTexts, List.mem_cons, Prod.mk.injEq, List.not_mem_nil, or_false] at hTexts
    obtain ⟨hFirst, hLast⟩ | ⟨hFirst, hLast⟩ | ⟨hFirst, hLast⟩ := hTexts
    · exact ⟨.round, by simp [Token.opens?, hOpener, hFirst], by simp [Token.closes?, hCloser, hLast]⟩
    · exact ⟨.square, by simp [Token.opens?, hOpener, hFirst],
        by simp [Token.closes?, hCloser, hLast]⟩
    · exact ⟨.curly, by simp [Token.opens?, hOpener, hFirst], by simp [Token.closes?, hCloser, hLast]⟩

/-! ## The search for pairs -/

/-- What holds in front of an index of the brackets that are open and of the pairs found. -/
structure Pairing (tokens : List Token) (index : Nat) (stack : OpenBrackets)
    (pairs : List (Nat × Nat)) : Prop where
  opened : ∀ entry ∈ stack, entry.1 < index ∧
    ∃ token, tokens[entry.1]? = some token ∧ token.opens? = some entry.2
  inward : stack.Pairwise fun inner outer => outer.1 < inner.1
  paired : ∀ pair ∈ pairs, IsPair tokens pair ∧ pair.2 < index
  laminar : pairs.Pairwise fun later earlier => earlier.2 < later.1 ∨
    (later.1 < earlier.1 ∧ earlier.2 < later.2)
  outside : ∀ entry ∈ stack, ∀ pair ∈ pairs, pair.2 < entry.1 ∨ entry.1 < pair.1

namespace Pairing

variable {tokens : List Token} {index : Nat} {stack : OpenBrackets} {pairs : List (Nat × Nat)}
  {token : Token} {kind : BracketKind}

theorem start (tokens : List Token) : Pairing tokens 0 [] [] where
  opened := by simp
  inward := .nil
  paired := by simp
  laminar := .nil
  outside := by simp

theorem pass (h : Pairing tokens index stack pairs) : Pairing tokens (index + 1) stack pairs where
  opened := by
    intro entry hEntry
    obtain ⟨hBefore, hToken⟩ := h.opened entry hEntry
    exact ⟨by omega, hToken⟩
  inward := h.inward
  paired := by
    intro pair hPair
    obtain ⟨hIsPair, hBefore⟩ := h.paired pair hPair
    exact ⟨hIsPair, by omega⟩
  laminar := h.laminar
  outside := h.outside

theorem drop {left : OpenBrackets} (h : Pairing tokens index stack pairs) (hLeft : left <:+ stack) :
    Pairing tokens index left pairs where
  opened := fun entry hEntry => h.opened entry (hLeft.subset hEntry)
  inward := h.inward.sublist hLeft.sublist
  paired := h.paired
  laminar := h.laminar
  outside := fun entry hEntry => h.outside entry (hLeft.subset hEntry)

theorem push (h : Pairing tokens index stack pairs) (hToken : tokens[index]? = some token)
    (hOpens : token.opens? = some kind) :
    Pairing tokens (index + 1) ((index, kind) :: stack) pairs where
  opened := by
    rintro entry (_ | ⟨_, hEntry⟩)
    · exact ⟨Nat.lt_succ_self index, token, hToken, hOpens⟩
    · exact h.pass.opened entry hEntry
  inward := by
    apply List.pairwise_cons.mpr
    constructor
    · intro entry hEntry
      exact (h.opened entry hEntry).1
    · exact h.inward
  paired := h.pass.paired
  laminar := h.laminar
  outside := by
    rintro entry (_ | ⟨_, hEntry⟩)
    · intro pair hPair
      exact .inl (h.paired pair hPair).2
    · exact h.outside entry hEntry

theorem close {opener : Nat} (h : Pairing tokens index ((opener, kind) :: stack) pairs)
    (hToken : tokens[index]? = some token) (hCloses : token.closes? = some kind) :
    Pairing tokens (index + 1) stack ((opener, index) :: pairs) where
  opened := fun entry hEntry => h.pass.opened entry (List.mem_cons_of_mem _ hEntry)
  inward := (List.pairwise_cons.mp h.inward).2
  paired := by
    obtain ⟨hBefore, bracket, hBracket, hOpens⟩ := h.opened _ List.mem_cons_self
    rintro pair (_ | ⟨_, hPair⟩)
    · exact ⟨⟨hBefore, bracket, token, hBracket, hToken, kind, hOpens, hCloses⟩,
        Nat.lt_succ_self index⟩
    · exact h.pass.paired pair hPair
  laminar := by
    apply List.pairwise_cons.mpr
    constructor
    · intro pair hPair
      obtain ⟨-, hBefore⟩ := h.paired pair hPair
      obtain hFront | hInside := h.outside _ List.mem_cons_self pair hPair
      · exact .inl hFront
      · exact .inr ⟨hInside, hBefore⟩
    · exact h.laminar
  outside := by
    intro entry hEntry
    rintro pair (_ | ⟨_, hPair⟩)
    · exact .inr ((List.pairwise_cons.mp h.inward).1 entry hEntry)
    · exact h.outside entry (List.mem_cons_of_mem _ hEntry) pair hPair

/-- Reading on keeps what holds of the open brackets and the pairs. -/
theorem walk {rest : List Token} (h : Pairing tokens index stack pairs)
    (hRest : tokens.drop index = rest) :
    ∃ left, Pairing tokens (index + rest.length) left (pairsFrom index stack pairs rest) := by
  induction rest generalizing index stack pairs with
  | nil => exact ⟨stack, h⟩
  | cons token rest ih =>
    have hToken : tokens[index]? = some token := by
      rw [← List.head?_drop, hRest, List.head?_cons]
    have hNext : tokens.drop (index + 1) = rest := by
      rw [← List.drop_drop, hRest, List.drop_one, List.tail_cons]
    have hLength : index + (token :: rest).length = index + 1 + rest.length := by
      rw [List.length_cons]
      omega
    rw [hLength]
    unfold pairsFrom
    cases hOpens : token.opens? with
    | some kind => exact ih (h.push hToken hOpens) hNext
    | none =>
      cases hCloses : token.closes? with
      | none => exact ih h.pass hNext
      | some kind =>
        simp only
        have hSuffix := List.dropWhile_suffix (l := stack) fun entry => entry.2 != kind
        have hStop := List.head?_dropWhile_not (fun entry : Nat × BracketKind => entry.2 != kind) stack
        cases hStack : stack.dropWhile fun entry => entry.2 != kind with
        | nil => exact ih (h.drop (List.nil_suffix)).pass hNext
        | cons entry outer =>
          rw [hStack] at hSuffix hStop
          obtain ⟨opener, other⟩ := entry
          obtain rfl : other = kind := by simpa using hStop
          exact ih ((h.drop hSuffix).close hToken hCloses) hNext

end Pairing

theorem bracketPairs_pairing (tokens : List Token) :
    ∃ left, Pairing tokens tokens.length left (bracketPairs tokens).reverse := by
  obtain ⟨left, hPairing⟩ := (Pairing.start tokens).walk List.drop_zero
  rw [Nat.zero_add] at hPairing
  exact ⟨left, by rwa [bracketPairs, List.reverse_reverse]⟩

theorem isPair_of_mem {tokens : List Token} {pair : Nat × Nat}
    (h : pair ∈ bracketPairs tokens) : IsPair tokens pair := by
  obtain ⟨left, hPairing⟩ := bracketPairs_pairing tokens
  exact (hPairing.paired pair (List.mem_reverse.mpr h)).1

theorem laminar_of_mem {tokens : List Token} {first second : Nat × Nat}
    (hFirst : first ∈ bracketPairs tokens) (hSecond : second ∈ bracketPairs tokens) :
    first = second ∨ Laminar first second := by
  obtain ⟨left, hPairing⟩ := bracketPairs_pairing tokens
  rw [← List.mem_reverse] at hFirst hSecond
  have hApart := hPairing.laminar.imp (S := fun later earlier =>
      later = earlier ∨ Laminar later earlier) (by
    rintro later earlier (hFront | hInside)
    · exact .inr (.inr (.inl hFront))
    · exact .inr (.inr (.inr (.inl hInside))))
  have hSymm : Std.Symm fun later earlier => later = earlier ∨ Laminar later earlier := by
    constructor
    rintro later earlier (rfl | hLaminar)
    · exact .inl rfl
    · exact .inr hLaminar.symm
  exact hApart.forall_of_forall (fun pair hPair => .inl rfl) hFirst hSecond

theorem eq_of_shared {tokens : List Token} {first second : Nat × Nat}
    (hFirst : first ∈ bracketPairs tokens) (hSecond : second ∈ bracketPairs tokens)
    (hShared : first.1 = second.1 ∨ first.2 = second.2) : first = second := by
  obtain rfl | hLaminar := laminar_of_mem hFirst hSecond
  · rfl
  · have hOrder := (isPair_of_mem hFirst).1
    have hOther := (isPair_of_mem hSecond).1
    unfold Laminar at hLaminar
    omega

theorem bracketPairs_nodup (tokens : List Token) :
    ((bracketPairs tokens).map (·.1)).Nodup ∧ ((bracketPairs tokens).map (·.2)).Nodup := by
  obtain ⟨left, hPairing⟩ := bracketPairs_pairing tokens
  rw [← List.nodup_reverse, ← List.nodup_reverse (l := (bracketPairs tokens).map (·.2)),
    ← List.map_reverse, ← List.map_reverse]
  have hOrder := fun pair hPair => (hPairing.paired pair hPair).1.1
  constructor
  · apply List.pairwise_map.mpr
    apply hPairing.laminar.imp_of_mem
    intro later earlier hLater hEarlier
    have := hOrder earlier hEarlier
    omega
  · apply List.pairwise_map.mpr
    apply hPairing.laminar.imp_of_mem
    intro later earlier hLater hEarlier
    have := hOrder later hLater
    omega

/-! ## The table of closers -/

theorem closerOf?_foldl {pairs : List (Nat × Nat)} {table : Closers} {opener closer : Nat}
    (h : (pairs.foldl (fun table pair => table.setIfInBounds pair.1 (some pair.2))
      table)[opener]? = some (some closer)) :
    (opener, closer) ∈ pairs ∨ table[opener]? = some (some closer) := by
  induction pairs generalizing table with
  | nil => exact .inr h
  | cons pair pairs ih =>
    rw [List.foldl_cons] at h
    obtain hLater | hHere := ih h
    · exact .inl (List.mem_cons_of_mem _ hLater)
    · rw [Array.getElem?_setIfInBounds] at hHere
      split at hHere
      · next hOpener =>
        split at hHere
        · obtain rfl : pair.2 = closer := by simpa using hHere
          exact .inl (hOpener ▸ List.mem_cons_self)
        · cases hHere
      · exact .inr hHere

theorem closerOf?_eq_some_iff {tokens : List Token} {opener closer : Nat} :
    (closers tokens).closerOf? opener = some closer ↔ (opener, closer) ∈ bracketPairs tokens := by
  rw [Closers.closerOf?, Option.join_eq_some_iff]
  constructor
  · intro h
    obtain hMem | hBlank := closerOf?_foldl h
    · exact hMem
    · rw [Array.getElem?_replicate] at hBlank
      split at hBlank <;> cases hBlank
  · intro h
    have hOnly : ∀ pair ∈ bracketPairs tokens, pair.1 = opener → pair.2 = closer := by
      intro pair hPair hOpener
      rw [eq_of_shared hPair h (.inl hOpener)]
    obtain ⟨-, token, -, hToken, -⟩ := isPair_of_mem h
    apply foldl_closers hOnly
    · rw [Array.size_replicate]
      exact (List.getElem?_eq_some_iff.mp hToken).1
    · exact .inl h

theorem Closers.mem_toPairs {table : Closers} {opener closer : Nat} :
    (opener, closer) ∈ table.toPairs ↔ table.closerOf? opener = some closer := by
  rw [Closers.toPairs, List.mem_filterMap, Closers.closerOf?, Option.join_eq_some_iff]
  constructor
  · rintro ⟨⟨entry, index⟩, hEntry, hPair⟩
    obtain ⟨other, rfl, hSame⟩ := Option.map_eq_some_iff.mp hPair
    cases hSame
    have hFound := List.mem_zipIdx_iff_getElem?.mp hEntry
    rwa [Array.getElem?_toList] at hFound
  · intro h
    refine ⟨(some closer, opener), ?_, rfl⟩
    apply List.mem_zipIdx_iff_getElem?.mpr
    rwa [Array.getElem?_toList]

/-! ## Balanced tokens -/

theorem Encloses.inside {tokens : List Token} {first last : Nat} (h : Encloses tokens first last)
    (before after : List Token) :
    Encloses (before ++ (tokens ++ after)) (before.length + first) (before.length + last) := by
  obtain ⟨front, opener, inner, closer, behind, rfl, rfl, rfl, hPartners, hInner⟩ := h
  refine ⟨before ++ front, opener, inner, closer, behind ++ after, by simp, ?_, ?_, hPartners,
    hInner⟩
  · rw [List.length_append]
  · rw [List.length_append]
    omega

theorem Encloses.mem_pairs {tokens : List Token} {first last : Nat}
    (h : Encloses tokens first last) : (first, last) ∈ bracketPairs tokens := by
  obtain ⟨before, opener, inner, closer, after, rfl, rfl, rfl, hPartners, hInner⟩ := h
  exact (bracketPairs_group hPartners hInner before after).1

/-- If a token is a bracket, the nesting gives it a partner. -/
def Partnered (tokens : List Token) (index : Nat) (token : Token) : Prop :=
  (token.opens?.isSome = true → ∃ last, Encloses tokens index last) ∧
    (token.closes?.isSome = true → ∃ first, Encloses tokens first index)

theorem Partnered.inside {tokens : List Token} {index : Nat} {token : Token}
    (h : Partnered tokens index token) (before after : List Token) :
    Partnered (before ++ (tokens ++ after)) (before.length + index) token := by
  constructor
  · intro hOpens
    obtain ⟨last, hLast⟩ := h.1 hOpens
    exact ⟨_, hLast.inside before after⟩
  · intro hCloses
    obtain ⟨first, hFirst⟩ := h.2 hCloses
    exact ⟨_, hFirst.inside before after⟩

theorem Balanced.partnered {tokens : List Token} (h : Balanced tokens) {index : Nat} {token : Token}
    (hToken : tokens[index]? = some token) : Partnered tokens index token := by
  induction h generalizing index with
  | nil => cases hToken
  | @plain plain rest hPlain _ ih =>
    cases index with
    | zero =>
      obtain rfl : plain = token := by simpa using hToken
      simp [Partnered, hPlain.1, hPlain.2]
    | succ index =>
      have hRest : rest[index]? = some token := by simpa using hToken
      simpa [Nat.add_comm] using (ih hRest).inside [plain] []
  | @group opener closer inner rest hPair hInner _ ihInner ihRest =>
    have hOuter : Encloses (opener :: (inner ++ closer :: rest)) 0 (inner.length + 1) :=
      ⟨[], opener, inner, closer, rest, rfl, rfl, by simp [Nat.add_comm], hPair, hInner⟩
    obtain ⟨kind, hOpens, hCloses⟩ := hPair
    cases index with
    | zero =>
      obtain rfl : opener = token := by simpa using hToken
      constructor
      · intro _
        exact ⟨_, hOuter⟩
      · intro hOther
        rw [Token.closes?_of_opens? hOpens] at hOther
        cases hOther
    | succ index =>
      rw [List.getElem?_cons_succ] at hToken
      obtain hInside | rfl | hBehind := Nat.lt_trichotomy index inner.length
      · rw [List.getElem?_append_left hInside] at hToken
        simpa [Nat.add_comm] using (ihInner hToken).inside [opener] (closer :: rest)
      · obtain rfl : closer = token := by simpa using hToken
        constructor
        · intro hOther
          rw [Token.opens?_of_closes? hCloses] at hOther
          cases hOther
        · intro _
          exact ⟨_, hOuter⟩
      · -- The token stands in front of nothing that belongs to the group.
        obtain ⟨place, rfl⟩ : ∃ place, index = inner.length + 1 + place :=
          ⟨index - inner.length - 1, by omega⟩
        rw [List.getElem?_append_right (by omega), Nat.add_assoc, Nat.add_sub_cancel_left,
          Nat.add_comm 1, List.getElem?_cons_succ] at hToken
        have hShift := (ihRest hToken).inside (opener :: (inner ++ [closer])) []
        have hIndex : (opener :: (inner ++ [closer])).length + place =
            inner.length + 1 + place + 1 := by
          rw [List.length_cons, List.length_append, List.length_singleton]
          omega
        rw [hIndex] at hShift
        simpa using hShift

/-- The pairs of brackets are in order, made of matching punctuation, and nest; the search for the
game object sees them and no others. Where the brackets of a stretch of tokens nest, each is paired
with its partner in the stretch, whatever stands in front of it and behind it. -/
theorem bracketPairs_laminar (tokens : List Token) :
    let pairs := bracketPairs tokens
    (∀ pair ∈ pairs, pair.1 < pair.2 ∧ ∃ opener closer, tokens[pair.1]? = some opener ∧
      tokens[pair.2]? = some closer ∧ opener.kind = .punctuation ∧ closer.kind = .punctuation ∧
      (opener.text, closer.text) ∈ bracketTexts) ∧
    (pairs.map (·.1)).Nodup ∧ (pairs.map (·.2)).Nodup ∧
    (∀ first ∈ pairs, ∀ second ∈ pairs, first = second ∨ Laminar first second) ∧
    (∀ opener closer, (closers tokens).closerOf? opener = some closer ↔ (opener, closer) ∈ pairs) ∧
    (∀ pair, pair ∈ (closers tokens).toPairs ↔ pair ∈ pairs) ∧
    (∀ before range after, tokens = before ++ (range ++ after) → Balanced range →
      (∀ index token, range[index]? = some token → Partnered range index token) ∧
      ∀ first last, Encloses range first last →
        (before.length + first, before.length + last) ∈ pairs) ∧
    (Balanced tokens → ∀ index token, tokens[index]? = some token →
      (token.opens?.isSome = true → ∃ closer, (index, closer) ∈ pairs) ∧
      (token.closes?.isSome = true → ∃ opener, (opener, index) ∈ pairs)) := by
  intro pairs
  refine ⟨?_, (bracketPairs_nodup tokens).1, (bracketPairs_nodup tokens).2, ?_, ?_, ?_, ?_, ?_⟩
  · intro pair hPair
    obtain ⟨hOrder, opener, closer, hOpener, hCloser, hPartners⟩ := isPair_of_mem hPair
    exact ⟨hOrder, opener, closer, hOpener, hCloser, partners_iff.mp hPartners⟩
  · intro first hFirst second hSecond
    exact laminar_of_mem hFirst hSecond
  · intro opener closer
    exact closerOf?_eq_some_iff
  · rintro ⟨opener, closer⟩
    exact Closers.mem_toPairs.trans closerOf?_eq_some_iff
  · rintro before range after rfl hBalanced
    constructor
    · intro index token hToken
      exact hBalanced.partnered hToken
    · intro first last hEncloses
      exact (hEncloses.inside before after).mem_pairs
  · intro hBalanced index token hToken
    obtain ⟨hOpener, hCloser⟩ := hBalanced.partnered hToken
    constructor
    · intro hOpens
      obtain ⟨last, hLast⟩ := hOpener hOpens
      exact ⟨last, hLast.mem_pairs⟩
    · intro hCloses
      obtain ⟨first, hFirst⟩ := hCloser hCloses
      exact ⟨first, hFirst.mem_pairs⟩

def bracketsOf (texts : List String) : List Token := texts.map fun text => ⟨.punctuation, text, 0⟩

/-- A stretch that nests, behind a closer and an opener and in front of another closer. -/
theorem bracketPairs_laminar_stray :
    let pairs := bracketPairs
      (bracketsOf ["]", "("] ++ (bracketsOf ["\x7b", "[", "]", "\x7d"] ++ bracketsOf [")"]))
    Balanced (bracketsOf ["\x7b", "[", "]", "\x7d"]) ∧ (2, 5) ∈ pairs ∧
      Laminar (2, 5) (3, 4) ∧ (1, 6) ∈ pairs := by
  intro pairs
  obtain ⟨-, -, -, hLaminar, -, -, hStretch, -⟩ := bracketPairs_laminar
    (bracketsOf ["]", "("] ++ (bracketsOf ["\x7b", "[", "]", "\x7d"] ++ bracketsOf [")"]))
  have hBalanced : Balanced (bracketsOf ["\x7b", "[", "]", "\x7d"]) := by decide
  obtain ⟨-, hPartner⟩ := hStretch _ _ _ rfl hBalanced
  have hOuter : Encloses (bracketsOf ["\x7b", "[", "]", "\x7d"]) 0 3 :=
    ⟨[], _, bracketsOf ["[", "]"], _, [], rfl, rfl, rfl, ⟨.curly, rfl, rfl⟩, by decide⟩
  have hPair : (2, 5) ∈ pairs := hPartner 0 3 hOuter
  have hInner : (3, 4) ∈ pairs := by decide
  refine ⟨hBalanced, hPair, ?_, by decide⟩
  exact (hLaminar _ hPair _ hInner).resolve_left (by decide)

end SubmissionGate.Script
