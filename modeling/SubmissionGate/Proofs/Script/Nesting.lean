import SubmissionGate.Script.Outline

/-!
# Nested brackets

A list of tokens whose brackets nest leaves the open brackets in front of it as they were. So each
of its openers is paired with its partner inside the list, whatever stands before and behind,
balanced or not. `Outline.Shows` says so for a whole list at once and is all that later arguments
look at.
-/

namespace SubmissionGate.Script

def Token.IsPlain (token : Token) : Prop := token.opens? = none ∧ token.closes? = none

def Partners (opener closer : Token) : Prop :=
  ∃ kind, opener.opens? = some kind ∧ closer.closes? = some kind

/-- The brackets among the tokens nest. -/
inductive Balanced : List Token → Prop
  | nil : Balanced []
  | plain {token : Token} {rest : List Token} (hPlain : token.IsPlain) (hRest : Balanced rest) :
      Balanced (token :: rest)
  | group {opener closer : Token} {inner rest : List Token} (hPair : Partners opener closer)
      (hInner : Balanced inner) (hRest : Balanced rest) :
      Balanced (opener :: (inner ++ closer :: rest))

theorem Token.closes?_of_opens? {token : Token} {kind : BracketKind}
    (h : token.opens? = some kind) : token.closes? = none := by
  unfold Token.opens? at h
  unfold Token.closes?
  by_cases hKind : token.kind = .punctuation
  · by_cases hRound : token.text = "("
    · simp [hRound]
    · by_cases hSquare : token.text = "["
      · simp [hSquare]
      · by_cases hCurly : token.text = "\x7b"
        · simp [hCurly]
        · simp [hKind, hRound, hSquare, hCurly] at h
  · simp [hKind] at h

theorem Token.opens?_of_closes? {token : Token} {kind : BracketKind}
    (h : token.closes? = some kind) : token.opens? = none := by
  cases hOpens : token.opens? with
  | none => rfl
  | some other =>
    rw [Token.closes?_of_opens? hOpens] at h
    cases h

/-- The brackets left open behind one more token; a closer has to find its opener on top. -/
def openedBy (stack : List BracketKind) (token : Token) : Option (List BracketKind) :=
  match token.opens? with
  | some kind => some (kind :: stack)
  | none =>
    match token.closes? with
    | none => some stack
    | some kind => if stack.head? = some kind then some stack.tail else none

/-- The brackets left open behind tokens, if each closer among them finds its opener on top. -/
def openAfter : List BracketKind → List Token → Option (List BracketKind)
  | stack, [] => some stack
  | stack, token :: rest => (openedBy stack token).bind fun left => openAfter left rest

theorem openAfter_opener {token : Token} {kind : BracketKind} (hOpens : token.opens? = some kind)
    (stack : List BracketKind) (rest : List Token) :
    openAfter stack (token :: rest) = openAfter (kind :: stack) rest := by
  rw [openAfter, openedBy, hOpens]
  rfl

theorem openAfter_plain {token : Token} (hPlain : token.IsPlain) (stack : List BracketKind)
    (rest : List Token) : openAfter stack (token :: rest) = openAfter stack rest := by
  rw [openAfter, openedBy, hPlain.1, hPlain.2]
  rfl

theorem openAfter_closer {token : Token} {kind : BracketKind} (hCloses : token.closes? = some kind)
    (stack : List BracketKind) (rest : List Token) :
    openAfter stack (token :: rest) =
      if stack.head? = some kind then openAfter stack.tail rest else none := by
  rw [openAfter, openedBy, Token.opens?_of_closes? hCloses, hCloses]
  simp only
  split <;> rfl

theorem openAfter_balanced {tokens : List Token} (h : Balanced tokens) (stack : List BracketKind)
    (rest : List Token) : openAfter stack (tokens ++ rest) = openAfter stack rest := by
  induction h generalizing stack rest with
  | nil => rfl
  | plain hPlain _ ih => rw [List.cons_append, openAfter_plain hPlain, ih]
  | group hPair _ _ ihInner ihRest =>
    obtain ⟨kind, hOpens, hCloses⟩ := hPair
    rw [List.cons_append, List.append_assoc, List.cons_append, openAfter_opener hOpens, ihInner,
      openAfter_closer hCloses, if_pos List.head?_cons, List.tail_cons, ihRest]

/-- Balanced tokens close every bracket of the stack, one after the other. -/
def Closes : List BracketKind → List Token → Prop
  | [], tokens => Balanced tokens
  | kind :: outer, tokens =>
    ∃ inner closer rest, tokens = inner ++ closer :: rest ∧ Balanced inner ∧
      closer.closes? = some kind ∧ Closes outer rest

theorem Closes.plain {stack : List BracketKind} {token : Token} {rest : List Token}
    (hPlain : token.IsPlain) (h : Closes stack rest) : Closes stack (token :: rest) := by
  cases stack with
  | nil => exact Balanced.plain hPlain h
  | cons kind outer =>
    obtain ⟨inner, closer, behind, rfl, hInner, hCloses, hOuter⟩ := h
    exact ⟨token :: inner, closer, behind, rfl, .plain hPlain hInner, hCloses, hOuter⟩

theorem Closes.group {stack : List BracketKind} {opener closer : Token} {inner rest : List Token}
    (hPair : Partners opener closer) (hInner : Balanced inner) (h : Closes stack rest) :
    Closes stack (opener :: (inner ++ closer :: rest)) := by
  cases stack with
  | nil => exact Balanced.group hPair hInner h
  | cons kind outer =>
    obtain ⟨front, last, behind, rfl, hFront, hCloses, hOuter⟩ := h
    exact ⟨opener :: (inner ++ closer :: front), last, behind, by simp, .group hPair hInner hFront,
      hCloses, hOuter⟩

theorem closes_of_openAfter {tokens : List Token} {stack : List BracketKind}
    (h : openAfter stack tokens = some []) : Closes stack tokens := by
  induction tokens generalizing stack with
  | nil =>
    cases h
    exact Balanced.nil
  | cons token rest ih =>
    cases hOpens : token.opens? with
    | some kind =>
      rw [openAfter_opener hOpens] at h
      obtain ⟨inner, closer, behind, rfl, hInner, hCloses, hRest⟩ := ih h
      exact hRest.group ⟨kind, hOpens, hCloses⟩ hInner
    | none =>
      cases hCloses : token.closes? with
      | none =>
        rw [openAfter_plain ⟨hOpens, hCloses⟩] at h
        exact (ih h).plain ⟨hOpens, hCloses⟩
      | some kind =>
        rw [openAfter_closer hCloses] at h
        split at h
        · next hTop =>
          obtain ⟨outer, rfl⟩ := List.head?_eq_some_iff.mp hTop
          exact ⟨[], token, rest, rfl, .nil, hCloses, ih h⟩
        · cases h

theorem balanced_iff {tokens : List Token} : Balanced tokens ↔ openAfter [] tokens = some [] := by
  constructor
  · intro h
    simpa [openAfter] using openAfter_balanced h [] []
  · exact closes_of_openAfter

instance (tokens : List Token) : Decidable (Balanced tokens) := decidable_of_iff' _ balanced_iff

theorem openAfter_replace {opener closer : Token} {inner other : List Token}
    (hPair : Partners opener closer) (hInner : Balanced inner) (hOther : Balanced other)
    (front behind : List Token) (stack : List BracketKind) :
    openAfter stack (front ++ opener :: (other ++ closer :: behind)) =
      openAfter stack (front ++ opener :: (inner ++ closer :: behind)) := by
  induction front generalizing stack with
  | nil =>
    obtain ⟨kind, hOpens, -⟩ := hPair
    rw [List.nil_append, List.nil_append, openAfter_opener hOpens, openAfter_opener hOpens,
      openAfter_balanced hOther, openAfter_balanced hInner]
  | cons token front ih => simp only [List.cons_append, openAfter, ih]

/-- What stands inside a group may be replaced by anything else that is balanced. -/
theorem Balanced.replace {front behind inner other : List Token} {opener closer : Token}
    (h : Balanced (front ++ opener :: (inner ++ closer :: behind))) (hPair : Partners opener closer)
    (hInner : Balanced inner) (hOther : Balanced other) :
    Balanced (front ++ opener :: (other ++ closer :: behind)) := by
  rw [balanced_iff] at h ⊢
  rw [openAfter_replace hPair hInner hOther, h]

theorem pairsFrom_closer {closer : Token} {kind : BracketKind}
    (hCloses : closer.closes? = some kind) (index opener : Nat) (stack : OpenBrackets)
    (pairs : List (Nat × Nat)) (rest : List Token) :
    pairsFrom index ((opener, kind) :: stack) pairs (closer :: rest) =
      pairsFrom (index + 1) stack ((opener, index) :: pairs) rest := by
  have hTop : ((opener, kind) :: stack).dropWhile (fun entry => entry.2 != kind) =
      (opener, kind) :: stack := by simp
  rw [pairsFrom, Token.opens?_of_closes? hCloses]
  simp only [hCloses, hTop]

/-- An opener that was open before an index or stands at or behind it, in front of `stop`. -/
def Reaches (stack : OpenBrackets) (index stop opener : Nat) : Prop :=
  (∃ entry ∈ stack, entry.1 = opener) ∨ index ≤ opener ∧ opener < stop

theorem pairsFrom_cons (index : Nat) (stack : OpenBrackets) (pairs : List (Nat × Nat))
    (token : Token) :
    ∃ (left : OpenBrackets) (found : List (Nat × Nat)),
      (∀ rest, pairsFrom index stack pairs (token :: rest) =
        pairsFrom (index + 1) left (found ++ pairs) rest) ∧
      (∀ entry ∈ left, Reaches stack index (index + 1) entry.1) ∧
      ∀ pair ∈ found, ∃ entry ∈ stack, entry.1 = pair.1 := by
  cases hOpens : token.opens? with
  | some kind =>
    refine ⟨(index, kind) :: stack, [], fun rest => by rw [pairsFrom, hOpens]; rfl, ?_, by simp⟩
    intro entry hEntry
    rcases List.mem_cons.mp hEntry with rfl | hOld
    · exact .inr ⟨Nat.le_refl index, Nat.lt_succ_self index⟩
    · exact .inl ⟨entry, hOld, rfl⟩
  | none =>
    cases hCloses : token.closes? with
    | none =>
      refine ⟨stack, [], fun rest => ?_, fun entry hEntry => .inl ⟨entry, hEntry, rfl⟩, by simp⟩
      rw [pairsFrom, hOpens]
      simp only [hCloses, List.nil_append]
    | some kind =>
      have hSuffix := List.dropWhile_suffix (l := stack) fun entry => entry.2 != kind
      cases hStack : stack.dropWhile fun entry => entry.2 != kind with
      | nil =>
        refine ⟨[], [], fun rest => ?_, by simp, by simp⟩
        rw [pairsFrom, hOpens]
        simp only [hCloses, hStack, List.nil_append]
      | cons entry outer =>
        rw [hStack] at hSuffix
        refine ⟨outer, [(entry.1, index)], fun rest => ?_, ?_, ?_⟩
        · rw [pairsFrom, hOpens]
          simp only [hCloses, hStack, List.singleton_append]
        · intro other hOther
          exact .inl ⟨other, hSuffix.subset (List.mem_cons_of_mem _ hOther), rfl⟩
        · intro pair hPair
          rw [List.mem_singleton.mp hPair]
          exact ⟨entry, hSuffix.subset List.mem_cons_self, rfl⟩

/-- Tokens pair openers that were open before them and openers among them, and no others. -/
theorem pairsFrom_append (index : Nat) (stack : OpenBrackets) (pairs : List (Nat × Nat))
    (tokens : List Token) :
    ∃ (left : OpenBrackets) (found : List (Nat × Nat)),
      (∀ rest, pairsFrom index stack pairs (tokens ++ rest) =
        pairsFrom (index + tokens.length) left (found ++ pairs) rest) ∧
      (∀ entry ∈ left, Reaches stack index (index + tokens.length) entry.1) ∧
      ∀ pair ∈ found, Reaches stack index (index + tokens.length) pair.1 := by
  induction tokens generalizing index stack pairs with
  | nil =>
    exact ⟨stack, [], fun rest => rfl, fun entry hEntry => .inl ⟨entry, hEntry, rfl⟩, by simp⟩
  | cons token tokens ih =>
    obtain ⟨midway, first, hFirst, hMidway, hFound⟩ := pairsFrom_cons index stack pairs token
    obtain ⟨left, found, hRest, hLeft, hLater⟩ := ih (index + 1) midway (first ++ pairs)
    have hStop : index + (token :: tokens).length = index + 1 + tokens.length := by
      rw [List.length_cons]
      omega
    have hReaches : ∀ opener, Reaches midway (index + 1) (index + 1 + tokens.length) opener →
        Reaches stack index (index + 1 + tokens.length) opener := by
      rintro opener (⟨entry, hEntry, rfl⟩ | ⟨hLow, hHigh⟩)
      · rcases hMidway entry hEntry with hOld | ⟨hLow, hHigh⟩
        · exact .inl hOld
        · exact .inr ⟨hLow, by omega⟩
      · exact .inr ⟨by omega, hHigh⟩
    rw [hStop]
    refine ⟨left, found ++ first, fun rest => ?_,
      fun entry hEntry => hReaches _ (hLeft entry hEntry), ?_⟩
    · rw [List.cons_append, hFirst, hRest, List.append_assoc]
    · intro pair hPair
      rcases List.mem_append.mp hPair with hLate | hEarly
      · exact hReaches _ (hLater pair hLate)
      · exact .inl (hFound pair hEarly)

theorem pairsFrom_balanced {tokens : List Token} (h : Balanced tokens) (index : Nat)
    (stack : OpenBrackets) (pairs : List (Nat × Nat)) :
    ∃ found : List (Nat × Nat),
      (∀ rest, pairsFrom index stack pairs (tokens ++ rest) =
        pairsFrom (index + tokens.length) stack (found ++ pairs) rest) ∧
      ∀ pair ∈ found, index ≤ pair.1 := by
  induction h generalizing index pairs stack with
  | nil => exact ⟨[], fun rest => rfl, by simp⟩
  | @plain token tokens hPlain _ ih =>
    obtain ⟨found, hRest, hFound⟩ := ih (index + 1) stack pairs
    refine ⟨found, fun rest => ?_, fun pair hPair => ?_⟩
    · rw [List.cons_append, pairsFrom, hPlain.1]
      simp only [hPlain.2]
      rw [hRest, List.length_cons, Nat.add_assoc index, Nat.add_comm 1]
    · have := hFound pair hPair
      omega
  | @group opener closer inner tokens hPair _ _ ihInner ihRest =>
    obtain ⟨kind, hOpens, hCloses⟩ := hPair
    obtain ⟨first, hInner, hFirst⟩ := ihInner (index + 1) ((index, kind) :: stack) pairs
    let closed := index + 1 + inner.length
    obtain ⟨second, hRest, hSecond⟩ :=
      ihRest (closed + 1) stack ((index, closed) :: (first ++ pairs))
    refine ⟨second ++ (index, closed) :: first, fun rest => ?_, fun pair hPair => ?_⟩
    · rw [List.cons_append, pairsFrom, hOpens]
      simp only [List.append_assoc, List.cons_append]
      have hStop : index + (opener :: (inner ++ closer :: tokens)).length =
          closed + 1 + tokens.length := by
        simp only [closed, List.length_cons, List.length_append]
        omega
      rw [hInner, pairsFrom_closer hCloses, hStop]
      exact hRest rest
    · simp only [List.mem_append, List.mem_cons] at hPair
      rcases hPair with hLate | rfl | hEarly
      · have := hSecond pair hLate
        simp only [closed] at this
        omega
      · exact Nat.le_refl index
      · have := hFirst pair hEarly
        omega

/-- A group is paired, and its opener with nothing else. -/
theorem bracketPairs_group {opener closer : Token} {inner : List Token}
    (hPair : Partners opener closer) (hInner : Balanced inner) (before after : List Token) :
    let pairs := bracketPairs (before ++ opener :: (inner ++ closer :: after))
    let closed := before.length + 1 + inner.length
    (before.length, closed) ∈ pairs ∧
      ∀ pair ∈ pairs, pair.1 = before.length → pair.2 = closed := by
  intro pairs closed
  obtain ⟨stack, early, hBefore, hStack, hEarly⟩ := pairsFrom_append 0 [] [] before
  obtain ⟨kind, hOpens, hCloses⟩ := hPair
  obtain ⟨found, hGroup, hFound⟩ :=
    pairsFrom_balanced hInner (before.length + 1) ((before.length, kind) :: stack) early
  obtain ⟨left, late, hAfter, -, hLate⟩ :=
    pairsFrom_append (closed + 1) stack ((before.length, closed) :: (found ++ early)) after
  have hPairs : pairs = (late ++ (before.length, closed) :: (found ++ early)).reverse := by
    have hEnd := hAfter []
    rw [List.append_nil] at hEnd
    simp only [pairs, bracketPairs]
    rw [hBefore, Nat.zero_add, List.append_nil, pairsFrom, hOpens]
    simp only
    rw [hGroup, pairsFrom_closer hCloses, hEnd, pairsFrom]
  rw [hPairs]
  refine ⟨by simp, ?_⟩
  intro pair hMem hOpener
  simp only [List.mem_reverse, List.mem_append, List.mem_cons] at hMem
  have hBelow : ∀ opener, Reaches [] 0 (0 + before.length) opener → opener < before.length := by
    rintro opener (⟨entry, hEntry, -⟩ | ⟨-, hHigh⟩)
    · cases hEntry
    · omega
  rcases hMem with hBehind | rfl | hInside | hFront
  · rcases hLate pair hBehind with ⟨entry, hEntry, hSame⟩ | ⟨hLow, -⟩
    · have := hBelow _ (hStack entry hEntry)
      omega
    · simp only [closed] at hLow
      omega
  · rfl
  · have := hFound pair hInside
    omega
  · have := hBelow _ (hEarly pair hFront)
    omega

theorem foldl_closers {pairs : List (Nat × Nat)} {opener closer : Nat}
    (hOnly : ∀ pair ∈ pairs, pair.1 = opener → pair.2 = closer) {table : Closers}
    (hSize : opener < table.size)
    (h : (opener, closer) ∈ pairs ∨ table[opener]? = some (some closer)) :
    (pairs.foldl (fun table pair => table.setIfInBounds pair.1 (some pair.2)) table)[opener]? =
      some (some closer) := by
  induction pairs generalizing table with
  | nil =>
    rcases h with hMem | hTable
    · cases hMem
    · exact hTable
  | cons pair pairs ih =>
    rw [List.foldl_cons]
    refine ih (fun other hOther => hOnly other (List.mem_cons_of_mem _ hOther))
      (by simpa using hSize) ?_
    by_cases hHere : pair.1 = opener
    · have hCloser := hOnly pair List.mem_cons_self hHere
      right
      rw [Array.getElem?_setIfInBounds, if_pos hHere, hHere, if_pos hSize, hCloser]
    · rcases h with hMem | hTable
      · rcases List.mem_cons.mp hMem with rfl | hLater
        · exact absurd rfl hHere
        · exact .inl hLater
      · right
        rw [Array.getElem?_setIfInBounds, if_neg hHere]
        exact hTable

theorem closerOf?_group {opener closer : Token} {inner : List Token}
    (hPair : Partners opener closer) (hInner : Balanced inner) (before after : List Token) :
    (closers (before ++ opener :: (inner ++ closer :: after))).closerOf? before.length =
      some (before.length + 1 + inner.length) := by
  obtain ⟨hMem, hOnly⟩ := bracketPairs_group hPair hInner before after
  have hSize : before.length <
      (Array.replicate (before ++ opener :: (inner ++ closer :: after)).length
        (none : Option Nat)).size := by
    simp
  rw [Closers.closerOf?, closers, foldl_closers hOnly hSize (.inl hMem)]
  rfl

namespace Outline

/-- The tokens stand at an index of the outline, and each opener among them has its partner. -/
inductive Shows (outline : Outline) : Nat → List Token → Prop
  | nil (index : Nat) : Shows outline index []
  | plain {index : Nat} {token : Token} {rest : List Token} (hPlain : token.IsPlain)
      (hToken : outline.tokens[index]? = some token) (hRest : Shows outline (index + 1) rest) :
      Shows outline index (token :: rest)
  | group {index : Nat} {opener closer : Token} {inner rest : List Token}
      (hPair : Partners opener closer) (hToken : outline.tokens[index]? = some opener)
      (hCloser : outline.closers.closerOf? index = some (index + 1 + inner.length))
      (hInner : Shows outline (index + 1) inner)
      (hRest : Shows outline (index + 1 + inner.length + 1) rest) :
      Shows outline index (opener :: (inner ++ closer :: rest))

theorem Shows.balanced {outline : Outline} {index : Nat} {tokens : List Token}
    (h : outline.Shows index tokens) : Balanced tokens := by
  induction h with
  | nil => exact .nil
  | plain hPlain _ _ ih => exact .plain hPlain ih
  | group hPair _ _ _ _ ihInner ihRest => exact .group hPair ihInner ihRest

theorem tokens_ofTokens (tokens : List Token) (index : Nat) :
    (ofTokens tokens).tokens[index]? = tokens[index]? := by
  simp [ofTokens]

theorem shows_of_balanced {tokens : List Token} (h : Balanced tokens) (before after : List Token) :
    (ofTokens (before ++ (tokens ++ after))).Shows before.length tokens := by
  induction h generalizing before after with
  | nil => exact .nil _
  | @plain token tokens hPlain _ ih =>
    have hRest := ih (before ++ [token]) after
    rw [List.append_assoc, List.singleton_append, List.length_append] at hRest
    refine .plain hPlain ?_ hRest
    rw [tokens_ofTokens]
    simp
  | @group opener closer inner tokens hPair hInner _ ihInner ihRest =>
    have hWhole : before ++ (opener :: (inner ++ closer :: tokens) ++ after) =
        before ++ opener :: (inner ++ closer :: (tokens ++ after)) := by simp
    have hInside := ihInner (before ++ [opener]) (closer :: (tokens ++ after))
    rw [List.append_assoc, List.singleton_append, List.length_append, List.length_singleton]
      at hInside
    have hBehind := ihRest (before ++ opener :: (inner ++ [closer])) after
    have hLength : (before ++ opener :: (inner ++ [closer])).length =
        before.length + 1 + inner.length + 1 := by
      simp only [List.length_append, List.length_cons, List.length_nil]
      omega
    rw [List.append_assoc, List.cons_append, List.append_assoc, List.singleton_append, hLength]
      at hBehind
    rw [hWhole]
    refine .group hPair ?_ (closerOf?_group hPair hInner before _) hInside hBehind
    rw [tokens_ofTokens]
    simp

end Outline

end SubmissionGate.Script
