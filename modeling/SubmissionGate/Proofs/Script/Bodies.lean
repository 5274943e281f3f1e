import Mathlib.Order.Bounds.Defs
import SubmissionGate.Proofs.Script.Assignment
import SubmissionGate.Proofs.Script.Pairing

/-!
# Bodies of the game object

However the value of an assignment is resolved, each body that may hold the methods starts behind a
brace and runs to the closer of this brace, or to the end of the script if nothing closes it. So it
lies within the script, and a bracket inside it is closed inside it or not at all.
-/

namespace SubmissionGate.Script

/-- A body of a script is what one of its braces opens. -/
def IsBody (tokens : List Token) (body : Body) : Prop :=
  ∃ opener, (Outline.ofTokens tokens).isPunctuation opener "\x7b" = true ∧
    body.start = opener + 1 ∧ body.stop = (Outline.ofTokens tokens).bodyEnd opener

theorem Qualifies.lt_length {globalName objectName : String} {tokens : List Token} {index : Nat}
    (h : Qualifies globalName objectName tokens index) : index < tokens.length := by
  obtain ⟨form, -, value, hValue, -⟩ := h
  have := (List.getElem?_eq_some_iff.mp hValue).1
  omega

namespace Outline

variable {tokens : List Token}

theorem size_ofTokens (tokens : List Token) : (ofTokens tokens).size = tokens.length := by
  simp [size, ofTokens]

theorem lt_length_of_isPunctuation {index : Nat} {text : String}
    (h : (ofTokens tokens).isPunctuation index text = true) : index < tokens.length := by
  rw [isPunctuation_ofTokens] at h
  obtain ⟨token, hToken, -⟩ := Option.map_eq_some_iff.mp h
  exact (List.getElem?_eq_some_iff.mp hToken).1

theorem closerOf?_bounds {opener closer : Nat}
    (h : (ofTokens tokens).closers.closerOf? opener = some closer) :
    opener < closer ∧ closer < tokens.length := by
  obtain ⟨hOrder, -, last, -, hLast, -⟩ := isPair_of_mem (closerOf?_eq_some_iff.mp h)
  exact ⟨hOrder, (List.getElem?_eq_some_iff.mp hLast).1⟩

theorem bodyEnd_bounds {opener : Nat} (h : opener < tokens.length) :
    opener < (ofTokens tokens).bodyEnd opener ∧
      (ofTokens tokens).bodyEnd opener ≤ tokens.length := by
  unfold bodyEnd
  cases hCloser : (ofTokens tokens).closers.closerOf? opener with
  | none =>
    rw [Option.getD_none, size_ofTokens]
    omega
  | some closer =>
    rw [Option.getD_some]
    have hBounds := closerOf?_bounds hCloser
    omega

/-! ## Where the bodies come from -/

theorem headerBrace_some {index opener : Nat}
    (h : (ofTokens tokens).headerBrace index = some opener) :
    (ofTokens tokens).isPunctuation opener "\x7b" = true := by
  fun_induction headerBrace (ofTokens tokens) index with
  | case1 index _ hBrace =>
    cases h
    exact hBrace
  | case2 => cases h
  | case3 index _ _ _ ih => exact ih h
  | case4 => cases h

theorem classBody?_some {nameIndex : Nat} {body : Body}
    (h : (ofTokens tokens).classBody? nameIndex = some body) : IsBody tokens body := by
  unfold classBody? at h
  split at h
  · cases h
  · split at h
    · cases h
    · obtain ⟨opener, hOpener, rfl⟩ := Option.map_eq_some_iff.mp h
      obtain ⟨index, -, hFound⟩ := List.exists_of_findSome?_eq_some hOpener
      obtain ⟨header, -, hBrace⟩ := Option.bind_eq_some_iff.mp hFound
      exact ⟨opener, headerBrace_some hBrace, rfl, rfl⟩

theorem bindingAt?_some {name : String} {index : Nat} {scope : Scope} {body : Body}
    (h : (ofTokens tokens).bindingAt? name index = some (scope, body)) : IsBody tokens body := by
  unfold bindingAt? at h
  split at h
  · split at h
    · next hBrace =>
      cases h
      exact ⟨index + 2, hBrace, rfl, rfl⟩
    · split at h
      · obtain ⟨other, hOther, hSame⟩ := Option.map_eq_some_iff.mp h
        cases hSame
        exact classBody?_some hOther
      · cases h
  · cases h

theorem isBody_of_closedBodies {body : Body} (h : body ∈ (ofTokens tokens).closedBodies) :
    IsBody tokens body := by
  obtain ⟨⟨opener, closer⟩, hPair, hBody⟩ := List.mem_filterMap.mp h
  simp only at hBody
  split at hBody
  · next hBrace =>
    obtain ⟨kind, -, rfl⟩ := Option.map_eq_some_iff.mp hBody
    have hCloser := Closers.mem_toPairs.mp hPair
    obtain ⟨-, token, last, hToken, -, hPartners⟩ :=
      isPair_of_mem (closerOf?_eq_some_iff.mp hCloser)
    rw [tokens_ofTokens, hToken, Option.any_some] at hBrace
    refine ⟨opener, ?_, rfl, ?_⟩
    · rw [isPunctuation, tokens_ofTokens, hToken, Option.any_some, Token.isPunctuation, hBrace,
        (partners_iff.mp hPartners).1]
      rfl
    · rw [bodyEnd, hCloser, Option.getD_some]
  · cases hBody

theorem resolve?_bodies {valueIndex : Nat} {scope : Scope} {bodies : List Body}
    (h : (ofTokens tokens).resolve? valueIndex = some (scope, bodies)) :
    ∀ body ∈ bodies, IsBody tokens body := by
  unfold resolve? at h
  split at h
  · cases h
  · next value hValue =>
    split at h
    · next hBrace =>
      cases h
      intro body hBody
      obtain rfl := List.mem_singleton.mp hBody
      refine ⟨valueIndex, ?_, rfl, rfl⟩
      rw [isPunctuation, hValue, Option.any_some, hBrace]
    · split at h
      · split at h
        · cases h
        · simp only at h
          split at h
          · next other found hFound =>
            cases h
            intro body hBody
            obtain rfl := List.mem_singleton.mp hBody
            split at hFound
            · obtain ⟨other, hOther, hSame⟩ := Option.map_eq_some_iff.mp hFound
              cases hSame
              exact classBody?_some hOther
            · split at hFound
              · obtain ⟨index, -, hBinding⟩ := List.exists_of_findSome?_eq_some hFound
                exact bindingAt?_some hBinding
              · cases hFound
          · cases h
            intro body hBody
            exact isBody_of_closedBodies hBody
      · split at h
        · cases h
          intro body hBody
          exact isBody_of_closedBodies hBody
        · cases h

theorem gameObjectAt?_bodies {globalName objectName : String} {index : Nat} {object : GameObject}
    (h : (ofTokens tokens).gameObjectAt? globalName objectName index = some object) :
    object.tokenIndex = index ∧ ∀ body ∈ object.bodies, IsBody tokens body := by
  obtain ⟨⟨form, valueIndex⟩, -, h⟩ := Option.bind_eq_some_iff.mp h
  obtain ⟨⟨scope, bodies⟩, hResolved, h⟩ := Option.bind_eq_some_iff.mp h
  cases h
  exact ⟨rfl, resolve?_bodies hResolved⟩

/-! ## The game object -/

theorem gameObject?_isSome_iff {globalName objectName : String} :
    ((ofTokens tokens).gameObject? globalName objectName).isSome = true ↔
      ∃ index, Qualifies globalName objectName tokens index := by
  rw [gameObject?, List.findSome?_isSome_iff]
  constructor
  · rintro ⟨index, -, hFound⟩
    exact ⟨index, (gameObjectAt?_isSome_iff _ _ _ _).mp hFound⟩
  · rintro ⟨index, hQualifies⟩
    refine ⟨index, List.mem_range.mpr ?_, (gameObjectAt?_isSome_iff _ _ _ _).mpr hQualifies⟩
    rw [size_ofTokens]
    exact hQualifies.lt_length

theorem gameObject?_some {globalName objectName : String} {object : GameObject}
    (h : (ofTokens tokens).gameObject? globalName objectName = some object) :
    IsLeast {index | Qualifies globalName objectName tokens index} object.tokenIndex ∧
      ∀ body ∈ object.bodies, IsBody tokens body := by
  obtain ⟨before, index, behind, hRange, hFound, hNone⟩ := List.findSome?_eq_some_iff.mp h
  obtain ⟨rfl, hBodies⟩ := gameObjectAt?_bodies hFound
  refine ⟨⟨?_, ?_⟩, hBodies⟩
  · apply (gameObjectAt?_isSome_iff _ _ _ _).mp
    rw [hFound]
    rfl
  · intro other hOther
    have hSorted := List.pairwise_lt_range (n := (ofTokens tokens).size)
    have hMem : other ∈ List.range (ofTokens tokens).size := by
      rw [List.mem_range, size_ofTokens]
      exact hOther.lt_length
    rw [hRange] at hSorted hMem
    obtain hBefore | hHere := List.mem_append.mp hMem
    · have hSome := (gameObjectAt?_isSome_iff _ _ _ _).mpr hOther
      rw [hNone other hBefore] at hSome
      cases hSome
    · obtain rfl | hBehind := List.mem_cons.mp hHere
      · exact Nat.le_refl _
      · have hLess := (List.pairwise_cons.mp (List.pairwise_append.mp hSorted).2.1).1 other hBehind
        omega

end Outline

/-! ## Bounds of a body -/

theorem IsBody.bounds {tokens : List Token} {body : Body} (h : IsBody tokens body) :
    0 < body.start ∧ body.start ≤ body.stop ∧ body.stop ≤ tokens.length := by
  obtain ⟨opener, hBrace, hStart, hStop⟩ := h
  have hBounds := Outline.bodyEnd_bounds (Outline.lt_length_of_isPunctuation hBrace)
  omega

theorem IsBody.closer_lt {tokens : List Token} {body : Body} {index closer : Nat}
    (h : IsBody tokens body) (hStart : body.start ≤ index) (hStop : index < body.stop)
    (hCloser : (Outline.ofTokens tokens).closers.closerOf? index = some closer) :
    index < closer ∧ closer < body.stop := by
  obtain ⟨opener, -, hOpener, hEnd⟩ := h
  have hBounds := Outline.closerOf?_bounds hCloser
  refine ⟨hBounds.1, ?_⟩
  unfold Outline.bodyEnd at hEnd
  cases hOuter : (Outline.ofTokens tokens).closers.closerOf? opener with
  | none =>
    rw [hOuter, Option.getD_none, Outline.size_ofTokens] at hEnd
    omega
  | some last =>
    rw [hOuter, Option.getD_some] at hEnd
    obtain hSame | hLaminar := laminar_of_mem (closerOf?_eq_some_iff.mp hOuter)
      (closerOf?_eq_some_iff.mp hCloser)
    · cases hSame
      omega
    · unfold Laminar at hLaminar
      simp only at hLaminar
      omega

end SubmissionGate.Script
