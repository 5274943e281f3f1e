import Mathlib.Data.List.Basic
import Mathlib.Data.List.TakeWhile
import SubmissionGate.Proofs.Markup.Elements
import SubmissionGate.Proofs.Text.LetterCase
import SubmissionGate.Url

/-!
# Addresses that hold code

A browser takes an address for code if it starts with the scheme `javascript:` in any case, once
leading controls and blanks are dropped and every tab and line break is taken out. Such an address
has a lead, a scheme as it is written and the code behind it. The gate only drops white space in
front, so it finds the code exactly if there is nothing else in the lead and the scheme is written
in one piece.
-/

namespace SubmissionGate.Markup

open SubmissionGate.Text

open SubmissionGate.Url (isControlOrSpace isTabOrBreak stripped)

/-! ## The attributes of a tag -/

def rawAttributes (rest : List Char) : List RawAttribute :=
  let name := rest.takeWhile continuesTagName
  let start := name.length + separatorSize 0 (rest.drop name.length)
  let body := rest.drop start
  (attributesFrom (((rest.take start).getLast?).getD ' ') body 0 [] body.length).1

theorem readStartTag_attributes {rest : List Char} {tag : StartTag} {size : Nat}
    (h : readStartTag rest = .ok (.tag tag size)) :
    resolveAttributes [] (rawAttributes rest) = .ok tag.attributes := by
  unfold readStartTag at h
  cases hResolved : resolveAttributes [] (rawAttributes rest) with
  | error count =>
    simp only [rawAttributes] at hResolved
    simp only [hResolved] at h
    split at h
    · cases h
    · cases h
    · cases h
    · split at h
      · cases h
      · cases h
  | ok attributes =>
    simp only [rawAttributes] at hResolved
    simp only [hResolved] at h
    split at h
    · cases h
      rfl
    · cases h
      rfl
    · cases h
    · split at h
      · cases h
      · cases h

theorem resolveAttributes_keeps {found attributes : List (String × List Char)}
    {raws : List RawAttribute} (h : resolveAttributes found raws = .ok attributes)
    {entry : String × List Char} (hEntry : entry ∈ found) : entry ∈ attributes := by
  induction raws generalizing found with
  | nil =>
    cases h
    exact List.mem_reverse.mpr hEntry
  | cons raw rest ih =>
    rw [resolveAttributes] at h
    split at h
    · cases h
    · simp only at h
      split at h
      · exact ih h hEntry
      · exact ih h (List.mem_cons_of_mem _ hEntry)

theorem resolveAttributes_first {found attributes : List (String × List Char)}
    {before after : List RawAttribute} {raw : RawAttribute}
    (h : resolveAttributes found (before ++ raw :: after) = .ok attributes)
    (hNew : ∀ entry ∈ found, entry.1 ≠ String.ofList (lower raw.name))
    (hFirst : ∀ earlier ∈ before, lower earlier.name ≠ lower raw.name) :
    ∃ value, resolveReferences (raw.value.getD []) = .ok value ∧
      (String.ofList (lower raw.name), value) ∈ attributes := by
  induction before generalizing found with
  | nil =>
    rw [List.nil_append, resolveAttributes] at h
    split at h
    · cases h
    · next value hValue =>
      have hAbsent : found.any (·.1 == String.ofList (lower raw.name)) = false := by
        rw [List.any_eq_false]
        intro entry hEntry
        simpa using hNew entry hEntry
      simp only [hAbsent] at h
      exact ⟨value, hValue, resolveAttributes_keeps h List.mem_cons_self⟩
  | cons earlier before ih =>
    obtain ⟨hOther, hRest⟩ := List.forall_mem_cons.mp hFirst
    rw [List.cons_append, resolveAttributes] at h
    split at h
    · cases h
    · simp only at h
      split at h
      · exact ih h hNew hRest
      · apply ih h _ hRest
        intro entry hEntry
        obtain rfl | hFound := List.mem_cons.mp hEntry
        · intro hSame
          exact hOther (String.ofList_injective hSame)
        · exact hNew entry hFound

/-! ## The parts of an address -/

/-- A browser runs an address as code. -/
def HoldsCode (value : List Char) : Prop := scriptScheme <+: (stripped value).map Char.toLower

/-- The lead of an address, its scheme as it is written and the code behind it. -/
structure AddressParts (value lead written code : List Char) : Prop where
  spell : value = lead ++ written ++ code
  lead : ∀ c ∈ lead, isControlOrSpace c = true
  scheme : (written.filter fun c => !isTabOrBreak c).map Char.toLower = scriptScheme
  first : ∀ c ∈ written.head?, isControlOrSpace c = false
  last : ∀ c ∈ written.getLast?, isTabOrBreak c = false

theorem HoldsCode.parts {value : List Char} (h : HoldsCode value) :
    ∃ lead written code, AddressParts value lead written code := by
  obtain ⟨more, hMore⟩ := h
  obtain ⟨kept, others, hCleaned, hScheme, -⟩ := List.map_eq_append_iff.mp hMore.symm
  obtain ⟨word, colon, rfl⟩ : ∃ word colon, kept = word ++ [colon] := by
    have hSome : kept ≠ [] := by
      rintro rfl
      cases hScheme
    exact ⟨_, _, (List.dropLast_concat_getLast hSome).symm⟩
  rw [stripped, List.append_assoc, List.singleton_append] at hCleaned
  obtain ⟨front, behind, hBody, hFront, hBehind⟩ := List.filter_eq_append_iff.mp hCleaned
  obtain ⟨dropped, code, rfl, hDropped, hColon, -⟩ := List.filter_eq_cons_iff.mp hBehind
  have hWritten : front ++ dropped ++ [colon] ++ code = value.dropWhile isControlOrSpace := by
    rw [hBody]
    simp only [List.append_assoc, List.singleton_append]
  refine ⟨value.takeWhile isControlOrSpace, front ++ dropped ++ [colon], code, ?_, ?_, ?_, ?_, ?_⟩
  · rw [List.append_assoc, hWritten, List.takeWhile_append_dropWhile]
  · intro c hc
    exact List.mem_takeWhile_imp hc
  · have hNone : dropped.filter (fun c => !isTabOrBreak c) = [] :=
      List.filter_eq_nil_iff.mpr hDropped
    rw [List.filter_append, List.filter_append, hFront, hNone, List.append_nil,
      List.filter_singleton, hColon]
    exact hScheme
  · intro c hc
    have hHead : c ∈ (value.dropWhile isControlOrSpace).head? := by
      rw [← hWritten, List.head?_append, Option.mem_def.mp hc]
      rfl
    exact head?_dropWhile hHead
  · intro c hc
    rw [List.getLast?_concat] at hc
    cases hc
    simpa using hColon

/-! ## What the gate finds -/

/-- White space alone stands in the lead, and the scheme is written in one piece. -/
structure InOnePiece (lead written : List Char) : Prop where
  lead : ∀ c ∈ lead, isSpace c = true
  written : ∀ c ∈ written, isTabOrBreak c = false

theorem scheme_characters : ∀ point < 128, (Char.ofNat point).toLower ∈ scriptScheme →
    isSpace (Char.ofNat point) = false ∧ isTabOrBreak (Char.ofNat point) = false := by
  decide +kernel

theorem leading_characters : ∀ point < 33, (Char.ofNat point).toLower ∉ scriptScheme := by
  decide +kernel

theorem isControlOrSpace_of_isTabOrBreak {c : Char} (h : isTabOrBreak c = true) :
    isControlOrSpace c = true := by
  simp only [isTabOrBreak, Bool.or_eq_true, beq_iff_eq] at h
  obtain (rfl | rfl) | rfl := h
  all_goals decide

theorem toLower_of_isControlOrSpace {c : Char} (h : isControlOrSpace c = true) :
    c.toLower ∉ scriptScheme := by
  have hLeading := leading_characters c.toNat (Nat.lt_succ_of_le (of_decide_eq_true h))
  rwa [Char.ofNat_toNat] at hLeading

theorem plain_of_toLower_mem {c : Char} (h : c.toLower ∈ scriptScheme) :
    c.toNat < 128 ∧ isSpace c = false ∧ isTabOrBreak c = false := by
  have hScheme : (scriptScheme.all fun d => d.toNat < 128) = true := by decide
  have hAscii : c.toNat < 128 :=
    ascii_of_toLower (of_decide_eq_true (List.all_eq_true.mp hScheme _ h))
  have hPlain := scheme_characters c.toNat hAscii
  rw [Char.ofNat_toNat] at hPlain
  exact ⟨hAscii, hPlain h⟩

theorem attributeCode?_address {name : String} (hName : name ∈ addressAttributes)
    (value : List Char) : attributeCode? name value =
      if scriptScheme.isPrefixOf (lower (trim value))
      then some ((trim value).drop scriptScheme.length) else none := by
  have hHandler : ∀ other ∈ addressAttributes, other.startsWith "on" = false := by decide +kernel
  simp [attributeCode?, hHandler name hName, hName]

namespace AddressParts

variable {value lead written code : List Char} (h : AddressParts value lead written code)

include h

theorem mem_scheme {c : Char} (hc : c ∈ written) (hKept : isTabOrBreak c = false) :
    c.toLower ∈ scriptScheme := by
  rw [← h.scheme]
  apply List.mem_map_of_mem
  exact List.mem_filter.mpr ⟨hc, by simpa using hKept⟩

theorem ascii : ∀ c ∈ written, c.toNat < 128 := by
  intro c hc
  cases hOut : isTabOrBreak c with
  | true =>
    have hLow : c.toNat ≤ 32 := of_decide_eq_true (isControlOrSpace_of_isTabOrBreak hOut)
    omega
  | false => exact (plain_of_toLower_mem (h.mem_scheme hc hOut)).1

theorem written_ne_nil : written ≠ [] := by
  rintro rfl
  cases h.scheme

/-- The end of the scheme is no blank, so what is dropped at the end belongs to the code. -/
theorem trim_written : trimEnd (written ++ code) = written ++ trimEnd code := by
  obtain ⟨front, colon, hWritten⟩ : ∃ front colon, written = front ++ [colon] :=
    ⟨_, _, (List.dropLast_concat_getLast h.written_ne_nil).symm⟩
  have hColon : isTabOrBreak colon = false := by
    apply h.last
    rw [hWritten, List.getLast?_concat]
    rfl
  have hMem : colon ∈ written := by
    rw [hWritten]
    exact List.mem_concat_self
  rw [hWritten]
  exact trimEnd_append (plain_of_toLower_mem (h.mem_scheme hMem hColon)).2.1 code

theorem trim_value (hLead : ∀ c ∈ lead, isSpace c = true) : trim value = written ++ trimEnd code := by
  have hDrop : value.dropWhile isSpace = written ++ code := by
    rw [h.spell, List.append_assoc, List.dropWhile_append_of_pos hLead]
    cases hWritten : written with
    | nil => exact absurd hWritten h.written_ne_nil
    | cons c rest =>
      have hFirst : isControlOrSpace c = false := by
        apply h.first
        rw [hWritten]
        rfl
      have hKept : isTabOrBreak c = false := by
        refine Bool.eq_false_iff.mpr ?_
        intro hOut
        rw [isControlOrSpace_of_isTabOrBreak hOut] at hFirst
        cases hFirst
      have hMem : c ∈ written := by
        rw [hWritten]
        exact List.mem_cons_self
      rw [List.cons_append, List.dropWhile_cons,
        (plain_of_toLower_mem (h.mem_scheme hMem hKept)).2.1]
      rfl
  rw [trim, hDrop, h.trim_written]

theorem found (hPiece : InOnePiece lead written) {name : String}
    (hName : name ∈ addressAttributes) : attributeCode? name value = some (trimEnd code) := by
  have hScheme : written.map Char.toLower = scriptScheme := by
    have hWhole : written.filter (fun c => !isTabOrBreak c) = written := by
      rw [List.filter_eq_self]
      intro c hc
      simp [hPiece.written c hc]
    rw [← h.scheme, hWhole]
  obtain ⟨cased, hLower⟩ := lowerAfter_append_ascii h.ascii false (trimEnd code)
  have hPrefix : scriptScheme.isPrefixOf (lower (written ++ trimEnd code)) = true := by
    rw [List.isPrefixOf_iff_prefix, lower, hLower, hScheme]
    exact List.prefix_append _ _
  have hLength : scriptScheme.length = written.length := by rw [← hScheme, List.length_map]
  rw [attributeCode?_address hName, h.trim_value hPiece.lead, if_pos hPrefix, hLength,
    List.drop_left]

theorem broken_not_prefix (hBroken : ¬∀ c ∈ written, isTabOrBreak c = false) (rest : List Char) :
    ¬scriptScheme <+: written.map Char.toLower ++ rest := by
  intro hPrefix
  have hLength : scriptScheme.length ≤ (written.map Char.toLower).length := by
    rw [← h.scheme, List.length_map, List.length_map]
    exact List.length_filter_le _ _
  obtain ⟨more, hMore⟩ := List.prefix_of_prefix_length_le hPrefix (List.prefix_append _ _) hLength
  obtain ⟨kept, others, rfl, hKept, -⟩ := List.map_eq_append_iff.mp hMore.symm
  have hPlain : ∀ c ∈ kept, isTabOrBreak c = false := by
    intro c hc
    apply (plain_of_toLower_mem _).2.2
    rw [← hKept]
    exact List.mem_map_of_mem hc
  have hOthers : others.filter (fun c => !isTabOrBreak c) = [] := by
    have hWhole : kept.filter (fun c => !isTabOrBreak c) = kept := by
      rw [List.filter_eq_self]
      intro c hc
      simp [hPlain c hc]
    have hScheme := h.scheme
    rw [List.filter_append, hWhole, List.map_append, hKept, List.append_right_eq_self] at hScheme
    exact List.map_eq_nil_iff.mp hScheme
  obtain rfl | ⟨front, last, rfl⟩ := others.eq_nil_or_concat
  · rw [List.append_nil] at hBroken
    exact hBroken hPlain
  · have hLast : isTabOrBreak last = false := by
      apply h.last
      simp
    have hOut := List.filter_eq_nil_iff.mp hOthers last (by simp)
    simp [hLast] at hOut

theorem trim_control (hLead : ¬∀ c ∈ lead, isSpace c = true) :
    ∃ c rest, isControlOrSpace c = true ∧ trim value = c :: rest := by
  cases hDrop : lead.dropWhile isSpace with
  | nil => exact absurd (List.dropWhile_eq_nil_iff.mp hDrop) hLead
  | cons c rest =>
    have hMem : c ∈ lead := by
      apply List.dropWhile_subset isSpace
      rw [hDrop]
      exact List.mem_cons_self
    have hControl : isSpace c = false := by
      apply head?_dropWhile
      rw [hDrop]
      rfl
    have hValue : value.dropWhile isSpace = [] ++ [c] ++ (rest ++ written ++ code) := by
      rw [h.spell, List.append_assoc, List.dropWhile_append, hDrop]
      simp
    refine ⟨c, trimEnd (rest ++ written ++ code), h.lead c hMem, ?_⟩
    rw [trim, hValue, trimEnd_append hControl]
    rfl

theorem missed (hPiece : ¬InOnePiece lead written) {name : String}
    (hName : name ∈ addressAttributes) : attributeCode? name value = none := by
  have hNone : ¬scriptScheme.isPrefixOf (lower (trim value)) = true := by
    rw [List.isPrefixOf_iff_prefix]
    by_cases hLead : ∀ c ∈ lead, isSpace c = true
    · have hBroken : ¬∀ c ∈ written, isTabOrBreak c = false := by
        intro hWritten
        exact hPiece ⟨hLead, hWritten⟩
      obtain ⟨cased, hLower⟩ := lowerAfter_append_ascii h.ascii false (trimEnd code)
      rw [h.trim_value hLead, lower, hLower]
      exact h.broken_not_prefix hBroken _
    · obtain ⟨c, rest, hLeading, hTrim⟩ := h.trim_control hLead
      have hAscii : ∀ d ∈ [c], d.toNat < 128 := by
        intro d hd
        have hLow : c.toNat ≤ 32 := of_decide_eq_true hLeading
        rw [List.mem_singleton.mp hd]
        omega
      obtain ⟨cased, hLower⟩ := lowerAfter_append_ascii hAscii false rest
      rw [hTrim, ← List.singleton_append, lower, hLower]
      intro hPrefix
      apply toLower_of_isControlOrSpace hLeading
      rw [← (List.cons_prefix_cons.mp hPrefix).1]
      decide
  rw [attributeCode?_address hName, if_neg hNone]

end AddressParts

end SubmissionGate.Markup
