import Mathlib.Data.List.Basic
import SubmissionGate.Proofs.Markup.WrittenAttribute

/-!
# Start tags as they are written

Behind each attribute the reader stands at the next one or at the end of the tag, so of a tag whose
attributes hold no blank of Unicode it finds all of them, one after the other.
-/

namespace SubmissionGate.Markup

open SubmissionGate.Text

/-! ## Reading all attributes -/

def leadingGap (trailing : List Char) : List WrittenAttribute → List Char
  | [] => trailing
  | written :: _ => written.gap

def behindGap (trailing stop : List Char) : List WrittenAttribute → List Char
  | [] => stop
  | written :: rest => written.name ++ (written.value.text ++
      (leadingGap trailing rest ++ behindGap trailing stop rest))

def raws (trailing : List Char) : List WrittenAttribute → List RawAttribute
  | [] => []
  | written :: rest => written.raw (leadingGap trailing rest) :: raws trailing rest

theorem leadingGap_append_behindGap (trailing stop : List Char)
    (attributes : List WrittenAttribute) :
    leadingGap trailing attributes ++ behindGap trailing stop attributes =
      attributes.flatMap WrittenAttribute.text ++ (trailing ++ stop) := by
  induction attributes with
  | nil => rfl
  | cons written rest ih =>
    rw [leadingGap, behindGap, ih, List.flatMap_cons, WrittenAttribute.text]
    simp only [List.append_assoc]

def TagEnd (stop : List Char) : Prop :=
  ∃ rest, stop = '>' :: rest ∨ stop = '/' :: '>' :: rest

/-- A tag whose attributes the reader finds as they are written. -/
structure Legible (attributes : List WrittenAttribute) (trailing stop : List Char) : Prop where
  formed : ∀ written ∈ attributes, written.WellFormed
  plain : ∀ written ∈ attributes, written.Plain
  blank : Blanks trailing
  ended : TagEnd stop
  last : ∀ written ∈ attributes.getLast?, written.value.isBare = true → trailing = [] →
    stop.head? = some '>'

theorem TagEnd.begins {stop : List Char} (h : TagEnd stop) : Begins stop := by
  rcases h with ⟨rest, rfl | rfl⟩
  · exact ⟨'>', rest, rfl, by decide, by decide, fun h => absurd h (by decide)⟩
  · exact ⟨'/', '>' :: rest, rfl, by decide, by decide, fun _ => rfl⟩

theorem behindGap_begins {attributes : List WrittenAttribute} {trailing stop : List Char}
    (h : Legible attributes trailing stop) : Begins (behindGap trailing stop attributes) := by
  cases attributes with
  | nil => exact h.ended.begins
  | cons written rest =>
    obtain ⟨hSome, hName⟩ := (h.formed written List.mem_cons_self).name
    have hPlain := h.plain written List.mem_cons_self
    obtain ⟨c, more, hCons⟩ := List.exists_cons_of_ne_nil hSome
    have hFirst : c ∈ written.name := hCons ▸ List.mem_cons_self
    have hEnds := hName c hFirst
    simp only [WrittenAttribute.endsName, Bool.or_eq_false_iff, beq_eq_false_iff_ne] at hEnds
    refine ⟨c, _, by rw [behindGap, hCons]; rfl, hPlain c (List.mem_append_left _ hFirst), ?_, ?_⟩
    · tauto
    · tauto

theorem Legible.tail {written : WrittenAttribute} {rest : List WrittenAttribute}
    {trailing stop : List Char} (h : Legible (written :: rest) trailing stop) :
    Legible rest trailing stop where
  formed := fun other hMem => h.formed other (List.mem_cons_of_mem _ hMem)
  plain := fun other hMem => h.plain other (List.mem_cons_of_mem _ hMem)
  blank := h.blank
  ended := h.ended
  last := fun other hOther => by
    cases rest with
    | nil => cases hOther
    | cons next more => exact h.last other (by rwa [List.getLast?_cons_cons])

theorem Legible.follows {written : WrittenAttribute} {rest : List WrittenAttribute}
    {trailing stop : List Char} (h : Legible (written :: rest) trailing stop) :
    Follows written (leadingGap trailing rest) (behindGap trailing stop rest) where
  blank := by
    cases rest with
    | nil => exact h.blank
    | cons next more => exact (h.tail.formed next List.mem_cons_self).gap.2
  begins := behindGap_begins h.tail
  atOnce := fun hNone => by
    cases rest with
    | nil =>
      obtain ⟨more, rfl | rfl⟩ := h.ended
      · exact ⟨'>', more, rfl, .inl rfl⟩
      · refine ⟨'/', '>' :: more, rfl, .inr ⟨rfl, ?_⟩⟩
        cases hBare : written.value.isBare with
        | false => rfl
        | true => exact absurd (h.last written rfl hBare hNone) (by simp)
    | cons next more => exact absurd hNone (h.tail.formed next List.mem_cons_self).gap.1

theorem attribute?_tagEnd {stop : List Char} (h : TagEnd stop) (before : Char) :
    attribute? before stop = none := by
  obtain ⟨rest, rfl | rfl⟩ := h <;> simp [attribute?]

theorem admitsAttribute_of_isBlank {c : Char} (h : isBlank c = true) :
    admitsAttribute c = true := by
  simp [admitsAttribute, isSpace_of_isBlank h]

theorem admitsAttribute_gap {text gap : List Char} (hSome : gap ≠ []) (hGap : Blanks gap)
    (before : Char) : admitsAttribute (((text ++ gap).getLast?).getD before) = true := by
  rw [List.getLast?_append_of_ne_nil _ hSome, List.getLast?_eq_some_getLast hSome]
  exact admitsAttribute_of_isBlank (hGap _ (List.getLast_mem hSome))

theorem attributesFrom_written {attributes : List WrittenAttribute} {trailing stop : List Char}
    (h : Legible attributes trailing stop) {before : Char}
    (hBefore : attributes ≠ [] → admitsAttribute before = true) (size : Nat)
    (found : List RawAttribute) {fuel : Nat} (hFuel : attributes.length ≤ fuel) :
    ∃ used, attributesFrom before (behindGap trailing stop attributes) size found fuel =
        (found.reverse ++ raws trailing attributes, size + used) ∧
      (behindGap trailing stop attributes).drop used = stop := by
  -- Whether an attribute is admitted depends on the character in front of it. Behind the first one
  -- that is the end of a gap, which the hypothesis on `before` says of the first gap as well.
  induction attributes generalizing before size found fuel with
  | nil =>
    refine ⟨0, ?_, rfl⟩
    cases fuel with
    | zero => simp [attributesFrom, raws]
    | succ fuel => simp [attributesFrom, behindGap, attribute?_tagEnd h.ended, raws]
  | cons written rest ih =>
    obtain ⟨fuel, rfl⟩ := Nat.exists_eq_succ_of_ne_zero (by
      rw [List.length_cons] at hFuel
      omega : fuel ≠ 0)
    have hRead := attribute?_follows (hBefore (by simp)) (h.formed written List.mem_cons_self)
      (h.plain written List.mem_cons_self) h.follows
    let taken := written.name ++ written.value.text ++ leadingGap trailing rest
    have hText : behindGap trailing stop (written :: rest) =
        taken ++ behindGap trailing stop rest := by
      simp only [behindGap, taken, List.append_assoc]
    have hSize : (written.raw (leadingGap trailing rest)).size = taken.length := by
      simp only [WrittenAttribute.raw, taken, List.length_append]
    have hNext : rest ≠ [] → admitsAttribute ((taken.getLast?).getD before) = true := by
      intro hMore
      obtain ⟨next, more, rfl⟩ := List.exists_cons_of_ne_nil hMore
      have hGap := (h.tail.formed next List.mem_cons_self).gap
      exact admitsAttribute_gap hGap.1 hGap.2 before
    obtain ⟨used, hFrom, hDrop⟩ := ih h.tail hNext (size + taken.length)
      (written.raw (leadingGap trailing rest) :: found) (Nat.le_of_succ_le_succ hFuel)
    refine ⟨taken.length + used, ?_, ?_⟩
    · rw [attributesFrom]
      have hRead : attribute? before (behindGap trailing stop (written :: rest)) =
          some (written.raw (leadingGap trailing rest)) := hRead
      simp only [hRead, hSize]
      rw [hText, List.take_left, List.drop_left, hFrom]
      simp [raws, Nat.add_assoc]
    · rw [hText, ← List.drop_drop, List.drop_left, hDrop]

/-! ## Reading a tag -/

theorem Legible.leadingGap {attributes : List WrittenAttribute} {trailing stop : List Char}
    (h : Legible attributes trailing stop) : Blanks (leadingGap trailing attributes) := by
  cases attributes with
  | nil => exact h.blank
  | cons written rest => exact (h.formed written List.mem_cons_self).gap.2

theorem Legible.length_le {attributes : List WrittenAttribute} {trailing stop : List Char}
    (h : Legible attributes trailing stop) :
    attributes.length ≤ (behindGap trailing stop attributes).length := by
  induction attributes with
  | nil => exact Nat.zero_le _
  | cons written rest ih =>
    have hRest := ih h.tail
    have hName := List.length_pos_iff.mpr (h.formed written List.mem_cons_self).name.1
    simp only [behindGap, List.length_cons, List.length_append]
    omega

theorem Legible.endsTagName {attributes : List WrittenAttribute} {trailing stop : List Char}
    (h : Legible attributes trailing stop) {c : Char}
    (hNext : c ∈ (Markup.leadingGap trailing attributes ++
      behindGap trailing stop attributes).head?) : continuesTagName c = false := by
  rcases mem_head?_blanks h.leadingGap hNext with hBlank | ⟨hGap, hHead⟩
  · simp only [isBlank, Bool.or_eq_true, beq_iff_eq] at hBlank
    rcases hBlank with (((rfl | rfl) | rfl) | rfl) | rfl <;> decide
  · cases attributes with
    | cons written rest => exact absurd hGap (h.formed written List.mem_cons_self).gap.1
    | nil =>
      obtain ⟨rest, rfl | rfl⟩ := h.ended
      · obtain rfl : '>' = c := by simpa [behindGap] using hHead
        decide
      · obtain rfl : '/' = c := by simpa [behindGap] using hHead
        decide

def tagEnd (slash : Bool) (rest : List Char) : List Char :=
  if slash then '/' :: '>' :: rest else '>' :: rest

/-- A start tag is read as it is written, if the references in its values can be read. -/
theorem readStartTag_written {name : List Char} {attributes : List WrittenAttribute}
    {trailing : List Char} {slash : Bool} {rest : List Char}
    (hName : ∀ c ∈ name, continuesTagName c = true)
    (h : Legible attributes trailing (tagEnd slash rest)) :
    ∃ size, readStartTag (name ++ (attributes.flatMap WrittenAttribute.text ++
        (trailing ++ tagEnd slash rest))) =
      (match resolveAttributes [] (raws trailing attributes) with
        | .error count => .error count
        | .ok found => .ok (.tag ⟨String.ofList (lower name), found, slash⟩ size)) ∧
      (name ++ (attributes.flatMap WrittenAttribute.text ++
        (trailing ++ tagEnd slash rest))).drop size = rest := by
  rw [← leadingGap_append_behindGap]
  have hTake : (name ++ (leadingGap trailing attributes ++ behindGap trailing (tagEnd slash rest)
      attributes)).takeWhile continuesTagName = name :=
    takeWhile_exact hName fun c hMem => h.endsTagName hMem
  have hSeparators := separatorSize_blanks h.leadingGap (behindGap_begins h) 0
  have hStart : (name ++ (leadingGap trailing attributes ++ behindGap trailing (tagEnd slash rest)
      attributes)).take (name.length + (leadingGap trailing attributes).length) =
        name ++ leadingGap trailing attributes := by
    rw [← List.append_assoc, ← List.length_append, List.take_left]
  have hBody : (name ++ (leadingGap trailing attributes ++ behindGap trailing (tagEnd slash rest)
      attributes)).drop (name.length + (leadingGap trailing attributes).length) =
        behindGap trailing (tagEnd slash rest) attributes := by
    rw [← List.append_assoc, ← List.length_append, List.drop_left]
  have hAdmits : attributes ≠ [] → admitsAttribute
      (((name ++ leadingGap trailing attributes).getLast?).getD ' ') = true := by
    intro hMore
    obtain ⟨written, more, rfl⟩ := List.exists_cons_of_ne_nil hMore
    have hGap := (h.formed written List.mem_cons_self).gap
    exact admitsAttribute_gap hGap.1 hGap.2 ' '
  obtain ⟨used, hFrom, hDrop⟩ := attributesFrom_written h hAdmits 0 [] h.length_le
  simp only [readStartTag, hTake, List.drop_left, hSeparators, Nat.zero_add, hStart, hBody, hFrom,
    hDrop]
  have hEnd : ∀ more, (name ++ (leadingGap trailing attributes ++ behindGap trailing
      (tagEnd slash rest) attributes)).drop
        (name.length + (leadingGap trailing attributes).length + used + more) =
      (tagEnd slash rest).drop more := by
    intro more
    rw [← List.drop_drop, ← List.drop_drop, hBody, hDrop]
  cases slash with
  | false => exact ⟨_, rfl, hEnd 1⟩
  | true => exact ⟨_, rfl, hEnd 2⟩

/-! ## Names and values -/

def Readable (text : List Char) : Prop := ∃ resolved, resolveReferences text = .ok resolved

theorem readable_of_not_mem {text : List Char} (h : '&' ∉ text) : Readable text :=
  ⟨text, by simp [resolveReferences, h]⟩

theorem resolveAttributes_ok_iff (found : List (String × List Char)) (read : List RawAttribute) :
    (∃ attributes, resolveAttributes found read = .ok attributes) ↔
      ∀ raw ∈ read, Readable (raw.value.getD []) := by
  induction read generalizing found with
  | nil => simp [resolveAttributes]
  | cons raw rest ih =>
    rw [resolveAttributes, List.forall_mem_cons]
    cases hValue : resolveReferences (raw.value.getD []) with
    | error count => simp [Readable, hValue]
    | ok value =>
      have hReadable : Readable (raw.value.getD []) := ⟨value, hValue⟩
      simp only
      rw [and_iff_right hReadable]
      split
      · exact ih found
      · exact ih _

theorem resolveAttributes_names {found attributes : List (String × List Char)}
    {read : List RawAttribute} (h : resolveAttributes found read = .ok attributes)
    {entry : String × List Char} (hEntry : entry ∈ attributes) :
    entry ∈ found ∨ ∃ raw ∈ read, entry.1 = String.ofList (lower raw.name) := by
  induction read generalizing found with
  | nil =>
    cases h
    exact .inl (List.mem_reverse.mp hEntry)
  | cons raw rest ih =>
    rw [resolveAttributes] at h
    split at h
    · cases h
    · simp only at h
      split at h
      · rcases ih h with hFound | ⟨other, hOther, hName⟩
        · exact .inl hFound
        · exact .inr ⟨other, List.mem_cons_of_mem _ hOther, hName⟩
      · rcases ih h with hFound | ⟨other, hOther, hName⟩
        · rcases List.mem_cons.mp hFound with rfl | hFound
          · exact .inr ⟨raw, List.mem_cons_self, rfl⟩
          · exact .inl hFound
        · exact .inr ⟨other, List.mem_cons_of_mem _ hOther, hName⟩

theorem mem_raws {trailing : List Char} {attributes : List WrittenAttribute} {raw : RawAttribute}
    (h : raw ∈ raws trailing attributes) :
    ∃ written ∈ attributes, raw.name = written.name ∧ raw.value = written.value.content? := by
  induction attributes with
  | nil => cases h
  | cons written rest ih =>
    rcases List.mem_cons.mp h with rfl | hRest
    · exact ⟨written, List.mem_cons_self, rfl, rfl⟩
    · obtain ⟨other, hOther, hSame⟩ := ih hRest
      exact ⟨other, List.mem_cons_of_mem _ hOther, hSame⟩

theorem raws_readable_iff (trailing : List Char) (attributes : List WrittenAttribute) :
    (∀ raw ∈ raws trailing attributes, Readable (raw.value.getD [])) ↔
      ∀ written ∈ attributes, Readable (written.value.content?.getD []) := by
  induction attributes with
  | nil => simp [raws]
  | cons written rest ih =>
    rw [raws, List.forall_mem_cons, List.forall_mem_cons, ih]
    rfl

end SubmissionGate.Markup
