import Mathlib.Algebra.Ring.Int.Defs
import SubmissionGate.Submission
import SubmissionGate.Proofs.Gate.Stages
import SubmissionGate.Proofs.Text.Utf8

/-!
# The text of a payload

A payload without NUL is text if it is well-formed behind an optional byte-order mark. The places of
its faults are stated in the payload itself. A NUL is reported at its place, whereas an ill-formed
sequence is reported by its distance from the mark, which is its place only without one.
-/

namespace SubmissionGate.Submission

def markSize (bytes : List UInt8) : Nat := if Utf8.mark <+: bytes then Utf8.mark.length else 0

def unmarked (bytes : List UInt8) : List UInt8 := bytes.drop (markSize bytes)

structure FirstNul (bytes : List UInt8) (place : Nat) : Prop where
  nul : bytes[place]? = some 0
  first : 0 ∉ bytes.take place

/-- Where in the bytes, the mark included, the first ill-formed sequence starts. -/
structure IllFormedAt (bytes : List UInt8) (place : Nat) : Prop where
  behindMark : markSize bytes ≤ place
  fault : Utf8.FaultAt (unmarked bytes) (place - markSize bytes)

/-- The payload is refused with an issue that names the offset. -/
def Reports (label : String) (payload : ByteArray) (offset : Nat) : Prop :=
  ∃ fault, textOfPayload label payload = .error fault ∧ fault.code = .invalidGameFile ∧
    fault.detail = [("offset", .int offset)]

theorem markSize_marked {bytes : List UInt8} (h : Utf8.mark <+: bytes) : markSize bytes = 3 :=
  if_pos h

theorem markSize_eq_zero_iff {bytes : List UInt8} :
    markSize bytes = 0 ↔ ¬ Utf8.mark <+: bytes := by
  unfold markSize
  split <;> simp_all [Utf8.mark]

theorem markSize_take {bytes : List UInt8} {place : Nat} (h : markSize bytes ≤ place) :
    markSize (bytes.take place) = markSize bytes := by
  by_cases hMarked : Utf8.mark <+: bytes
  · rw [markSize_marked hMarked] at h
    have hKept : Utf8.mark <+: bytes.take place :=
      List.prefix_take_iff.mpr ⟨hMarked, h⟩
    rw [markSize_marked hMarked, markSize_marked hKept]
  · have hNone : ¬ Utf8.mark <+: bytes.take place :=
      fun hKept => hMarked (hKept.trans (List.take_prefix place bytes))
    rw [markSize_eq_zero_iff.mpr hMarked, markSize_eq_zero_iff.mpr hNone]

theorem unmarked_take {bytes : List UInt8} {place : Nat} (h : markSize bytes ≤ place) :
    unmarked (bytes.take place) = (unmarked bytes).take (place - markSize bytes) := by
  rw [unmarked, markSize_take h, List.drop_take, unmarked]

theorem decodeMarked_eq (bytes : List UInt8) :
    Utf8.decodeMarked bytes = Utf8.decode (unmarked bytes) := by
  unfold Utf8.decodeMarked unmarked markSize
  simp only [List.isPrefixOf_iff_prefix]
  split
  · rfl
  · rw [List.drop_zero]

theorem nulOffset?_eq_some_iff {bytes : List UInt8} {place : Nat} :
    nulOffset? bytes = some place ↔ FirstNul bytes place := by
  unfold nulOffset?
  rw [List.findIdx?_eq_some_iff_getElem]
  constructor
  · rintro ⟨hInside, hNul, hFirst⟩
    refine ⟨by rw [List.getElem?_eq_getElem hInside, beq_iff_eq.mp hNul], fun hMem => ?_⟩
    obtain ⟨earlier, hEarlier, hZero⟩ := List.mem_take_iff_getElem.mp hMem
    exact hFirst earlier (by omega) (beq_iff_eq.mpr hZero)
  · rintro ⟨hNul, hFirst⟩
    obtain ⟨hInside, hZero⟩ := List.getElem?_eq_some_iff.mp hNul
    refine ⟨hInside, beq_iff_eq.mpr hZero, fun earlier hEarlier hSame => hFirst ?_⟩
    exact List.mem_take_iff_getElem.mpr ⟨earlier, by omega, beq_iff_eq.mp hSame⟩

theorem IllFormedAt.unique {bytes : List UInt8} {place other : Nat} (h : IllFormedAt bytes place)
    (hOther : IllFormedAt bytes other) : place = other := by
  obtain ⟨fault, hFault, hPlace⟩ := Utf8.decode_error_iff.mpr h.fault
  obtain ⟨same, hSame, hOtherPlace⟩ := Utf8.decode_error_iff.mpr hOther.fault
  cases hFault.symm.trans hSame
  have hBehind := h.behindMark
  have hOtherBehind := hOther.behindMark
  omega

variable (label : String) (payload : ByteArray)

/-- A payload is accepted as the text that its bytes spell behind the mark. -/
theorem textOfPayload_eq_ok_iff (text : List Char) :
    textOfPayload label payload = .ok text ↔
      0 ∉ payload.data.toList ∧ unmarked payload.data.toList = Utf8.spelled text := by
  rw [Gate.textOfPayload_ok_iff, ← Utf8.decode_ok_iff, ← decodeMarked_eq]
  exact ⟨fun h => ⟨h.noNul, h.decoded⟩, fun h => ⟨h.1, h.2⟩⟩

theorem reports_iff (offset : Nat) :
    Reports label payload offset ↔
      FirstNul payload.data.toList offset ∨ 0 ∉ payload.data.toList ∧
        IllFormedAt payload.data.toList (markSize payload.data.toList + offset) := by
  unfold Reports textOfPayload
  simp only
  cases hNul : nulOffset? payload.data.toList with
  | some place =>
    have hFirst := nulOffset?_eq_some_iff.mp hNul
    have hHas : 0 ∈ payload.data.toList := List.mem_of_getElem? hFirst.nul
    rw [or_iff_left (fun h => h.1 hHas), ← nulOffset?_eq_some_iff, hNul]
    simp [Fault.code, Fault.detail, Value.int]
  | none =>
    have hNoNul := Gate.nulOffset?_eq_none_iff.mp hNul
    have hNotNul : ¬ FirstNul payload.data.toList offset := fun h =>
      hNoNul (List.mem_of_getElem? h.nul)
    rw [or_iff_right hNotNul, and_iff_right hNoNul, decodeMarked_eq]
    have hPlace : IllFormedAt payload.data.toList (markSize payload.data.toList + offset) ↔
        Utf8.FaultAt (unmarked payload.data.toList) offset := by
      refine ⟨fun h => by simpa using h.fault, fun h => ⟨Nat.le_add_right .., by simpa using h⟩⟩
    rw [hPlace, ← Utf8.decode_error_iff]
    cases Utf8.decode (unmarked payload.data.toList) with
    | ok text => simp
    | error fault => simp [Fault.code, Fault.detail, Value.int]

theorem textOfPayload_decides :
    (∃ text, textOfPayload label payload = .ok text) ∨
      ∃ offset, Reports label payload offset := by
  cases h : textOfPayload label payload with
  | ok text => exact .inl ⟨text, rfl⟩
  | error fault =>
    right
    simp only [Reports, h]
    unfold textOfPayload at h
    simp only at h
    split at h
    · next place _ =>
      cases h
      exact ⟨place, _, rfl, rfl, rfl⟩
    · split at h
      · cases h
      · next flaw _ =>
        cases h
        exact ⟨flaw.offset, _, rfl, rfl, rfl⟩

theorem textOfPayload_before {place : Nat} (hNoNul : 0 ∉ payload.data.toList)
    (hPlace : IllFormedAt payload.data.toList place) :
    ∃ text, textOfPayload label ⟨(payload.data.toList.take place).toArray⟩ = .ok text := by
  obtain ⟨text, hText⟩ := hPlace.fault.before
  refine ⟨text, (textOfPayload_eq_ok_iff _ _ _).mpr ⟨?_, ?_⟩⟩
  · exact fun hMem => hNoNul (List.mem_of_mem_take hMem)
  · rw [unmarked_take hPlace.behindMark, hText]

/-- An ill-formed sequence is reported at its own place exactly without a mark. -/
theorem reports_place_iff {place : Nat} (hNoNul : 0 ∉ payload.data.toList)
    (hPlace : IllFormedAt payload.data.toList place) :
    Reports label payload place ↔ ¬ Utf8.mark <+: payload.data.toList := by
  have hNotNul : ¬ FirstNul payload.data.toList place := fun h =>
    hNoNul (List.mem_of_getElem? h.nul)
  rw [reports_iff, or_iff_right hNotNul, and_iff_right hNoNul, ← markSize_eq_zero_iff]
  constructor
  · intro hShifted
    have hSame := hShifted.unique hPlace
    omega
  · intro hUnmarked
    rwa [hUnmarked, Nat.zero_add]

/-- Which payloads are text, and at which offset the others are refused. -/
theorem textOfPayload_exact :
    (∀ text, textOfPayload label payload = .ok text ↔
      0 ∉ payload.data.toList ∧ unmarked payload.data.toList = Utf8.spelled text) ∧
    ((∃ text, textOfPayload label payload = .ok text) ∨
      ∃ offset, Reports label payload offset) ∧
    (∀ offset, Reports label payload offset ↔
      FirstNul payload.data.toList offset ∨ 0 ∉ payload.data.toList ∧
        IllFormedAt payload.data.toList (markSize payload.data.toList + offset)) ∧
    ∀ place, 0 ∉ payload.data.toList → IllFormedAt payload.data.toList place →
      (Reports label payload place ↔ ¬ Utf8.mark <+: payload.data.toList) ∧
      ∃ text, textOfPayload label ⟨(payload.data.toList.take place).toArray⟩ = .ok text :=
  ⟨textOfPayload_eq_ok_iff label payload, textOfPayload_decides label payload,
    reports_iff label payload, fun _ hNoNul hPlace =>
      ⟨reports_place_iff label payload hNoNul hPlace,
        textOfPayload_before label payload hNoNul hPlace⟩⟩

def markedPayload : ByteArray := ⟨#[0xEF, 0xBB, 0xBF, 0x61, 0xFF]⟩

theorem markedPayload_illFormedAt : IllFormedAt markedPayload.data.toList 4 where
  behindMark := by decide
  fault := {
    inside := by decide
    before := ⟨['a'], by decide⟩
    broken := Utf8.readChar_error_iff.mp ⟨_, rfl⟩ }

theorem textOfPayload_exact_marked :
    0 ∉ markedPayload.data.toList ∧ IllFormedAt markedPayload.data.toList 4 ∧
      (Reports "Submission" markedPayload 4 ↔ ¬ Utf8.mark <+: markedPayload.data.toList) ∧
      ∃ text, textOfPayload "Submission" ⟨(markedPayload.data.toList.take 4).toArray⟩ = .ok text :=
  have hNoNul : 0 ∉ markedPayload.data.toList := by decide
  ⟨hNoNul, markedPayload_illFormedAt,
    (textOfPayload_exact "Submission" markedPayload).2.2.2 4 hNoNul markedPayload_illFormedAt⟩

/-- The byte that breaks the text is at the place 4, yet the place 1 is reported, in front of which
the mark is cut apart. -/
theorem marked_fault_displaced :
    IllFormedAt markedPayload.data.toList 4 ∧ ¬ Reports "Submission" markedPayload 4 ∧
      Reports "Submission" markedPayload 1 ∧
      ¬ ∃ text,
        textOfPayload "Submission" ⟨(markedPayload.data.toList.take 1).toArray⟩ = .ok text := by
  have hNoNul : 0 ∉ markedPayload.data.toList := by decide
  refine ⟨markedPayload_illFormedAt, fun h => ?_, ?_, ?_⟩
  · rw [reports_place_iff _ _ hNoNul markedPayload_illFormedAt] at h
    exact h (by decide)
  · exact (reports_iff _ _ 1).mpr (.inr ⟨hNoNul, markedPayload_illFormedAt⟩)
  · rintro ⟨text, hText⟩
    have hSpelled := Utf8.decode_ok_iff.mpr ((textOfPayload_eq_ok_iff _ _ _).mp hText).2
    obtain ⟨fault, hFault, -⟩ := Utf8.decode_error_iff.mpr
      (show Utf8.FaultAt [0xEF] 0 from
        ⟨by decide, ⟨[], rfl⟩, Utf8.readChar_error_iff.mp ⟨_, rfl⟩⟩)
    cases hSpelled.symm.trans hFault

end SubmissionGate.Submission
