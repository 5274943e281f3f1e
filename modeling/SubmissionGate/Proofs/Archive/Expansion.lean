import SubmissionGate.Proofs.Archive.Inflation
import SubmissionGate.Proofs.Archive.Quantity

/-!
# What a delivery gives

All data of a stored or deflated entry, decoded in one go, is its expansion. A member is read in
chunks, its compressed data is fetched in pieces and decoded with limited room, and none of this
shows: once a delivery comes to the end of an entry, its data is the expansion cut at the declared
size. Whatever the compression, no more than the declared size is given, and what was given at the
end has the checksum of the directory.
-/

namespace SubmissionGate.Archive

open Inflate

/-! ## Checksums of pieces -/

namespace Checksum

theorem foldlM_loop_eq (data : ByteArray) (remainder : UInt32) (count offset : Nat)
    (h : data.size - offset ≤ count) :
    ByteArray.foldlM.loop (m := Id) (fun first byte => pure (step first byte)) data data.size
      (Nat.le_refl _) count offset remainder =
      (data.data.toList.drop offset).foldl step remainder := by
  induction count generalizing offset remainder with
  | zero =>
    have hNone : data.data.toList.drop offset = [] :=
      List.drop_eq_nil_of_le (by simpa using by omega)
    rw [hNone, ByteArray.foldlM.loop, dif_neg (by omega)]
    rfl
  | succ count ih =>
    rw [ByteArray.foldlM.loop]
    split
    · next hLess =>
      rw [List.drop_eq_getElem_cons (by simpa using hLess), List.foldl_cons]
      exact ih _ (offset + 1) (by omega)
    · next hOver =>
      have hNone : data.data.toList.drop offset = [] :=
        List.drop_eq_nil_of_le (by simpa using by omega)
      rw [hNone]
      rfl

theorem update_eq (checksum : UInt32) (data : ByteArray) :
    update checksum data =
      data.data.toList.foldl step (checksum ^^^ 0xFFFFFFFF) ^^^ 0xFFFFFFFF := by
  have hLoop := foldlM_loop_eq data (checksum ^^^ 0xFFFFFFFF) data.size 0 (Nat.le_refl _)
  unfold update ByteArray.foldl ByteArray.foldlM
  simp only [Nat.le_refl, dif_pos]
  rw [List.drop_zero] at hLoop
  exact congrArg (· ^^^ 0xFFFFFFFF) hLoop

theorem update_append (checksum : UInt32) (first second : ByteArray) :
    update checksum (first ++ second) = update (update checksum first) second := by
  have hTwice : ∀ remainder : UInt32, remainder ^^^ 0xFFFFFFFF ^^^ 0xFFFFFFFF = remainder := by
    intro remainder
    rw [UInt32.xor_assoc, UInt32.xor_self, UInt32.xor_zero]
  rw [update_eq, update_eq, update_eq, hTwice, ByteArray.data_append, Array.toList_append,
    List.foldl_append]

end Checksum

/-! ## Expansions -/

namespace Member

def dataStart (payload : ByteArray) (header : Nat) : Nat :=
  let nameStop := min payload.size (header + headerWidth + field16 payload (header + 26))
  min payload.size (nameStop + field16 payload (header + 28))

end Member

def Entry.start (entry : Entry) (payload : ByteArray) : Nat :=
  Member.dataStart payload entry.offset.toNat

/-- As much of the compressed data of an entry as the archive holds. -/
def Entry.source (entry : Entry) (payload : ByteArray) : Source :=
  ⟨payload, min payload.size (entry.start payload + entry.compressedSize)⟩

def Entry.IsNative (entry : Entry) : Prop := entry.method = 0 ∨ entry.method = 8

/-- The data of a stored or deflated entry, decoded without regard to the size that is declared. -/
def Entry.expansion (entry : Entry) (payload : ByteArray) : ByteArray :=
  if entry.method = 0 then
    payload.extract (entry.start payload) (entry.start payload + entry.compressedSize)
  else Inflater.expansion (entry.source payload) (entry.start payload)

/-- The expansion up to the declared size. -/
def Entry.content (entry : Entry) (payload : ByteArray) : ByteArray :=
  (entry.expansion payload).extract 0 entry.size

theorem Entry.source_fetched (entry : Entry) (payload : ByteArray) :
    (entry.source payload).stop ≤ (entry.source payload).bytes.size := Nat.min_le_left _ _

namespace Member

/-- What holds of a member of which some bytes have been taken over. -/
structure Accepted (payload : ByteArray) (entry : Entry) (member : Member) (taken : ByteArray) :
    Prop where
  origin : member.payload = payload
  begun : entry.start payload ≤ member.position
  fetched : member.position + member.compressedLeft = entry.start payload + entry.compressedSize
  inside : member.position ≤ payload.size
  left : member.left = entry.size - taken.size
  checksum : member.checksum = entry.checksum
  running : member.running = Checksum.update Checksum.empty taken

/-- Which data a member has decoded. Nothing is known of what the platform decodes. -/
def Decoded (payload : ByteArray) (entry : Entry) (member : Member) (output : ByteArray) : Prop :=
  match member.coding with
  | .stored => entry.method = 0 ∧
      output = payload.extract (entry.start payload) member.position
  | .deflated inflater _ => entry.method = 8 ∧ inflater.output = output ∧
      Inflater.Steps (entry.source payload) (.start (entry.start payload)) inflater
  | .further _ _ => ¬ entry.IsNative

structure Complete (payload : ByteArray) (entry : Entry) (taken : ByteArray) : Prop where
  content : entry.IsNative → taken = entry.content payload
  checksum : Checksum.update Checksum.empty taken = entry.checksum

/-- A member of which some bytes were taken over between two pieces. -/
structure Follows (payload : ByteArray) (entry : Entry) (member : Member) (taken : ByteArray) :
    Prop where
  accepted : Accepted payload entry member taken
  decoded : ∃ output, Decoded payload entry member output ∧ taken = output.extract 0 entry.size
  complete : member.ended = true → Complete payload entry taken

section

variable {payload taken output data : ByteArray} {entry : Entry} {member after : Member}

theorem extract_eq_content (hPrefix : ∃ rest, entry.expansion payload = output ++ rest)
    (h : entry.size ≤ output.size) : output.extract 0 entry.size = entry.content payload := by
  obtain ⟨rest, hRest⟩ := hPrefix
  rw [Entry.content, hRest, ByteArray.extract_append, Nat.zero_sub, Nat.sub_eq_zero_of_le h,
    ByteArray.extract_same, ByteArray.append_empty]

theorem Accepted.change (h : Accepted payload entry member taken) (coding : Coding) (ended : Bool)
    (pending : ByteArray) : Accepted payload entry { member with coding, ended, pending } taken :=
  ⟨h.origin, h.begun, h.fetched, h.inside, h.left, h.checksum, h.running⟩

/-! ### Pieces -/

theorem fetch_ok {wanted count : Nat} (h : member.fetch wanted = .ok (count, after)) :
    after = { member with
      position := member.position + count
      compressedLeft := member.compressedLeft - count } ∧
    count ≤ member.compressedLeft ∧ count ≤ member.payload.size - member.position ∧
    (member.compressedLeft ≠ 0 → 0 < count) := by
  unfold fetch at h
  split at h
  · next hNone =>
    cases h
    exact ⟨rfl, Nat.zero_le _, Nat.zero_le _, fun hSome => absurd hNone hSome⟩
  · simp only at h
    split at h
    · cases h
    · next hCount =>
      cases h
      refine ⟨rfl, ?_, Nat.min_le_right _ _, fun _ => Nat.pos_of_ne_zero hCount⟩
      exact Nat.le_trans (Nat.min_le_left _ _) (Nat.min_le_right _ _)

theorem Accepted.fetch {wanted count : Nat} (h : Accepted payload entry member taken)
    (hFetch : member.fetch wanted = .ok (count, after)) :
    Accepted payload entry after taken := by
  obtain ⟨rfl, hLeft, hInside, -⟩ := fetch_ok hFetch
  have hFetched := h.fetched
  have hBegun := h.begun
  have hBefore := h.inside
  rw [h.origin] at hInside
  exact ⟨h.origin, by simp only; omega, by simp only; omega, by simp only; omega, h.left,
    h.checksum, h.running⟩

theorem accept_ok {decoded : ByteArray} (h : member.accept decoded = .ok (data, after)) :
    data = decoded.extract 0 member.left ∧
    after = { member with
      left := member.left - data.size
      ended := member.ended || member.left - data.size == 0
      running := Checksum.update member.running data } ∧
    (after.ended = true → after.running = after.checksum) := by
  unfold accept at h
  simp only at h
  split at h
  · cases h
  · next hSound =>
    cases h
    refine ⟨rfl, rfl, fun hEnded => ?_⟩
    simp only [Bool.and_eq_true, bne_iff_ne, ne_eq, not_and, Decidable.not_not] at hSound
    exact hSound hEnded

theorem Accepted.accept {decoded : ByteArray} (h : Accepted payload entry member taken)
    (hTaken : taken = output.extract 0 entry.size)
    (hOk : member.accept decoded = .ok (data, after)) :
    Accepted payload entry after (taken ++ data) ∧
      taken ++ data = (output ++ decoded).extract 0 entry.size := by
  obtain ⟨hData, rfl, -⟩ := accept_ok hOk
  have hSize : taken.size = min entry.size output.size := by
    rw [hTaken, ByteArray.size_extract, Nat.sub_zero]
  have hLeft : member.left = entry.size - output.size := by
    rw [h.left, hSize]
    omega
  refine ⟨⟨h.origin, h.begun, h.fetched, h.inside, ?_, h.checksum, ?_⟩, ?_⟩
  · simp only [h.left, ByteArray.size_append]
    omega
  · simp only [h.running, Checksum.update_append]
  · rw [ByteArray.extract_append, Nat.zero_sub, ← hTaken, ← hLeft, ← hData]

theorem Entry.expansion_deflated (payload : ByteArray) {entry : Entry} (h : entry.method = 8) :
    entry.expansion payload =
      Inflater.expansion (entry.source payload) (entry.start payload) := by
  rw [Entry.expansion, if_neg (by omega)]

theorem Decoded.begins (h : Decoded payload entry member output) (hNative : entry.IsNative)
    (hAccepted : Accepted payload entry member taken) :
    ∃ rest, entry.expansion payload = output ++ rest := by
  have hBegun := hAccepted.begun
  have hFetched := hAccepted.fetched
  unfold Decoded at h
  split at h
  · rw [Entry.expansion, if_pos h.1, h.2]
    exact ⟨_, ByteArray.extract_eq_extract_append_extract _ hBegun (by omega)⟩
  · obtain ⟨hMethod, hOutput, hSteps⟩ := h
    rw [Entry.expansion_deflated payload hMethod, ← hOutput]
    exact Inflater.expansion_begins (entry.source_fetched payload) hSteps
  · exact absurd hNative h

theorem Follows.of_accept {decoded : ByteArray} {part : Member}
    (h : Accepted payload entry part taken) (hTaken : taken = output.extract 0 entry.size)
    (hDecoded : Decoded payload entry part (output ++ decoded))
    (hEnded : entry.IsNative → part.ended = true → entry.expansion payload = output ++ decoded)
    (hOk : part.accept decoded = .ok (data, after)) :
    Follows payload entry after (taken ++ data) := by
  obtain ⟨hAccepted, hAll⟩ := h.accept hTaken hOk
  obtain ⟨-, hAfter, hPinned⟩ := accept_ok hOk
  have hCoding : Decoded payload entry after (output ++ decoded) := by
    rw [hAfter]
    exact hDecoded
  refine ⟨hAccepted, ⟨_, hCoding, hAll⟩, fun hOver => ⟨fun hNative => ?_, ?_⟩⟩
  · rw [hAll]
    have hCause : part.ended = true ∨ after.left = 0 := by
      rw [hAfter] at hOver ⊢
      simpa using hOver
    rcases hCause with hPart | hLeft
    · rw [Entry.content, hEnded hNative hPart]
    · refine extract_eq_content (hDecoded.begins hNative h) ?_
      have hSize : (taken ++ data).size ≤ (output ++ decoded).size := by
        rw [hAll, ByteArray.size_extract]
        omega
      have hDeclared := hAccepted.left
      omega
  · rw [← hAccepted.running, ← hAccepted.checksum]
    exact hPinned hOver

def waiting (member : Member) : Nat :=
  match member.coding with
  | .deflated _ untouched => untouched
  | .stored | .further _ _ => 0

/-- More pieces in a row than this are never read without giving what is wanted. -/
def stretch (member : Member) : Nat := member.compressedLeft + min member.waiting 1

/-- What a piece does for a read: it gives what is wanted, ends the entry or shortens the rest. -/
def Moves (member : Member) (wanted : Nat) (data : ByteArray) (after : Member) : Prop :=
  after.ended = true ∨ wanted ≤ data.size ∨ after.stretch < member.stretch

theorem readPiece_stored {wanted : Nat} (hStored : member.coding = .stored)
    (h : Follows payload entry member taken) (hOk : member.readPiece wanted = .ok (data, after)) :
    Follows payload entry after (taken ++ data) ∧ Moves member wanted data after ∧
      after.pending = member.pending := by
  obtain ⟨output, hDecoded, hTaken⟩ := h.decoded
  rw [Decoded, hStored] at hDecoded
  obtain ⟨hMethod, hOutput⟩ := hDecoded
  rw [readPiece, hStored] at hOk
  simp only at hOk
  split at hOk
  · cases hOk
  · next count fetched hFetch =>
    have hAccepted := h.accepted.fetch hFetch
    obtain ⟨hFetched, hLeft, -, hSome⟩ := fetch_ok hFetch
    have hBegun := h.accepted.begun
    have hPosition : fetched.position = member.position + count := by rw [hFetched]
    have hData : output ++ fetched.payload.extract (fetched.position - count) fetched.position =
        payload.extract (entry.start payload) fetched.position := by
      rw [hOutput, hAccepted.origin, hPosition, Nat.add_sub_cancel]
      exact (ByteArray.extract_eq_extract_append_extract _ hBegun (by omega)).symm
    have hPart : Accepted payload entry { fetched with ended := fetched.compressedLeft == 0 }
        taken := hAccepted.change _ _ _
    obtain ⟨-, hAfter, -⟩ := accept_ok hOk
    have hCoding : fetched.coding = .stored := by rw [hFetched, ← hStored]
    refine ⟨.of_accept hPart hTaken ?_ (fun _ hEnded => ?_) hOk, ?_, ?_⟩
    · simp only [Decoded, hCoding, hData, hMethod, and_self]
    · have hNone : fetched.compressedLeft = 0 := by simpa using hEnded
      have hStop := hAccepted.fetched
      rw [hNone, Nat.add_zero] at hStop
      rw [hData, hStop, Entry.expansion, if_pos hMethod]
    · by_cases hNone : member.compressedLeft = 0
      · left
        simp [hAfter, hFetched, hNone]
      · right; right
        have hCount := hSome hNone
        simp only [hAfter, stretch, waiting, hStored, hFetched]
        omega
    · rw [hAfter, hFetched]

theorem feed_ok {codec : Codec} {fed : List ByteArray} {count : Nat}
    (h : member.feed codec fed count = .ok (data, after)) :
    ∃ pieces decoded finished, accept { member with
        coding := .further codec pieces
        ended := finished || member.compressedLeft == 0 } decoded = .ok (data, after) := by
  unfold feed at h
  simp only at h
  split at h
  · cases h
  · next decoded finished _ => exact ⟨_, decoded, finished, h⟩

theorem readPiece_further {codec : Codec} {fed : List ByteArray} {wanted : Nat}
    (hFurther : member.coding = .further codec fed) (h : Follows payload entry member taken)
    (hOk : member.readPiece wanted = .ok (data, after)) :
    Follows payload entry after (taken ++ data) ∧ Moves member wanted data after ∧
      after.pending = member.pending := by
  obtain ⟨output, hDecoded, hTaken⟩ := h.decoded
  rw [Decoded, hFurther] at hDecoded
  rw [readPiece, hFurther] at hOk
  simp only at hOk
  split at hOk
  · cases hOk
  · next count fetched hFetch =>
    obtain ⟨hFetched, -, -, hSome⟩ := fetch_ok hFetch
    obtain ⟨pieces, decoded, finished, hAccept⟩ := feed_ok hOk
    have hPart : Accepted payload entry { fetched with
        coding := .further codec pieces
        ended := finished || fetched.compressedLeft == 0 } taken :=
      (h.accepted.fetch hFetch).change _ _ _
    obtain ⟨-, hAfter, -⟩ := accept_ok hAccept
    refine ⟨.of_accept hPart hTaken hDecoded (fun hNative => absurd hNative hDecoded) hAccept,
      ?_, ?_⟩
    · by_cases hNone : member.compressedLeft = 0
      · left
        simp [hAfter, hFetched, hNone]
      · right; right
        have hCount := hSome hNone
        simp only [hAfter, stretch, waiting, hFurther, hFetched]
        omega
    · rw [hAfter, hFetched]

/-! ### Decompressed pieces -/

def fetchedSource (member : Member) : Source := ⟨member.payload, member.position⟩

def idle (member : Member) (inflater : Inflater) (pause : Pause) : Nat :=
  if pause = .full then inflater.untouched member.fetchedSource else 0

def isOver (member : Member) (inflater : Inflater) (pause : Pause) : Bool :=
  pause = .finished || (member.compressedLeft = 0 && member.idle inflater pause = 0)

/-- The decompressor after a pause, at the end of the data with the last byte used up. -/
def settled (member : Member) (inflater : Inflater) (pause : Pause) : Inflater :=
  if member.isOver inflater pause then (inflater.advance member.fetchedSource flushRoom).1
  else inflater

theorem decode_ok {inflater : Inflater} {wanted : Nat}
    (h : member.decode inflater wanted = .ok (data, after)) :
    ∃ next pause, inflater.advance member.fetchedSource (max wanted leastPiece) = (next, pause) ∧
      accept { member with
          coding := .deflated (member.settled next pause) (member.idle next pause)
          ended := member.isOver next pause }
        ((member.settled next pause).output.extract inflater.output.size
          (member.settled next pause).output.size) = .ok (data, after) := by
  unfold decode at h
  simp only at h
  split at h
  · cases h
  · next next pause _ hRun => exact ⟨next, pause, hRun, h⟩

theorem Accepted.source_continues (h : Accepted payload entry member taken) :
    (entry.source payload).Continues member.fetchedSource := by
  have hFetched := h.fetched
  have hInside := h.inside
  refine ⟨h.origin.symm, ?_⟩
  simp only [Entry.source, fetchedSource]
  omega

theorem Accepted.source_eq (h : Accepted payload entry member taken)
    (hNone : member.compressedLeft = 0) : entry.source payload = member.fetchedSource := by
  have hFetched := h.fetched
  have hInside := h.inside
  rw [Entry.source, fetchedSource, h.origin]
  congr
  omega

theorem Accepted.fetchedSource_inside (h : Accepted payload entry member taken) :
    member.fetchedSource.stop ≤ member.fetchedSource.bytes.size := by
  rw [fetchedSource, h.origin]
  exact h.inside

theorem Accepted.settled_steps (h : Accepted payload entry member taken) (inflater : Inflater)
    (pause : Pause) :
    Inflater.Steps member.fetchedSource inflater (member.settled inflater pause) := by
  unfold settled
  split
  · exact (Inflater.advance_paused h.fetchedSource_inside inflater flushRoom).steps
  · exact .refl

theorem Accepted.flush_stuck (h : Accepted payload entry member taken) {inflater : Inflater}
    (hOwed : Inflater.owed inflater.phase ≤ 258)
    (hTouched : inflater.untouched member.fetchedSource = 0) :
    Inflater.Stuck member.fetchedSource (inflater.advance member.fetchedSource flushRoom).1 := by
  refine (Inflater.advance_stuck h.fetchedSource_inside ?_).2
  simp only [Inflater.untouched] at hTouched
  simp only [Inflater.promise, Source.ahead, flushRoom]
  omega

theorem Accepted.settled_stuck (h : Accepted payload entry member taken)
    {inflater next : Inflater} {room : Nat} {pause : Pause}
    (hPaused : Inflater.Paused member.fetchedSource inflater room (next, pause))
    (hOwed : Inflater.owed next.phase ≤ 258) (hOver : member.isOver next pause = true) :
    Inflater.Stuck (entry.source payload) (member.settled next pause) := by
  have hSteps := h.settled_steps next pause
  have hCause := hOver
  simp only [isOver, Bool.or_eq_true, Bool.and_eq_true, decide_eq_true_eq] at hCause
  by_cases hFinished : pause = .finished
  · have hPhase := hPaused.finished hFinished
    rw [hSteps.of_stuck (Inflater.stuck_finished hPhase)]
    exact Inflater.stuck_finished hPhase
  · obtain ⟨hNone, hIdle⟩ := hCause.resolve_left hFinished
    rw [h.source_eq hNone]
    by_cases hFull : pause = .full
    · rw [idle, if_pos hFull] at hIdle
      rw [settled, if_pos hOver]
      exact h.flush_stuck hOwed hIdle
    · have hStuck := hPaused.stuck hFull
      rw [hSteps.of_stuck hStuck]
      exact hStuck

/-- A piece gives what is wanted, ends the entry or has used up all that was fetched. -/
theorem Accepted.decode_moves (h : Accepted payload entry member taken) {inflater : Inflater}
    {wanted : Nat} (hOk : member.decode inflater wanted = .ok (data, after)) :
    after.ended = true ∨ wanted ≤ data.size ∨
      after.waiting = 0 ∧ member.compressedLeft ≠ 0 ∧
        after.compressedLeft = member.compressedLeft := by
  obtain ⟨next, pause, hRun, hAccept⟩ := decode_ok hOk
  have hPaused := Inflater.advance_paused h.fetchedSource_inside inflater (max wanted leastPiece)
  rw [hRun] at hPaused
  obtain ⟨hData, hAfter, -⟩ := accept_ok hAccept
  by_cases hFull : pause = .full
  · have hRoom := hPaused.full hFull
    obtain ⟨written, hWritten⟩ := (h.settled_steps next pause).output
    have hSize := congrArg ByteArray.size hData
    simp only [ByteArray.size_extract, hWritten, ByteArray.size_append] at hSize hRoom
    by_cases hLeft : member.left ≤ data.size
    · left
      simp [hAfter, Nat.sub_eq_zero_of_le hLeft]
    · right; left
      omega
  · by_cases hOver : member.isOver next pause = true
    · left
      simp [hAfter, hOver]
    · right; right
      have hIdle : member.idle next pause = 0 := by rw [idle, if_neg hFull]
      simp only [isOver, hIdle, decide_true, Bool.and_true, Bool.or_eq_true, not_or,
        decide_eq_true_eq] at hOver
      exact ⟨by simp only [hAfter, waiting, hIdle], hOver.2, by rw [hAfter]⟩

theorem decode_follows {inflater : Inflater} {wanted : Nat}
    (h : Accepted payload entry member taken) (hMethod : entry.method = 8)
    (hSteps : Inflater.Steps (entry.source payload) (.start (entry.start payload)) inflater)
    (hTaken : taken = inflater.output.extract 0 entry.size)
    (hOk : member.decode inflater wanted = .ok (data, after)) :
    Follows payload entry after (taken ++ data) ∧ after.pending = member.pending := by
  obtain ⟨next, pause, hRun, hAccept⟩ := decode_ok hOk
  have hPaused := Inflater.advance_paused h.fetchedSource_inside inflater (max wanted leastPiece)
  rw [hRun] at hPaused
  have hMore := h.source_continues
  have hNext : Inflater.Steps (entry.source payload) (.start (entry.start payload)) next :=
    hSteps.trans (Inflater.Steps.continues hMore hPaused.steps)
  have hSettled := h.settled_steps next pause
  have hReached : Inflater.Steps (entry.source payload) (.start (entry.start payload))
      (member.settled next pause) := hNext.trans (hSettled.continues hMore)
  obtain ⟨written, hWritten⟩ := Inflater.Steps.output (hPaused.steps.trans hSettled)
  have hDecoded : (member.settled next pause).output.extract inflater.output.size
      (member.settled next pause).output.size = written := by
    rw [hWritten]
    exact ByteArray.extract_append_eq_right rfl ByteArray.size_append
  rw [hDecoded] at hAccept
  have hPart : Accepted payload entry { member with
      coding := .deflated (member.settled next pause) (member.idle next pause)
      ended := member.isOver next pause } taken := h.change _ _ _
  obtain ⟨-, hAfter, -⟩ := accept_ok hAccept
  refine ⟨.of_accept hPart hTaken ⟨hMethod, hWritten, hReached⟩ (fun _ hOver => ?_) hAccept,
    by rw [hAfter]⟩
  have hOwed : Inflater.owed next.phase ≤ 258 := hNext.owed_le (Nat.zero_le _)
  rw [Entry.expansion_deflated payload hMethod, ← hWritten]
  exact Inflater.expansion_eq (entry.source_fetched payload) hReached
    (h.settled_stuck hPaused hOwed hOver)

theorem readPiece_deflated {inflater : Inflater} {untouched wanted : Nat}
    (hDeflated : member.coding = .deflated inflater untouched) (hWanted : wanted ≠ 0)
    (h : Follows payload entry member taken) (hOk : member.readPiece wanted = .ok (data, after)) :
    Follows payload entry after (taken ++ data) ∧ Moves member wanted data after ∧
      after.pending = member.pending := by
  obtain ⟨output, hDecoded, hTaken⟩ := h.decoded
  rw [Decoded, hDeflated] at hDecoded
  obtain ⟨hMethod, rfl, hSteps⟩ := hDecoded
  rw [readPiece, hDeflated] at hOk
  simp only at hOk
  split at hOk
  · cases hOk
  · next count fetched hFetch =>
    have hFetched : Accepted payload entry fetched taken ∧ fetched.pending = member.pending ∧
        (fetched.compressedLeft ≠ 0 →
          fetched.compressedLeft < member.compressedLeft + min untouched 1) := by
      split at hFetch
      · obtain ⟨hSame, -, -, hSome⟩ := fetch_ok hFetch
        refine ⟨h.accepted.fetch hFetch, by rw [hSame], fun hRest => ?_⟩
        simp only [hSame] at hRest ⊢
        have hCount := hSome (by omega)
        omega
      · cases hFetch
        exact ⟨h.accepted, rfl, fun _ => by omega⟩
    obtain ⟨hAccepted, hPending, hFewer⟩ := hFetched
    have hPart : Accepted payload entry { fetched with coding := .stored } taken :=
      hAccepted.change _ _ _
    obtain ⟨hFollows, hSame⟩ := decode_follows hPart hMethod hSteps hTaken hOk
    refine ⟨hFollows, ?_, hSame.trans hPending⟩
    rcases hPart.decode_moves hOk with hEnded | hGiven | ⟨hWaiting, hRest, hLeft⟩
    · exact .inl hEnded
    · exact .inr (.inl hGiven)
    · right; right
      have hWaits : member.waiting = untouched := by rw [waiting, hDeflated]
      have hLess := hFewer hRest
      simp only [stretch, hWaiting, hLeft, hWaits]
      omega

theorem Follows.readPiece {wanted : Nat} (h : Follows payload entry member taken)
    (hWanted : wanted ≠ 0) (hOk : member.readPiece wanted = .ok (data, after)) :
    Follows payload entry after (taken ++ data) ∧ Moves member wanted data after ∧
      after.pending = member.pending := by
  cases hCoding : member.coding with
  | stored => exact readPiece_stored hCoding h hOk
  | deflated inflater untouched => exact readPiece_deflated hCoding hWanted h hOk
  | further codec fed => exact readPiece_further hCoding h hOk

/-! ### Chunks -/

/-- A chunk is as long as it is wanted unless it is the last one. -/
def Fills (wanted : Nat) (given : ByteArray) (member : Member) : Prop :=
  given.size = wanted ∨ member.ended = true ∧ member.pending = ByteArray.empty

theorem Follows.hold (h : Follows payload entry member taken) (pending : ByteArray) :
    Follows payload entry { member with pending } taken :=
  ⟨h.accepted.change _ _ _, h.decoded, h.complete⟩

theorem extract_split (data : ByteArray) {count : Nat} (h : count ≤ data.size) :
    data.extract 0 count ++ data.extract count data.size = data := by
  rw [← ByteArray.extract_eq_extract_append_extract _ (Nat.zero_le _) h,
    ByteArray.extract_zero_size]

theorem Follows.nothing {wanted : Nat} (h : Follows payload entry member taken)
    (hPending : member.pending = ByteArray.empty) (hOver : member.ended = true ∨ wanted = 0) :
    Fills wanted ByteArray.empty member ∧
      Follows payload entry member (taken ++ ByteArray.empty ++ member.pending) := by
  refine ⟨hOver.elim (fun hEnded => .inr ⟨hEnded, hPending⟩) fun hNone => .inl hNone.symm, ?_⟩
  rw [hPending, ByteArray.append_empty, ByteArray.append_empty]
  exact h

theorem Follows.readPieces {wanted pieces : Nat} {given : ByteArray}
    (h : Follows payload entry member taken) (hPending : member.pending = ByteArray.empty)
    (hPieces : member.ended = true ∨ wanted = 0 ∨ member.stretch < pieces)
    (hOk : member.readPieces wanted given pieces = .ok (data, after)) :
    ∃ fresh, data = given ++ fresh ∧ Fills wanted fresh after ∧
      Follows payload entry after (taken ++ fresh ++ after.pending) := by
  -- The bound counts pieces that give too little; one that gives enough or ends the entry is the
  -- last one, and then no piece need be left.
  induction pieces generalizing member wanted given taken with
  | zero =>
    cases hOk
    exact ⟨_, ByteArray.append_empty.symm, h.nothing hPending
      (hPieces.imp_right fun hRest => hRest.resolve_right (Nat.not_lt_zero _))⟩
  | succ pieces ih =>
    rw [Member.readPieces] at hOk
    split at hOk
    · next hOver =>
      cases hOk
      simp only [Bool.or_eq_true, decide_eq_true_eq] at hOver
      exact ⟨_, ByteArray.append_empty.symm, h.nothing hPending hOver.symm⟩
    · next hMore =>
      simp only [Bool.or_eq_true, decide_eq_true_eq, not_or] at hMore
      split at hOk
      · cases hOk
      · next piece next hPiece =>
        obtain ⟨hNext, hMoves, hSame⟩ := h.readPiece hMore.1 hPiece
        split at hOk
        · next hLess =>
          cases hOk
          refine ⟨piece.extract 0 wanted, rfl, .inl ?_, ?_⟩
          · rw [ByteArray.size_extract]
            omega
          · rw [ByteArray.append_assoc, extract_split piece (Nat.le_of_lt hLess)]
            exact hNext.hold _
        · next hRest =>
          have hFewer : next.ended = true ∨ wanted - piece.size = 0 ∨ next.stretch < pieces := by
            rcases hMoves with hEnded | hGiven | hShorter
            · exact .inl hEnded
            · exact .inr (.inl (Nat.sub_eq_zero_of_le hGiven))
            · have hBefore := (hPieces.resolve_left hMore.2).resolve_left hMore.1
              exact .inr (.inr (by omega))
          obtain ⟨fresh, hData, hFills, hFollows⟩ := ih hNext (hSame.trans hPending) hFewer hOk
          refine ⟨piece ++ fresh, by rw [hData, ByteArray.append_assoc],
            hFills.imp_left fun hSize => ?_, ?_⟩
          · rw [ByteArray.size_append, hSize]
            omega
          · rw [← ByteArray.append_assoc]
            exact hFollows

theorem Follows.read {wanted : Nat} {given : ByteArray} (hWanted : wanted ≠ 0)
    (h : Follows payload entry member (given ++ member.pending))
    (hOk : member.read wanted = .ok (data, after)) :
    Fills wanted data after ∧ Follows payload entry after (given ++ data ++ after.pending) := by
  unfold Member.read at hOk
  simp only at hOk
  split at hOk
  · next hLess =>
    cases hOk
    refine ⟨.inl ?_, ?_⟩
    · rw [ByteArray.size_extract]
      omega
    · rw [ByteArray.append_assoc, extract_split member.pending (Nat.le_of_lt hLess)]
      exact h.hold _
  · next hMore =>
    have hStretch : stretch { member with pending := ByteArray.empty } <
        wanted + member.compressedLeft + 1 := by
      simp only [stretch]
      omega
    obtain ⟨fresh, hData, hFills, hFollows⟩ :=
      (h.hold ByteArray.empty).readPieces rfl (.inr (.inr hStretch)) hOk
    rw [hData, ← ByteArray.append_assoc]
    refine ⟨hFills.imp_left fun hSize => ?_, hFollows⟩
    rw [ByteArray.size_append, hSize]
    omega

theorem Follows.deliverChunks {wanted chunks : Nat} {given : ByteArray}
    (h : Follows payload entry member (given ++ member.pending)) (hChunks : wanted ≤ chunks)
    (hSound : (member.deliverChunks wanted given chunks).fault = none)
    (hShort : (member.deliverChunks wanted given chunks).data.size < given.size + wanted) :
    Complete payload entry (member.deliverChunks wanted given chunks).data := by
  induction chunks generalizing member wanted given with
  | zero =>
    simp only [Member.deliverChunks] at hShort
    omega
  | succ chunks ih =>
    rw [Member.deliverChunks] at hSound hShort ⊢
    by_cases hWanted : wanted = 0
    · simp only [hWanted, if_true] at hShort
      omega
    rw [if_neg hWanted] at hSound hShort ⊢
    cases hRead : member.read (min chunkSize wanted) with
    | error fault =>
      rw [hRead] at hSound
      cases hSound
    | ok result =>
      obtain ⟨chunk, next⟩ := result
      have hLeast : min chunkSize wanted ≠ 0 := by
        simp only [chunkSize]
        omega
      obtain ⟨hFills, hFollows⟩ := h.read hLeast hRead
      have hSize := read_size_le hRead
      simp only [hRead] at hSound hShort ⊢
      split at hSound
      · next hEmpty =>
        have hNone : chunk.size = 0 := by simpa [ByteArray.isEmpty] using hEmpty
        rw [if_pos hEmpty]
        obtain ⟨hEnded, hPending⟩ := hFills.resolve_left (by omega)
        have hChunk : chunk = ByteArray.empty := ByteArray.size_eq_zero_iff.mp hNone
        rw [hChunk, hPending, ByteArray.append_empty, ByteArray.append_empty] at hFollows
        exact hFollows.complete hEnded
      · next hSome =>
        have hBytes : chunk.size ≠ 0 := by simpa [ByteArray.isEmpty] using hSome
        rw [if_neg hSome] at hShort ⊢
        refine ih hFollows (by omega) hSound ?_
        rw [ByteArray.size_append]
        omega

theorem Follows.size_le (h : Follows payload entry member taken) : taken.size ≤ entry.size := by
  obtain ⟨output, -, hTaken⟩ := h.decoded
  rw [hTaken, ByteArray.size_extract]
  omega

theorem Follows.size_le_content (hNative : entry.IsNative)
    (h : Follows payload entry member taken) : taken.size ≤ (entry.content payload).size := by
  obtain ⟨output, hDecoded, hTaken⟩ := h.decoded
  obtain ⟨rest, hRest⟩ := hDecoded.begins hNative h.accepted
  rw [hTaken, Entry.content, hRest, ByteArray.size_extract, ByteArray.size_extract,
    ByteArray.size_append]
  omega

/-- Whatever bounds what is taken over bounds a delivery. -/
theorem Follows.deliverChunks_size_le {bound wanted chunks : Nat} {given : ByteArray}
    (hBound : ∀ {member taken}, Follows payload entry member taken → taken.size ≤ bound)
    (h : Follows payload entry member (given ++ member.pending)) :
    (member.deliverChunks wanted given chunks).data.size ≤ bound := by
  have hGiven : given.size ≤ bound := by
    have hHeld := hBound h
    rw [ByteArray.size_append] at hHeld
    omega
  induction chunks generalizing member wanted given with
  | zero => exact hGiven
  | succ chunks ih =>
    rw [Member.deliverChunks]
    by_cases hWanted : wanted = 0
    · rw [if_pos hWanted]
      exact hGiven
    rw [if_neg hWanted]
    cases hRead : member.read (min chunkSize wanted) with
    | error fault => exact hGiven
    | ok result =>
      obtain ⟨chunk, next⟩ := result
      have hLeast : min chunkSize wanted ≠ 0 := by
        simp only [chunkSize]
        omega
      obtain ⟨-, hFollows⟩ := h.read hLeast hRead
      have hMore := hBound hFollows
      rw [ByteArray.size_append] at hMore
      simp only
      split
      · exact hGiven
      · exact ih hFollows (by omega)

end

def opened (payload : ByteArray) (entry : Entry) (coding : Coding) : Member where
  payload
  name := entry.name
  checksum := entry.checksum
  position := entry.start payload
  compressedLeft := entry.compressedSize
  coding
  left := entry.size
  running := Checksum.empty
  ended := false
  pending := ByteArray.empty

section

variable [Platform]

theorem ofEntry_ok {payload : ByteArray} {entry : Entry} {member : Member}
    (h : ofEntry payload entry = .ok member) :
    ∃ coding, codingAt? entry (entry.start payload) = some coding ∧
      member = opened payload entry coding := by
  unfold ofEntry openAt at h
  simp only at h
  repeat' split at h
  all_goals cases h
  next coding hCoding => exact ⟨coding, hCoding, rfl⟩

theorem opened_follows {payload : ByteArray} {entry : Entry} {coding : Coding}
    (h : codingAt? entry (entry.start payload) = some coding) :
    Follows payload entry (opened payload entry coding) ByteArray.empty where
  accepted := ⟨rfl, Nat.le_refl _, rfl, Nat.min_le_left _ _, rfl, rfl, rfl⟩
  decoded := by
    refine ⟨ByteArray.empty, ?_, (ByteArray.extract_eq_empty_iff.mpr (Nat.min_le_right _ _)).symm⟩
    unfold codingAt? at h
    split at h
    case h_1 hMethod =>
      cases h
      simp [Decoded, opened, hMethod]
    case h_2 hMethod =>
      cases h
      exact ⟨hMethod, rfl, .refl⟩
    case h_5 => cases h
    all_goals
      next hMethod =>
        cases h
        simp [Decoded, opened, Entry.IsNative, hMethod]
  complete := fun hEnded => by cases hEnded

/-- A delivery that was not cut short gives the content of the entry. -/
theorem deliver_complete {payload : ByteArray} {entry : Entry} {wanted : Nat}
    (hSound : (deliver payload entry wanted).fault = none)
    (hShort : (deliver payload entry wanted).data.size < wanted) :
    Complete payload entry (deliver payload entry wanted).data := by
  unfold deliver at hSound hShort ⊢
  cases hOpen : ofEntry payload entry with
  | error fault =>
    rw [hOpen] at hSound
    cases hSound
  | ok member =>
    obtain ⟨coding, hCoding, rfl⟩ := ofEntry_ok hOpen
    simp only [hOpen] at hSound hShort ⊢
    refine (opened_follows hCoding).deliverChunks (Nat.le_refl _) hSound ?_
    rw [ByteArray.size_empty, Nat.zero_add]
    exact hShort

theorem deliver_bounded {payload : ByteArray} {entry : Entry} {bound : Nat} (wanted : Nat)
    (hBound : ∀ {member taken}, Follows payload entry member taken → taken.size ≤ bound) :
    (deliver payload entry wanted).data.size ≤ bound := by
  unfold deliver
  cases hOpen : ofEntry payload entry with
  | error fault => exact Nat.zero_le _
  | ok member =>
    obtain ⟨coding, hCoding, rfl⟩ := ofEntry_ok hOpen
    exact (opened_follows hCoding).deliverChunks_size_le hBound

theorem deliver_size_le_declared (payload : ByteArray) (entry : Entry) (wanted : Nat) :
    (deliver payload entry wanted).data.size ≤ entry.size :=
  deliver_bounded wanted Follows.size_le

theorem deliver_size_le_content (payload : ByteArray) {entry : Entry} (hNative : entry.IsNative)
    (wanted : Nat) : (deliver payload entry wanted).data.size ≤ (entry.content payload).size :=
  deliver_bounded wanted (Follows.size_le_content hNative)

end

end Member

end SubmissionGate.Archive
