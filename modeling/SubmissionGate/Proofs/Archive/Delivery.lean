import SubmissionGate.Archive.Member

/-!
# Faults of a delivery

Opening an entry and reading its content fail for different reasons. An offset that no file can
have is noticed before anything else and never comes up while content is read, so this fault hangs
on the directory record alone.
-/

namespace SubmissionGate.Archive

/-- Whether the local header of an entry would stand where no file position reaches. -/
def Entry.IsFar (entry : Entry) : Prop :=
  entry.offset < -Member.positionLimit ∨ Member.positionLimit ≤ entry.offset

instance (entry : Entry) : Decidable entry.IsFar := inferInstanceAs (Decidable (_ ∨ _))

/-- The faults that come up while content is read. -/
inductive MemberFault.OfContent : MemberFault → Prop
  | missingData : OfContent .missingData
  | badData : OfContent .badData
  | badChecksum (name : String) : OfContent (.badChecksum name)
  | codec (fault : CodecFault) : OfContent (.codec fault)

namespace Member

theorem fetch_error {member : Member} {wanted : Nat} {fault : MemberFault}
    (h : member.fetch wanted = .error fault) : fault.OfContent := by
  unfold fetch at h
  simp only at h
  split at h
  · cases h
  · split at h
    · cases h
      exact .missingData
    · cases h

theorem accept_error {member : Member} {decoded : ByteArray} {fault : MemberFault}
    (h : member.accept decoded = .error fault) : fault.OfContent := by
  unfold accept at h
  simp only at h
  split at h
  · cases h
    exact .badChecksum member.name
  · cases h

theorem decode_error {member : Member} {inflater : Inflater} {wanted : Nat}
    {fault : MemberFault} (h : member.decode inflater wanted = .error fault) :
    fault.OfContent := by
  unfold decode at h
  simp only at h
  split at h
  · cases h
    exact .badData
  · exact accept_error h

theorem feed_error {member : Member} {codec : Codec} {fed : List ByteArray} {count : Nat}
    {fault : MemberFault} (h : member.feed codec fed count = .error fault) : fault.OfContent := by
  unfold feed at h
  simp only at h
  split at h
  · cases h
    exact .codec _
  · exact accept_error h

theorem readPiece_error {member : Member} {wanted : Nat} {fault : MemberFault}
    (h : member.readPiece wanted = .error fault) : fault.OfContent := by
  unfold readPiece at h
  simp only at h
  split at h
  · split at h
    · next hFetch =>
      cases h
      exact fetch_error hFetch
    · exact accept_error h
  · split at h
    · next hFetch =>
      cases h
      split at hFetch
      · exact fetch_error hFetch
      · cases hFetch
    · exact decode_error h
  · split at h
    · next hFetch =>
      cases h
      exact fetch_error hFetch
    · exact feed_error h

theorem readPieces_error {member : Member} {wanted pieces : Nat} {given : ByteArray}
    {fault : MemberFault} (h : member.readPieces wanted given pieces = .error fault) :
    fault.OfContent := by
  induction pieces generalizing member wanted given with
  | zero => cases h
  | succ pieces ih =>
    rw [readPieces] at h
    split at h
    · cases h
    · split at h
      · next hPiece =>
        cases h
        exact readPiece_error hPiece
      · split at h
        · cases h
        · exact ih h

theorem read_error {member : Member} {wanted : Nat} {fault : MemberFault}
    (h : member.read wanted = .error fault) : fault.OfContent := by
  unfold read at h
  simp only at h
  split at h
  · cases h
  · exact readPieces_error h

theorem deliverChunks_fault {member : Member} {wanted chunks : Nat} {data : ByteArray}
    {fault : MemberFault} (h : (member.deliverChunks wanted data chunks).fault = some fault) :
    fault.OfContent := by
  induction chunks generalizing member wanted data with
  | zero => cases h
  | succ chunks ih =>
    rw [deliverChunks] at h
    split at h
    · cases h
    · split at h
      · next hRead =>
        cases h
        exact read_error hRead
      · split at h
        · cases h
        · exact ih h

theorem openAt_ne_farOffset [Platform] (payload : ByteArray) (entry : Entry) (start : Nat) :
    openAt payload entry start ≠ .error .farOffset := by
  unfold openAt
  simp only
  repeat' split
  all_goals intro h; cases h

theorem ofEntry_farOffset_iff [Platform] (payload : ByteArray) {entry : Entry} :
    ofEntry payload entry = .error .farOffset ↔ entry.IsFar := by
  unfold ofEntry
  by_cases hFar : entry.IsFar
  · rw [if_pos (by simpa [Entry.IsFar] using hFar)]
    exact iff_of_true rfl hFar
  · rw [if_neg (by simpa [Entry.IsFar] using hFar)]
    refine iff_of_false ?_ hFar
    split
    · intro h
      cases h
    · exact openAt_ne_farOffset payload entry _

/-- An entry is out of reach exactly if its directory record says so. -/
theorem deliver_farOffset_iff [Platform] (payload : ByteArray) {entry : Entry} (wanted : Nat) :
    (deliver payload entry wanted).fault = some .farOffset ↔ entry.IsFar := by
  rw [← ofEntry_farOffset_iff payload]
  unfold deliver
  cases hOpen : ofEntry payload entry with
  | error fault => simp
  | ok member =>
    refine iff_of_false (fun h => ?_) (fun h => by cases h)
    cases deliverChunks_fault h

end Member

end SubmissionGate.Archive
