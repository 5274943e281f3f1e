import SubmissionGate.Archive.Member

/-!
# How much a delivery gives

No read gives more bytes than it was asked for, so neither does a delivery, whether it ends in a
fault or not and whatever the archive declares.
-/

namespace SubmissionGate.Archive.Member

theorem readPieces_size_le {member after : Member} {wanted : Nat} {given data : ByteArray}
    {pieces : Nat} (h : member.readPieces wanted given pieces = .ok (data, after)) :
    data.size ≤ given.size + wanted := by
  induction pieces generalizing member wanted given with
  | zero =>
    cases h
    omega
  | succ pieces ih =>
    rw [readPieces] at h
    split at h
    · cases h
      omega
    · split at h
      · cases h
      · next piece next hPiece =>
        split at h
        · cases h
          rw [ByteArray.size_append, ByteArray.size_extract]
          omega
        · have hRest := ih h
          rw [ByteArray.size_append] at hRest
          omega

theorem read_size_le {member after : Member} {wanted : Nat} {data : ByteArray}
    (h : member.read wanted = .ok (data, after)) : data.size ≤ wanted := by
  unfold read at h
  simp only at h
  split at h
  · cases h
    rw [ByteArray.size_extract]
    omega
  · have hSize := readPieces_size_le h
    omega

theorem deliverChunks_size_le (member : Member) (wanted : Nat) (data : ByteArray) (chunks : Nat) :
    (member.deliverChunks wanted data chunks).data.size ≤ data.size + wanted := by
  induction chunks generalizing member wanted data with
  | zero => exact Nat.le_add_right _ _
  | succ chunks ih =>
    rw [deliverChunks]
    split
    · exact Nat.le_add_right _ _
    · split
      · exact Nat.le_add_right _ _
      · next chunk next hRead =>
        have hChunk := read_size_le hRead
        split
        · exact Nat.le_add_right _ _
        · have hRest := ih next (wanted - chunk.size) (data ++ chunk)
          rw [ByteArray.size_append] at hRest
          omega

theorem deliver_size_le [Platform] (payload : ByteArray) (entry : Entry) (wanted : Nat) :
    (deliver payload entry wanted).data.size ≤ wanted := by
  unfold deliver
  split
  · exact Nat.zero_le wanted
  · next member _ =>
    have hSize := deliverChunks_size_le member wanted ByteArray.empty wanted
    rwa [ByteArray.size_empty, Nat.zero_add] at hSize

end SubmissionGate.Archive.Member
