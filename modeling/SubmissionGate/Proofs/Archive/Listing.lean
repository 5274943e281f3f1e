import Mathlib.Data.List.Pairwise
import SubmissionGate.Archive.Directory

/-!
# Directories of given archives

The entries of an archive that is written out byte by byte, from the place of its directory and from
the bytes that stand there. Entries that are listed in the order of their places in the file keep
that order, each bounded by the next.
-/

/-- A list that falls strictly is sorted by turning it round. -/
theorem List.mergeSort_eq_reverse {α : Type} {le : α → α → Bool} {items : List α}
    (hTrans : ∀ a b c : α, le a b = true → le b c = true → le a c = true)
    (hTotal : ∀ a b : α, (le a b || le b a) = true)
    (hFalls : items.Pairwise fun a b => le a b = false) : items.mergeSort le = items.reverse := by
  have hSorted : items.reverse.Pairwise fun a b => le a b = true :=
    List.pairwise_reverse.mpr (hFalls.imp fun {a b} hFalse => by simpa [hFalse] using hTotal a b)
  have hSame : ∀ ⦃a⦄, a ∈ items → ∀ ⦃b⦄, b ∈ items → le a b = true → le b a = true → a = b :=
    List.Pairwise.forall_of_forall_of_flip (fun _ _ _ _ => rfl)
      (hFalls.imp fun hFalse hBelow => absurd hBelow (by simp [hFalse]))
      (hFalls.imp fun hFalse _ hAbove => absurd hAbove (by simp [hFalse]))
  refine List.Perm.eq_of_pairwise ?_ (List.pairwise_mergeSort hTrans hTotal items) hSorted
    ((List.mergeSort_perm items le).trans (List.reverse_perm items).symm)
  intro a b hA hB
  exact hSame (List.mem_mergeSort.mp hA) (List.mem_reverse.mp hB)

namespace SubmissionGate.Archive

deriving instance DecidableEq for Entry

namespace Directory

theorem map_fst_boundEntries (bound : Int) (entries : List (Nat × Entry)) :
    (boundEntries bound entries).map (·.1) = entries.map (·.1) := by
  induction entries generalizing bound with
  | nil => rfl
  | cons first rest ih => rw [boundEntries, List.map_cons, List.map_cons, ih]

theorem withBounds_of_ascending {start : Nat} {entries : List Entry}
    (h : entries.Pairwise fun a b => a.offset < b.offset) :
    withBounds start entries =
      (boundEntries start ((List.range entries.length).zip entries).reverse).reverse.map (·.2) := by
  have hKeys : ((List.range entries.length).zip entries).map (·.1) = List.range entries.length :=
    List.map_fst_zip (by simp)
  have hPlaces : ((List.range entries.length).zip entries).map (·.2) = entries :=
    List.map_snd_zip (by simp)
  have hFalling : (((List.range entries.length).zip entries).mergeSort
      fun a b => b.2.offset ≤ a.2.offset) = ((List.range entries.length).zip entries).reverse := by
    apply List.mergeSort_eq_reverse
    · grind
    · grind
    · rw [← hPlaces, List.pairwise_map] at h
      exact h.imp fun hBelow => by simpa using hBelow
  have hListed : ((boundEntries start ((List.range entries.length).zip entries).reverse).mergeSort
      fun a b => a.1 ≤ b.1) =
        (boundEntries start ((List.range entries.length).zip entries).reverse).reverse := by
    apply List.mergeSort_eq_reverse
    · grind
    · grind
    · have hFalls : (List.range entries.length).reverse.Pairwise fun a b => b < a :=
        List.pairwise_reverse.mpr List.pairwise_lt_range
      rw [← hKeys, ← List.map_reverse, ← map_fst_boundEntries start, List.pairwise_map] at hFalls
      exact hFalls.imp fun hBelow => by simpa using hBelow
  simp only [withBounds, hFalling, hListed]

theorem read_of_listing {payload : ByteArray} {found : DirectoryPlace} {listing : List UInt8}
    {listed entries : List Entry} (hPlace : (place payload).toOption = some found)
    (hListing : (payload.data.toList.drop found.start).take found.size = listing)
    (hListed : (readEntries ⟨listing.toArray⟩ found.shift 0).toOption = some listed)
    (hAscending : listed.Pairwise fun a b => a.offset < b.offset)
    (hEntries : (boundEntries found.start
      ((List.range listed.length).zip listed).reverse).reverse.map (·.2) = entries) :
    read payload = .ok entries := by
  have hBytes : payload.extract found.start (found.start + found.size) = ⟨listing.toArray⟩ := by
    rw [ByteArray.ext_iff, ByteArray.data_extract]
    apply Array.ext'
    rw [Array.toList_extract, List.extract_eq_take_drop, Nat.add_sub_cancel_left, hListing]
  rw [← withBounds_of_ascending hAscending] at hEntries
  unfold read
  cases hFound : place payload with
  | error fault =>
    rw [hFound] at hPlace
    cases hPlace
  | ok other =>
    rw [hFound] at hPlace
    cases hPlace
    rw [← hBytes] at hListed
    simp only
    cases hRead : readEntries (payload.extract found.start (found.start + found.size))
        found.shift 0 with
    | error fault =>
      rw [hRead] at hListed
      cases hListed
    | ok same =>
      rw [hRead] at hListed
      cases hListed
      simp only [hEntries]

end Directory

end SubmissionGate.Archive
