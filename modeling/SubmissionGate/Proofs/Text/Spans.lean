import SubmissionGate.Text.Space

/-!
# Spans

What a reader takes from the front of a text as long as its characters are of one kind, and what it
leaves; and what is left of a text without the blanks at its end.
-/

namespace SubmissionGate.Text

theorem takeWhile_exact {p : Char → Bool} {body rest : List Char} (hBody : ∀ c ∈ body, p c = true)
    (hRest : ∀ c ∈ rest.head?, p c = false) : (body ++ rest).takeWhile p = body := by
  rw [List.takeWhile_append_of_pos hBody]
  cases rest with
  | nil => simp
  | cons c more => simp [hRest c rfl]

theorem takeWhile_until {c : Char} {before behind : List Char} (h : c ∉ before) :
    (before ++ c :: behind).takeWhile (· != c) = before :=
  takeWhile_exact (fun d hMem => by simpa using fun hSame : d = c => h (hSame ▸ hMem)) (by simp)

theorem drop_length_takeWhile (p : Char → Bool) (text : List Char) :
    text.drop (text.takeWhile p).length = text.dropWhile p := by
  have hWhole := List.takeWhile_append_dropWhile (p := p) (l := text)
  calc text.drop (text.takeWhile p).length
      = (text.takeWhile p ++ text.dropWhile p).drop (text.takeWhile p).length := by rw [hWhole]
    _ = text.dropWhile p := List.drop_left

theorem take_length_takeWhile (p : Char → Bool) (text : List Char) :
    text.take (text.takeWhile p).length = text.takeWhile p := by
  have hWhole := List.takeWhile_append_dropWhile (p := p) (l := text)
  calc text.take (text.takeWhile p).length
      = (text.takeWhile p ++ text.dropWhile p).take (text.takeWhile p).length := by rw [hWhole]
    _ = text.takeWhile p := List.take_left

theorem head?_dropWhile {p : Char → Bool} {text : List Char} {c : Char}
    (h : c ∈ (text.dropWhile p).head?) : p c = false := by
  have hStop := List.head?_dropWhile_not p text
  rw [h] at hStop
  simpa using hStop

theorem trimEnd_append {before : List Char} {last : Char} (h : isSpace last = false)
    (behind : List Char) :
    trimEnd (before ++ [last] ++ behind) = before ++ [last] ++ trimEnd behind := by
  unfold trimEnd
  rw [List.reverse_append, List.dropWhile_append, List.reverse_concat, List.dropWhile_cons, h]
  split
  · next hBlank =>
    rw [List.isEmpty_iff.mp hBlank]
    simp
  · simp

end SubmissionGate.Text
