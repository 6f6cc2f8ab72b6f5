import Mathlib.Data.List.DropRight

/-!
# Trimmed text in one case

Removing the blanks around a text and writing it in capital or in small
letters, each of which leaves its own result as it is.
-/

namespace Text

/-- A capital letter has the code of the small one less thirty-two. -/
theorem toNat_toUpper (letter : Char) : letter.toUpper.toNat =
      if 97 ≤ letter.toNat ∧ letter.toNat ≤ 122 then letter.toNat - 32
      else letter.toNat := by
  have bounds : ('a'.val ≤ letter.val ∧ letter.val ≤ 'z'.val) ↔
      (97 ≤ letter.toNat ∧ letter.toNat ≤ 122) := by
    rfl
  unfold Char.toUpper
  by_cases small : 97 ≤ letter.toNat ∧ letter.toNat ≤ 122
  · -- the difference of the codes wraps around, and the sum wraps back
    have difference : ('A'.val - 'a'.val).toNat = 4294967264 := rfl
    have code := small
    unfold Char.toNat at code
    rw [dif_pos (bounds.mpr small), if_pos small]
    show (letter.val + ('A'.val - 'a'.val)).toNat = letter.val.toNat - 32
    rw [UInt32.toNat_add, difference]
    omega
  · rw [dif_neg fun small' => small (bounds.mp small'), if_neg small]

theorem toUpper_toUpper (letter : Char) : letter.toUpper.toUpper = letter.toUpper := by
  apply Char.toNat_inj.mp
  rw [toNat_toUpper letter.toUpper, toNat_toUpper letter]
  split_ifs <;> omega

/-- A small letter has the code of the capital one and thirty-two. -/
theorem toNat_toLower (letter : Char) : letter.toLower.toNat =
      if 65 ≤ letter.toNat ∧ letter.toNat ≤ 90 then letter.toNat + 32
      else letter.toNat := by
  have bounds : ('A'.val ≤ letter.val ∧ letter.val ≤ 'Z'.val) ↔
      (65 ≤ letter.toNat ∧ letter.toNat ≤ 90) := by
    rfl
  unfold Char.toLower
  by_cases capital : 65 ≤ letter.toNat ∧ letter.toNat ≤ 90
  · have difference : ('a'.val - 'A'.val).toNat = 32 := rfl
    have code := capital
    unfold Char.toNat at code
    rw [dif_pos (bounds.mpr capital), if_pos capital]
    show (letter.val + ('a'.val - 'A'.val)).toNat = letter.val.toNat + 32
    rw [UInt32.toNat_add, difference]
    omega
  · rw [dif_neg fun capital' => capital (bounds.mp capital'), if_neg capital]

theorem toLower_toLower (letter : Char) : letter.toLower.toLower = letter.toLower := by
  apply Char.toNat_inj.mp
  rw [toNat_toLower letter.toLower, toNat_toLower letter]
  split_ifs <;> omega

/-- Blanks by their codes. -/
theorem isWhitespace_iff (letter : Char) : letter.isWhitespace = true ↔
    letter.toNat = 32 ∨ letter.toNat = 9 ∨ letter.toNat = 13 ∨ letter.toNat = 10 := by
  simp only [Char.isWhitespace, Bool.or_eq_true, decide_eq_true_eq, ← Char.toNat_inj, or_assoc]
  rfl

/-- Capitals of blanks are blank, and of no other letter. -/
theorem isWhitespace_toUpper (letter : Char) :
    letter.toUpper.isWhitespace = letter.isWhitespace := by
  rw [Bool.eq_iff_iff, isWhitespace_iff, isWhitespace_iff, toNat_toUpper]
  split_ifs <;> omega

theorem isWhitespace_toLower (letter : Char) :
    letter.toLower.isWhitespace = letter.isWhitespace := by
  rw [Bool.eq_iff_iff, isWhitespace_iff, isWhitespace_iff, toNat_toLower]
  split_ifs <;> omega

/-- Blanks at both ends of a text removed. -/
def stripped (text : List Char) : List Char :=
  ((text.dropWhile Char.isWhitespace).reverse.dropWhile Char.isWhitespace).reverse

/-- A text without blanks at its ends. -/
def strip (text : String) : String :=
  String.ofList (stripped text.toList)

theorem stripped_map {change : Char -> Char}
    (same : ∀ letter, (change letter).isWhitespace = letter.isWhitespace)
    (text : List Char) :
    stripped (text.map change) = (stripped text).map change := by
  have composed : Char.isWhitespace ∘ change = Char.isWhitespace :=
    funext same
  unfold stripped
  rw [List.dropWhile_map, composed, ← List.map_reverse, List.dropWhile_map,
    composed, List.map_reverse]

theorem stripped_map_toUpper (text : List Char) :
    stripped (text.map Char.toUpper) = (stripped text).map Char.toUpper :=
  stripped_map isWhitespace_toUpper text

theorem dropWhile_trimmedEnd {blank : Char -> Bool} {text : List Char}
    (begins : text.dropWhile blank = text) :
    (text.reverse.dropWhile blank).reverse.dropWhile blank =
      (text.reverse.dropWhile blank).reverse := by
  rw [List.dropWhile_eq_self_iff] at begins ⊢
  intro nonempty
  obtain ⟨blanks, isSuffix⟩ := List.dropWhile_suffix (l := text.reverse) blank
  have isPrefix : text = (text.reverse.dropWhile blank).reverse ++ blanks.reverse := by
    rw [← List.reverse_append, isSuffix, List.reverse_reverse]
  have longer : 0 < text.length := by
    rw [isPrefix, List.length_append]
    omega
  have first : text[0] = (text.reverse.dropWhile blank).reverse[0] := by
    rw [List.getElem_append_left' nonempty blanks.reverse]
    exact List.getElem_of_eq isPrefix longer
  rw [← first]
  exact begins longer

theorem stripped_stripped (text : List Char) : stripped (stripped text) = stripped text := by
  have begins := dropWhile_trimmedEnd (List.dropWhile_idempotent Char.isWhitespace text)
  unfold stripped
  rw [begins, List.reverse_reverse, List.dropWhile_idempotent]

/-- A trimmed text in small letters stays as it is. -/
theorem toLower_strip_toLower_strip (text : String) :
    (strip (strip text).toLower).toLower = (strip text).toLower := by
  apply String.toList_inj.mp
  unfold strip String.toLower
  rw [String.toList_map, String.toList_map, String.toList_ofList,
    String.toList_ofList, stripped_map isWhitespace_toLower, stripped_stripped, List.map_map]
  exact List.map_congr_left fun letter _ => toLower_toLower letter

end Text
