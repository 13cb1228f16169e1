import PostMortem.Text.Hex

/-! # Reading hexadecimal text back

A row of digits stands for the number that it was made from, whether or not there are zeros in front. So no two numbers
have the same text, and since a text holds nothing but the mark and digits, it is seen where it ends.

* `Text.Hex.value?_digits`, `Text.Hex.value?_padded`: digits read back.
* `Text.Hex.text_injective`, `Text.Hex.paddedText_injective`: equal texts come from equal numbers.
* `Text.Hex.mem_text`, `Text.Hex.mem_paddedText`: the characters of a text.
-/
set_option autoImplicit false

namespace PostMortem.Text.Hex

/-! ## Digits -/

theorem digitValue?_digit {n : Nat} (h : n < 16) : digitValue? (digit n) = some n := by
  have hall : ∀ n < 16, digitValue? (digit n) = some n := by decide
  exact hall n h

theorem mem_digits {c : Char} {n : Nat} (h : c ∈ digits n) : ∃ d < 16, c = digit d := by
  induction n using digits.induct with
  | case1 n hn =>
    rw [digits, if_pos hn, List.mem_singleton] at h
    exact ⟨n, hn, h⟩
  | case2 n hn ih =>
    rw [digits, if_neg hn, List.mem_append, List.mem_singleton] at h
    rcases h with h | h
    · exact ih h
    · exact ⟨n % 16, Nat.mod_lt n (by decide), h⟩

theorem mem_padded {c : Char} {width n : Nat} (h : c ∈ padded width n) : ∃ d < 16, c = digit d := by
  rw [padded, List.mem_append] at h
  rcases h with h | h
  · exact ⟨0, by decide, List.eq_of_mem_replicate h⟩
  · exact mem_digits h

/-! ## Values -/

theorem value?_append (cs ds : List Char) :
    value? (cs ++ ds) =
      (value? cs).bind fun n => ds.foldlM (fun n c => (digitValue? c).map fun d => 16 * n + d) n :=
  List.foldlM_append

theorem value?_digits (n : Nat) : value? (digits n) = some n := by
  induction n using digits.induct with
  | case1 n hn =>
    have hdigit := digitValue?_digit hn
    rw [digits, if_pos hn]
    simp [value?, hdigit]
  | case2 n hn ih =>
    have hdigit := digitValue?_digit (Nat.mod_lt n (by decide : 16 > 0))
    have hsum : 16 * (n / 16) + n % 16 = n := Nat.div_add_mod n 16
    rw [digits, if_neg hn, value?_append, ih]
    simp [hdigit, hsum]

theorem value?_zeros (k : Nat) : value? (List.replicate k '0') = some 0 := by
  induction k with
  | zero => rfl
  | succ k ih =>
    rw [List.replicate_succ', value?_append, ih]
    rfl

theorem value?_padded (width n : Nat) : value? (padded width n) = some n := by
  have hdigits := value?_digits n
  rw [padded, value?_append, value?_zeros]
  exact hdigits

/-! ## Texts -/

theorem text_toList (n : Nat) : (text n).toList = '0' :: 'x' :: digits n := by simp [text]

theorem paddedText_toList (width n : Nat) : (paddedText width n).toList = '0' :: 'x' :: padded width n := by
  simp [paddedText]

theorem text_injective {m n : Nat} (h : text m = text n) : m = n := by
  have hlist := congrArg String.toList h
  simp only [text_toList, List.cons.injEq, true_and] at hlist
  have hvalue := congrArg value? hlist
  rwa [value?_digits, value?_digits, Option.some.injEq] at hvalue

theorem paddedText_injective {width m n : Nat} (h : paddedText width m = paddedText width n) : m = n := by
  have hlist := congrArg String.toList h
  simp only [paddedText_toList, List.cons.injEq, true_and] at hlist
  have hvalue := congrArg value? hlist
  rwa [value?_padded, value?_padded, Option.some.injEq] at hvalue

theorem mem_text {c : Char} {n : Nat} (h : c ∈ (text n).toList) : c = 'x' ∨ ∃ d < 16, c = digit d := by
  rw [text_toList, List.mem_cons, List.mem_cons] at h
  rcases h with h | h | h
  · exact .inr ⟨0, by decide, h⟩
  · exact .inl h
  · exact .inr (mem_digits h)

theorem mem_paddedText {c : Char} {width n : Nat} (h : c ∈ (paddedText width n).toList) :
    c = 'x' ∨ ∃ d < 16, c = digit d := by
  rw [paddedText_toList, List.mem_cons, List.mem_cons] at h
  rcases h with h | h | h
  · exact .inr ⟨0, by decide, h⟩
  · exact .inl h
  · exact .inr (mem_padded h)

/-- No line break and no blank is a character of a text. -/
theorem ne_of_mem {c : Char} (h : c = 'x' ∨ ∃ d < 16, c = digit d) : c ≠ '\r' ∧ c ≠ '\n' ∧ c ≠ ' ' := by
  have hall : ∀ d < 16, digit d ≠ '\r' ∧ digit d ≠ '\n' ∧ digit d ≠ ' ' := by decide
  rcases h with rfl | ⟨d, hd, rfl⟩
  · decide
  · exact hall d hd

end PostMortem.Text.Hex
