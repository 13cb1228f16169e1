import Mathlib.Data.Nat.Digits.Lemmas
import PostMortem.Proofs.Text.Hex
import PostMortem.Report.Line

/-! # How numbers are written

A number is written in upper-case digits of base 16 behind the mark `0x`. A least number of digits may be asked for;
zeros stand in front only to reach it. There is one way to do this for every number, so what is written is told by the
number and tells it.

* `Text.Hex.Numeral`: rows of digits for a number, described by what the digits are worth and not by how they are found.
* `Text.Hex.numeral_padded`, `Text.Hex.Numeral.unique`: there is exactly one such row.
* `Text.Hex.Renders`: ways to show things as numbers.
* `Text.Hex.fault_numbers`: the four numbers of a fault that are shown in this way.
-/
set_option autoImplicit false

namespace PostMortem.Text.Hex

/-! ## Digits and what they are worth -/

/-- The digits, each at the place of its worth. -/
def figures : List Char := ['0', '1', '2', '3', '4', '5', '6', '7', '8', '9', 'A', 'B', 'C', 'D', 'E', 'F']

/-- What a row of digits is worth in base 16, the last digit counting for itself. -/
def worth (cs : List Char) : Nat := Nat.ofDigits 16 (cs.reverse.map figures.idxOf)

/-- A row of digits for a number: upper case, at least so many, and no zero in front when there are more. -/
structure Numeral (width n : Nat) (cs : List Char) : Prop where
  figures : ∀ c ∈ cs, c ∈ figures
  worth : worth cs = n
  wide : width ≤ cs.length
  tight : width < cs.length → cs.head? ≠ some '0'

variable {width n : Nat} {cs : List Char}

theorem digit_mem_figures {d : Nat} (h : d < 16) : digit d ∈ figures := by
  have hall : ∀ d < 16, digit d ∈ figures := by decide
  exact hall d h

theorem idxOf_digit {d : Nat} (h : d < 16) : figures.idxOf (digit d) = d := by
  have hall : ∀ d < 16, figures.idxOf (digit d) = d := by decide
  exact hall d h

theorem figures_lt (h : ∀ c ∈ cs, c ∈ figures) : ∀ d ∈ cs.reverse.map figures.idxOf, d < 16 := by
  intro d hd
  obtain ⟨c, hc, rfl⟩ := List.mem_map.mp hd
  exact List.idxOf_lt_length_of_mem (h c (List.mem_reverse.mp hc))

theorem map_figures_idxOf (h : ∀ c ∈ cs, c ∈ figures) :
    (cs.reverse.map figures.idxOf).map (figures[·]?) = cs.reverse.map some := by
  rw [List.map_map]
  exact List.map_congr_left fun c hc => List.getElem?_idxOf (h c (List.mem_reverse.mp hc))

theorem worth_digits (n : Nat) : worth (digits n) = n := by
  induction n using digits.induct with
  | case1 n hn =>
    rw [digits, if_pos hn, worth, List.reverse_singleton, List.map_singleton, Nat.ofDigits_singleton,
      idxOf_digit hn]
  | case2 n hn ih =>
    have hlast := idxOf_digit (Nat.mod_lt n (by decide : 16 > 0))
    rw [worth] at ih ⊢
    rw [digits, if_neg hn, List.reverse_append, List.reverse_singleton, List.singleton_append, List.map_cons,
      Nat.ofDigits_cons, hlast, ih, Nat.mod_add_div]

/-! ## Zeros in front -/

theorem worth_zeros_append (k : Nat) (cs : List Char) : worth (List.replicate k '0' ++ cs) = worth cs := by
  have hzero : figures.idxOf '0' = 0 := by decide
  rw [worth, worth, List.reverse_append, List.reverse_replicate, List.map_append, List.map_replicate, hzero,
    Nat.ofDigits_append_replicate_zero]

theorem length_digits_pos (n : Nat) : 0 < (digits n).length := by
  rw [digits]
  split <;> simp

theorem head?_digits_ne_zero {n : Nat} (h : 0 < n) : (digits n).head? ≠ some '0' := by
  induction n using digits.induct with
  | case1 n hn =>
    have hall : ∀ d < 16, 0 < d → digit d ≠ '0' := by decide
    rw [digits, if_pos hn, List.head?_cons]
    exact fun heq => hall n hn h (Option.some.inj heq)
  | case2 n hn ih =>
    have hne : digits (n / 16) ≠ [] := List.ne_nil_of_length_pos (length_digits_pos _)
    rw [digits, if_neg hn, List.head?_append_of_ne_nil _ hne]
    exact ih (by omega)

/-- More than one digit begins with no zero. -/
theorem head?_digits_of_length {n : Nat} (h : 1 < (digits n).length) : (digits n).head? ≠ some '0' := by
  apply head?_digits_ne_zero
  by_contra hn
  have hone : n < 16 := by omega
  rw [digits, if_pos hone, List.length_singleton] at h
  exact absurd h (by decide)

theorem numeral_padded (hwidth : 0 < width) (n : Nat) : Numeral width n (padded width n) where
  figures c hc := by
    obtain ⟨d, hd, rfl⟩ := mem_padded hc
    exact digit_mem_figures hd
  worth := by rw [padded, worth_zeros_append, worth_digits]
  wide := by
    rw [padded, List.length_append, List.length_replicate]
    omega
  tight h := by
    -- there is no room for zeros
    rw [padded, List.length_append, List.length_replicate] at h
    have hnone : width - (digits n).length = 0 := by omega
    rw [padded, hnone, List.replicate_zero, List.nil_append]
    exact head?_digits_of_length (by omega)

/-! ## Only one row of digits -/

theorem worth_lt (h : ∀ c ∈ cs, c ∈ figures) : worth cs < 16 ^ cs.length := by
  have hlt := Nat.ofDigits_lt_base_pow_length (by decide) (figures_lt h)
  rwa [List.length_map, List.length_reverse] at hlt

theorem le_worth (hfigures : ∀ c ∈ cs, c ∈ figures) (hne : cs ≠ []) (hhead : cs.head? ≠ some '0') :
    16 ^ (cs.length - 1) ≤ worth cs := by
  obtain ⟨c, rest, rfl⟩ := List.exists_cons_of_ne_nil hne
  have hpos : 0 < figures.idxOf c := by
    refine Nat.pos_of_ne_zero fun hzero => hhead ?_
    have hfirst : figures.idxOf c = figures.idxOf '0' := hzero.trans (by decide)
    rw [List.head?_cons, (List.idxOf_inj (hfigures c List.mem_cons_self)).mp hfirst]
  rw [worth, List.reverse_cons, List.map_append, Nat.ofDigits_append, List.length_map, List.length_reverse,
    List.map_singleton, Nat.ofDigits_singleton, List.length_cons, Nat.add_sub_cancel]
  exact Nat.le_add_left_of_le (Nat.le_mul_of_pos_right _ hpos)

theorem Numeral.length_le {ds : List Char} (h : Numeral width n cs) (h' : Numeral width n ds) :
    cs.length ≤ ds.length := by
  by_contra hlt
  rw [Nat.not_le] at hlt
  have hmore : width < cs.length := Nat.lt_of_le_of_lt h'.wide hlt
  have hne : cs ≠ [] := List.ne_nil_of_length_pos (Nat.zero_lt_of_lt hlt)
  have hlower := le_worth h.figures hne (h.tight hmore)
  have hupper := worth_lt h'.figures
  have hpow : 16 ^ ds.length ≤ 16 ^ (cs.length - 1) := Nat.pow_le_pow_right (by decide) (by omega)
  rw [h.worth] at hlower
  rw [h'.worth] at hupper
  omega

theorem Numeral.unique {ds : List Char} (h : Numeral width n cs) (h' : Numeral width n ds) : cs = ds := by
  have hlength : cs.length = ds.length := Nat.le_antisymm (h.length_le h') (h'.length_le h)
  have hplaces : cs.reverse.map Hex.figures.idxOf = ds.reverse.map Hex.figures.idxOf :=
    Nat.ofDigits_inj_of_len_eq (by decide) (by simpa using hlength) (figures_lt h.figures) (figures_lt h'.figures)
      (h.worth.trans h'.worth.symm)
  have hfigures := congrArg (List.map (Hex.figures[·]?)) hplaces
  rw [map_figures_idxOf h.figures, map_figures_idxOf h'.figures] at hfigures
  exact List.reverse_injective (List.map_injective_iff.mpr (Option.some_injective Char) hfigures)

theorem eq_padded_iff (hwidth : 0 < width) : cs = padded width n ↔ Numeral width n cs := by
  constructor
  · rintro rfl
    exact numeral_padded hwidth n
  · exact fun h => h.unique (numeral_padded hwidth n)

/-! ## The numbers of a fault -/

/-- A way to show things as numbers. -/
structure Renders {α : Type} (width : Nat) (number : α → Nat) (render : α → String) : Prop where
  /-- What is shown is the mark and the numeral, and nothing else would be. -/
  numeral : ∀ a s, s = render a ↔ ∃ cs, s = "0x" ++ String.ofList cs ∧ Numeral width (number a) cs
  injective : Function.Injective render
  oneLine : ∀ a, '\r' ∉ (render a).toList ∧ '\n' ∉ (render a).toList

theorem renders_paddedText {α : Type} {number : α → Nat} (hwidth : 0 < width) (hnumber : Function.Injective number) :
    Renders width number fun a => paddedText width (number a) where
  numeral a s := by
    constructor
    · rintro rfl
      exact ⟨_, rfl, numeral_padded hwidth _⟩
    · rintro ⟨cs, rfl, hcs⟩
      rw [paddedText, (eq_padded_iff hwidth).mpr hcs]
  injective a b h := hnumber (paddedText_injective h)
  oneLine _ := ⟨fun h => (ne_of_mem (mem_paddedText h)).1 rfl, fun h => (ne_of_mem (mem_paddedText h)).2.1 rfl⟩

theorem padded_one (n : Nat) : padded 1 n = digits n := by
  rw [padded, Nat.sub_eq_zero_of_le (length_digits_pos n), List.replicate_zero, List.nil_append]

theorem text_eq_paddedText (n : Nat) : text n = paddedText 1 n := by rw [text, paddedText, padded_one]

theorem renders_text {α : Type} {number : α → Nat} (hnumber : Function.Injective number) :
    Renders 1 number fun a => text (number a) := by
  simp only [text_eq_paddedText]
  exact renders_paddedText (by decide) hnumber

theorem one_lt_length_digits_iff (n : Nat) : 1 < (digits n).length ↔ 16 ≤ n := by
  rw [digits]
  split
  · simp; omega
  · have hpos := length_digits_pos (n / 16)
    simp; omega

theorem two_lt_length_digits_iff (n : Nat) : 2 < (digits n).length ↔ 256 ≤ n := by
  by_cases hn : n < 16
  · rw [digits, if_pos hn, List.length_singleton]
    omega
  · have hlength := one_lt_length_digits_iff (n / 16)
    rw [digits, if_neg hn, List.length_append, List.length_singleton]
    omega

/-- Two digits are reached by one zero, in front of a number below 16. -/
theorem paddedText_two (n : Nat) :
    paddedText 2 n = "0x" ++ (if n < 16 then "0" else "") ++ String.ofList (digits n) := by
  have hpos := length_digits_pos n
  have hmore := one_lt_length_digits_iff n
  apply String.toList_inj.mp
  rw [paddedText_toList, padded]
  split
  · have hone : 2 - (digits n).length = 1 := by omega
    simp [hone]
  · have hnone : 2 - (digits n).length = 0 := by omega
    simp [hnone]

/-- **The numbers of a fault are shown behind the mark in upper-case digits of base 16, with no zero in front, but for a
status code below 16, which has one zero in front.** -/
theorem fault_numbers :
    Renders 1 (fun id : FaultId => id.raw.toNat) FaultId.text ∧
      Renders 1 UInt32.toNat (fun pc => (Line.programCounter pc).value) ∧
      Renders 1 UInt64.toNat (fun word => (Line.information word).value) ∧
      Renders 2 (fun code : StatusCode => code.raw.toNat) StatusCode.text ∧
      ∀ code : StatusCode, ∃ cs, Numeral 1 code.raw.toNat cs ∧
        code.text = "0x" ++ (if code.raw.toNat < 16 then "0" else "") ++ String.ofList cs ∧
        (2 < cs.length ↔ 255 < code.raw.toNat) := by
  have hid : Function.Injective fun id : FaultId => id.raw.toNat := fun id id' h =>
    congrArg FaultId.mk (UInt32.toNat_inj.mp h)
  have hcode : Function.Injective fun code : StatusCode => code.raw.toNat := fun code code' h =>
    congrArg StatusCode.mk (UInt32.toNat_inj.mp h)
  refine ⟨renders_text hid, renders_text fun _ _ h => UInt32.toNat_inj.mp h,
    renders_text fun _ _ h => UInt64.toNat_inj.mp h, renders_paddedText (by decide) hcode, fun code => ?_⟩
  have hnumeral : Numeral 1 code.raw.toNat (digits code.raw.toNat) := padded_one _ ▸ numeral_padded (by decide) _
  exact ⟨_, hnumeral, paddedText_two _, two_lt_length_digits_iff _⟩

end PostMortem.Text.Hex
