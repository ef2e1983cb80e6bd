import VideoRelay.Decimal.Numeral

set_option autoImplicit false

namespace VideoRelay.Decimal

theorem isDigit_of_mem_toDigits {value : Nat} {c : Char} (member : c ∈ Nat.toDigits 10 value) :
    isDigit c = true := by
  have digit := Nat.isDigit_of_mem_toDigits (by decide) (by decide) member
  simp only [Char.isDigit, Bool.and_eq_true, decide_eq_true_eq, ge_iff_le, UInt32.le_iff_toNat_le] at digit
  simp only [isDigit, Bool.and_eq_true, decide_eq_true_eq]
  exact digit

theorem wholeNumber?_toDigits (value : Nat) : wholeNumber? (Nat.toDigits 10 value) = some value := by
  have digits : (Nat.toDigits 10 value).all isDigit = true :=
    List.all_eq_true.2 fun _ member => isDigit_of_mem_toDigits member
  have read : digitsValue (Nat.toDigits 10 value) = value := Nat.ofDigitChars_toDigits (by decide) (by decide)
  simp [wholeNumber?, digits, read, Nat.toDigits_ne_nil]

theorem wholeNumber?_eq_some_iff {chars : List Char} {value : Nat} :
    wholeNumber? chars = some value <->
      chars ≠ [] /\ (forall c, c ∈ chars -> isDigit c = true) /\ digitsValue chars = value := by
  rw [wholeNumber?]
  split
  next bad =>
    simp only [Bool.or_eq_true, List.isEmpty_iff, Bool.not_eq_true', List.all_eq_false] at bad
    constructor
    next => simp
    next =>
      rintro ⟨nonempty, digits, -⟩
      obtain rfl | ⟨c, member, other⟩ := bad
      next => exact absurd rfl nonempty
      next => exact absurd (digits c member) other
  next good =>
    simp only [Bool.or_eq_true, List.isEmpty_iff, Bool.not_eq_true', not_or, Bool.not_eq_false,
      List.all_eq_true] at good
    simp only [Option.some.injEq]
    exact ⟨fun same => ⟨good.1, good.2, same⟩, fun found => found.2.2⟩

theorem digitValue_lt {c : Char} (digit : isDigit c = true) : digitValue c < 10 := by
  simp only [isDigit, Bool.and_eq_true, decide_eq_true_eq] at digit
  rw [digitValue]
  omega

theorem digitChar_digitValue {c : Char} (digit : isDigit c = true) : (digitValue c).digitChar = c := by
  have every : forall value : Fin 10, (value.val).digitChar.toNat = 48 + value.val := by decide
  have written := every ⟨digitValue c, digitValue_lt digit⟩
  simp only [isDigit, Bool.and_eq_true, decide_eq_true_eq] at digit
  apply Char.toNat_inj.1
  rw [written]
  simp only [digitValue]
  omega

theorem toDigits_append {value : Nat} {digits : List Char} (positive : 0 < value)
    (plain : forall c, c ∈ digits -> isDigit c = true) : Nat.toDigits 10 value ++ digits =
      Nat.toDigits 10 (digits.foldl (fun value c => 10 * value + digitValue c) value) := by
  induction digits generalizing value with
  | nil => simp
  | cons first rest ih =>
    have digit := plain first List.mem_cons_self
    have small := digitValue_lt digit
    calc
      Nat.toDigits 10 value ++ first :: rest = (Nat.toDigits 10 value ++ [first]) ++ rest := by simp
      _ = Nat.toDigits 10 (10 * value + digitValue first) ++ rest := by
        rw [<- Nat.toDigits_append_toDigits (by decide) positive small, Nat.toDigits_of_lt_base small,
          digitChar_digitValue digit]
      _ = _ := ih (by omega) fun c member => plain c (List.mem_cons_of_mem _ member)

theorem toDigits_digitsValue {first : Char} {rest : List Char}
    (plain : forall c, c ∈ first :: rest -> isDigit c = true) (nonzero : first ≠ '0') :
    Nat.toDigits 10 (digitsValue (first :: rest)) = first :: rest := by
  have digit := plain first List.mem_cons_self
  have positive : 0 < digitValue first := by
    refine Nat.pos_of_ne_zero fun zero => nonzero ?_
    rw [<- digitChar_digitValue digit, zero]
    rfl
  rw [digitsValue, List.foldl_cons, Nat.mul_zero, Nat.zero_add,
    <- toDigits_append positive fun c member => plain c (List.mem_cons_of_mem _ member),
    Nat.toDigits_of_lt_base (digitValue_lt digit), digitChar_digitValue digit]
  rfl

end VideoRelay.Decimal
