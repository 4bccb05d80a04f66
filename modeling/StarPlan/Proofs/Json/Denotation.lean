import StarPlan.Json.Number
import StarPlan.Proofs.Json.Lexing
import StarPlan.Proofs.Number.Shortest

/-!
# The number that a text denotes

A number token denotes a rational number, whatever becomes of it when it is read. Of a text that
spells a single number token the same can be said (`Denotes`), and it denotes no other number.

A number that was read is written as such a text: an integer as itself, a binary64 value as its
shortest decimal (`Number.denotes_render`).
-/

namespace StarPlan

/-! Digits. -/

theorem decimalDigits_eq (cs : List Char) : decimalDigits cs = Nat.ofDigitChars 10 cs 0 := by
  simp only [decimalDigits, Nat.ofDigitChars, decimalDigit, Nat.mul_comm]

theorem decimalDigits_append (cs cs' : List Char) :
    decimalDigits (cs ++ cs') = decimalDigits cs * 10 ^ cs'.length + decimalDigits cs' := by
  simp only [decimalDigits_eq, Nat.ofDigitChars_append]
  rw [Nat.ofDigitChars_eq_ofDigitChars_zero, Nat.mul_comm]

theorem decimalDigits_toDigits (n : ℕ) : decimalDigits (Nat.toDigits 10 n) = n := by
  rw [decimalDigits_eq, Nat.ofDigitChars_ten_toDigits]

theorem decimalDigits_replicate (k : ℕ) : decimalDigits (List.replicate k '0') = 0 := by
  rw [decimalDigits_eq, Nat.ofDigitChars_replicate_zero, Nat.mul_zero]

/-- Only zero begins with a zero. -/
theorem head?_toDigits {n : ℕ} (positive : 0 < n) : (Nat.toDigits 10 n).head? ≠ some '0' := by
  have single : ∀ n < 10, 0 < n → [n.digitChar].head? ≠ some '0' := by decide
  induction n using Nat.strongRecOn with
  | _ n ih =>
      rw [Nat.toDigits_eq_if (by decide)]
      split
      · next small => exact single n small positive
      · next large =>
        rw [List.head?_append_of_ne_nil _ Nat.toDigits_ne_nil]
        exact ih (n / 10) (by omega) (by omega)

theorem isDigits_toDigits (n : ℕ) : Json.IsDigits (Nat.toDigits 10 n) :=
  ⟨Nat.toDigits_ne_nil, fun _ => Nat.isDigit_of_mem_toDigits (by decide) (by decide)⟩

namespace Json

/-! The number of a token. -/

/-- A rational with a sign. -/
def signed (negative : Bool) (v : ℚ) : ℚ := if negative then -v else v

namespace Numeral

/-- The written exponent. -/
def power (n : Numeral) : ℤ :=
  match n.exponent with
  | none => 0
  | some (negative, digits) => if negative then -decimalDigits digits else decimalDigits digits

/-- The decimal that is written, without its sign. -/
def decimal (n : Numeral) : Decimal := .ofParts n.whole (n.fraction.getD []) n.power

/-- The number that is written. -/
def value (n : Numeral) : ℚ := signed n.negative n.decimal.value

end Numeral

/-- A text spells a number token, and the token stands for a rational number. -/
def Denotes (text : String) (v : ℚ) : Prop :=
  ∃ n : Numeral, (Token.number n).Spelled text.toList ∧ n.value = v

/-- A text spells at most one number token. -/
theorem Denotes.unique {text : String} {v w : ℚ} (first : Denotes text v)
    (second : Denotes text w) : v = w := by
  obtain ⟨n, spelled, rfl⟩ := first
  obtain ⟨n', spelled', rfl⟩ := second
  have ends : EndsNumber [] := nofun
  obtain ⟨c, more, eq, -, scan⟩ := spelled.exists_scan fun _ => ends
  obtain ⟨c', more', eq', -, scan'⟩ := spelled'.exists_scan fun _ => ends
  obtain ⟨rfl, rfl⟩ := List.cons.inj (eq.symm.trans eq')
  obtain ⟨same, -⟩ := Prod.mk.inj (scan.symm.trans scan')
  rw [Token.number.inj same]

theorem denotes_of_spelled {n : Numeral} {cs : List Char} (spelled : n.Spelled cs) :
    Denotes (String.ofList (if n.negative then '-' :: cs else cs)) n.value := by
  refine ⟨n, ?_, rfl⟩
  rw [String.toList_ofList]
  cases sign : n.negative with
  | false => exact .positive sign spelled
  | true => exact .negative sign spelled

/-! Integers. -/

/-- A natural as a number token. -/
def Numeral.natural (negative : Bool) (n : ℕ) : Numeral := ⟨negative, Nat.toDigits 10 n, none, none⟩

theorem Numeral.natural_spelled (negative : Bool) (n : ℕ) :
    (natural negative n).Spelled (Nat.toDigits 10 n) := by
  have leading : (Nat.toDigits 10 n).head? = some '0' → (Nat.toDigits 10 n).length = 1 := by
    intro zero
    obtain rfl | positive := Nat.eq_zero_or_pos n
    · rfl
    · exact absurd zero (head?_toDigits positive)
  have spelled := @Numeral.Spelled.digits (natural negative n) [] [] (isDigits_toDigits n) leading
    .none .none
  rwa [List.append_nil, List.append_nil] at spelled

theorem Numeral.natural_value (negative : Bool) (n : ℕ) :
    (natural negative n).value = signed negative n := by
  have decimal : (natural negative n).decimal.value = n := by
    simp [Numeral.decimal, natural, Decimal.ofParts, Numeral.power, Decimal.value,
      decimalDigits_toDigits]
  rw [value, decimal]
  rfl

theorem denotes_toString (v : ℤ) : Denotes (toString v) v := by
  have digits (negative : Bool) (n : ℕ) := denotes_of_spelled (Numeral.natural_spelled negative n)
  simp only [Numeral.natural_value] at digits
  rw [Int.toString_eq_repr, Int.repr_eq_if]
  split
  · next nonneg =>
    have natural : ((v.toNat : ℕ) : ℚ) = v := by exact_mod_cast Int.toNat_of_nonneg nonneg
    rw [Nat.repr_eq_ofList_toDigits, ← natural]
    exact digits false v.toNat
  · next negative =>
    have natural : (((-v).toNat : ℕ) : ℚ) = -v := by
      exact_mod_cast Int.toNat_of_nonneg (by omega : 0 ≤ -v)
    have text : "-" ++ (-v).toNat.repr = String.ofList ('-' :: Nat.toDigits 10 (-v).toNat) := by
      rw [Nat.repr_eq_ofList_toDigits, String.ofList_cons]
      rfl
    have minus := digits true (-v).toNat
    rw [signed, if_pos rfl, natural, neg_neg] at minus
    rw [text]
    exact minus

/-! Decimals. -/

section

variable (negative : Bool) {whole fraction ds : List Char}

/-- Digits before and after a point, with no exponent. -/
theorem Numeral.point_spelled (digits : IsDigits whole) (digits' : IsDigits fraction)
    (leading : whole.head? = some '0' → whole.length = 1) :
    (⟨negative, whole, some fraction, none⟩ : Numeral).Spelled (whole ++ '.' :: fraction) := by
  have spelled := @Numeral.Spelled.digits ⟨negative, whole, some fraction, none⟩ _ _ digits leading
    (.some digits') .none
  rwa [List.append_nil] at spelled

theorem Numeral.point_decimal :
    (⟨negative, whole, some fraction, none⟩ : Numeral).decimal =
      ⟨decimalDigits (whole ++ fraction), -fraction.length⟩ := by
  simp only [decimal, power, Decimal.ofParts, Option.getD_some, zero_sub]

theorem IsDigits.append (digits : IsDigits whole) (more : ∀ c ∈ fraction, c.isDigit = true) :
    IsDigits (whole ++ fraction) :=
  ⟨by simp [digits.1], List.forall_mem_append.2 ⟨digits.2, more⟩⟩

theorem isDigit_of_mem_replicate {k : ℕ} {c : Char} (zeros : c ∈ List.replicate k '0') :
    c.isDigit = true := by
  rw [List.eq_of_mem_replicate zeros]
  rfl

/-- A whole decimal is written with its zeros and one behind the point. -/
theorem exists_whole (digits : IsDigits ds) {k : ℕ}
    (leading : ds.head? = some '0' → ds.length = 1 ∧ k = 0) :
    ∃ n : Numeral, n.negative = negative ∧
      n.Spelled (ds ++ List.replicate k '0' ++ ['.', '0']) ∧
      n.decimal.value = (⟨decimalDigits ds, k⟩ : Decimal).value := by
  refine ⟨⟨negative, ds ++ List.replicate k '0', some ['0'], none⟩, rfl,
    Numeral.point_spelled negative (digits.append fun _ => isDigit_of_mem_replicate)
      ⟨nofun, by simp⟩ ?_, ?_⟩
  · intro zero
    rw [List.head?_append_of_ne_nil _ digits.1] at zero
    obtain ⟨one, rfl⟩ := leading zero
    rw [List.replicate_zero, List.append_nil, one]
  · have zeros : ds ++ List.replicate k '0' ++ ['0'] = ds ++ List.replicate (k + 1) '0' := by
      rw [List.append_assoc, List.replicate_succ']
    rw [Numeral.point_decimal, zeros, decimalDigits_append, decimalDigits_replicate,
      List.length_replicate, add_zero, Decimal.value_shift]
    congr 2
    simp

/-- The point stands between the digits. -/
theorem exists_between (digits : IsDigits ds) {k : ℕ} (behind : 0 < k) (short : k < ds.length)
    (leading : ds.head? = some '0' → ds.length = 1) :
    ∃ n : Numeral, n.negative = negative ∧
      n.Spelled (ds.take (ds.length - k) ++ '.' :: ds.drop (ds.length - k)) ∧
      n.decimal.value = (⟨decimalDigits ds, -k⟩ : Decimal).value := by
  have ahead : 0 < ds.length - k := by omega
  have before : IsDigits (ds.take (ds.length - k)) := by
    refine ⟨?_, fun c listed => digits.2 c (List.mem_of_mem_take listed)⟩
    rw [← List.length_pos_iff, List.length_take]
    omega
  have after : IsDigits (ds.drop (ds.length - k)) := by
    refine ⟨?_, fun c listed => digits.2 c (List.mem_of_mem_drop listed)⟩
    rw [← List.length_pos_iff, List.length_drop]
    omega
  refine ⟨⟨negative, ds.take (ds.length - k), some (ds.drop (ds.length - k)), none⟩, rfl,
    Numeral.point_spelled negative before after ?_, ?_⟩
  · intro zero
    rw [List.head?_take, if_neg ahead.ne'] at zero
    have := leading zero
    omega
  · have places : (ds.drop (ds.length - k)).length = k := by
      rw [List.length_drop]
      omega
    rw [Numeral.point_decimal, List.take_append_drop, places]

/-- The digits stand behind the point. -/
theorem exists_behind (digits : IsDigits ds) {k : ℕ} (long : ds.length ≤ k) :
    ∃ n : Numeral, n.negative = negative ∧
      n.Spelled ('0' :: '.' :: (List.replicate (k - ds.length) '0' ++ ds)) ∧
      n.decimal.value = (⟨decimalDigits ds, -k⟩ : Decimal).value := by
  have after : IsDigits (List.replicate (k - ds.length) '0' ++ ds) :=
    ⟨by simp [digits.1],
      List.forall_mem_append.2 ⟨fun _ => isDigit_of_mem_replicate, digits.2⟩⟩
  refine ⟨⟨negative, ['0'], some (List.replicate (k - ds.length) '0' ++ ds), none⟩, rfl,
    Numeral.point_spelled negative ⟨nofun, by simp⟩ after fun _ => rfl, ?_⟩
  have places : (List.replicate (k - ds.length) '0' ++ ds).length = k := by
    rw [List.length_append, List.length_replicate]
    omega
  have zeros : ['0'] ++ (List.replicate (k - ds.length) '0' ++ ds) =
      List.replicate (k - ds.length + 1) '0' ++ ds := rfl
  rw [Numeral.point_decimal, places, zeros, decimalDigits_append, decimalDigits_replicate,
    zero_mul, zero_add]

end

/-- A decimal that is set positionally is a number token of its value. -/
theorem exists_plain (negative : Bool) {d : Decimal} (zero : d.digits = 0 → d.exponent ≤ 0) :
    ∃ n : Numeral, n.negative = negative ∧ n.Spelled d.plain ∧ n.decimal.value = d.value := by
  obtain ⟨digits, exponent⟩ := d
  obtain ⟨ds, text⟩ : ∃ ds, Nat.toDigits 10 digits = ds := ⟨_, rfl⟩
  have run : IsDigits ds := text ▸ isDigits_toDigits digits
  have denoted : decimalDigits ds = digits := text ▸ decimalDigits_toDigits digits
  have leading : ds.head? = some '0' → ds.length = 1 ∧ digits = 0 := by
    intro first
    obtain rfl : digits = 0 := by
      by_contra nonzero
      exact head?_toDigits (Nat.pos_of_ne_zero nonzero) (text ▸ first)
    exact ⟨text ▸ rfl, rfl⟩
  simp only [Decimal.plain, Decimal.digitText, text]
  rw [← denoted] at zero ⊢
  split
  · next whole =>
    obtain ⟨k, rfl⟩ := Int.eq_ofNat_of_zero_le whole
    refine exists_whole negative run fun first => ?_
    obtain ⟨one, none⟩ := leading first
    have small : (k : ℤ) ≤ 0 := zero (denoted.trans none)
    exact ⟨one, by omega⟩
  · next proper =>
    obtain ⟨k, rfl⟩ : ∃ k : ℕ, exponent = -k := ⟨(-exponent).toNat, by omega⟩
    rw [neg_neg, Int.toNat_natCast]
    split
    · next short =>
      exact exists_between negative run (by omega) short fun first => (leading first).1
    · next long => exact exists_behind negative run (not_lt.1 long)

/-- A written exponent is the exponent. -/
theorem power_of_natAbs {n : Numeral} {e : ℤ}
    (written : n.exponent = some (decide (e < 0), Nat.toDigits 10 e.natAbs)) : n.power = e := by
  rw [Numeral.power, written]
  simp only [decimalDigits_toDigits, decide_eq_true_eq]
  split <;> omega

theorem scientific_eq {d : Decimal} {c : Char} {rest : List Char}
    (text : Nat.toDigits 10 d.digits = c :: rest) :
    d.scientific = [c] ++ ((if rest = [] then [] else '.' :: rest) ++
      'e' :: (if d.leading < 0 then '-' else '+') :: Nat.toDigits 10 d.leading.natAbs) := by
  rw [Decimal.scientific, Decimal.digitText, text]
  cases rest <;> rfl

/-- Digits behind a first one are a fraction, if there are any. -/
theorem exists_fraction {rest : List Char} (digits : ∀ c ∈ rest, c.isDigit = true) :
    ∃ fraction, FractionSpelled fraction (if rest = [] then [] else '.' :: rest) ∧
      fraction.getD [] = rest := by
  cases rest with
  | nil => exact ⟨none, .none, rfl⟩
  | cons c rest => exact ⟨some (c :: rest), .some ⟨nofun, digits⟩, rfl⟩

/-- A decimal that is set with a power of ten is a number token of its value. -/
theorem exists_scientific (negative : Bool) (d : Decimal) :
    ∃ n : Numeral, n.negative = negative ∧ n.Spelled d.scientific ∧ n.decimal.value = d.value := by
  obtain ⟨c, rest, text⟩ : ∃ c rest, Nat.toDigits 10 d.digits = c :: rest :=
    List.exists_cons_of_ne_nil Nat.toDigits_ne_nil
  obtain ⟨first, later⟩ := List.forall_mem_cons.1 (text ▸ (isDigits_toDigits d.digits).2)
  have denoted : decimalDigits (c :: rest) = d.digits := text ▸ decimalDigits_toDigits d.digits
  obtain ⟨e, leading⟩ : ∃ e, d.leading = e := ⟨_, rfl⟩
  have exponent : e - rest.length = d.exponent := by
    rw [← leading, Decimal.leading, Decimal.digitText, text, List.length_cons]
    push_cast
    ring
  have raised : ExponentSpelled (some (decide (e < 0), Nat.toDigits 10 e.natAbs))
      ('e' :: (if e < 0 then '-' else '+') :: Nat.toDigits 10 e.natAbs) := by
    have digits := isDigits_toDigits e.natAbs
    by_cases below : e < 0
    · rw [if_pos below, decide_eq_true below]
      exact .some (.inl rfl) .minus digits
    · rw [if_neg below, decide_eq_false below]
      exact .some (.inl rfl) .plus digits
  have mantissa : IsDigits [c] := ⟨nofun, List.forall_mem_singleton.2 first⟩
  obtain ⟨fraction, fractioned, whole⟩ := exists_fraction later
  rw [scientific_eq text, leading]
  refine ⟨⟨negative, [c], fraction, some (decide (e < 0), Nat.toDigits 10 e.natAbs)⟩, rfl,
    .digits mantissa (fun _ => rfl) fractioned raised, ?_⟩
  rw [Numeral.decimal, power_of_natAbs rfl, Decimal.ofParts, whole, exponent]
  exact congrArg (fun digits => (⟨digits, d.exponent⟩ : Decimal).value) denoted

theorem denotes_write (layout : Layout) (negative : Bool) (x : Binary) :
    Denotes (layout.write negative x) (signed negative (x.shortest layout.tie).value) := by
  obtain ⟨d, shortest⟩ : ∃ d, x.shortest layout.tie = d := ⟨_, rfl⟩
  have zero : d.digits = 0 → d.exponent ≤ 0 := by
    intro digits
    have none : x.m = 0 := by
      by_contra nonzero
      exact Binary.shortest_ne_zero nonzero layout.tie (shortest ▸ digits)
    rw [← shortest, Binary.shortest_zero none]
  obtain ⟨n, rfl, spelled, value⟩ : ∃ n : Numeral, n.negative = negative ∧
      n.Spelled (if layout.isPlain d then d.plain else d.scientific) ∧
      n.decimal.value = d.value := by
    split
    · exact exists_plain negative zero
    · exact exists_scientific negative d
  have denotes := denotes_of_spelled spelled
  rw [Numeral.value, value] at denotes
  rw [Layout.write, shortest]
  exact denotes

/-- The value of a number as it is written. -/
def Number.value : Number → ℚ
  | .integer v => v
  | .float negative x => signed negative (x.shortest layout.tie).value

theorem Number.denotes_render (number : Number) : Denotes number.render number.value := by
  cases number with
  | integer v => exact denotes_toString v
  | float negative x => exact denotes_write layout negative x

end Json

end StarPlan
