import Mathlib.Data.List.TakeWhile
import StarPlan.Proofs.Json.Written

/-!
# The tokens of a text

How tokens are spelled is told here by a grammar that knows nothing of the reader: a character
of a string stands for itself or is escaped, a number has its digits with a point and an
exponent at will, and there may be blanks before, between and behind the tokens (`Spelling`).

A text with a spelling is read as the tokens that it spells (`Spelling.tokens_eq`). If reading
meets no break, the text has a spelling (`spelling_of_tokens`).
-/

namespace StarPlan.Json

/-! The grammar. -/

/-- The ways to write a piece of a string. -/
inductive Piece.Spelled : Piece → List Char → Prop
  | plain {c : Char} (quote : c ≠ '"') (backslash : c ≠ '\\') (control : ¬ c < ' ') :
    Spelled (.char c) [c]
  | escape {e c : Char} (stands : escape? e = some c) : Spelled (.char c) ['\\', e]
  | unit {a b c d : Char} {value : Nat} (hex : hexUnit? a b c d = some value) :
    Spelled (.unit value) ['\\', 'u', a, b, c, d]

/-- The ways to write the inside of a string. -/
inductive PiecesSpelled : List Piece → List Char → Prop
  | nil : PiecesSpelled [] []
  | cons {p : Piece} {ps : List Piece} {cs cs' : List Char} (first : p.Spelled cs)
    (later : PiecesSpelled ps cs') : PiecesSpelled (p :: ps) (cs ++ cs')

/-- One or more digits. -/
def IsDigits (ds : List Char) : Prop :=
  ds ≠ [] ∧ ∀ c ∈ ds, c.isDigit = true

/-- How a fraction is written. -/
inductive FractionSpelled : Option (List Char) → List Char → Prop
  | none : FractionSpelled none []
  | some {ds : List Char} (digits : IsDigits ds) : FractionSpelled (some ds) ('.' :: ds)

/-- The ways to write the sign of an exponent. -/
inductive SignSpelled : Bool → List Char → Prop
  | none : SignSpelled false []
  | plus : SignSpelled false ['+']
  | minus : SignSpelled true ['-']

/-- The ways to write an exponent. -/
inductive ExponentSpelled : Option (Bool × List Char) → List Char → Prop
  | none : ExponentSpelled none []
  | some {letter : Char} {negative : Bool} {sign ds : List Char}
    (isLetter : letter = 'e' ∨ letter = 'E') (signed : SignSpelled negative sign)
    (digits : IsDigits ds) : ExponentSpelled (some (negative, ds)) (letter :: (sign ++ ds))

/-- The ways to write a number after its sign. -/
inductive Numeral.Spelled (n : Numeral) : List Char → Prop
  | digits {fraction exponent : List Char} (whole : IsDigits n.whole)
    (leading : n.whole.head? = some '0' → n.whole.length = 1)
    (fractioned : FractionSpelled n.fraction fraction)
    (raised : ExponentSpelled n.exponent exponent) :
    Spelled n (n.whole ++ (fraction ++ exponent))

/-- The ways to write a token. -/
inductive Token.Spelled : Token → List Char → Prop
  | openArray : Spelled .openArray ['[']
  | closeArray : Spelled .closeArray [']']
  | openObject : Spelled .openObject ['{']
  | closeObject : Spelled .closeObject ['}']
  | comma : Spelled .comma [',']
  | colon : Spelled .colon [':']
  | null : Spelled .null ['n', 'u', 'l', 'l']
  | yes : Spelled (.bool true) ['t', 'r', 'u', 'e']
  | no : Spelled (.bool false) ['f', 'a', 'l', 's', 'e']
  | positive {n : Numeral} {cs : List Char} (unsigned : n.negative = false)
    (spelled : n.Spelled cs) : Spelled (.number n) cs
  | negative {n : Numeral} {cs : List Char} (signed : n.negative = true)
    (spelled : n.Spelled cs) : Spelled (.number n) ('-' :: cs)
  | text {ps : List Piece} {cs : List Char} (spelled : PiecesSpelled ps cs) :
    Spelled (.text ⟨ps, none⟩) ('"' :: (cs ++ ['"']))

/-- A number does not go on at the front of a text. -/
def EndsNumber (rest : List Char) : Prop :=
  ∀ c ∈ rest.head?, c.isDigit = false ∧ c ≠ '.' ∧ c ≠ 'e' ∧ c ≠ 'E'

/-- Whether a token is a number. -/
def Token.isNumber : Token → Bool
  | .number _ => true
  | _ => false

/-- The ways to write a list of tokens: each of them in some way, with blanks anywhere around
them. -/
inductive Spelling : List Token → List Char → Prop
  | nil : Spelling [] []
  | blank {c : Char} {ts : List Token} {cs : List Char} (space : isSpace c = true)
    (later : Spelling ts cs) : Spelling ts (c :: cs)
  | token {t : Token} {ts : List Token} {cs rest : List Char} (spelled : t.Spelled cs)
    (ends : t.isNumber = true → EndsNumber rest) (later : Spelling ts rest) :
    Spelling (t :: ts) (cs ++ rest)

/-! What is spelled is read. -/

theorem RawText.scan_pieces {ps : List Piece} {cs : List Char} (spelled : PiecesSpelled ps cs)
    (rest : List Char) : scan (cs ++ '"' :: rest) = (⟨ps, none⟩, rest) := by
  induction spelled with
  | nil => rw [List.nil_append, scan]
  | cons first _ ih =>
      rw [List.append_assoc]
      cases first with
      | plain quote backslash control =>
          rw [List.singleton_append, scan_plain quote backslash control, ih]
          rfl
      | escape stands =>
          rw [List.cons_append, List.cons_append, scan_escape stands, List.nil_append, ih]
          rfl
      | unit hex =>
          simp only [List.cons_append, List.nil_append]
          rw [scan_unit hex, ih]
          rfl

theorem digitRun_append {ds rest : List Char} (digits : ∀ c ∈ ds, c.isDigit = true)
    (ends : ∀ c ∈ rest.head?, c.isDigit = false) : digitRun (ds ++ rest) = (ds, rest) := by
  rw [digitRun, List.takeWhile_append_of_pos digits, List.dropWhile_append_of_pos digits]
  cases rest with
  | nil => rw [List.takeWhile_nil, List.append_nil, List.dropWhile_nil]
  | cons c rest =>
      rw [List.takeWhile_cons_of_neg (by simp [ends c rfl]),
        List.dropWhile_cons_of_neg (by simp [ends c rfl]), List.append_nil]

theorem EndsNumber.noDigit {rest : List Char} (ends : EndsNumber rest) :
    ∀ c ∈ rest.head?, c.isDigit = false := fun c head => (ends c head).1

theorem IsDigits.isEmpty_eq_false {ds : List Char} (digits : IsDigits ds) : ds.isEmpty = false :=
  List.isEmpty_eq_false_iff.2 digits.1

theorem scanExponent_spelled (sofar : Numeral) {negative : Bool} {sign ds rest : List Char}
    (signed : SignSpelled negative sign) (digits : IsDigits ds) (ends : EndsNumber rest) :
    scanExponent sofar (sign ++ (ds ++ rest)) =
      (.number { sofar with exponent := some (negative, ds) }, rest) := by
  have run := digitRun_append digits.2 ends.noDigit
  cases signed with
  | none =>
      obtain ⟨nonempty, all⟩ := digits
      obtain ⟨c, ds, rfl⟩ := List.exists_cons_of_ne_nil nonempty
      have digit := all c List.mem_cons_self
      rw [List.nil_append, scanExponent, run]
      · rfl
      · rintro cs eq
        obtain ⟨rfl, -⟩ := List.cons.inj eq
        cases digit
      · rintro cs eq
        obtain ⟨rfl, -⟩ := List.cons.inj eq
        cases digit
  | plus | minus =>
      simp only [scanExponent, List.cons_append, List.nil_append, run, digits.isEmpty_eq_false]
      rfl

theorem scanExponent?_of_ends (sofar : Numeral) {rest : List Char} (ends : EndsNumber rest) :
    scanExponent? sofar rest = (.number sofar, rest) := by
  rw [scanExponent?.eq_def]
  split
  · exact absurd rfl (ends 'e' rfl).2.2.1
  · exact absurd rfl (ends 'E' rfl).2.2.2
  · rfl

theorem scanExponent?_spelled {n : Numeral} {cs rest : List Char}
    (raised : ExponentSpelled n.exponent cs) (ends : EndsNumber rest) :
    scanExponent? { n with exponent := none } (cs ++ rest) = (.number n, rest) := by
  obtain ⟨negative, whole, fraction, exponent⟩ := n
  cases raised with
  | none => exact scanExponent?_of_ends _ ends
  | some isLetter signed digits =>
      rw [List.cons_append, List.append_assoc]
      rcases isLetter with rfl | rfl <;> exact scanExponent_spelled _ signed digits ends

/-- An exponent, or what follows it, does not begin with a digit or a point. -/
theorem ExponentSpelled.head {exponent : Option (Bool × List Char)} {cs rest : List Char}
    (raised : ExponentSpelled exponent cs) (ends : EndsNumber rest) :
    ∀ c ∈ (cs ++ rest).head?, c.isDigit = false ∧ c ≠ '.' := by
  cases raised with
  | none => exact fun c head => ⟨(ends c head).1, (ends c head).2.1⟩
  | some isLetter _ _ =>
      rintro c ⟨⟩
      rcases isLetter with rfl | rfl <;> decide

theorem scanNumber_spelled {n : Numeral} {cs rest : List Char} (spelled : n.Spelled cs)
    (ends : EndsNumber rest) : scanNumber n.negative (cs ++ rest) = (.number n, rest) := by
  obtain ⟨whole, leading, fractioned, raised⟩ := spelled
  have noZero : ¬ (n.whole.head? = some '0' ∧ n.whole.length ≠ 1) := fun h => h.2 (leading h.1)
  have behind := raised.head ends
  have exponentRead := scanExponent?_spelled raised ends
  obtain ⟨negative, digits, fraction, exponent⟩ := n
  cases fractioned with
  | none =>
      rw [List.nil_append, List.append_assoc, scanNumber,
        digitRun_append whole.2 fun c head => (behind c head).1]
      simp only [whole.isEmpty_eq_false, Bool.false_eq_true, if_false, if_neg noZero]
      split
      · exact absurd rfl (behind '.' (by simp [*])).2
      · exact exponentRead
  | some fraction =>
      rw [List.append_assoc, List.append_assoc, List.cons_append, scanNumber,
        digitRun_append whole.2 (by rintro c ⟨⟩; rfl)]
      simp only [whole.isEmpty_eq_false, Bool.false_eq_true, if_false, if_neg noZero,
        digitRun_append fraction.2 fun c head => (behind c head).1, fraction.isEmpty_eq_false]
      exact exponentRead

/-- Numbers begin with a digit. -/
theorem Numeral.Spelled.exists_cons {n : Numeral} {cs : List Char} (spelled : n.Spelled cs) :
    ∃ c more, cs = c :: more ∧ c.isDigit = true := by
  obtain ⟨⟨nonempty, digits⟩, -, -, -⟩ := spelled
  obtain ⟨c, more, whole⟩ := List.exists_cons_of_ne_nil nonempty
  rw [whole] at digits ⊢
  exact ⟨c, _, rfl, digits c List.mem_cons_self⟩

theorem scanToken_digit {c : Char} (digit : c.isDigit = true) (cs : List Char) :
    scanToken c cs = scanNumber false (c :: cs) := by
  have other : ∀ d : Char, d.isDigit = false → c ≠ d := by
    rintro d other rfl
    rw [digit] at other
    cases other
  unfold scanToken
  simp only [if_neg (other '[' rfl), if_neg (other ']' rfl), if_neg (other '{' rfl),
    if_neg (other '}' rfl), if_neg (other ',' rfl), if_neg (other ':' rfl),
    if_neg (other '"' rfl), if_neg (other '-' rfl), if_pos digit]

/-- A token is read at the first character that is written for it. -/
theorem Token.Spelled.exists_scan {t : Token} {cs rest : List Char} (spelled : t.Spelled cs)
    (ends : t.isNumber = true → EndsNumber rest) :
    ∃ c more, cs = c :: more ∧ isSpace c = false ∧ scanToken c (more ++ rest) = (t, rest) := by
  cases spelled with
  | positive unsigned spelled =>
      obtain ⟨c, more, rfl, digit⟩ := spelled.exists_cons
      have read := scanNumber_spelled spelled (ends rfl)
      refine ⟨c, more, rfl, ?_, ?_⟩
      · cases space : isSpace c with
        | false => rfl
        | true =>
            simp only [isSpace, Bool.or_eq_true, beq_iff_eq] at space
            rcases space with ((rfl | rfl) | rfl) | rfl <;> cases digit
      · rwa [scanToken_digit digit, ← List.cons_append, ← unsigned]
  | negative signed spelled =>
      refine ⟨_, _, rfl, rfl, ?_⟩
      have read := scanNumber_spelled spelled (ends rfl)
      rwa [signed] at read
  | text spelled =>
      refine ⟨_, _, rfl, rfl, ?_⟩
      rw [List.append_assoc]
      show (Token.text (RawText.scan _).1, (RawText.scan _).2) = _
      rw [List.singleton_append, RawText.scan_pieces spelled]
  | _ => exact ⟨_, _, rfl, rfl, rfl⟩

theorem tokens_space {c : Char} (space : isSpace c = true) (cs : List Char) (fuel : Nat) :
    tokens (c :: cs) (fuel + 1) = tokens cs fuel := by
  rw [tokens, if_pos space]

theorem tokens_token {c : Char} {t : Token} {cs rest : List Char} (solid : isSpace c = false)
    (scan : scanToken c cs = (t, rest)) (fuel : Nat) :
    tokens (c :: cs) (fuel + 1) = t :: tokens rest fuel := by
  rw [tokens, solid, scan]
  rfl

/-- A text that spells tokens is read as these tokens. -/
theorem Spelling.tokens_eq {ts : List Token} {cs : List Char} (spelling : Spelling ts cs) :
    ∀ fuel, cs.length ≤ fuel → tokens cs fuel = ts := by
  induction spelling with
  | nil =>
      intro fuel _
      cases fuel <;> rfl
  | blank space _ ih =>
      intro fuel enough
      obtain _ | fuel := fuel
      · cases enough
      · rw [tokens_space space]
        exact ih fuel (Nat.le_of_succ_le_succ enough)
  | token spelled ends _ ih =>
      intro fuel enough
      obtain ⟨c, more, rfl, solid, scan⟩ := spelled.exists_scan ends
      obtain _ | fuel := fuel
      · cases enough
      · rw [List.cons_append, tokens_token solid scan, ih]
        simp only [List.length_cons, List.length_append] at enough
        omega

/-! What is read without a break is spelled. -/

/-- A token at which a text does not break off. -/
def Token.Whole : Token → Prop
  | .text raw => raw.broken = none
  | .cutNumber | .broken _ => False
  | _ => True

theorem RawText.exists_pieces (cs : List Char) (whole : (scan cs).1.broken = none) :
    ∃ text, PiecesSpelled (scan cs).1.pieces text ∧ cs = text ++ '"' :: (scan cs).2 := by
  fun_induction scan cs with
  | case2 rest => exact ⟨[], .nil, rfl⟩
  | case3 a b c d rest value hex raw after scanned ih =>
      rw [scanned] at ih
      obtain ⟨text, spelled, rfl⟩ := ih whole
      exact ⟨_, .cons (.unit hex) spelled, rfl⟩
  | case6 e rest _ _ c stands raw after scanned ih =>
      rw [scanned] at ih
      obtain ⟨text, spelled, rfl⟩ := ih whole
      exact ⟨_, .cons (.escape stands) spelled, rfl⟩
  | case10 c rest quote _ _ backslash ending control raw after scanned ih =>
      have noBackslash : c ≠ '\\' := by
        rintro rfl
        cases rest with
        | nil => exact ending rfl rfl
        | cons e rest => exact backslash e rest rfl rfl
      rw [scanned] at ih
      obtain ⟨text, spelled, rfl⟩ := ih whole
      exact ⟨_, .cons (.plain quote noBackslash control) spelled, rfl⟩
  | _ => cases whole

theorem digits_of_run {cs ds rest : List Char} (run : digitRun cs = (ds, rest))
    (nonempty : ¬ ds.isEmpty = true) :
    IsDigits ds ∧ cs = ds ++ rest ∧ ∀ c ∈ rest.head?, c.isDigit = false := by
  obtain ⟨rfl, rfl⟩ := Prod.mk.inj run
  refine ⟨⟨fun empty => nonempty (by rw [empty]; rfl), fun c => List.mem_takeWhile_imp⟩,
    List.takeWhile_append_dropWhile.symm, fun c head => ?_⟩
  have stop := List.head?_dropWhile_not Char.isDigit cs
  rw [Option.mem_def.1 head] at stop
  exact stop

theorem missingDigit_not_whole (rest : List Char) : ¬ (missingDigit rest).Whole := by
  unfold missingDigit
  split <;> exact id

theorem exists_exponent {sofar : Numeral} {cs rest : List Char} {t : Token}
    (scan : scanExponent sofar cs = (t, rest)) (whole : t.Whole) :
    ∃ negative sign ds, SignSpelled negative sign ∧ IsDigits ds ∧ cs = sign ++ (ds ++ rest) ∧
      t = .number { sofar with exponent := some (negative, ds) } ∧
      ∀ c ∈ rest.head?, c.isDigit = false := by
  have split : ∃ negative sign cs', SignSpelled negative sign ∧ cs = sign ++ cs' ∧
      scanExponent sofar cs =
        if (digitRun cs').1.isEmpty then (missingDigit (digitRun cs').2, [])
        else (.number { sofar with exponent := some (negative, (digitRun cs').1) },
          (digitRun cs').2) := by
    rw [scanExponent.eq_def]
    split
    next negative cs' signed =>
    split at signed
    · obtain ⟨rfl, rfl⟩ := Prod.mk.inj signed
      exact ⟨_, _, _, .plus, rfl, rfl⟩
    · obtain ⟨rfl, rfl⟩ := Prod.mk.inj signed
      exact ⟨_, _, _, .minus, rfl, rfl⟩
    · obtain ⟨rfl, rfl⟩ := Prod.mk.inj signed
      exact ⟨_, _, _, .none, rfl, rfl⟩
  obtain ⟨negative, sign, cs', signed, rfl, eq⟩ := split
  rw [eq] at scan
  split at scan
  · obtain ⟨rfl, -⟩ := Prod.mk.inj scan
    exact absurd whole (missingDigit_not_whole _)
  · next nonempty =>
    obtain ⟨rfl, rfl⟩ := Prod.mk.inj scan
    obtain ⟨digits, eq, stops⟩ := digits_of_run (rfl : digitRun cs' = _) nonempty
    exact ⟨negative, sign, _, signed, digits, congrArg (sign ++ ·) eq, rfl, stops⟩

theorem exists_exponent? {sofar : Numeral} {cs rest : List Char} {t : Token}
    (noExponent : sofar.exponent = none) (stops : ∀ c ∈ cs.head?, c.isDigit = false)
    (scan : scanExponent? sofar cs = (t, rest)) (whole : t.Whole) :
    ∃ exponent text, ExponentSpelled exponent text ∧ cs = text ++ rest ∧
      t = .number { sofar with exponent := exponent } ∧ ∀ c ∈ rest.head?, c.isDigit = false := by
  rw [scanExponent?.eq_def] at scan
  split at scan
  · obtain ⟨_, _, _, signed, digits, rfl, rfl, stops⟩ := exists_exponent scan whole
    exact ⟨_, _, .some (.inl rfl) signed digits, by simp, rfl, stops⟩
  · obtain ⟨_, _, _, signed, digits, rfl, rfl, stops⟩ := exists_exponent scan whole
    exact ⟨_, _, .some (.inr rfl) signed digits, by simp, rfl, stops⟩
  · obtain ⟨rfl, rfl⟩ := Prod.mk.inj scan
    exact ⟨none, [], .none, rfl, by rw [← noExponent], stops⟩

theorem exists_numeral {negative : Bool} {cs rest : List Char} {t : Token}
    (scan : scanNumber negative cs = (t, rest)) (whole : t.Whole) :
    ∃ n text, t = .number n ∧ n.negative = negative ∧ n.Spelled text ∧ cs = text ++ rest ∧
      ∀ c ∈ rest.head?, c.isDigit = false := by
  revert scan
  fun_cases scanNumber negative cs with
  | case1 digits after run empty =>
      intro scan
      obtain ⟨rfl, -⟩ := Prod.mk.inj scan
      exact absurd whole (missingDigit_not_whole _)
  | case2 =>
      intro scan
      obtain ⟨rfl, -⟩ := Prod.mk.inj scan
      exact absurd whole id
  | case3 =>
      intro scan
      obtain ⟨rfl, -⟩ := Prod.mk.inj scan
      exact absurd whole (missingDigit_not_whole _)
  | case4 digits nonempty leading after fraction after' run' nonempty' run =>
      intro scan
      obtain ⟨isDigits, rfl, -⟩ := digits_of_run run nonempty
      obtain ⟨isDigits', rfl, stops⟩ := digits_of_run run' nonempty'
      obtain ⟨exponent, text, raised, rfl, rfl, stops⟩ := exists_exponent? rfl stops scan whole
      refine ⟨_, digits ++ ('.' :: fraction ++ text), rfl, rfl, ?_, by simp, stops⟩
      refine .digits isDigits ?_ (.some isDigits') raised
      exact fun zero => not_not.1 fun long => leading ⟨zero, long⟩
  | case5 digits nonempty leading after _ run =>
      intro scan
      obtain ⟨isDigits, rfl, stops⟩ := digits_of_run run nonempty
      obtain ⟨exponent, text, raised, rfl, rfl, stops⟩ := exists_exponent? rfl stops scan whole
      refine ⟨_, digits ++ ([] ++ text), rfl, rfl, ?_, by simp, stops⟩
      refine .digits isDigits ?_ .none raised
      exact fun zero => not_not.1 fun long => leading ⟨zero, long⟩

theorem exists_word {token t : Token} {ws cs rest : List Char}
    (scan : scanWord token ws cs = (t, rest)) (whole : t.Whole) : t = token ∧ cs = ws ++ rest := by
  induction ws generalizing cs with
  | nil =>
      obtain ⟨rfl, rfl⟩ := Prod.mk.inj scan
      exact ⟨rfl, rfl⟩
  | cons w ws ih =>
      cases cs with
      | nil =>
          obtain ⟨rfl, -⟩ := Prod.mk.inj scan
          exact absurd whole id
      | cons c cs =>
          rw [scanWord] at scan
          split at scan
          · next same =>
            obtain ⟨rfl, rfl⟩ := ih scan
            exact ⟨rfl, by rw [same]; rfl⟩
          · obtain ⟨rfl, -⟩ := Prod.mk.inj scan
            exact absurd whole id

/-- A token at which the text does not break off was written in one of its ways. -/
theorem exists_spelled {c : Char} {cs rest : List Char} {t : Token}
    (scan : scanToken c cs = (t, rest)) (whole : t.Whole) :
    ∃ text, t.Spelled text ∧ c :: cs = text ++ rest ∧
      (t.isNumber = true → ∀ c ∈ rest.head?, c.isDigit = false) := by
  have mark {t' : Token} (spelled : t'.Spelled [c]) (plain : t'.isNumber = false)
      (scan : (t', cs) = (t, rest)) : ∃ text, t.Spelled text ∧ c :: cs = text ++ rest ∧
        (t.isNumber = true → ∀ c ∈ rest.head?, c.isDigit = false) := by
    obtain ⟨rfl, rfl⟩ := Prod.mk.inj scan
    exact ⟨[c], spelled, rfl, fun number => absurd number (by simp [plain])⟩
  revert scan
  fun_cases scanToken c cs with
  | case1 same => exact mark (same ▸ .openArray) rfl
  | case2 _ same => exact mark (same ▸ .closeArray) rfl
  | case3 _ _ same => exact mark (same ▸ .openObject) rfl
  | case4 _ _ _ same => exact mark (same ▸ .closeObject) rfl
  | case5 _ _ _ _ same => exact mark (same ▸ .comma) rfl
  | case6 _ _ _ _ _ same => exact mark (same ▸ .colon) rfl
  | case7 _ _ _ _ _ _ same =>
      intro scan
      subst same
      obtain ⟨rfl, rfl⟩ := Prod.mk.inj scan
      obtain ⟨text, spelled, eq⟩ := RawText.exists_pieces cs whole
      have raw : (RawText.scan cs).1 = ⟨(RawText.scan cs).1.pieces, none⟩ := by
        rw [← show (RawText.scan cs).1.broken = none from whole]
      refine ⟨'"' :: (text ++ ['"']), raw ▸ .text spelled, ?_, nofun⟩
      rw [List.cons_append, List.append_assoc]
      exact congrArg ('"' :: ·) eq
  | case8 _ _ _ _ _ _ _ same =>
      intro scan
      subst same
      obtain ⟨n, text, rfl, signed, spelled, rfl, stops⟩ := exists_numeral scan whole
      exact ⟨_, .negative signed spelled, rfl, fun _ => stops⟩
  | case9 =>
      intro scan
      obtain ⟨n, text, rfl, unsigned, spelled, eq, stops⟩ := exists_numeral scan whole
      exact ⟨_, .positive unsigned spelled, eq, fun _ => stops⟩
  | case10 _ _ _ _ _ _ _ _ _ same =>
      intro scan
      subst same
      obtain ⟨rfl, rfl⟩ := exists_word scan whole
      exact ⟨_, .null, rfl, nofun⟩
  | case11 _ _ _ _ _ _ _ _ _ _ same =>
      intro scan
      subst same
      obtain ⟨rfl, rfl⟩ := exists_word scan whole
      exact ⟨_, .yes, rfl, nofun⟩
  | case12 _ _ _ _ _ _ _ _ _ _ _ same =>
      intro scan
      subst same
      obtain ⟨rfl, rfl⟩ := exists_word scan whole
      exact ⟨_, .no, rfl, nofun⟩
  | case13 =>
      intro scan
      obtain ⟨rfl, -⟩ := Prod.mk.inj scan
      exact absurd whole id

/-- No token begins as a number goes on. -/
theorem head_of_whole {cs : List Char} {fuel : Nat} (enough : cs.length ≤ fuel)
    (whole : ∀ t ∈ tokens cs fuel, t.Whole) : ∀ c ∈ cs.head?, c ≠ '.' ∧ c ≠ 'e' ∧ c ≠ 'E' := by
  obtain _ | ⟨c, cs⟩ := cs
  · exact nofun
  obtain _ | fuel := fuel
  · cases enough
  rintro _ ⟨⟩
  refine ⟨?_, ?_, ?_⟩ <;> rintro rfl <;> exact whole _ List.mem_cons_self

/-- A text that is read without a break spells the tokens that are read. -/
theorem spelling_of_tokens {cs : List Char} {fuel : Nat} (enough : cs.length ≤ fuel)
    (whole : ∀ t ∈ tokens cs fuel, t.Whole) : Spelling (tokens cs fuel) cs := by
  induction fuel generalizing cs with
  | zero =>
      obtain rfl := List.eq_nil_of_length_eq_zero (Nat.le_zero.1 enough)
      exact .nil
  | succ fuel ih =>
      cases cs with
      | nil => exact .nil
      | cons c cs =>
          have shorter : cs.length ≤ fuel := Nat.le_of_succ_le_succ enough
          cases space : isSpace c with
          | true =>
              rw [tokens_space space] at whole ⊢
              exact .blank space (ih shorter whole)
          | false =>
              obtain ⟨t, rest, scan⟩ : ∃ t rest, scanToken c cs = (t, rest) := ⟨_, _, rfl⟩
              rw [tokens_token space scan] at whole ⊢
              obtain ⟨first, later⟩ := List.forall_mem_cons.1 whole
              obtain ⟨text, spelled, eq, stops⟩ := exists_spelled scan first
              obtain ⟨c', more, rfl, -⟩ := @Token.Spelled.exists_scan _ _ [] spelled fun _ => nofun
              have room : rest.length ≤ fuel := by
                have lengths := congrArg List.length eq
                simp only [List.length_cons, List.length_append] at lengths
                omega
              have next := head_of_whole room later
              rw [eq]
              exact .token spelled (fun number c head => ⟨stops number c head, next c head⟩)
                (ih room later)

end StarPlan.Json
