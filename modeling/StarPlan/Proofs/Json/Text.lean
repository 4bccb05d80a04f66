import StarPlan.Json.Reading

/-!
# Written strings are read back

A string is written character by character, each in one of three ways: as itself, by a letter
after a backslash, or as a UTF-16 unit in hexadecimal. `escapeChar_cases` is all that the proofs
know of the writer. The reader of the inside of a string takes one piece for each of these
(`RawText.scan_escapeChar`), stops at the closing quote (`RawText.scan_writeText`), and the
pieces stand for the characters that were written (`RawText.read_written`).
-/

namespace StarPlan.Json

/-- The piece as which a character of a written string is read: a character for which six are
written comes back as a UTF-16 unit. -/
def pieceOf (c : Char) : Piece :=
  if (escapeChar c).length = 6 then .unit c.toNat else .char c

/-- A string as it is found where it was written. -/
def RawText.written (s : String) : RawText :=
  ⟨s.toList.map pieceOf, none⟩

/-- The last two digits of the escape of a control character, and what they are read as. -/
theorem hexUnit?_digits : ∀ n < 32,
    (if n < 16 then ['0'] else []) ++ Nat.toDigits 16 n =
        [Nat.digitChar (n / 16), Nat.digitChar (n % 16)] ∧
      hexUnit? '0' '0' (Nat.digitChar (n / 16)) (Nat.digitChar (n % 16)) = some n := by
  decide +kernel

/-- There are three ways to write a character. -/
theorem escapeChar_cases (c : Char) :
    (∃ e, escapeChar c = ['\\', e] ∧ escape? e = some c) ∨
      (c.toNat < 32 ∧ ∃ a b, escapeChar c = ['\\', 'u', '0', '0', a, b] ∧
        hexUnit? '0' '0' a b = some c.toNat) ∨
      (escapeChar c = [c] ∧ c ≠ '"' ∧ c ≠ '\\' ∧ ¬ c < ' ') := by
  by_cases short : c ∈ ['"', '\\', '\x08', '\x0c', '\n', '\r', '\t']
  · left
    simp only [List.mem_cons, List.not_mem_nil, or_false] at short
    rcases short with rfl | rfl | rfl | rfl | rfl | rfl | rfl <;> exact ⟨_, rfl, rfl⟩
  · right
    simp only [List.mem_cons, List.not_mem_nil, or_false, not_or] at short
    obtain ⟨quote, backslash, b, f, n, r, t⟩ := short
    by_cases control : c < ' '
    · left
      have small : c.toNat < 32 := control
      obtain ⟨digits, hex⟩ := hexUnit?_digits c.toNat small
      refine ⟨small, _, _, ?_, hex⟩
      simp only [escapeChar, quote, backslash, b, f, n, r, t, control, if_true, if_false,
        digits, List.cons_append, List.nil_append]
    · exact .inr ⟨by simp only [escapeChar, quote, backslash, b, f, n, r, t, control, if_false],
        quote, backslash, control⟩

theorem pieceOf_cases (c : Char) :
    pieceOf c = .char c ∨ c.toNat < 32 ∧ pieceOf c = .unit c.toNat := by
  rcases escapeChar_cases c with ⟨e, written, -⟩ | ⟨small, a, b, written, -⟩ | ⟨written, -⟩ <;>
    simp [pieceOf, *]

/-! What is read at the beginning of the inside of a string. -/

namespace RawText

/-- A string with one more piece in front. -/
def prepend (p : Piece) (raw : RawText) : RawText :=
  ⟨p :: raw.pieces, raw.broken⟩

theorem scan_unit {a b c d : Char} {value : Nat} (hex : hexUnit? a b c d = some value)
    (rest : List Char) :
    scan ('\\' :: 'u' :: a :: b :: c :: d :: rest) =
      ((scan rest).1.prepend (.unit value), (scan rest).2) := by
  rw [scan, hex]
  rfl

theorem scan_escape {e c : Char} (stands : escape? e = some c) (rest : List Char) :
    scan ('\\' :: e :: rest) = ((scan rest).1.prepend (.char c), (scan rest).2) := by
  have noUnit : e ≠ 'u' := by
    rintro rfl
    cases stands
  rw [scan, stands]
  · rfl
  · exact fun _ _ _ _ _ same _ => noUnit same
  · exact noUnit

theorem scan_plain {c : Char} (quote : c ≠ '"') (backslash : c ≠ '\\') (control : ¬ c < ' ')
    (rest : List Char) :
    scan (c :: rest) = ((scan rest).1.prepend (.char c), (scan rest).2) := by
  rw [scan, if_neg control]
  · rfl
  · exact quote
  · exact fun _ _ _ _ _ same _ => backslash same
  · exact fun _ same _ => backslash same
  · exact fun _ _ same _ => backslash same
  · exact fun same _ => backslash same

theorem scan_escapeChar (c : Char) (rest : List Char) :
    scan (escapeChar c ++ rest) = ((scan rest).1.prepend (pieceOf c), (scan rest).2) := by
  rcases escapeChar_cases c with
    ⟨e, written, stands⟩ | ⟨-, a, b, written, hex⟩ | ⟨written, quote, backslash, control⟩
  · have piece : pieceOf c = .char c := by simp [pieceOf, written]
    rw [written, piece]
    exact scan_escape stands rest
  · have piece : pieceOf c = .unit c.toNat := by simp [pieceOf, written]
    rw [written, piece]
    exact scan_unit hex rest
  · have piece : pieceOf c = .char c := by simp [pieceOf, written]
    rw [written, piece]
    exact scan_plain quote backslash control rest

/-- The reader of the inside of a string stops at the quote that the writer put there. -/
theorem scan_writeText (s : String) (rest : List Char) :
    scan (s.toList.flatMap escapeChar ++ '"' :: rest) = (written s, rest) := by
  rw [written]
  induction s.toList with
  | nil => rw [List.flatMap_nil, List.nil_append, scan, List.map_nil]
  | cons c cs ih =>
      rw [List.flatMap_cons, List.append_assoc, scan_escapeChar, ih]
      rfl

end RawText

/-- A unit that is no surrogate is a character by itself. -/
theorem pairUnits_unit {u : Nat} (small : u < 32) (broken : Option Break) (rest : List Piece) :
    pairUnits broken (.unit u :: rest) =
      (pairUnits broken rest).map (Char.ofNat u :: ·) := by
  have leading : isLeading u = false := by simp [isLeading]; omega
  have trailing : isTrailing u = false := by simp [isTrailing]; omega
  rw [pairUnits.eq_def]
  simp only [leading, trailing, Bool.false_eq_true, if_false]

theorem pairUnits_map_pieceOf (cs : List Char) : pairUnits none (cs.map pieceOf) = .ok cs := by
  induction cs with
  | nil => rfl
  | cons c cs ih =>
      rw [List.map_cons]
      rcases pieceOf_cases c with piece | ⟨small, piece⟩
      · rw [piece, pairUnits, ih]
        rfl
      · rw [piece, pairUnits_unit small, ih, Char.ofNat_toNat]
        rfl

/-- A text comes back as it was written. -/
@[simp] theorem RawText.read_written (s : String) : (written s).read = .ok s := by
  rw [read, written, pairUnits_map_pieceOf]
  exact congrArg Except.ok String.ofList_toList

end StarPlan.Json
