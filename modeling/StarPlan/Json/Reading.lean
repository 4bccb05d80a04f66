import StarPlan.Content.Fault
import StarPlan.Json.Document
import StarPlan.Json.Value

/-!
# Taking values from a JSON document

What is wanted is taken from a document in the order of the text, so the fault that is reported
is the first one in that order, be it in the content or a break of the text.

A value that nobody wants is skipped: it must be JSON, but its numbers may be out of range, its
strings may hold lone surrogates, and it may be nested at will. A number cut off by the end of
the text counts as malformed when it is skipped. Values that are read may be nested to a fixed
depth.
-/

namespace StarPlan.Json

/-- Why a text does not give what is wanted. -/
inductive Fault where
  | content (fault : ContentFault)
  | broken (how : Break)
deriving DecidableEq, Repr

/-- What comes of taking something from a document. -/
abbrev Reading (α : Type) := Except Fault α

/-- The reading that stops at a break. -/
def stop {α : Type} (how : Break) : Reading α := .error (.broken how)

/-- The reading that finds the content wanting. -/
def refuse {α : Type} (fault : ContentFault) : Reading α := .error (.content fault)

/-- Whether a UTF-16 unit is the first of a pair. -/
def isLeading (u : Nat) : Bool := 0xd800 ≤ u && u < 0xdc00

/-- Whether a UTF-16 unit is the second of a pair. -/
def isTrailing (u : Nat) : Bool := 0xdc00 ≤ u && u < 0xe000

/-- The characters of a string whose pieces are given. Escaped surrogates must come in pairs. -/
def pairUnits (broken : Option Break) : List Piece → Reading (List Char)
  | [] => match broken with
    | none => .ok []
    | some how => stop how
  | .char c :: rest => (pairUnits broken rest).map (c :: ·)
  | .unit u :: rest =>
    if isTrailing u then stop .malformed
    else if isLeading u then
      match rest with
      | .unit v :: rest =>
        if isTrailing v then
          (pairUnits broken rest).map
            (Char.ofNat (0x10000 + (u - 0xd800) * 0x400 + (v - 0xdc00)) :: ·)
        else stop .malformed
      | .char _ :: _ => stop .malformed
      | [] => stop (broken.getD .malformed)
    else (pairUnits broken rest).map (Char.ofNat u :: ·)

/-- The text of a string. -/
def RawText.read (raw : RawText) : Reading String :=
  (pairUnits raw.broken raw.pieces).map String.ofList

/-- The value of a number. -/
def Numeral.reading (n : Numeral) : Reading Number :=
  match n.read with
  | .ok number => .ok number
  | .error how => stop how

/-- How a number is described in a message. -/
def Number.found : Number → Found
  | .integer value => .integer value
  | .float negative magnitude => .float (layout.write negative magnitude)

/-- Reports that something else stands where a value is wanted. -/
def Doc.mismatch {α : Type} (wanted : String) : Doc → Reading α
  | .null => refuse (.wrongType .null wanted)
  | .bool value => refuse (.wrongType (.boolean value) wanted)
  | .number numeral => do refuse (.wrongType (← numeral.reading).found wanted)
  | .text raw => do refuse (.wrongType (.text (← raw.read)) wanted)
  | .array _ => refuse (.wrongType .sequence wanted)
  | .object _ => refuse (.wrongType .map wanted)
  | .missing => stop .truncated
  | .cutNumber => stop .truncated
  | .broken how => stop how

/-- The text of a value that must be a string. -/
def Doc.asText : Doc → Reading String
  | .text raw => raw.read
  | d => d.mismatch "a string"

mutual

/-- Passes over a value. -/
def Doc.skip : Doc → Reading Unit
  | .null | .bool _ | .number _ => .ok ()
  | .text raw => match raw.broken with
    | none => .ok ()
    | some how => stop how
  | .array items => items.skip
  | .object members => members.skip
  | .missing => stop .truncated
  | .cutNumber => stop .malformed
  | .broken how => stop how

/-- Passes over items. -/
def Items.skip : Items → Reading Unit
  | .done .closed => .ok ()
  | .done (.cut _ how) => stop how
  | .item head tail => do
    head.skip
    tail.skip

/-- Passes over members. -/
def Members.skip : Members → Reading Unit
  | .done .closed => .ok ()
  | .done (.cut _ how) => stop how
  | .noKey _ _ => stop .malformed
  | .member key value tail => do
    match key.broken with
    | none => value.skip
    | some how => stop how
    tail.skip

end

/-- How deep values that are read may be nested, the outermost included, less one. -/
def nestingLimit : Nat := 128

/-- The depth that is left inside an array or object. -/
def enter (depth : Nat) : Reading Nat :=
  if depth ≤ 1 then stop .malformed else .ok (depth - 1)

mutual

/-- Reads a value in full. -/
def Doc.value (depth : Nat) : Doc → Reading Value
  | .null => .ok .null
  | .bool value => .ok (.bool value)
  | .number numeral => numeral.reading.map .number
  | .text raw => raw.read.map .text
  | .array items => do return .array (← items.values (← enter depth))
  | .object members => do return .object (← members.values [] (← enter depth))
  | .missing => stop .truncated
  | .cutNumber => stop .truncated
  | .broken how => stop how

/-- Reads items in full. -/
def Items.values (depth : Nat) : Items → Reading (List Value)
  | .done .closed => .ok []
  | .done (.cut _ how) => stop how
  | .item head tail => do
    let v ← head.value depth
    return v :: (← tail.values depth)

/-- Reads members in full; of two with one key the later counts. -/
def Members.values (sofar : List (String × Value)) (depth : Nat) :
    Members → Reading (List (String × Value))
  | .done .closed => .ok sofar
  | .done (.cut _ how) => stop how
  | .noKey _ _ => stop .malformed
  | .member key value tail => do
    let name ← key.read
    let v ← value.value depth
    tail.values (Keyed.insertEntry name v sofar) depth

end

/-- The next item of an array, if there is one. -/
def Items.next? : Items → Reading (Option (Doc × Items))
  | .done .closed => .ok none
  | .done (.cut _ how) => stop how
  | .item head tail => .ok (some (head, tail))

/-- The end of an array of which nothing more is wanted. -/
def Items.finish : Items → Reading Unit
  | .done .closed => .ok ()
  | .done (.cut true _) => stop .malformed
  | .done (.cut false how) => stop how
  | .item .. => stop .malformed

/-- Reads every item alike. -/
def Items.readAll {α : Type} (read : Doc → Reading α) : Items → Reading (List α)
  | .done .closed => .ok []
  | .done (.cut _ how) => stop how
  | .item head tail => do
    let a ← read head
    return a :: (← tail.readAll read)

/-- Reads the members of an object one after another into a growing result. -/
def Members.readInto {σ : Type} (read : String → Doc → σ → Reading σ) :
    Members → σ → Reading σ
  | .done .closed, sofar => .ok sofar
  | .done (.cut _ how), _ => stop how
  | .noKey _ _, _ => stop .malformed
  | .member key value tail, sofar => do
    let name ← key.read
    tail.readInto read (← read name value sofar)

/-- Reads every item of a value that must be an array. -/
def Doc.asList {α : Type} (read : Doc → Reading α) : Doc → Reading (List α)
  | .array items => items.readAll read
  | d => d.mismatch "a sequence"

/-- Reads a text that must hold one value and nothing after it. -/
def readText {α : Type} (read : Doc → Reading α) (text : String) : Reading α :=
  let parsed := Parsed.ofText text
  do
    let a ← read parsed.doc
    if parsed.trailing then stop .malformed else return a

end StarPlan.Json
