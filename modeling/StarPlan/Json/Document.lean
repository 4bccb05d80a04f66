import StarPlan.Json.Token

/-!
# JSON documents

A document is the tree of a JSON text, up to the place where the text goes wrong. Whatever is
wanted from a document is taken in the order of the text, so the break is met exactly when
everything before it is as wanted; what follows the break does not matter.

Nothing is judged here that depends on the reader: strings keep their surrogates, numbers their
digits, objects their repeated members, and nesting is not limited.
-/

namespace StarPlan.Json

/-- How a list of items or members ends: by its bracket, or by a break, with a comma just
before it or not. -/
inductive Ending where
  | closed
  | cut (afterComma : Bool) (how : Break)
deriving DecidableEq, Repr

mutual

/-- A value of a document. -/
inductive Doc where
  | null
  | bool (value : Bool)
  | number (numeral : Numeral)
  | text (raw : RawText)
  | array (items : Items)
  | object (members : Members)
  /-- The text ends where a value is due. -/
  | missing
  /-- A number that the end of the text cuts off. -/
  | cutNumber
  /-- Something that is no value. -/
  | broken (how : Break)

/-- The items of an array. -/
inductive Items where
  | done (ending : Ending)
  | item (head : Doc) (tail : Items)

/-- The members of an object. -/
inductive Members where
  | done (ending : Ending)
  /-- Something else than a string stands where a key is due, and the text breaks off. -/
  | noKey (afterComma : Bool) (key : Doc)
  | member (key : RawText) (value : Doc) (tail : Members)

end

/-- How a list breaks off before a token that cannot stand there. -/
def breakBefore : List Token → Break
  | [] => .truncated
  | _ :: _ => .malformed

mutual

/-- The value that begins a list of tokens, and the tokens after it. -/
def Doc.build : Nat → List Token → Doc × List Token
  | 0, ts => (.missing, ts)
  | _ + 1, [] => (.missing, [])
  | fuel + 1, t :: ts =>
    match t with
    | .null => (.null, ts)
    | .bool value => (.bool value, ts)
    | .number numeral => (.number numeral, ts)
    | .text raw => (.text raw, ts)
    | .openArray =>
      match ts with
      | .closeArray :: ts => (.array (.done .closed), ts)
      | [] => (.array (.done (.cut false .truncated)), [])
      | ts =>
        let (items, rest) := Items.build fuel ts
        (.array items, rest)
    | .openObject =>
      match ts with
      | .closeObject :: ts => (.object (.done .closed), ts)
      | ts =>
        let (members, rest) := Members.build fuel false ts
        (.object members, rest)
    | .cutNumber => (.cutNumber, [])
    | .broken how => (.broken how, [])
    | .closeArray | .closeObject | .comma | .colon => (.broken .malformed, [])

/-- The items from one that is due to the end of its array. -/
def Items.build : Nat → List Token → Items × List Token
  | 0, ts => (.done (.cut false .truncated), ts)
  | fuel + 1, ts =>
    let (head, rest) := Doc.build fuel ts
    match rest with
    | .closeArray :: rest => (.item head (.done .closed), rest)
    | .comma :: .closeArray :: _ => (.item head (.done (.cut true .malformed)), [])
    | .comma :: [] => (.item head (.done (.cut true .truncated)), [])
    | .comma :: rest =>
      let (tail, rest) := Items.build fuel rest
      (.item head tail, rest)
    | rest => (.item head (.done (.cut false (breakBefore rest))), [])

/-- The members from one that is due to the end of its object. -/
def Members.build : Nat → Bool → List Token → Members × List Token
  | 0, _, ts => (.done (.cut false .truncated), ts)
  | fuel + 1, _, .text key :: .colon :: ts =>
    let (value, rest) := Doc.build fuel ts
    match rest with
    | .closeObject :: rest => (.member key value (.done .closed), rest)
    | .comma :: rest =>
      let (tail, rest) := Members.build fuel true rest
      (.member key value tail, rest)
    | rest => (.member key value (.done (.cut false (breakBefore rest))), [])
  | _ + 1, afterComma, .text key :: [] =>
    (.member key .missing (.done (.cut afterComma .truncated)), [])
  | _ + 1, afterComma, .text key :: _ :: _ =>
    (.member key (.broken .malformed) (.done (.cut afterComma .malformed)), [])
  | _ + 1, afterComma, [] => (.done (.cut afterComma .truncated), [])
  | fuel + 1, afterComma, ts => (.noKey afterComma (Doc.build fuel ts).1, [])

end

/-- The value of a whole text, and whether anything follows it. -/
structure Parsed where
  doc : Doc
  trailing : Bool

/-- Reads a text as far as it is JSON. -/
def Parsed.ofText (text : String) : Parsed :=
  let ts := Token.ofText text
  let (doc, rest) := Doc.build (2 * ts.length + 2) ts
  ⟨doc, !rest.isEmpty⟩

end StarPlan.Json
