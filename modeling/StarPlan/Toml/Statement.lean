import StarPlan.Toml.Scalar

/-!
# The statements of a TOML text

A TOML text is a list of statements: headers that open a table or add one to an array of
tables, and assignments of a value to a dotted key. Values that are written in one piece, such
as arrays and inline tables, are complete here; how headers and assignments build up the
document is told elsewhere.
-/

namespace StarPlan.Toml

/-- Inline members under construction: each is a finished value, or a table that was opened by
a dotted key and may still grow. -/
inductive Inline where
  | value (value : Value)
  | dotted (members : List (String × Inline))

mutual

/-- A finished inline member. -/
def Inline.finish : Inline → Value
  | .value v => v
  | .dotted members => .table (finishMembers members)

/-- Finished inline members. -/
def finishMembers : List (String × Inline) → List (String × Value)
  | [] => []
  | (key, m) :: rest => (key, m.finish) :: finishMembers rest

end

/-- Replaces the value of a key that is there. -/
def replaceMember {α : Type} (key : String) (value : α) (members : List (String × α)) :
    List (String × α) :=
  members.map fun m => if m.1 == key then (key, value) else m

/-- Assigns a value to a dotted key of an inline table. No key may be assigned twice, and only
tables that dotted keys opened may be reached by them. -/
def assignInline (path : List String) (key : String) (value : Value)
    (members : List (String × Inline)) : Option (List (String × Inline)) :=
  match path with
  | [] =>
    match members.lookup key with
    | none => some (members ++ [(key, .value value)])
    | some _ => none
  | k :: path =>
    match members.lookup k with
    | none => (assignInline path key value []).map fun inner => members ++ [(k, .dotted inner)]
    | some (.dotted inner) =>
      (assignInline path key value inner).map fun inner =>
        replaceMember k (.dotted inner) members
    | some (.value _) => none

/-- Drops a word that must follow. -/
def expectWord : List Char → List Char → Option (List Char)
  | [], cs => some cs
  | w :: ws, c :: cs => if w = c then expectWord ws cs else none
  | _ :: _, [] => none

mutual

/-- A value, with at most `depth` levels of nesting. -/
def scanValue : Nat → Nat → List Char → Option (Value × List Char)
  | 0, _, _ => none
  | _, _, [] => none
  | fuel + 1, depth, c :: rest =>
    if c = '"' ∨ c = '\'' then (scanText (c :: rest)).map fun (s, rest) => (.text s, rest)
    else if c = '[' then
      if depth = 0 then none
      else (scanItems fuel (depth - 1) rest).map fun (vs, rest) => (.array vs, rest)
    else if c = '{' then
      if depth = 0 then none
      else
        match dropSpaces rest with
        | '}' :: rest => some (.table [], rest)
        | rest =>
          (scanMembers fuel (depth - 1) [] rest).map fun (ms, rest) =>
            (.table (finishMembers ms), rest)
    else if c = 't' then
      (expectWord ['r', 'u', 'e'] rest).map fun rest => (.boolean true, rest)
    else if c = 'f' then
      (expectWord ['a', 'l', 's', 'e'] rest).map fun rest => (.boolean false, rest)
    else scanNumberOrMoment (c :: rest)

/-- The items of an array up to its bracket. A comma may follow the last one. -/
def scanItems : Nat → Nat → List Char → Option (List Value × List Char)
  | 0, _, _ => none
  | fuel + 1, depth, cs => do
    match ← dropLines (cs.length + 1) cs with
    | ']' :: rest => return ([], rest)
    | cs =>
      let (v, rest) ← scanValue fuel depth cs
      match ← dropLines (rest.length + 1) rest with
      | ']' :: rest => return ([v], rest)
      | ',' :: rest =>
        let (vs, rest) ← scanItems fuel depth rest
        return (v :: vs, rest)
      | _ => none

/-- The members of an inline table up to its brace. -/
def scanMembers : Nat → Nat → List (String × Inline) → List Char →
    Option (List (String × Inline) × List Char)
  | 0, _, _, _ => none
  | fuel + 1, depth, sofar, cs => do
    let ((path, key), rest) ← scanKey cs
    let (v, rest) ← scanValue fuel depth (dropSpaces (← expect '=' rest))
    let members ← assignInline path key v sofar
    match dropSpaces rest with
    | '}' :: rest => return (members, rest)
    | ',' :: rest => scanMembers fuel depth members rest
    | _ => none

end

/-- A statement of a document. -/
inductive Statement where
  | assign (path : List String) (key : String) (value : Value)
  | openTable (path : List String) (key : String)
  | addTable (path : List String) (key : String)

/-- A statement and what follows its line. -/
def scanStatement (cs : List Char) : Option (Statement × List Char) :=
  match cs with
  | '[' :: '[' :: cs => do
    let ((path, key), rest) ← scanKey cs
    return (.addTable path key, ← finishLine (← expect ']' (← expect ']' rest)))
  | '[' :: cs => do
    let ((path, key), rest) ← scanKey cs
    return (.openTable path key, ← finishLine (← expect ']' rest))
  | cs => do
    let ((path, key), rest) ← scanKey cs
    let rest := dropSpaces (← expect '=' rest)
    let (value, rest) ← scanValue (2 * rest.length + 2) (nestingLimit - 1) rest
    return (.assign path key value, ← finishLine rest)

/-- The statements of a text from the start of a line on. -/
def scanStatements : Nat → List Char → Option (List Statement)
  | 0, _ => none
  | fuel + 1, cs =>
    match dropSpaces cs with
    | [] => some []
    | '#' :: cs => do scanStatements fuel (← finishLine ('#' :: cs))
    | '\n' :: cs => scanStatements fuel cs
    | '\r' :: cs => do scanStatements fuel (← expect '\n' cs)
    | cs => do
      let (statement, rest) ← scanStatement cs
      return statement :: (← scanStatements fuel rest)

/-- The statements of a text, which may begin with a byte order mark. -/
def Statement.ofText? (text : String) : Option (List Statement) :=
  let cs := match text.toList with
    | '\ufeff' :: cs => cs
    | cs => cs
  scanStatements (cs.length + 1) cs

end StarPlan.Toml
