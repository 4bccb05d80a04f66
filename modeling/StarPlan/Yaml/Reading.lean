import StarPlan.Yaml.Core
import StarPlan.Yaml.Layout

/-!
# Taking values from a YAML document

What is wanted is taken from a document in the order of the text, so the fault that is reported
is the first one in that order, be it in the content or a cut of the document. A fault in the
content is reported with the path to the value that is at fault.

Following an alias counts; how often one may be followed is limited by the size of the
document. A value that nobody wants is skipped, and aliases in it are not followed.
-/

namespace StarPlan.Yaml

/-- A step on the way to a value. The key of a member has no name if it is no scalar itself. -/
inductive Step where
  | key (name : String)
  | item (index : Nat)
  | namelessKey
deriving DecidableEq, Repr

/-- The way to a value, the last step first. -/
abbrev Path := List Step

/-- A path as it is shown. -/
def Path.show : Path → String
  | [] => "."
  | [.key name] => name
  | [.namelessKey] => "?"
  | .key name :: path => Path.show path ++ "." ++ name
  | .namelessKey :: path => Path.show path ++ "." ++ "?"
  | .item index :: path => s!"{Path.show path}[{index}]"

/-- Why a text does not give what is wanted. -/
inductive Fault where
  | content (path : Path) (fault : ContentFault)
  /-- The document is cut, asks for too much, or a tag does not suit its scalar. -/
  | broken
deriving DecidableEq, Repr

/-- The wording of a fault in the content, with the path unless it leads to the whole. -/
def Fault.message? : Fault → Option String
  | .content path fault =>
    let shown := path.show
    some (if shown = "." then fault.message else shown ++ ": " ++ fault.message)
  | .broken => none

mutual

/-- The number of marks that a tree is told by: one for a scalar or alias, two for a list. -/
def Doc.size : Doc → Nat
  | .node _ content => content.size
  | .reference _ => 1
  | .cut => 0

/-- The same for what a node holds. -/
def Content.size : Content → Nat
  | .scalar _ => 1
  | .sequence _ items => 1 + items.size
  | .mapping _ members => 1 + members.size

/-- The same for items. -/
def Items.size : Items → Nat
  | .closed => 1
  | .cut => 0
  | .item head tail => head.size + tail.size

/-- The same for members. -/
def Members.size : Members → Nat
  | .closed => 1
  | .cut => 0
  | .member key value tail => key.size + value.size + tail.size

end

mutual

/-- The nodes with an anchor, in the order in which they begin. -/
def Doc.anchored : Doc → List (Nat × Content)
  | .node none content => content.anchored
  | .node (some n) content => (n, content) :: content.anchored
  | .reference _ => []
  | .cut => []

/-- The same inside a node. -/
def Content.anchored : Content → List (Nat × Content)
  | .scalar _ => []
  | .sequence _ items => items.anchored
  | .mapping _ members => members.anchored

/-- The same inside items. -/
def Items.anchored : Items → List (Nat × Content)
  | .closed => []
  | .cut => []
  | .item head tail => head.anchored ++ tail.anchored

/-- The same inside members. -/
def Members.anchored : Members → List (Nat × Content)
  | .closed => []
  | .cut => []
  | .member key value tail => key.anchored ++ value.anchored ++ tail.anchored

end

mutual

/-- Whether a tree is nowhere cut. -/
def Doc.isWhole : Doc → Bool
  | .node _ content => content.isWhole
  | .reference _ => true
  | .cut => false

/-- The same for what a node holds. -/
def Content.isWhole : Content → Bool
  | .scalar _ => true
  | .sequence _ items => items.isWhole
  | .mapping _ members => members.isWhole

/-- The same for items. -/
def Items.isWhole : Items → Bool
  | .closed => true
  | .cut => false
  | .item head tail => head.isWhole && tail.isWhole

/-- The same for members. -/
def Members.isWhole : Members → Bool
  | .closed => true
  | .cut => false
  | .member key value tail => key.isWhole && value.isWhole && tail.isWhole

end

/-- What a reading may look up: the nodes with an anchor, of which the last of a number counts,
and how many aliases it may follow. -/
structure Surroundings where
  anchored : List (Nat × Content)
  aliasLimit : Nat

/-- How many aliases may be followed for each mark of a document. -/
def aliasesPerMark : Nat := 100

/-- The surroundings of a document's nodes. -/
def Doc.surroundings (d : Doc) : Surroundings :=
  ⟨d.anchored.reverse, d.size * aliasesPerMark⟩

/-- What comes of taking something from a document; the state is how many aliases were
followed. -/
abbrev Reading (α : Type) := ReaderT Surroundings (StateT Nat (Except Fault)) α

/-- The reading that cannot go on. -/
def stop {α : Type} : Reading α := throw .broken

/-- The reading that finds the content at a path wanting. -/
def refuse {α : Type} (path : Path) (fault : ContentFault) : Reading α :=
  throw (.content path fault)

/-- The outcome of a check, as a reading of the content at a path. -/
def judge {α : Type} (path : Path) : Except ContentFault α → Reading α
  | .ok a => pure a
  | .error fault => refuse path fault

/-- What a node holds, or the one that an alias stands for. -/
def Doc.resolve : Doc → Reading Content
  | .node _ content => pure content
  | .cut => stop
  | .reference n => do
    let around ← read
    let followed ← modifyGet fun k => (k + 1, k + 1)
    if around.aliasLimit < followed then stop
    match around.anchored.lookup n with
    | some content => return content
    | none => stop

/-- Passes over a value. -/
def Doc.skip (d : Doc) : Reading Unit :=
  if d.isWhole then pure () else stop

/-- The step to the value of a key. -/
def Doc.step : Doc → Step
  | .node _ (.scalar s) => .key s.text
  | _ => .namelessKey

/-- Reports that something else stands where a value is wanted. -/
def Content.mismatch {α : Type} (path : Path) (wanted : String) (c : Content) : Reading α :=
  match c.found? with
  | some found => refuse path (.wrongType found wanted)
  | none => stop

/-- The text of a value that must be a scalar. -/
def Doc.asText (path : Path) (wanted : String) (d : Doc) : Reading String := do
  match ← d.resolve with
  | .scalar s => return s.text
  | c => c.mismatch path wanted

/-- Whether a scalar stands for an absent value; none if its tag asks for that, but its text is
no word for it. -/
def Scalar.isAbsent? (s : Scalar) : Option Bool :=
  if !s.isPlain then some false
  else match s.tag with
    | none => some (s.text.isEmpty || isNull s.text)
    | some tag =>
      if tag != coreTag "null" then some false
      else if isNull s.text then some true
      else none

/-- The text of a scalar that may be absent. -/
def Doc.asOptionalText (path : Path) (wanted : String) (d : Doc) : Reading (Option String) := do
  match ← d.resolve with
  | .scalar s =>
    match s.isAbsent? with
    | some isAbsent => return if isAbsent then none else some s.text
    | none => stop
  | c => c.mismatch path wanted

/-- The members of a value that must be a mapping; an empty scalar counts as an empty one. -/
def Doc.asMembers (path : Path) (wanted : String) (d : Doc) : Reading Members := do
  match ← d.resolve with
  | .mapping _ members => return members
  | .scalar s => if s.isPlain && s.text.isEmpty then return .closed
                 else (Content.scalar s).mismatch path wanted
  | c => c.mismatch path wanted

/-- A value together with its own path and that of the mapping around it. -/
structure Cell where
  doc : Doc
  path : Path
  owner : Path

/-- Reads the members of the mapping at a path one after another into a growing result; the
keys must be scalars. -/
def Members.readInto {σ : Type} (path : Path) (keyNoun : String)
    (step : String → Cell → σ → Reading σ) : Members → σ → Reading σ
  | .closed, sofar => pure sofar
  | .cut, _ => stop
  | .member key value tail, sofar => do
    let name ← key.asText path keyNoun
    let sofar ← step name ⟨value, key.step :: path, path⟩ sofar
    tail.readInto path keyNoun step sofar

/-- Reads all items of the sequence at a path alike. -/
def Items.forEach (path : Path) (read : Path → Doc → Reading Found) :
    Nat → Items → Reading Unit
  | _, .closed => pure ()
  | _, .cut => stop
  | i, .item head tail => do
    let _ ← read (.item i :: path) head
    tail.forEach path read (i + 1)

/-- Reads all keys and values of the mapping at a path alike. -/
def Members.forEach (path : Path) (read : Path → Doc → Reading Found) : Members → Reading Unit
  | .closed => pure ()
  | .cut => stop
  | .member key value tail => do
    let _ ← read path key
    let _ ← read (key.step :: path) value
    tail.forEach path read

/-- Reads a value of any kind, where `inner` reads what stands in it. No local tag is known,
and no integer of more than 64 bits is welcome. -/
def Doc.examineWith (inner : Option (Path → Doc → Reading Found)) (path : Path) (d : Doc) :
    Reading Found := do
  match ← d.resolve with
  | .scalar s =>
    if isLocalTag s.tag then stop
    match s.found? with
    | none => stop
    | some found =>
      if found.isWide then refuse path (.wrongType found "any value") else return found
  | .sequence tag items =>
    if isLocalTag tag then stop
    match inner with
    | none => stop
    | some inner =>
      items.forEach path inner 0
      return .sequence
  | .mapping tag members =>
    if isLocalTag tag then stop
    match inner with
    | none => stop
    | some inner =>
      members.forEach path inner
      return .map

/-- Reads a value of any kind that is nested up to a depth, and tells what it is. -/
def Doc.examine : Nat → Path → Doc → Reading Found
  | 0 => Doc.examineWith none
  | depth + 1 => Doc.examineWith (some (Doc.examine depth))

/-- How deep values that are read may be nested. -/
def nestingLimit : Nat := 128

/-- Reads a text that must hold one document and nothing after it. -/
def readText {α : Type} (read : Doc → Reading α) (text : String) : Except Fault α := do
  let document := Document.ofTokens (Token.ofText text)
  let (a, _) ← (read document.doc).run document.doc.surroundings |>.run 0
  if document.isWhole then return a else throw .broken

end StarPlan.Yaml
