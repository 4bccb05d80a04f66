import StarPlan.Yaml.Token

/-!
# YAML documents

A document is the tree of the nodes that its tokens describe. An alias stands for the node
with the anchor of its name; anchors are numbered in the order in which they begin.

Where the tokens end too early, or cannot go on as they do, the tree is cut: the node or list
that is due there is cut, and so is everything that would come later. Whatever is wanted from a
document is taken in the order of the text, so a cut is met exactly when everything before it
is as wanted.
-/

namespace StarPlan.Yaml

/-- The text of a scalar with what tells its type. -/
structure Scalar where
  text : String
  isPlain : Bool
  tag : Option String
deriving DecidableEq, Repr

/-- The empty scalar that stands for a node left out. -/
def Scalar.empty : Scalar := ⟨"", true, none⟩

mutual

/-- A node, an alias of one, or the place where the text goes wrong. -/
inductive Doc where
  | node (anchor : Option Nat) (content : Content)
  | reference (number : Nat)
  | cut

/-- What a node holds. -/
inductive Content where
  | scalar (scalar : Scalar)
  | sequence (tag : Option String) (items : Items)
  | mapping (tag : Option String) (members : Members)

/-- The items of a sequence. -/
inductive Items where
  | closed
  | cut
  | item (head : Doc) (tail : Items)

/-- The members of a mapping. -/
inductive Members where
  | closed
  | cut
  | member (key value : Doc) (tail : Members)

end

/-- A node left out. -/
def Doc.empty : Doc := .node none (.scalar .empty)

/-- The tokens that are left, and the anchors so far with their numbers. -/
structure Supply where
  tokens : List Token
  anchors : List (String × Nat)

namespace Supply

/-- Nothing is left. -/
def dry : Supply := ⟨[], []⟩

/-- The same anchors with other tokens. -/
def withTokens (s : Supply) (ts : List Token) : Supply := { s with tokens := ts }

/-- Numbers an anchor: by how many names there are before it. -/
def addAnchor (s : Supply) : Option String → Option Nat × Supply
  | none => (none, s)
  | some name =>
    let n := s.anchors.length
    (some n, { s with anchors := (name, n) :: s.anchors.filter (·.1 != name) })

end Supply

/-- The anchor and the tag in front of a node, in either order. -/
structure Properties where
  anchor : Option String
  tag : Option (String × String)

/-- Takes the properties in front of a node. -/
def Properties.take : List Token → Properties × List Token
  | .anchor a :: .tag h s :: ts => (⟨some a, some (h, s)⟩, ts)
  | .tag h s :: .anchor a :: ts => (⟨some a, some (h, s)⟩, ts)
  | .anchor a :: ts => (⟨some a, none⟩, ts)
  | .tag h s :: ts => (⟨none, some (h, s)⟩, ts)
  | ts => (⟨none, none⟩, ts)

/-- The full form of a tag, unless its handle stands for nothing. A tag without handle is in
full form already. -/
def fullTag? (handles : List (String × String)) (handle suffix : String) : Option String :=
  if handle.isEmpty then some suffix else (handles.lookup handle).map (· ++ suffix)

/-- The full form of a tag if there is one; no handle may stand for nothing. -/
def Properties.tag? (p : Properties) (handles : List (String × String)) :
    Option (Option String) :=
  match p.tag with
  | none => some none
  | some (handle, suffix) => (fullTag? handles handle suffix).map some

/-- The tag of a scalar; the exclamation mark alone counts as none. -/
def scalarTag (tag : Option String) : Option String := tag.filter (· != "!")

/-- Whether a node of a block mapping is left out, by the token in its place. -/
def isBlockLimit : Token → Bool
  | .key | .value | .blockEnd => true
  | _ => false

/-- Whether a value among the items of a flow sequence is left out, by the token in its place. -/
def isItemLimit : Token → Bool
  | .flowEntry | .flowSequenceEnd => true
  | _ => false

/-- Whether a value of a flow mapping is left out, by the token in its place. -/
def isMemberLimit : Token → Bool
  | .flowEntry | .flowMappingEnd => true
  | _ => false

/-- The styles in which a node may be written, by the place where it stands. -/
inductive NodeStyle where
  /-- Between brackets. -/
  | flow
  /-- Anywhere else. -/
  | block
  /-- In a block mapping, where the dashes of a sequence may stand at the column of the keys. -/
  | blockMember
deriving DecidableEq, Repr

mutual

/-- The node that begins the tokens. -/
def Doc.build (handles : List (String × String)) :
    Nat → NodeStyle → Supply → Doc × Supply
  | 0, _, _ => (.cut, .dry)
  | fuel + 1, style, s =>
    match s.tokens with
    | .reference name :: ts =>
      match s.anchors.lookup name with
      | some n => (.reference n, s.withTokens ts)
      | none => (.cut, .dry)
    | ts =>
      let (properties, ts) := Properties.take ts
      match properties.tag? handles with
      | none => (.cut, .dry)
      | some tag =>
        let (n, s) := s.addAnchor properties.anchor
        match style, ts with
        | _, .scalar text isPlain :: ts =>
          (.node n (.scalar ⟨text, isPlain, scalarTag tag⟩), s.withTokens ts)
        | _, .flowSequence :: ts =>
          let (items, s) := Items.buildFlow handles fuel true (s.withTokens ts)
          (.node n (.sequence tag items), s)
        | _, .flowMapping :: ts =>
          let (members, s) := Members.buildFlow handles fuel true (s.withTokens ts)
          (.node n (.mapping tag members), s)
        | .block, .blockSequence :: ts | .blockMember, .blockSequence :: ts =>
          let (items, s) := Items.build handles fuel (s.withTokens ts)
          (.node n (.sequence tag items), s)
        | .block, .blockMapping :: ts | .blockMember, .blockMapping :: ts =>
          let (members, s) := Members.build handles fuel (s.withTokens ts)
          (.node n (.mapping tag members), s)
        | .blockMember, .blockEntry :: ts =>
          let (items, s) := Items.buildLevel handles fuel (s.withTokens (.blockEntry :: ts))
          (.node n (.sequence tag items), s)
        | _, [] => (.cut, .dry)
        | _, ts =>
          if properties.anchor.isSome || tag.isSome then
            (.node n (.scalar ⟨"", true, tag⟩), s.withTokens ts)
          else (.cut, .dry)

/-- A node that may be left out, which shows by the token that stands in its place. -/
def Doc.buildUnless (handles : List (String × String)) (limit : Token → Bool) :
    Nat → NodeStyle → Supply → Doc × Supply
  | 0, _, _ => (.cut, .dry)
  | fuel + 1, style, s =>
    match s.tokens with
    | [] => (.cut, .dry)
    | t :: _ => if limit t then (.empty, s) else Doc.build handles fuel style s

/-- The items of a block sequence with a column of its own. -/
def Items.build (handles : List (String × String)) : Nat → Supply → Items × Supply
  | 0, _ => (.cut, .dry)
  | fuel + 1, s =>
    match s.tokens with
    | .blockEntry :: ts =>
      let (head, s) := Doc.buildUnless handles (fun t => t == .blockEntry || t == .blockEnd) fuel
        .block (s.withTokens ts)
      let (tail, s) := Items.build handles fuel s
      (.item head tail, s)
    | .blockEnd :: ts => (.closed, s.withTokens ts)
    | _ => (.cut, .dry)

/-- The items of a block sequence at the column of the keys around it. -/
def Items.buildLevel (handles : List (String × String)) : Nat → Supply → Items × Supply
  | 0, _ => (.cut, .dry)
  | fuel + 1, s =>
    match s.tokens with
    | .blockEntry :: ts =>
      let (head, s) := Doc.buildUnless handles (fun t => t == .blockEntry || isBlockLimit t) fuel
        .block (s.withTokens ts)
      let (tail, s) := Items.buildLevel handles fuel s
      (.item head tail, s)
    | [] => (.cut, .dry)
    | _ => (.closed, s)

/-- The members of a block mapping. -/
def Members.build (handles : List (String × String)) : Nat → Supply → Members × Supply
  | 0, _ => (.cut, .dry)
  | fuel + 1, s =>
    match s.tokens with
    | .key :: ts =>
      let (key, s) := Doc.buildUnless handles isBlockLimit fuel .blockMember (s.withTokens ts)
      let (value, s) := Doc.buildValue handles isBlockLimit fuel .blockMember s
      let (tail, s) := Members.build handles fuel s
      (.member key value tail, s)
    | .blockEnd :: ts => (.closed, s.withTokens ts)
    | _ => (.cut, .dry)

/-- The value of a member, which may be left out with its colon or without. -/
def Doc.buildValue (handles : List (String × String)) (limit : Token → Bool) :
    Nat → NodeStyle → Supply → Doc × Supply
  | 0, _, _ => (.cut, .dry)
  | fuel + 1, style, s =>
    match s.tokens with
    | .value :: ts => Doc.buildUnless handles limit fuel style (s.withTokens ts)
    | [] => (.cut, .dry)
    | _ => (.empty, s)

/-- The items of a flow sequence. A member of a mapping among them is a mapping of its own. -/
def Items.buildFlow (handles : List (String × String)) :
    Nat → Bool → Supply → Items × Supply
  | 0, _, _ => (.cut, .dry)
  | fuel + 1, isFirst, s =>
    let entry (ts : List Token) : Items × Supply :=
      match ts with
      | .flowSequenceEnd :: ts => (.closed, s.withTokens ts)
      | .key :: ts =>
        let (head, s) := Doc.buildPair handles fuel (s.withTokens ts)
        let (tail, s) := Items.buildFlow handles fuel false s
        (.item head tail, s)
      | ts =>
        let (head, s) := Doc.build handles fuel .flow (s.withTokens ts)
        let (tail, s) := Items.buildFlow handles fuel false s
        (.item head tail, s)
    match isFirst, s.tokens with
    | true, ts => entry ts
    | false, .flowEntry :: ts => entry ts
    | false, .flowSequenceEnd :: ts => (.closed, s.withTokens ts)
    | false, _ => (.cut, .dry)

/-- The key of a member that is an item of a flow sequence. Where the key is left out, the token
that shows it is passed over. -/
def Doc.buildPairKey (handles : List (String × String)) : Nat → Supply → Doc × Supply
  | 0, _ => (.cut, .dry)
  | fuel + 1, s =>
    match s.tokens with
    | .value :: ts | .flowEntry :: ts | .flowSequenceEnd :: ts => (.empty, s.withTokens ts)
    | _ => Doc.build handles fuel .flow s

/-- A mapping of one member that is an item of a flow sequence. -/
def Doc.buildPair (handles : List (String × String)) : Nat → Supply → Doc × Supply
  | 0, _ => (.cut, .dry)
  | fuel + 1, s =>
    let (key, s) := Doc.buildPairKey handles fuel s
    let (value, s) := Doc.buildValue handles isItemLimit fuel .flow s
    let tail := if s.tokens.isEmpty then .cut else .closed
    (.node none (.mapping none (.member key value tail)), s)

/-- The members of a flow mapping. -/
def Members.buildFlow (handles : List (String × String)) :
    Nat → Bool → Supply → Members × Supply
  | 0, _, _ => (.cut, .dry)
  | fuel + 1, isFirst, s =>
    let entry (ts : List Token) : Members × Supply :=
      match ts with
      | .flowMappingEnd :: ts => (.closed, s.withTokens ts)
      | .key :: ts =>
        let (key, s) := Doc.buildUnless handles (fun t => t == .value || isMemberLimit t) fuel .flow
          (s.withTokens ts)
        let (value, s) := Doc.buildValue handles isMemberLimit fuel .flow s
        let (tail, s) := Members.buildFlow handles fuel false s
        (.member key value tail, s)
      | ts =>
        let (key, s) := Doc.build handles fuel .flow (s.withTokens ts)
        let value := if s.tokens.isEmpty then .cut else .empty
        let (tail, s) := Members.buildFlow handles fuel false s
        (.member key value tail, s)
    match isFirst, s.tokens with
    | true, ts => entry ts
    | false, .flowEntry :: ts => entry ts
    | false, .flowMappingEnd :: ts => (.closed, s.withTokens ts)
    | false, _ => (.cut, .dry)

end

/-- A document with what stands around it. -/
structure Document where
  doc : Doc
  /-- Whether nothing but the end of the text follows. -/
  isWhole : Bool

namespace Document

/-- The handles that stand for something without a directive. -/
def standardHandles : List (String × String) := [("!", "!"), ("!!", "tag:yaml.org,2002:")]

/-- Takes the directives in front of a document: at most one version, which must be supported,
and at most one meaning for a handle. -/
def takeDirectives (hasVersion : Bool) (handles : List (String × String)) :
    List Token → Option (List (String × String) × List Token)
  | .version major minor :: ts =>
    if hasVersion || major != 1 || minor != 1 && minor != 2 then none
    else takeDirectives true handles ts
  | .handle name content :: ts =>
    if (handles.lookup name).isSome then none
    else takeDirectives hasVersion ((name, content) :: handles) ts
  | ts => some (handles, ts)

/-- Whether a document is left empty, by the token after its start. -/
def isLimit : Token → Bool
  | .version .. | .handle .. | .documentStart | .documentEnd | .streamEnd => true
  | _ => false

/-- Whether only the end of the text is left. -/
def endsWith (ts : List Token) : Bool :=
  (ts.dropWhile (· == .documentEnd)).head? == some .streamEnd

/-- The document whose node begins the tokens. -/
def ofNode (handles : List (String × String)) (mayBeEmpty : Bool) (ts : List Token) : Document :=
  let fuel := 4 * ts.length + 8
  let (doc, s) :=
    Doc.buildUnless (handles ++ standardHandles) (fun t => mayBeEmpty && isLimit t) fuel .block
      ⟨ts, []⟩
  ⟨doc, endsWith s.tokens⟩

/-- The first document of a list of tokens. A document begins with its node, or with directives
and the mark of its start. -/
def ofTokens (ts : List Token) : Document :=
  match ts with
  | [.streamEnd] => ⟨.empty, true⟩
  | .version .. :: _ | .handle .. :: _ | .documentStart :: _ =>
    match takeDirectives false [] ts with
    | some (handles, .documentStart :: ts) => ofNode handles true ts
    | _ => ⟨.cut, false⟩
  | ts => ofNode [] false ts

end Document

end StarPlan.Yaml
