import PromptBook.Yaml.Token.Lexer

/-!
# Nodes

The first document of a YAML text as a tree of nodes.  A node may carry an anchor, and an alias
stands for the node with an anchor of some number.

Anchors are numbered by how many names of anchors there were before; so when a name is given twice,
a later name may come to share a number, and an alias then stands for the later node.
-/

namespace PromptBook
namespace Yaml

/-- A node as it is written. -/
inductive Node
  | alias (anchor : Nat)
  | scalar (anchor : Option Nat) (tag : Option String) (style : Style) (text : String)
  | sequence (anchor : Option Nat) (tag : Option String) (items : List Node)
  | mapping (anchor : Option Nat) (tag : Option String) (entries : List (Node × Node))
  deriving Inhabited

/-- The first document of a text, and whether the text goes on after it. -/
structure Stream where
  root : Node
  followed : Bool
  deriving Inhabited

namespace Node

/-- What stands where a node is left out. -/
def absent : Node := .scalar none none .plain ""

/-- What is to be read, and the anchors so far. -/
structure Rest where
  tokens : List Token
  anchors : List (List Char × Nat)

/-- Reads a part of a document. -/
abbrev Reader := StateT Rest Option

/-- The replacements of the handles of tags. -/
abbrev Handles := List (List Char × List Char)

section Steps

/-- The next token. -/
def peek : Reader Token := do
  match (← get).tokens with
  | t :: _ => pure t
  | [] => pure .broken

/-- Past the next token. -/
def skip : Reader Unit :=
  modify fun rest => { rest with tokens := rest.tokens.drop 1 }

/-- The number of an anchor. -/
def register (name : List Char) : Reader Nat := do
  let rest ← get
  let number := rest.anchors.length
  set { rest with anchors := (name, number) :: rest.anchors.filter (·.1 ≠ name) }
  pure number

/-- A tag with its handle replaced. -/
def resolveTag (handles : Handles) (handle suffix : List Char) : Reader String :=
  if handle.isEmpty then pure (String.ofList suffix)
  else match handles.lookup handle with
    | some replacement => pure (String.ofList (replacement ++ suffix))
    | none => failure

/-- The anchor and the tag of a node, in either order. -/
def properties (handles : Handles) : Reader (Option (List Char) × Option String) := do
  match ← peek with
  | .anchor name =>
    skip
    match ← peek with
    | .tag handle suffix => do
      skip
      pure (some name, some (← resolveTag handles handle suffix))
    | _ => pure (some name, none)
  | .tag handle suffix =>
    skip
    let tag ← resolveTag handles handle suffix
    match ← peek with
    | .anchor name => do
      skip
      pure (some name, some tag)
    | _ => pure (none, some tag)
  | _ => pure (none, none)

/-- The tag of a scalar that is written out: an exclamation mark alone is no tag of it, while a
scalar that is left out keeps even that. -/
def scalarTag (tag : Option String) : Option String :=
  tag.filter (· ≠ "!")

/-- Whether a node that may be left out is left out before a token. -/
def endsKey : Token → Bool
  | .key | .value | .blockEnd => true
  | _ => false

end Steps

mutual

/-- A node.  In a block it may be a block collection, and where a dash may stand below a key it may
be a sequence that is not indented. -/
def node (handles : Handles) (block dashes : Bool) : Nat → Reader Node
  | 0 => failure
  | steps + 1 => do
    match ← peek with
    | .alias name => do
      skip
      match (← get).anchors.lookup name with
      | some number => pure (.alias number)
      | none => failure
    | _ => do
      let (name, tag) ← properties handles
      let next ← peek
      let begins := match next with
        | .scalar .. | .flowSequenceStart | .flowMappingStart => true
        | .blockEntry => dashes
        | .blockSequenceStart | .blockMappingStart => block
        | _ => false
      if !begins && name.isNone && tag.isNone then failure
      else
        let anchor ← match name with
          | some name => some <$> register name
          | none => pure none
        if !begins then pure (.scalar anchor tag .plain "")
        else match next with
          | .scalar text style => do
            skip
            pure (.scalar anchor (scalarTag tag) style (String.ofList text))
          | .flowSequenceStart => do
            skip
            .sequence anchor tag <$> flowItems handles true steps
          | .flowMappingStart => do
            skip
            .mapping anchor tag <$> flowEntries handles true steps
          | .blockSequenceStart => do
            skip
            .sequence anchor tag <$> blockItems handles steps
          | .blockMappingStart => do
            skip
            .mapping anchor tag <$> blockEntries handles steps
          | _ => .sequence anchor tag <$> dashedItems handles steps

/-- A node, or its absence before some tokens. -/
def nodeUnless (handles : Handles) (ends : Token → Bool) (block dashes : Bool) : Nat → Reader Node
  | 0 => failure
  | steps + 1 => do
    if ends (← peek) then pure absent else node handles block dashes steps

/-- The items of an indented sequence. -/
def blockItems (handles : Handles) : Nat → Reader (List Node)
  | 0 => failure
  | steps + 1 => do
    match ← peek with
    | .blockEntry => do
      skip
      let ends : Token → Bool
        | .blockEntry | .blockEnd => true
        | _ => false
      let item ← nodeUnless handles ends true false steps
      let items ← blockItems handles steps
      pure (item :: items)
    | .blockEnd => do
      skip
      pure []
    | _ => failure

/-- The items of a sequence that is not indented. -/
def dashedItems (handles : Handles) : Nat → Reader (List Node)
  | 0 => failure
  | steps + 1 => do
    match ← peek with
    | .blockEntry => do
      skip
      let ends : Token → Bool
        | .blockEntry => true
        | t => endsKey t
      let item ← nodeUnless handles ends true false steps
      let items ← dashedItems handles steps
      pure (item :: items)
    | _ => pure []

/-- The entries of an indented mapping. -/
def blockEntries (handles : Handles) : Nat → Reader (List (Node × Node))
  | 0 => failure
  | steps + 1 => do
    match ← peek with
    | .key => do
      skip
      let key ← nodeUnless handles endsKey true true steps
      let value ← match ← peek with
        | .value => do
          skip
          nodeUnless handles endsKey true true steps
        | _ => pure absent
      let entries ← blockEntries handles steps
      pure ((key, value) :: entries)
    | .blockEnd => do
      skip
      pure []
    | _ => failure

/-- The items between brackets.  All but the first come after a comma, and one of them may be an
entry, which stands for a mapping of its own. -/
def flowItems (handles : Handles) (first : Bool) : Nat → Reader (List Node)
  | 0 => failure
  | steps + 1 => do
    let ends : Token → Bool
      | .flowEntry | .flowSequenceEnd => true
      | _ => false
    match ← peek with
    | .flowSequenceEnd => do
      skip
      pure []
    | next => do
      if !first then
        if next = .flowEntry then skip else failure
      match ← peek with
      | .flowSequenceEnd => do
        skip
        pure []
      | .key => do
        skip
        let key ← if ends (← peek) || (← peek) = .value then do
            skip
            pure absent
          else node handles false false steps
        let value ← match ← peek with
          | .value => do
            skip
            nodeUnless handles ends false false steps
          | _ => pure absent
        let items ← flowItems handles false steps
        pure (.mapping none none [(key, value)] :: items)
      | _ => do
        let item ← node handles false false steps
        let items ← flowItems handles false steps
        pure (item :: items)

/-- The entries between braces.  All but the first come after a comma. -/
def flowEntries (handles : Handles) (first : Bool) : Nat → Reader (List (Node × Node))
  | 0 => failure
  | steps + 1 => do
    let ends : Token → Bool
      | .flowEntry | .flowMappingEnd => true
      | _ => false
    match ← peek with
    | .flowMappingEnd => do
      skip
      pure []
    | next => do
      if !first then
        if next = .flowEntry then skip else failure
      match ← peek with
      | .flowMappingEnd => do
        skip
        pure []
      | .key => do
        skip
        let key ← nodeUnless handles (fun t => ends t || t = .value) false false steps
        let value ← match ← peek with
          | .value => do
            skip
            nodeUnless handles ends false false steps
          | _ => pure absent
        let entries ← flowEntries handles false steps
        pure ((key, value) :: entries)
      | _ => do
        let key ← node handles false false steps
        let entries ← flowEntries handles false steps
        pure ((key, absent) :: entries)

end

end Node

namespace Stream

open Node

/-- The replacements of the handles that need no directive. -/
def standardHandles : Handles :=
  [(['!'], ['!']), (['!', '!'], "tag:yaml.org,2002:".toList)]

/-- The directives before a document: the handles they state, and the tokens after them. -/
def directives (versioned : Bool) (handles : Handles) : List Token → Option (Handles × List Token)
  | .versionDirective major minor :: rest =>
    if versioned || major ≠ 1 || (minor ≠ 1 && minor ≠ 2) then none
    else directives true handles rest
  | .tagDirective handle replacement :: rest =>
    if (handles.lookup handle).isSome then none
    else directives versioned ((handle, replacement) :: handles) rest
  | rest => some (handles, rest)

/-- Whether a document is left empty before a token. -/
def endsDocument : Token → Bool
  | .versionDirective .. | .tagDirective .. | .documentStart | .documentEnd | .streamEnd => true
  | _ => false

/-- Whether anything but marks for the end of a document comes next. -/
def goesOn (tokens : List Token) : Bool :=
  (tokens.dropWhile (· = .documentEnd)).head? ≠ some .streamEnd

/-- A document whose content begins here. -/
def ofContent (handles : Handles) (tokens : List Token) : Option Stream := do
  let steps := 4 * tokens.length + 4
  let (root, rest) ← (node (handles ++ standardHandles) true false steps).run ⟨tokens, []⟩
  match rest.tokens with
  | [] | .broken :: _ => none
  | rest => some ⟨root, goesOn rest⟩

/-- A document after its mark. -/
def ofMarked (handles : Handles) (tokens : List Token) : Option Stream :=
  if tokens.head?.any endsDocument then some ⟨.absent, goesOn tokens⟩
  else ofContent handles tokens

/-- The first document of the tokens of a text.  A text without documents is an absent node. -/
def ofTokens? (tokens : List Token) : Option Stream := do
  match ← directives false [] tokens with
  | (handles, .documentStart :: rest) => ofMarked handles rest
  | ([], .streamEnd :: _) => if tokens.length = 1 then some ⟨.absent, false⟩ else none
  | (handles, rest) => if rest.length = tokens.length then ofContent handles rest else none

/-- The first document of a text. -/
def ofText? (s : String) : Option Stream :=
  ofTokens? (tokens s)

/-- Whether the root of the first document, if it has one, stands at the very beginning of a text:
no gap, no comment and no mark comes before it. -/
def beginsWithRoot (s : String) : Bool :=
  let cs := s.toList
  !atDocumentMark cs && !startsWith isBefore cs
where
  /-- A character that stands before a root and not in it. -/
  isBefore (c : Char) : Bool :=
    isGap c || isBreak c || c == '#' || c == '%' || c == byteOrderMark

end Stream

end Yaml
end PromptBook
