import RequestKeys.Yaml.Scalar

/-!
# Reading YAML

Block collections are found by their columns, flow collections by their marks.  A text may hold
several documents; a configuration is at most one.
-/

namespace RequestKeys.Yaml

/-! ## Anchors and tags -/

/-- What may precede a node. -/
structure Properties where
  anchor : Option (List Char)
  tag : Option Tag

/-- Nothing precedes it. -/
def Properties.absent (p : Properties) : Bool := p.anchor.isNone && p.tag.isNone

/-- A character of an anchor or a tag. -/
def isNameChar (c : Char) : Bool := !isSpace c && !isFlowMark c

/-- The tag that is written after an exclamation mark. -/
def tagOf (text : List Char) : Tag :=
  match String.ofList text with
  | "!bool" => .bool
  | "!int" => .int
  | "!float" => .float
  | "!null" => .null
  | _ => .other

/-- An anchor and a tag, each at most once, with the blanks after them. -/
def properties : (fuel : Nat) → Properties → Reader Properties
  | 0, _ => refuse
  | fuel + 1, p => do
    match ← peek with
    | some '&' =>
      bump 1
      let name ← stretch isNameChar
      let _ ← skipSpaces
      if name.isEmpty || p.anchor.isSome then refuse
      else properties fuel { p with anchor := some name }
    | some '!' =>
      bump 1
      let tag ← stretch isNameChar
      let _ ← skipSpaces
      if p.tag.isSome then refuse else properties fuel { p with tag := some (tagOf tag) }
    | _ => pure p

/-- Gives a node its anchor. -/
def remember (p : Properties) (node : Node) : Reader Node := do
  match p.anchor with
  | some name =>
    modify fun s => { s with anchors := (name, node) :: s.anchors }
    pure node
  | none => pure node

/-- The node of a plain scalar after its properties. -/
def plainNode (p : Properties) (text : List Char) : Node :=
  match p.tag with
  | some tag => .ofTagged tag text
  | none => .ofPlain text

/-- An alias, whose star is ahead: the node that has the anchor. -/
def aliasNode : Reader Node := do
  bump 1
  let name ← stretch isNameChar
  match (← get).anchors.find? (·.1 = name) with
  | some (_, node) => pure node
  | none => refuse

/-- A bound for the steps of a loop. -/
def fuelAhead : Reader Nat := fun s => some (s.rest.length + 1, s)

/-- A quoted scalar, whose opening quote is ahead. -/
def quotedNode (quote : Char) (minColumn : Nat) : Reader Node := do
  bump 1
  return .text (← quoted quote minColumn (← fuelAhead) [])

/-! ## Flow collections -/

/-- Whether a colon that separates a key from its value is ahead.  After a key that ends in a quote or
a bracket it needs no gap. -/
def atFlowColon (closedKey : Bool) : Reader Bool := do
  let next ← peekSecond
  return (← peek) == some ':' && (closedKey || isGap next || next.any isFlowMark)

mutual

/-- A node inside a flow collection, which is nothing before a mark, and whether it ends in a quote or
a bracket. -/
def flowNode : (fuel : Nat) → Reader (Node × Bool)
  | 0 => refuse
  | fuel + 1 => do
    let p ← properties 3 ⟨none, none⟩
    skipInFlow
    let next ← peekSecond
    match ← peek with
    | some '[' =>
      bump 1
      return (← remember p (.sequence (← flowItems fuel)), true)
    | some '\x7b' =>
      bump 1
      return (← remember p (.mapping (← flowEntries fuel)), true)
    | some '"' => return (← remember p (← quotedNode '"' 0), true)
    | some '\'' => return (← remember p (← quotedNode '\'' 0), true)
    | some '*' => if p.absent then return (← aliasNode, false) else refuse
    | some c =>
      if startsPlain true c next then
        let s ← get
        let line := plainLine true [] s.rest
        bump line.length
        let rest ← plainRest true 0 (← fuelAhead)
        return (← remember p (plainNode p (line ++ rest)), false)
      else if c = ',' ∨ c = ']' ∨ c = '\x7d' ∨ c = ':' then return (← remember p .null, false)
      else refuse
    | none => refuse

/-- The value after a colon. -/
def flowValue : (fuel : Nat) → Reader Node
  | 0 => refuse
  | fuel + 1 => do
    bump 1
    skipInFlow
    return (← flowNode fuel).1

/-- The rest of a flow sequence.  An item with a colon is a mapping of one entry. -/
def flowItems : (fuel : Nat) → Reader (List Node)
  | 0 => refuse
  | fuel + 1 => do
    skipInFlow
    if (← get).atEnd then refuse
    match ← peek with
    | some ']' =>
      bump 1
      pure []
    | some ',' => refuse
    | _ =>
      let explicit := (← peek) == some '?' && isGap (← peekSecond)
      if explicit then
        bump 1
        skipInFlow
      let (key, closed) ← flowNode fuel
      skipInFlow
      let item ← do
        if ← atFlowColon closed then
          let value ← flowValue fuel
          pure (Node.mapping [(key, value)])
        else if explicit then pure (Node.mapping [(key, .null)])
        else pure key
      skipInFlow
      match ← peek with
      | some ',' =>
        bump 1
        return item :: (← flowItems fuel)
      | some ']' =>
        bump 1
        pure [item]
      | _ => refuse

/-- The rest of a flow mapping.  A key may lack its value. -/
def flowEntries : (fuel : Nat) → Reader (List (Node × Node))
  | 0 => refuse
  | fuel + 1 => do
    skipInFlow
    if (← get).atEnd then refuse
    match ← peek with
    | some '\x7d' =>
      bump 1
      pure []
    | some ',' => refuse
    | _ =>
      if (← peek) == some '?' && isGap (← peekSecond) then
        bump 1
        skipInFlow
      let (key, closed) ← flowNode fuel
      skipInFlow
      let value ← do
        if ← atFlowColon closed then flowValue fuel else pure .null
      skipInFlow
      match ← peek with
      | some ',' =>
        bump 1
        return (key, value) :: (← flowEntries fuel)
      | some '\x7d' =>
        bump 1
        pure [(key, value)]
      | _ => refuse

end

/-! ## Block collections -/

/-- Whether `c` and a gap are ahead. -/
def atIndicator (c : Char) : Reader Bool := do
  return (← peek) == some c && isGap (← peekSecond)

/-- An alias, a flow collection, a quoted scalar or the first line of a plain scalar, whose text is
given as well. -/
def atom (p : Properties) (minColumn : Nat) : Reader (Node × Option (List Char)) := do
  let next ← peekSecond
  match ← peek with
  | some '*' => if p.absent then return (← aliasNode, none) else refuse
  | some '[' =>
    bump 1
    return (.sequence (← flowItems (4 * (← fuelAhead))), none)
  | some '\x7b' =>
    bump 1
    return (.mapping (← flowEntries (4 * (← fuelAhead))), none)
  | some '"' => return (← quotedNode '"' minColumn, none)
  | some '\'' => return (← quotedNode '\'' minColumn, none)
  | some c =>
    if startsPlain false c next then
      let line := plainLine false [] (← get).rest
      bump line.length
      return (plainNode p line, some line)
    else refuse
  | none => refuse

/-- A key of a block mapping, which has to stand on one line, up to the colon after it; or, if there
is no colon, the scalar it is and its text where it is plain. -/
def keyOrAtom (p : Properties) (minColumn : Nat) : Reader (Node × Option (List Char) × Bool) := do
  let before := (← get).rest
  let (node, line) ← atom p minColumn
  let after := (← get).rest
  let _ ← skipSpaces
  if ← atIndicator ':' then
    if (before.take (before.length - after.length)).contains '\n' then refuse
    else
      bump 1
      pure (node, line, true)
  else pure (node, line, false)

/-- Whether a block collection can end here: at the end of the document, or on a new line further to
the left. -/
def endsBefore (column : Nat) : Reader Bool := do
  let s ← get
  if s.atEnd then pure true
  else if s.fresh then pure (s.column < column)
  else refuse

mutual

/-- A node below its parent.  Its content has to stand at `minColumn` or further right, but a sequence
may begin at `minDash`; where the content begins on the line of a key (`inline`) it is no block
collection. -/
def blockNode : (fuel minColumn minDash : Nat) → (inline : Bool) → Reader Node
  | 0, _, _, _ => refuse
  | fuel + 1, minColumn, minDash, inline => do
    skip
    let s ← get
    let dash ← atIndicator '-'
    if s.atEnd || (s.fresh && s.column < minColumn && !(dash && minDash ≤ s.column)) then pure .null
    else
      let p ← properties 3 ⟨none, none⟩
      let ahead ← peek
      if !p.absent && (ahead == none || ahead == some '\n' || ahead == some '#') then
        let node ← blockNode fuel minColumn minDash inline
        remember p node
      else blockContent fuel minColumn (s.fresh || !inline) s.column p

/-- What a node consists of after its properties; `free` says that it may be a block collection, which
then stands at `column`. -/
def blockContent : (fuel minColumn : Nat) → (free : Bool) → (column : Nat) → Properties →
    Reader Node
  | 0, _, _, _, _ => refuse
  | fuel + 1, minColumn, free, column, p => do
    if ← atIndicator '-' then
      if free && p.absent then return .sequence (← blockItems fuel column) else refuse
    else if ← atIndicator '?' then
      if free then return .mapping (← blockEntries fuel column) else refuse
    else if (← peek) == some '|' || (← peek) == some '>' then
      remember p (.text (← blockScalar minColumn))
    else
      let (node, line, isKey) ← keyOrAtom p minColumn
      if isKey then
        if free then
          let key ← remember p node
          let value ← blockNode fuel (column + 1) column true
          return .mapping ((key, value) :: (← blockEntries fuel column))
        else refuse
      else match line with
        | some line =>
          let rest ← plainRest false minColumn (← fuelAhead)
          remember p (plainNode p (line ++ rest))
        | none => remember p node

/-- The items of a block sequence at a column, whose first hyphen is ahead. -/
def blockItems : (fuel column : Nat) → Reader (List Node)
  | 0, _ => refuse
  | fuel + 1, column => do
    bump 1
    let item ← blockNode fuel (column + 1) (column + 1) false
    skip
    if ← endsBefore column then pure [item]
    else if (← get).column ≠ column then refuse
    else if ← atIndicator '-' then return item :: (← blockItems fuel column)
    else pure [item]

/-- The entries of a block mapping at a column from here on. -/
def blockEntries : (fuel column : Nat) → Reader (List (Node × Node))
  | 0, _ => refuse
  | fuel + 1, column => do
    skip
    if ← atIndicatorAt '?' column then
      bump 1
      let key ← blockNode fuel (column + 1) (column + 1) false
      skip
      let value ← do
        if ← atIndicatorAt ':' column then
          bump 1
          blockNode fuel (column + 1) column false
        else pure .null
      return (key, value) :: (← blockEntries fuel column)
    else if ← endsBefore column then pure []
    else if (← get).column ≠ column then refuse
    else if ← atIndicator '-' then refuse
    else
      let p ← properties 3 ⟨none, none⟩
      let (node, _, isKey) ← keyOrAtom p column
      if isKey then
        let key ← remember p node
        let value ← blockNode fuel (column + 1) column true
        return (key, value) :: (← blockEntries fuel column)
      else refuse
where
  /-- Whether `c` and a gap are ahead at the given column. -/
  atIndicatorAt (c : Char) (column : Nat) : Reader Bool := do
    return (← atIndicator c) && (← get).column == column

end

/-! ## Documents -/

/-- Moves past the end of a document. -/
def endDocument : Reader Unit := do
  skip
  if (← get).atEnd then pure () else refuse

/-- The documents of a text from here on. -/
def documents : (fuel : Nat) → Reader (List Node)
  | 0 => refuse
  | fuel + 1 => do
    skip
    let s ← get
    if s.rest.isEmpty then pure []
    else if s.atMarker '.' then
      bump 3
      let _ ← skipSpaces
      documents fuel
    else if s.atMarker '-' then
      bump 3
      let node ← blockNode (4 * (← fuelAhead) + 8) 0 0 true
      endDocument
      return node :: (← documents fuel)
    else if s.column == 0 && s.rest.head? == some '%' then
      let _ ← stretch fun _ => true
      skip
      if (← get).atMarker '-' || (← peek) == some '%' then documents fuel else refuse
    else
      let node ← blockNode (4 * (← fuelAhead) + 8) 0 0 false
      endDocument
      return node :: (← documents fuel)

/-- The documents that a text spells. -/
def readDocuments? (text : List Char) : Option (List Node) :=
  let text := unifyBreaks text
  ((documents (text.length + 1)) ⟨text, 0, true, true, []⟩).map (·.1)

/-- The table that a YAML text of at most one document spells; none is an empty table. -/
def read? (text : List Char) : Option Config.Table :=
  match readDocuments? text with
  | some [] => some []
  | some [node] => match node.value? with
    | some (.table entries) => some entries
    | _ => none
  | _ => none

end RequestKeys.Yaml
