import RequestKeys.Toml.Document
import RequestKeys.Toml.Scalar

/-!
# Reading TOML
-/

namespace RequestKeys.Toml

open Config (Value)

/-- The text after blanks within the line. -/
def skipSpaces (text : List Char) : List Char := text.dropWhile isSpace

/-- The text at the end of the line, after a comment if there is one. -/
def skipComment (text : List Char) : Option (List Char) :=
  match text with
  | '#' :: rest =>
    let comment := rest.takeWhile fun c => !isControl c
    let rest := rest.drop comment.length
    if rest.isEmpty || (lineBreak? rest).isSome then some rest else none
  | _ => some text

/-- The text after the end of the line, which only blanks and a comment may precede. -/
def endLine (text : List Char) : Option (List Char) := do
  let rest ← skipComment (skipSpaces text)
  if rest.isEmpty then some [] else lineBreak? rest

/-- The text after blanks, comments and line breaks. -/
def skipLines : (fuel : Nat) → List Char → Option (List Char)
  | 0, _ => none
  | fuel + 1, text => do
    let rest ← skipComment (skipSpaces text)
    match lineBreak? rest with
    | some rest => skipLines fuel rest
    | none => some rest

/-! ## Keys -/

/-- What may stand in a key without quotes. -/
def isKeyChar (c : Char) : Bool := c.isAlphanum || c == '_' || c == '-'

/-- A key, bare or quoted within one line. -/
def readKey (text : List Char) : Option (List Char × List Char) :=
  match text with
  | '"' :: rest => readBasic (rest.length + 1) rest
  | '\'' :: rest => readLiteral rest
  | _ =>
    let key := text.takeWhile isKeyChar
    if key.isEmpty then none else some (key, text.dropWhile isKeyChar)

/-- Keys with points between them; blanks around keys and points do not count. -/
def readPath : (fuel : Nat) → List Char → Option (Path × List Char)
  | 0, _ => none
  | fuel + 1, text => do
    let (key, rest) ← readKey (skipSpaces text)
    match skipSpaces rest with
    | '.' :: rest => do
      let (path, rest) ← readPath fuel rest
      some (key :: path, rest)
    | rest => some ([key], rest)

/-! ## Values -/

/-- The rest of a text that starts with `c`. -/
def expect (c : Char) : List Char → Option (List Char)
  | d :: rest => if d = c then some rest else none
  | [] => none

mutual

/-- A value. -/
def readValue : (fuel : Nat) → List Char → Option (Value × List Char)
  | 0, _ => none
  | fuel + 1, text => match text with
    | '[' :: rest => do
      let (items, rest) ← readItems fuel rest
      some (.list items, rest)
    | '\x7b' :: rest => do
      let (entries, rest) ← readInline fuel [] rest
      some (.table (entryValues entries), rest)
    | _ => readScalar text

/-- The rest of an array.  A comma may follow the last item, and lines may end between items. -/
def readItems : (fuel : Nat) → List Char → Option (List Value × List Char)
  | 0, _ => none
  | fuel + 1, text => do
    let text ← skipLines (text.length + 1) text
    match text with
    | ']' :: rest => some ([], rest)
    | _ => do
      let (item, rest) ← readValue fuel text
      let rest ← skipLines (rest.length + 1) rest
      match rest with
      | ',' :: rest => do
        let (items, rest) ← readItems fuel rest
        some (item :: items, rest)
      | ']' :: rest => some ([item], rest)
      | _ => none

/-- The rest of an inline table, to which the same applies. -/
def readInline : (fuel : Nat) → Entries → List Char → Option (Entries × List Char)
  | 0, _, _ => none
  | fuel + 1, entries, text => do
    let text ← skipLines (text.length + 1) text
    match text with
    | '\x7d' :: rest => some (entries, rest)
    | _ => do
      let (path, rest) ← readPath (text.length + 1) text
      let rest ← expect '=' rest
      let (value, rest) ← readValue fuel (skipSpaces rest)
      let entries ← bind path value entries
      let rest ← skipLines (rest.length + 1) rest
      match rest with
      | ',' :: rest => readInline fuel entries rest
      | '\x7d' :: rest => some (entries, rest)
      | _ => none

end

/-! ## Documents -/

/-- The rest of a document below a header. -/
def readStatements : (fuel : Nat) → (header : Path) → Entries → List Char → Option Entries
  | 0, _, _, _ => none
  | fuel + 1, header, root, text => do
    let text ← skipLines (text.length + 1) text
    match text with
    | [] => some root
    | '[' :: '[' :: rest => do
      let (path, rest) ← readPath (rest.length + 1) rest
      let rest ← expect ']' rest
      let rest ← expect ']' rest
      readStatements fuel path (← openArrayTable path root) (← endLine rest)
    | '[' :: rest => do
      let (path, rest) ← readPath (rest.length + 1) rest
      let rest ← expect ']' rest
      readStatements fuel path (← openTable path root) (← endLine rest)
    | _ => do
      let (path, rest) ← readPath (text.length + 1) text
      let rest ← expect '=' rest
      let (value, rest) ← readValue (rest.length + 1) (skipSpaces rest)
      readStatements fuel header (← bindUnder header path value root) (← endLine rest)

/-- The table that a TOML text spells. -/
def read? (text : List Char) : Option Config.Table :=
  (readStatements (text.length + 1) [] [] text).map entryValues

end RequestKeys.Toml
