import FactGrammar.Toml.Scalar

namespace FactGrammar.Toml

open Reader

/-- How deep arrays and inline tables may nest in a value, and how many parts a key may have. -/
def nestingLimit : Nat := 79

/-- A key: the tables that lead to it, and its own name. -/
structure Key where
  path : List String
  name : String
  deriving DecidableEq, Inhabited

def Key.parts (key : Key) : List String :=
  key.path ++ [key.name]

def isBareKeyChar (c : Char) : Bool :=
  c.isAlphanum || c == '_' || c == '-'

def keyPart : CharReader String := do
  blanks
  let part ← lineString <|> (do return String.ofList (← takeWhile1 isBareKeyChar))
  blanks
  return part

def key : CharReader Key := do
  let parts ← separated1 keyPart (char '.')
  if parts.length ≤ nestingLimit then
    return ⟨parts.dropLast, parts.getLastD ""⟩
  else fail

/-- A table under construction. A table that only a longer key has introduced is implicit; it is
dotted if that key stood before a value rather than in a header. -/
inductive Draft where
  | value (v : Toml)
  | table (implicit dotted : Bool) (entries : List (String × Draft))
  | tables (items : List (List (String × Draft)))
  deriving Inhabited

abbrev Entries := List (String × Draft)

def replaceEntry (key : String) (draft : Draft) : Entries → Entries
  | [] => []
  | (k, d) :: rest => if k = key then (k, draft) :: rest else (k, d) :: replaceEntry key draft rest

/-- Changes the table at the end of a path, introducing the tables on the way. An array of tables
leads to its last table. `change` is told whether the table is dotted. -/
def updateAt (dotted : Bool) (change : Bool → Entries → Option (α × Entries)) :
    List String → Bool → Entries → Option (α × Entries)
  | [], isDotted, entries => change isDotted entries
  | key :: path, _, entries =>
    match entries.lookup key with
    | none => do
      let (a, inner) ← updateAt dotted change path dotted []
      return (a, entries ++ [(key, .table true dotted inner)])
    | some (.value _) => none
    | some (.tables items) => do
      let (a, inner) ← updateAt dotted change path false (← items.getLast?)
      return (a, replaceEntry key (.tables (items.dropLast ++ [inner])) entries)
    | some (.table implicit isDotted inner) =>
      if dotted && !implicit then none
      else do
        let (a, inner) ← updateAt dotted change path isDotted inner
        return (a, replaceEntry key (.table implicit isDotted inner) entries)

/-- Adds a value under a key. A key may be given only once, and a dotted key may not add to a table
that has a header of its own. -/
def addEntry (key : Key) (value : Toml) (entries : Entries) : Option Entries := do
  let ((), entries) ← updateAt true
    (fun isDotted inner =>
      if isDotted == key.path.isEmpty || (inner.lookup key.name).isSome then none
      else some ((), inner ++ [(key.name, .value value)]))
    key.path false entries
  return entries

mutual

def Draft.finish : Draft → Toml
  | .value v => v
  | .table _ _ entries => .table (finishEntries entries)
  | .tables items => .array (finishTables items)

def finishEntries : List (String × Draft) → List (String × Toml)
  | [] => []
  | (key, draft) :: rest => (key, draft.finish) :: finishEntries rest

def finishTables : List (List (String × Draft)) → List Toml
  | [] => []
  | entries :: rest => .table (finishEntries entries) :: finishTables rest

end

/-- An array of values. A comma may follow the last of them. -/
def arrayValue (value : CharReader Toml) : CharReader Toml := do
  char '['
  let item : CharReader Toml := do
    blankLines
    let v ← value
    blankLines
    return v
  let items ← separated item (char ',')
  if !items.isEmpty then
    let _ ← optionally (char ',')
  blankLines
  char ']'
  return .array items

def inlineEntry (value : CharReader Toml) : CharReader (Key × Toml) := do
  let k ← key
  char '='
  blanks
  let v ← value
  blanks
  return (k, v)

/-- A table on one line. -/
def inlineTable (value : CharReader Toml) : CharReader Toml := do
  char '\x7b'
  let items ← separated (inlineEntry value) (char ',')
  blanks
  char '\x7d'
  match items.foldlM (fun entries (k, v) => addEntry k v entries) [] with
  | some entries => return .table (finishEntries entries)
  | none => fail

/-- A value in which arrays and inline tables nest up to a depth. -/
def valueWithin : Nat → CharReader Toml
  | 0 => scalar
  | depth + 1 => do
    match ← peek? with
    | some '[' => arrayValue (valueWithin depth)
    | some '\x7b' => inlineTable (valueWithin depth)
    | _ => scalar

def value : CharReader Toml := valueWithin nestingLimit

inductive Statement where
  | header (table : Key)
  | arrayHeader (table : Key)
  | assignment (key : Key) (value : Toml)

/-- The end of a line, which the end of the document may stand for. -/
def lineEnd : CharReader Unit := newline <|> atEnd

/-- What may follow a statement on its line. -/
def lineRest : CharReader Unit := do
  blanks
  let _ ← optionally comment
  lineEnd

def headerStatement : CharReader Statement :=
  (do
    keyword "[["
    let k ← key
    keyword "]]"
    lineRest
    return .arrayHeader k) <|>
  (do
    char '['
    let k ← key
    char ']'
    lineRest
    return .header k)

def assignmentStatement : CharReader Statement := do
  let k ← key
  char '='
  blanks
  let v ← value
  lineRest
  return .assignment k v

def line : CharReader (Option Statement) := do
  let statement ←
    match ← peek? with
    | some '#' => do comment; lineEnd; pure none
    | some '[' => some <$> headerStatement
    | some '\n' | some '\r' => do newline; pure none
    | _ => some <$> assignmentStatement
  blanks
  return statement

/-- The statements of a document, which may begin with a byte order mark. -/
def statements : CharReader (List Statement) := do
  let _ ← optionally (char '\ufeff')
  blanks
  let lines ← many line
  atEnd
  return lines.filterMap id

end FactGrammar.Toml
