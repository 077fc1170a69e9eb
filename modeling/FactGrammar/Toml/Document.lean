import FactGrammar.Toml.Statement

namespace FactGrammar.Toml

/-- A document under construction. The table of the last header is kept apart until the next header
or the end of the document puts it into its place. -/
structure Build where
  root : Entries
  /-- Where the current table belongs; the one before the first header is the root. -/
  place : Option Key
  inArray : Bool
  current : Entries

namespace Build

def start : Build := ⟨[], none, false, []⟩

/-- Puts the current table into its place. -/
def settle (b : Build) : Option Entries :=
  match b.place with
  | none => some b.current
  | some key => do
    let ((), root) ← updateAt false
      (fun _ parent =>
        match parent.lookup key.name, b.inArray with
        | some (.tables items), true =>
          some ((), replaceEntry key.name (.tables (items ++ [b.current])) parent)
        | none, false => some ((), parent ++ [(key.name, .table false false b.current)])
        | _, _ => none)
      key.path false b.root
    return root

/-- Begins a table. It goes on with a table that only longer headers have introduced. -/
def beginTable (key : Key) (root : Entries) : Option Build := do
  let (inherited, root) ← updateAt false
    (fun _ parent =>
      match parent.lookup key.name with
      | none => some ([], parent)
      | some (.table true false entries) => some (entries, parent.filter (·.1 != key.name))
      | some _ => none)
    key.path false root
  return ⟨root, some key, false, inherited⟩

/-- Begins a table of an array. -/
def beginItem (key : Key) (root : Entries) : Option Build := do
  let ((), root) ← updateAt false
    (fun _ parent =>
      match parent.lookup key.name with
      | none => some ((), parent ++ [(key.name, .tables [])])
      | some (.tables _) => some ((), parent)
      | some _ => none)
    key.path false root
  return ⟨root, some key, true, []⟩

def step (b : Build) : Statement → Option Build
  | .header key => do beginTable key (← b.settle)
  | .arrayHeader key => do beginItem key (← b.settle)
  | .assignment key value => do
    return { b with current := ← addEntry key value b.current }

end Build

def parse? (text : String) : Option (List (String × Toml)) := do
  let (said, _) ← statements text.toList
  let b ← said.foldlM Build.step .start
  return finishEntries (← b.settle)

def parse (text : String) : Except DocumentError (List (String × Toml)) :=
  match parse? text with
  | some entries => .ok entries
  | none => .error .malformed

end FactGrammar.Toml
