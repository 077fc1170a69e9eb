import FactGrammar.Matching.Match
import FactGrammar.Record.Value

namespace FactGrammar

namespace Match

/-- The fact captured first, with its place. -/
def outermostFact? (place : Nat) : List Capture → Option (Nat × Schema)
  | [] => none
  | capture :: rest =>
    match capture.binding with
    | .fact schema => some (place, schema)
    | .field .. => outermostFact? (place + 1) rest

/-- The first fact among the siblings at `place` up to `last`, with its place. -/
def siblingFact? (captures : List Capture) (last place : Nat) : Option (Nat × Schema) :=
  if last < place then none
  else
    match captures[place]? with
    | none => none
    | some capture =>
      match capture.binding with
      | .fact schema => some (place, schema)
      | .field .. => siblingFact? captures last (place + capture.descendants + 1)
  termination_by last + 1 - place

theorem siblingFact_bounds {captures : List Capture} {last place found : Nat} {schema : Schema}
    (h : siblingFact? captures last place = some (found, schema)) :
    place ≤ found ∧ found < captures.length := by
  fun_induction siblingFact? captures last place with
  | case1 => cases h
  | case2 => cases h
  | case3 _ _ _ hc =>
    cases h
    exact ⟨Nat.le_refl _, (List.getElem?_eq_some_iff.1 hc).1⟩
  | case4 _ _ _ _ _ _ _ _ ih =>
    have := ih h
    omega

/-- The first required field that is missing from a record. -/
def missingField? (schema : Schema) (record : Record) : Option FieldSpec :=
  schema.fields.find? fun spec => spec.required && (record.get spec.name).isAbsent

def plainValue (tokens : List Token) (span : Span) (mode : FieldMode) : Value :=
  if span.isEmpty then .absent
  else
    match mode with
    | .raw => .text (Token.join Token.text (span.slice tokens))
    | .normal => .text (Token.join Token.normal (span.slice tokens))
    | .nested => .absent

mutual

/-- The record of the fact captured at a place. -/
def resolveFact (tokens : List Token) (captures : List Capture) (schema : Schema) (place : Nat) :
    Except InterpretError Record :=
  match _ : captures[place]? with
  | none => .error .noFact
  | some capture => do
    let record ← collectFields tokens captures schema (place + capture.descendants) (place + 1)
      (.empty schema)
    match missingField? schema record with
    | some spec => .error (.missingRequiredField schema.name spec.name)
    | none => .ok record
  termination_by (captures.length - place, 0)
  decreasing_by
    have := (List.getElem?_eq_some_iff.1 ‹captures[place]? = some _›).1
    exact .left _ _ (by omega)

/-- Fills a record of a kind of fact from the siblings at `place` up to `last`. -/
def collectFields (tokens : List Token) (captures : List Capture) (schema : Schema)
    (last place : Nat) (record : Record) : Except InterpretError Record :=
  if last < place then .ok record
  else
    match _ : captures[place]? with
    | none => .ok record
    | some capture => do
      let record ←
        match capture.binding with
        | .field owner field mode =>
          if owner = schema.name then do
            let value ← resolveField tokens captures capture mode place
            .ok (record.set field value)
          else .ok record
        | .fact inner =>
          if inner.name = schema.name then
            collectFields tokens captures schema (place + capture.descendants) (place + 1) record
          else .ok record
      collectFields tokens captures schema last (place + capture.descendants + 1) record
  termination_by (captures.length - place, 2)
  decreasing_by
    all_goals have := (List.getElem?_eq_some_iff.1 ‹captures[place]? = some _›).1
    · exact .left _ _ (by omega)
    · exact .right _ (by omega)
    · exact .left _ _ (by omega)

/-- The value of the field captured at a place: the first fact inside it, if there is one. -/
def resolveField (tokens : List Token) (captures : List Capture) (capture : Capture)
    (mode : FieldMode) (place : Nat) : Except InterpretError Value :=
  match _ : siblingFact? captures (place + capture.descendants) (place + 1) with
  | some (found, schema) => do
    let record ← resolveFact tokens captures schema found
    .ok (.record record)
  | none => .ok (plainValue tokens capture.span mode)
  termination_by (captures.length - place, 1)
  decreasing_by
    have := siblingFact_bounds ‹_ = some (found, schema)›
    exact .left _ _ (by omega)

end

def fact (m : Match) : Except InterpretError Record :=
  match outermostFact? 0 m.captures with
  | some (place, schema) => resolveFact m.source m.captures schema place
  | none => .error .noFact

/-- The outermost fact of a match as a value of a type of facts. -/
def interpret (α : Type) [FactType α] (m : Match) : Except InterpretError α := do
  FactType.ofRecord (← m.fact)

end Match

end FactGrammar
