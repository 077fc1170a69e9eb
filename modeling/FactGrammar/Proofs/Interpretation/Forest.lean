import FactGrammar.Matching.Interpretation
import FactGrammar.Proofs.Matching.Refinement

namespace FactGrammar

/-- Refuses a record in which a required field is missing. -/
def Record.checked (schema : Schema) (record : Record) : Except InterpretError Record :=
  match Match.missingField? schema record with
  | some spec => .error (.missingRequiredField schema.name spec.name)
  | none => .ok record

/-- The value of a field: the fact inside it, if there is one, else its tokens. -/
def Match.fieldValue (tokens : List Token) (span : Span) (mode : FieldMode) :
    Option (Except InterpretError Record) → Except InterpretError Value
  | some nested => nested.map .record
  | none => .ok (plainValue tokens span mode)

namespace CaptureForest

mutual

/-- Fills a record from captures side by side. A field of the fact is set, a fact of the same name
lends its own fields, and anything else is passed over with all that is inside it. -/
def collect (tokens : List Token) (schema : Schema) (record : Record) :
    CaptureForest → Except InterpretError Record
  | nil => .ok record
  | cons (.field owner field mode) span inside rest =>
    if owner = schema.name then do
      let value ← Match.fieldValue tokens span mode (inside.siblingFact tokens)
      rest.collect tokens schema (record.set field value)
    else rest.collect tokens schema record
  | cons (.fact inner) _ inside rest =>
    if inner.name = schema.name then do
      let record ← inside.collect tokens schema record
      rest.collect tokens schema record
    else rest.collect tokens schema record

def siblingFact (tokens : List Token) : CaptureForest → Option (Except InterpretError Record)
  | nil => none
  | cons (.fact schema) _ inside _ =>
    some (inside.collect tokens schema (.empty schema) >>= Record.checked schema)
  | cons (.field ..) _ _ rest => rest.siblingFact tokens

end

def resolve (tokens : List Token) (schema : Schema) (inside : CaptureForest) :
    Except InterpretError Record :=
  inside.collect tokens schema (.empty schema) >>= Record.checked schema

def firstFact (tokens : List Token) : CaptureForest → Option (Except InterpretError Record)
  | nil => none
  | cons (.fact schema) _ inside _ => some (inside.resolve tokens schema)
  | cons (.field ..) _ inside rest => (inside.firstFact tokens).or (rest.firstFact tokens)

end CaptureForest

namespace Match

variable {tokens : List Token} {captures : List Capture} {schema : Schema}

theorem collectFields_of_end (h : last < place) (record : Record) :
    collectFields tokens captures schema last place record = .ok record := by
  rw [collectFields, if_pos h]

theorem collectFields_of_capture (hle : place ≤ last) (h : captures[place]? = some capture)
    (record : Record) :
    collectFields tokens captures schema last place record = (do
      let record ←
        match capture.binding with
        | .field owner field mode =>
          if owner = schema.name then do
            let value ← resolveField tokens captures capture mode place
            .ok (record.set field value)
          else .ok record
        | .fact inner =>
          if inner.name = schema.name then
            collectFields tokens captures schema (place + capture.descendants) (place + 1) record
          else .ok record
      collectFields tokens captures schema last (place + capture.descendants + 1) record) := by
  rw [collectFields, if_neg (Nat.not_lt.2 hle)]
  split
  · rename_i hnone
    rw [h] at hnone
    cases hnone
  · rename_i hsome
    rw [h] at hsome
    cases hsome
    rfl

theorem resolveFact_of_capture (h : captures[place]? = some capture) :
    resolveFact tokens captures schema place =
      collectFields tokens captures schema (place + capture.descendants) (place + 1)
        (.empty schema) >>= Record.checked schema := by
  rw [resolveFact]
  split
  · rename_i hnone
    rw [h] at hnone
    cases hnone
  · rename_i hsome
    rw [h] at hsome
    cases hsome
    rfl

theorem resolveField_eq (tokens : List Token) (captures : List Capture) (capture : Capture)
    (mode : FieldMode) (place : Nat) :
    resolveField tokens captures capture mode place =
      fieldValue tokens capture.span mode
        ((siblingFact? captures (place + capture.descendants) (place + 1)).map
          fun o => resolveFact tokens captures o.2 o.1) := by
  rw [resolveField]
  split
  · rename_i found schema hsome
    rw [hsome, Option.map_some]
    cases resolveFact tokens captures schema found <;> rfl
  · rename_i hnone
    rw [hnone, Option.map_none]
    rfl

theorem siblingFact_of_end (h : last < place) : siblingFact? captures last place = none := by
  rw [siblingFact?, if_pos h]

theorem siblingFact_of_capture (hle : place ≤ last) (h : captures[place]? = some capture) :
    siblingFact? captures last place =
      match capture.binding with
      | .fact schema => some (place, schema)
      | .field .. => siblingFact? captures last (place + capture.descendants + 1) := by
  rw [siblingFact?, if_neg (Nat.not_lt.2 hle)]
  split
  · rename_i hnone
    rw [h] at hnone
    cases hnone
  · rename_i hsome
    rw [h] at hsome
    cases hsome
    rfl

end Match

namespace CaptureForest

variable {tokens : List Token} {captures : List Capture}

/-- The walk over a list of captures is the recursion over the forest that stands in it. -/
theorem StandsAt.walk (tokens : List Token) {f : CaptureForest} (h : f.StandsAt captures place)
    (hlast : last + 1 = place + f.size) :
    (∀ schema record, Match.collectFields tokens captures schema last place record =
        f.collect tokens schema record) ∧
      (Match.siblingFact? captures last place).map
        (fun o => Match.resolveFact tokens captures o.2 o.1) = f.siblingFact tokens := by
  induction f generalizing place last with
  | nil =>
    have hend : last < place := by
      rw [size] at hlast
      omega
    refine ⟨fun schema record => Match.collectFields_of_end hend record, ?_⟩
    rw [Match.siblingFact_of_end hend]
    rfl
  | cons binding span inside rest ihInside ihRest =>
    obtain ⟨hplace, hinside, hrest⟩ := h
    rw [size] at hlast
    rw [Nat.add_right_comm] at hrest
    have hle : place ≤ last := by omega
    obtain ⟨hcollect, hsibling⟩ :=
      ihInside hinside (Nat.add_right_comm place inside.size 1)
    obtain ⟨hcollectRest, hsiblingRest⟩ := ihRest hrest (hlast.trans (by omega))
    refine ⟨fun schema record => ?_, ?_⟩
    · rw [Match.collectFields_of_capture hle hplace]
      cases binding with
      | field owner field mode =>
        by_cases howner : owner = schema.name
        · dsimp only
          rw [if_pos howner, Match.resolveField_eq]
          dsimp only
          rw [hsibling, collect, if_pos howner]
          cases Match.fieldValue tokens span mode (inside.siblingFact tokens) with
          | error e => rfl
          | ok v => exact hcollectRest schema _
        · dsimp only
          rw [if_neg howner, collect, if_neg howner]
          exact hcollectRest schema record
      | fact inner =>
        by_cases hname : inner.name = schema.name
        · dsimp only
          rw [if_pos hname, hcollect, collect, if_pos hname]
          cases inside.collect tokens schema record with
          | error e => rfl
          | ok record' => exact hcollectRest schema record'
        · dsimp only
          rw [if_neg hname, collect, if_neg hname]
          exact hcollectRest schema record
    · rw [Match.siblingFact_of_capture hle hplace]
      cases binding with
      | field owner field mode =>
        exact hsiblingRest
      | fact schema =>
        rw [siblingFact, Option.map_some, Match.resolveFact_of_capture hplace, hcollect]

theorem collect_append (tokens : List Token) (schema : Schema) (record : Record)
    (f g : CaptureForest) :
    (f ++ g).collect tokens schema record =
      f.collect tokens schema record >>= fun record => g.collect tokens schema record := by
  induction f generalizing record with
  | nil => rfl
  | cons binding span inside rest _ ih =>
    rw [cons_append]
    cases binding with
    | field owner field mode =>
      rw [collect, collect]
      split
      · simp only [ih, bind_assoc]
      · exact ih record
    | fact inner =>
      rw [collect, collect]
      split
      · simp only [ih, bind_assoc]
      · exact ih record

theorem collect_ofSpan? (tokens : List Token) (schema : Schema) (record : Record)
    (field : String) (mode : FieldMode) (span : Option Span) :
    (ofSpan? (.field schema.name field mode) span).collect tokens schema record =
      .ok (match span with
        | some span => record.set field (Match.plainValue tokens span mode)
        | none => record) := by
  cases span with
  | none => rfl
  | some span =>
    rw [ofSpan?, collect, if_pos rfl]
    rfl

theorem collect_nested (tokens : List Token) (schema inner : Schema) (record : Record)
    (field : String) (mode : FieldMode) (span span' : Span) (inside behind rest : CaptureForest) :
    (cons (.field schema.name field mode) span (cons (.fact inner) span' inside behind)
        rest).collect tokens schema record =
      inside.resolve tokens inner >>= fun nested =>
        rest.collect tokens schema (record.set field (.record nested)) := by
  rw [collect, if_pos rfl, siblingFact]
  change (inside.resolve tokens inner).map Value.record >>= _ = _
  cases inside.resolve tokens inner <;> rfl

theorem collect_fact (tokens : List Token) (schema : Schema) (record : Record) (span : Span)
    (inside rest : CaptureForest) :
    (cons (.fact schema) span inside rest).collect tokens schema record =
      inside.collect tokens schema record >>= fun record => rest.collect tokens schema record := by
  rw [collect, if_pos rfl]

/-- The first capture of a fact in the flat list is the first fact of the forest in pre-order. -/
theorem StandsAt.outermost (tokens : List Token) {f : CaptureForest}
    (h : f.StandsAt captures place) (behind : List Capture) :
    (Match.outermostFact? place (f.flatten ++ behind)).map
        (fun o => Match.resolveFact tokens captures o.2 o.1) =
      (f.firstFact tokens).or ((Match.outermostFact? (place + f.size) behind).map
        fun o => Match.resolveFact tokens captures o.2 o.1) := by
  induction f generalizing place behind with
  | nil => rfl
  | cons binding span inside rest ihInside ihRest =>
    obtain ⟨hplace, hinside, hrest⟩ := h
    rw [flatten, List.cons_append, Match.outermostFact?]
    cases binding with
    | fact schema =>
      have hresolve : Match.resolveFact tokens captures schema place =
          inside.resolve tokens schema := by
        have hcollect := (hinside.walk tokens (Nat.add_right_comm place inside.size 1)).1
        rw [Match.resolveFact_of_capture hplace, hcollect]
        rfl
      dsimp only
      rw [firstFact, Option.map_some, hresolve]
      rfl
    | field owner field mode =>
      dsimp only
      rw [firstFact, List.append_assoc, ihInside hinside, ihRest hrest, Option.or_assoc, size,
        Nat.add_assoc place, Nat.add_assoc place, Nat.add_comm 1]

end CaptureForest

namespace Match

/-- The fact of a match whose captures stand for a forest is the first fact of the forest. -/
theorem fact_flatten (tokens : List Token) (span : Span) (forest : CaptureForest) :
    fact ⟨tokens, span, forest.flatten⟩ = (forest.firstFact tokens).getD (.error .noFact) := by
  have hstands : forest.StandsAt forest.flatten 0 := by
    simpa only [List.nil_append, List.append_nil, List.length_nil] using
      CaptureForest.standsAt_flatten [] [] forest
  have hfirst := hstands.outermost tokens []
  rw [List.append_nil, outermostFact?, Option.map_none, Option.or_none] at hfirst
  rw [← hfirst, fact]
  dsimp only
  cases outermostFact? 0 forest.flatten <;> rfl

theorem interpret_fact (α : Type) [FactType α] (tokens : List Token) (schema : Schema)
    (span span' : Span) (inside rest : CaptureForest) :
    interpret α ⟨tokens, span, (CaptureForest.cons (.fact schema) span' inside rest).flatten⟩ =
      inside.resolve tokens schema >>= FactType.ofRecord := by
  rw [interpret, fact_flatten]
  rfl

end Match

/-- One form of the tokens of a span, unless the span is empty. -/
def Span.text? (form : Token → String) (tokens : List Token) (span : Span) : Option String :=
  if span.isEmpty then none else some (Token.join form (span.slice tokens))

theorem Span.text?_of_lt (form : Token → String) (tokens : List Token) {span : Span}
    (h : span.start < span.stop) :
    span.text? form tokens = some (Token.join form (span.slice tokens)) := by
  rw [text?, isEmpty_eq_false_iff.2 h]
  rfl

theorem Span.text?_empty (form : Token → String) (tokens : List Token) (p : Nat) :
    (⟨p, p⟩ : Span).text? form tokens = none := by
  rw [text?, isEmpty, length, Nat.sub_self]
  rfl

theorem Span.text?_of_getElem? (form : Token → String) (h : tokens[p]? = some token) :
    (⟨p, p + 1⟩ : Span).text? form tokens = some (form token) := by
  rw [text?_of_lt form tokens (Nat.lt_succ_self p), slice_of_getElem? h, Token.join_singleton]

def Value.ofText? : Option String → Value
  | some s => .text s
  | none => .absent

namespace Match

theorem plainValue_raw (tokens : List Token) (span : Span) :
    plainValue tokens span .raw = .ofText? (span.text? Token.text tokens) := by
  rw [plainValue, Span.text?]
  split <;> rfl

theorem plainValue_normal (tokens : List Token) (span : Span) :
    plainValue tokens span .normal = .ofText? (span.text? Token.normal tokens) := by
  rw [plainValue, Span.text?]
  split <;> rfl

end Match

end FactGrammar
