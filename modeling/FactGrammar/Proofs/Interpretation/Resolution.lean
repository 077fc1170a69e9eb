import FactGrammar.Proofs.Interpretation.Forest

namespace FactGrammar

/-- A value given to a field, or the reason why it cannot be had. -/
abbrev Given := String × Except InterpretError Value

def settled (values : List (String × Value)) : List Given :=
  values.map fun v => (v.1, .ok v.2)

/-- One form of some tokens, with a space wherever one of them does not reach the next. -/
def Token.written (form : Token → String) : List Token → String
  | [] => ""
  | [token] => form token
  | token :: next :: rest =>
    form token ++ ((if token.stop < next.start then " " else "") ++ written form (next :: rest))

theorem Token.join_eq_written (form : Token → String) (tokens : List Token) :
    join form tokens = written form tokens := by
  fun_induction written form tokens with
  | case1 => rfl
  | case2 token => exact join_singleton form token
  | case3 token next rest ih => rw [join_cons_cons, ih]

def Span.covered (form : Token → String) (tokens : List Token) (span : Span) : Value :=
  if span.start < span.stop then
    .text (Token.written form ((tokens.drop span.start).take (span.stop - span.start)))
  else .absent

/-- What a field is given: the fact inside it if there is one, whatever the mode, else the surface
or the dictionary forms of its tokens, unless it was to take a fact. -/
def Span.contents (tokens : List Token) (span : Span) :
    FieldMode → Option (Except InterpretError Record) → Except InterpretError Value
  | _, some nested => nested.map .record
  | .raw, none => .ok (span.covered Token.text tokens)
  | .normal, none => .ok (span.covered Token.normal tokens)
  | .nested, none => .ok .absent

theorem Span.covered_eq_ite (form : Token → String) (tokens : List Token) (span : Span) :
    span.covered form tokens =
      if span.isEmpty then .absent else .text (Token.join form (span.slice tokens)) := by
  rw [covered, Token.join_eq_written, slice, List.drop_take]
  by_cases h : span.start < span.stop
  · rw [if_pos h, isEmpty_eq_false_iff.2 h]
    rfl
  · have hempty : span.isEmpty = true := by
      rwa [← isEmpty_eq_false_iff, Bool.not_eq_false] at h
    rw [if_neg h, if_pos hempty]

theorem Match.fieldValue_eq_contents (tokens : List Token) (span : Span) (mode : FieldMode)
    (nested : Option (Except InterpretError Record)) :
    fieldValue tokens span mode nested = span.contents tokens mode nested := by
  cases nested with
  | some nested => rfl
  | none =>
    cases mode with
    | raw => rw [fieldValue, plainValue, Span.contents, Span.covered_eq_ite]
    | normal => rw [fieldValue, plainValue, Span.contents, Span.covered_eq_ite]
    | nested =>
      rw [fieldValue, plainValue, ite_self]
      rfl

namespace Record

/-- Asks a record for the required ones among some fields. The first that is absent is the error. -/
def demand (record : Record) (fact : String) : List FieldSpec → Except InterpretError Record
  | [] => .ok record
  | spec :: rest =>
    match spec.required, record.get spec.name with
    | true, .absent => .error (.missingRequiredField fact spec.name)
    | _, _ => record.demand fact rest

def Meets (record : Record) (spec : FieldSpec) : Prop :=
  spec.required = true → record.get spec.name ≠ .absent

theorem demand_of_meets {record : Record} {specs : List FieldSpec}
    (h : ∀ spec ∈ specs, record.Meets spec) : record.demand fact specs = .ok record := by
  induction specs with
  | nil => rfl
  | cons spec rest ih =>
    obtain ⟨hspec, hrest⟩ := List.forall_mem_cons.1 h
    rw [demand]
    split
    · exact absurd ‹_› (hspec ‹_›)
    · exact ih hrest

theorem demand_of_missing {record : Record} {before behind : List FieldSpec} {spec : FieldSpec}
    (hbefore : ∀ spec ∈ before, record.Meets spec) (hrequired : spec.required = true)
    (habsent : record.get spec.name = .absent) :
    record.demand fact (before ++ spec :: behind) =
      .error (.missingRequiredField fact spec.name) := by
  induction before with
  | nil => rw [List.nil_append, demand, hrequired, habsent]
  | cons first rest ih =>
    obtain ⟨hfirst, hrest⟩ := List.forall_mem_cons.1 hbefore
    rw [List.cons_append, demand]
    split
    · exact absurd ‹_› (hfirst ‹_›)
    · exact ih hrest

theorem checked_eq_demand (schema : Schema) (record : Record) :
    checked schema record = record.demand schema.name schema.fields := by
  rw [checked, Match.missingField?]
  generalize schema.fields = specs
  induction specs with
  | nil => rfl
  | cons spec rest ih =>
    rw [List.find?_cons, demand, ← ih]
    cases spec.required with
    | false => rfl
    | true => cases record.get spec.name <;> rfl

/-- Sets fields one after the other, up to the first whose value cannot be had. -/
def give (record : Record) (given : List Given) : Except InterpretError Record :=
  given.foldlM (fun record g => g.2.map (record.set g.1)) record

def setAll (record : Record) (values : List (String × Value)) : Record :=
  values.foldl (fun record v => record.set v.1 v.2) record

def last? (field : String) (values : List (String × Value)) : Option Value :=
  (values.filter (·.1 == field)).getLast?.map (·.2)

theorem give_append (record : Record) (given given' : List Given) :
    record.give (given ++ given') = record.give given >>= (·.give given') :=
  List.foldlM_append

theorem give_values (record : Record) (values : List (String × Value)) :
    record.give (settled values) = .ok (record.setAll values) := by
  induction values generalizing record with
  | nil => rfl
  | cons v rest ih => exact ih (record.set v.1 v.2)

/-- The first value that cannot be had decides, whatever is given to its field afterwards. -/
theorem give_error (record : Record) (values : List (String × Value)) (field : String)
    (e : InterpretError) (behind : List Given) :
    record.give (settled values ++ (field, .error e) :: behind) = .error e := by
  rw [give_append, give_values]
  rfl

theorem lookup_setFirst (name field : String) (value : α) (fields : List (String × α)) :
    (setFirst name value fields).lookup field =
      (fields.lookup field).map fun old => if name = field then value else old := by
  induction fields with
  | nil => rfl
  | cons f rest ih =>
    obtain ⟨n, old⟩ := f
    rw [setFirst]
    by_cases hname : n = name
    · rw [if_pos hname, List.lookup_cons, List.lookup_cons, hname]
      by_cases hfield : field = name
      · rw [beq_iff_eq.2 hfield]
        exact congrArg some (if_pos hfield.symm).symm
      · rw [beq_eq_false_iff_ne.2 hfield]
        simp only [if_neg (Ne.symm hfield), Option.map_id']
    · rw [if_neg hname, List.lookup_cons, List.lookup_cons, ih]
      by_cases hfield : field = n
      · have hother : ¬ name = field := fun h => hname (hfield.symm.trans h.symm)
        rw [beq_iff_eq.2 hfield]
        exact congrArg some (if_neg hother).symm
      · rw [beq_eq_false_iff_ne.2 hfield]

theorem last?_cons (field name : String) (value : Value) (rest : List (String × Value)) :
    last? field ((name, value) :: rest) =
      if name = field then some ((last? field rest).getD value) else last? field rest := by
  rw [last?, List.filter_cons]
  by_cases h : name = field
  · rw [if_pos h, if_pos (beq_iff_eq.2 h), List.getLast?_cons, last?]
    cases (rest.filter (·.1 == field)).getLast? with
    | none => rfl
    | some v => rfl
  · rw [if_neg h, if_neg fun hbeq => h (beq_iff_eq.1 hbeq), last?]

theorem lookup_setAll (record : Record) (values : List (String × Value)) (field : String) :
    (record.setAll values).fields.lookup field =
      (record.fields.lookup field).map fun old => (last? field values).getD old := by
  induction values generalizing record with
  | nil => exact Option.map_id'.symm
  | cons v rest ih =>
    obtain ⟨name, value⟩ := v
    have hrest := ih (record.set name value)
    rw [set, lookup_setFirst, Option.map_map] at hrest
    rw [last?_cons]
    refine hrest.trans ?_
    congr 1
    funext old
    rw [Function.comp_apply]
    by_cases h : name = field
    · rw [if_pos h, if_pos h]
      rfl
    · rw [if_neg h, if_neg h]

theorem lookup_empty (schema : Schema) (field : String) :
    (empty schema).fields.lookup field = (schema.spec? field).map fun _ => .absent := by
  rw [empty, Schema.spec?]
  induction schema.fields with
  | nil => rfl
  | cons spec rest ih =>
    rw [List.map_cons, List.lookup_cons, List.find?_cons, ih, BEq.comm]
    cases spec.name == field with
    | false => rfl
    | true => rfl

theorem get_setAll_empty (schema : Schema) (values : List (String × Value)) (field : String) :
    ((empty schema).setAll values).get field =
      ((schema.spec? field).map fun _ => (last? field values).getD .absent).getD .absent := by
  rw [get, lookup_setAll, lookup_empty]
  cases schema.spec? field <;> rfl

/-- A declared field has the value that it is set to last. -/
theorem get_setAll_of_mem (h : spec ∈ schema.fields) (values : List (String × Value)) :
    ((empty schema).setAll values).get spec.name = (last? spec.name values).getD .absent := by
  have hdeclared : (schema.spec? spec.name).isSome :=
    List.find?_isSome.2 ⟨spec, h, beq_self_eq_true _⟩
  obtain ⟨found, hfound⟩ := Option.isSome_iff_exists.1 hdeclared
  rw [get_setAll_empty, hfound]
  rfl

theorem get_setAll_of_unknown {schema : Schema} (h : ∀ spec ∈ schema.fields, spec.name ≠ field)
    (values : List (String × Value)) : ((empty schema).setAll values).get field = .absent := by
  have hunknown : schema.spec? field = none :=
    List.find?_eq_none.2 fun spec hmem hname => h spec hmem (beq_iff_eq.1 hname)
  rw [get_setAll_empty, hunknown]
  rfl

end Record

namespace CaptureForest

mutual

/-- The values that captures side by side give to the fields of a fact. A field of the fact gives
one, a fact of the same name gives what is inside it, and other captures give nothing, nor does what
is inside those. -/
def given (tokens : List Token) (schema : Schema) : CaptureForest → List Given
  | nil => []
  | cons (.field owner field mode) span inside rest =>
    if owner = schema.name then
      (field, span.contents tokens mode (inside.firstRecord tokens)) ::
        rest.given tokens schema
    else rest.given tokens schema
  | cons (.fact inner) _ inside rest =>
    if inner.name = schema.name then inside.given tokens schema ++ rest.given tokens schema
    else rest.given tokens schema

def firstRecord (tokens : List Token) : CaptureForest → Option (Except InterpretError Record)
  | nil => none
  | cons (.fact schema) _ inside _ =>
    some ((Record.empty schema).give (inside.given tokens schema) >>=
      (·.demand schema.name schema.fields))
  | cons (.field ..) _ _ rest => rest.firstRecord tokens

end

/-- The first fact in pre-order, with the captures inside it. -/
def firstNode? : CaptureForest → Option (Schema × CaptureForest)
  | nil => none
  | cons (.fact schema) _ inside _ => some (schema, inside)
  | cons (.field ..) _ inside rest => inside.firstNode?.or rest.firstNode?

theorem collect_eq_give (tokens : List Token) (f : CaptureForest) :
    (∀ schema record, f.collect tokens schema record = record.give (f.given tokens schema)) ∧
      f.siblingFact tokens = f.firstRecord tokens := by
  induction f with
  | nil => exact ⟨fun schema record => rfl, rfl⟩
  | cons binding span inside rest ihInside ihRest =>
    obtain ⟨hcollect, hsibling⟩ := ihInside
    obtain ⟨hcollectRest, hsiblingRest⟩ := ihRest
    cases binding with
    | field owner field mode =>
      refine ⟨?_, hsiblingRest⟩
      intro schema record
      rw [collect, given, hsibling, Match.fieldValue_eq_contents]
      by_cases howner : owner = schema.name
      · rw [if_pos howner, if_pos howner]
        cases span.contents tokens mode (inside.firstRecord tokens) with
        | error e => rfl
        | ok value => exact hcollectRest schema (record.set field value)
      · rw [if_neg howner, if_neg howner]
        exact hcollectRest schema record
    | fact inner =>
      refine ⟨?_, ?_⟩
      · intro schema record
        rw [collect, given]
        by_cases hname : inner.name = schema.name
        · rw [if_pos hname, if_pos hname, Record.give_append, hcollect]
          congr 1
          funext record'
          exact hcollectRest schema record'
        · rw [if_neg hname, if_neg hname]
          exact hcollectRest schema record
      · rw [siblingFact, firstRecord, hcollect, funext (Record.checked_eq_demand inner)]

theorem firstFact_eq_map (tokens : List Token) (f : CaptureForest) :
    f.firstFact tokens = f.firstNode?.map fun o =>
      (Record.empty o.1).give (o.2.given tokens o.1) >>= (·.demand o.1.name o.1.fields) := by
  induction f with
  | nil => rfl
  | cons binding span inside rest ihInside ihRest =>
    cases binding with
    | field owner field mode => rw [firstFact, firstNode?, ihInside, ihRest, Option.map_or]
    | fact schema =>
      have hcollect := (collect_eq_give tokens inside).1
      rw [firstFact, firstNode?, resolve, hcollect, funext (Record.checked_eq_demand schema)]
      rfl

end CaptureForest

/-- The captures of a match are those of one forest, and its fact is the first one in the forest.
The values given to it from inside fill its fields: the first that cannot be had decides, else the
last of each field counts and the first required field without a value refuses the record. -/
theorem Grammar.fact_of_matchAt {grammar : Grammar} {m : Match}
    (h : grammar.matchAt rule tokens start = some m) :
    ∃ forest : CaptureForest, (∀ f : CaptureForest, f.flatten = m.captures ↔ f = forest) ∧
      match forest.firstNode? with
      | none => m.fact = .error .noFact
      | some (schema, inside) =>
        m.fact = ((Record.empty schema).give (inside.given tokens schema) >>=
            (·.demand schema.name schema.fields)) ∧
          (∀ values field e behind,
            inside.given tokens schema = settled values ++ (field, .error e) :: behind →
              m.fact = .error e) ∧
          ∀ values, inside.given tokens schema = settled values →
            ∃ record : Record,
              (∀ spec ∈ schema.fields,
                record.get spec.name = (Record.last? spec.name values).getD .absent) ∧
              (∀ field, (∀ spec ∈ schema.fields, spec.name ≠ field) →
                record.get field = .absent) ∧
              ((∀ spec ∈ schema.fields, record.Meets spec) → m.fact = .ok record) ∧
              ∀ before spec behind, schema.fields = before ++ spec :: behind →
                (∀ earlier ∈ before, record.Meets earlier) → spec.required = true →
                record.get spec.name = .absent →
                  m.fact = .error (.missingRequiredField schema.name spec.name) := by
  obtain ⟨_, stop, forest, _, rfl⟩ := Grammar.eval_of_matchAt h
  refine ⟨forest, ?_, ?_⟩
  · intro f
    exact ⟨CaptureForest.flatten_inj, fun hf => congrArg _ hf⟩
  rw [Match.fact_flatten, CaptureForest.firstFact_eq_map]
  cases forest.firstNode? with
  | none => rfl
  | some o =>
    obtain ⟨schema, inside⟩ := o
    refine ⟨rfl, ?_, ?_⟩
    · intro values field e behind hgiven
      rw [Option.map_some, hgiven, Record.give_error]
      rfl
    · intro values hgiven
      rw [Option.map_some, hgiven, Record.give_values]
      refine ⟨_, fun _ hmem => Record.get_setAll_of_mem hmem values,
        fun _ hunknown => Record.get_setAll_of_unknown hunknown values, Record.demand_of_meets, ?_⟩
      intro before spec behind hfields hbefore hrequired habsent
      rw [← Record.demand_of_missing hbefore hrequired habsent, ← hfields]
      rfl

def signSchema : Schema := ⟨"Sign", [.mandatory (.text "text")]⟩

/-- A sign and an integer behind it. The integer is put in place of the sign by a fact of the same
name. -/
def overwritten : Rule :=
  .interpreted
    (.sequence [
      .interpreted (.literal (.kind .punctuation)) (.field "Sign" "text" .raw),
      .interpreted (.interpreted (.literal (.kind .integer)) (.field "Sign" "text" .raw))
        (.fact ⟨"Sign", []⟩)])
    (.fact signSchema)

theorem Grammar.fact_of_matchAt_overwritten :
    let m : Match := ⟨parentheses, ⟨0, 2⟩,
      [⟨.fact signSchema, ⟨0, 2⟩, 3⟩, ⟨.field "Sign" "text" .raw, ⟨0, 1⟩, 0⟩,
        ⟨.fact ⟨"Sign", []⟩, ⟨1, 2⟩, 1⟩, ⟨.field "Sign" "text" .raw, ⟨1, 2⟩, 0⟩]⟩
    Grammar.empty.matchAt overwritten parentheses 0 = some m ∧
      m.fact = .ok ⟨"Sign", [("text", .text "1")]⟩ := by
  intro m
  let forest : CaptureForest :=
    .cons (.fact signSchema) ⟨0, 2⟩
      (.cons (.field "Sign" "text" .raw) ⟨0, 1⟩ .nil
        (.cons (.fact ⟨"Sign", []⟩) ⟨1, 2⟩
          (.cons (.field "Sign" "text" .raw) ⟨1, 2⟩ .nil .nil) .nil)) .nil
  have heval : Grammar.empty.eval parentheses maxDepth overwritten 0 = some (2, forest) := by
    decide +kernel
  have hmatch : Grammar.empty.matchAt overwritten parentheses 0 = some m := by
    rw [matchAt_eq_ite, if_neg (by decide), heval]
    rfl
  obtain ⟨f, hunique, hfact⟩ := fact_of_matchAt hmatch
  obtain rfl : forest = f := (hunique forest).1 rfl
  exact ⟨hmatch, hfact.1.trans (by rfl)⟩

end FactGrammar
