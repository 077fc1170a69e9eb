import FactGrammar.Proofs.Interpretation.Resolution
import FactGrammar.Proofs.Outcome

namespace FactGrammar

theorem map_fst_setFirst (name : String) (value : α) (fields : List (String × α)) :
    (setFirst name value fields).map Prod.fst = fields.map Prod.fst := by
  induction fields with
  | nil => rfl
  | cons slot rest ih =>
    obtain ⟨n, old⟩ := slot
    rw [setFirst]
    by_cases hname : n = name
    · rw [if_pos hname]
      rfl
    · rw [if_neg hname, List.map_cons, ih]
      rfl

theorem mem_setFirst {name : String} {value : α} {slot : String × α} {fields : List (String × α)}
    (h : slot ∈ setFirst name value fields) : slot ∈ fields ∨ slot = (name, value) := by
  induction fields with
  | nil => cases h
  | cons first rest ih =>
    obtain ⟨n, old⟩ := first
    rw [setFirst] at h
    by_cases hname : n = name
    · rw [if_pos hname, hname] at h
      rcases List.mem_cons.1 h with rfl | hrest
      · exact .inr rfl
      · exact .inl (List.mem_cons_of_mem _ hrest)
    · rw [if_neg hname] at h
      rcases List.mem_cons.1 h with rfl | hrest
      · exact .inl List.mem_cons_self
      · exact (ih hrest).imp_left (List.mem_cons_of_mem _)

/-- A name that is repeated has a value only where it stands first. -/
def FirstOnly (fields : List (String × Value)) : Prop :=
  fields.Pairwise fun slot later => slot.1 = later.1 → later.2 = .absent

theorem FirstOnly.setFirst {fields : List (String × Value)} (h : FirstOnly fields) (name : String)
    (value : Value) : FirstOnly (setFirst name value fields) := by
  induction fields with
  | nil => exact .nil
  | cons slot rest ih =>
    obtain ⟨hlater, hrest⟩ := List.pairwise_cons.1 h
    obtain ⟨n, old⟩ := slot
    rw [FactGrammar.setFirst]
    by_cases hname : n = name
    · rw [if_pos hname]
      exact .cons hlater hrest
    · rw [if_neg hname]
      refine .cons ?_ (ih hrest)
      intro later hmem hsame
      rcases mem_setFirst hmem with hold | rfl
      · exact hlater later hold hsame
      · exact absurd hsame hname

namespace Record

/-- The fields of a schema in their order, with at most one value under a name. -/
structure Shaped (schema : Schema) (record : Record) : Prop where
  name_eq : record.name = schema.name
  names_eq : record.fields.map Prod.fst = schema.fields.map FieldSpec.name
  repeated : FirstOnly record.fields

/-- A record with the fields of a schema, those among them that a fact must have. -/
structure Fits (schema : Schema) (record : Record) : Prop extends Shaped schema record where
  required : ∀ spec ∈ schema.fields, spec.required = true →
    (record.get spec.name).isAbsent = false

theorem shaped_empty (schema : Schema) : Shaped schema (empty schema) := by
  refine ⟨rfl, ?_, ?_⟩
  · rw [empty, List.map_map]
    rfl
  · apply List.pairwise_map.2
    apply List.pairwise_of_forall
    intro spec later _
    rfl

theorem Shaped.set (h : Shaped schema record) (field : String) (value : Value) :
    Shaped schema (record.set field value) := by
  refine ⟨h.name_eq, ?_, h.repeated.setFirst field value⟩
  exact (map_fst_setFirst field value record.fields).trans h.names_eq

theorem checked_eq_ok_iff {schema : Schema} {record record' : Record} :
    checked schema record = .ok record' ↔
      Match.missingField? schema record = none ∧ record = record' := by
  rw [checked]
  cases Match.missingField? schema record with
  | none => exact ⟨fun h => ⟨rfl, Except.ok.inj h⟩, fun h => congrArg _ h.2⟩
  | some spec =>
    refine ⟨fun h => ?_, fun h => ?_⟩
    · cases h
    · cases h.1

theorem Shaped.fits (h : Shaped schema record)
    (hmissing : Match.missingField? schema record = none) :
    Fits schema record := by
  refine ⟨h, ?_⟩
  intro spec hmem hrequired
  have hnot := List.find?_eq_none.1 hmissing spec hmem
  rw [hrequired, Bool.true_and] at hnot
  exact Bool.eq_false_iff.2 hnot

end Record

namespace Match

/-- Among the captures from `start` up to `stop` there is one of the field. The first fact directly
inside it stands at `origin` and has this record. -/
def LendsRecord (m : Match) (start stop : Nat) (owner field : String) (origin : Nat)
    (record : Record) : Prop :=
  ∃ place capture mode schema, start ≤ place ∧ place < stop ∧
    m.captures[place]? = some capture ∧ capture.binding = .field owner field mode ∧
    siblingFact? m.captures (place + capture.descendants) (place + 1) = some (origin, schema) ∧
    resolveFact m.source m.captures schema origin = .ok record

/-- A fact is captured at a place, and the record is the one of that fact. It fits the schema of the
fact. Each record in one of its fields comes from a fact inside a capture of that field, and
conforms in the same way to the schema of any fact that it can have come from. -/
inductive Conforms (m : Match) : Nat → Record → Prop
  | intro {place descendants : Nat} {schema : Schema} {span : Span} {record : Record}
    (captured : m.captures[place]? = some ⟨.fact schema, span, descendants⟩)
    (resolved : resolveFact m.source m.captures schema place = .ok record)
    (fits : record.Fits schema)
    (origins : ∀ field inner, (field, .record inner) ∈ record.fields →
      ∃ origin, m.LendsRecord (place + 1) (place + 1 + descendants) schema.name field origin inner)
    (nested : ∀ field inner origin, (field, .record inner) ∈ record.fields →
      m.LendsRecord (place + 1) (place + 1 + descendants) schema.name field origin inner →
        Conforms m origin inner) : Conforms m place record

variable {tokens : List Token} {captures : List Capture}

theorem binding_of_siblingFact {last place found : Nat} {schema : Schema}
    (h : siblingFact? captures last place = some (found, schema)) :
    ∃ span descendants, captures[found]? = some ⟨.fact schema, span, descendants⟩ := by
  fun_induction siblingFact? captures last place with
  | case1 => cases h
  | case2 => cases h
  | case3 place hle capture hcapture fact hbinding =>
    cases h
    obtain ⟨binding, span, descendants⟩ := capture
    cases hbinding
    exact ⟨span, descendants, hcapture⟩
  | case4 _ _ _ _ _ _ _ _ ih => exact ih h

/-- A capture whose value is a record has a fact inside it, and the record is that of the first
one. -/
theorem siblingFact_of_resolveField {capture : Capture} {mode : FieldMode} {place : Nat}
    (h : resolveField tokens captures capture mode place = .ok (.record record)) :
    ∃ origin schema,
      siblingFact? captures (place + capture.descendants) (place + 1) = some (origin, schema) ∧
        resolveFact tokens captures schema origin = .ok record := by
  rw [resolveField_eq] at h
  cases hsibling : siblingFact? captures (place + capture.descendants) (place + 1) with
  | none =>
    rw [hsibling] at h
    have hplain : plainValue tokens capture.span mode = .record record := Except.ok.inj h
    rw [plainValue.eq_def] at hplain
    split at hplain
    · cases hplain
    · cases mode <;> cases hplain
  | some o =>
    obtain ⟨origin, schema⟩ := o
    rw [hsibling] at h
    obtain ⟨inner, hinner, hrecord⟩ := exists_of_map_eq_ok h
    cases hrecord
    exact ⟨origin, schema, rfl, hinner⟩

theorem exists_of_outermostFact {base place : Nat} {schema : Schema}
    (h : outermostFact? base captures = some (place, schema)) :
    ∃ before span descendants behind,
      captures = before ++ ⟨.fact schema, span, descendants⟩ :: behind ∧
        place = base + before.length ∧
          ∀ capture ∈ before, ∀ schema, capture.binding ≠ .fact schema := by
  induction captures generalizing base with
  | nil => cases h
  | cons capture rest ih =>
    obtain ⟨binding, span, descendants⟩ := capture
    rw [outermostFact?] at h
    cases binding with
    | fact inner =>
      cases h
      refine ⟨[], span, descendants, rest, rfl, rfl, ?_⟩
      intro capture hmem
      cases hmem
    | field owner field mode =>
      obtain ⟨before, span', descendants', behind, rfl, rfl, hbefore⟩ := ih h
      refine ⟨⟨.field owner field mode, span, descendants⟩ :: before, span', descendants', behind,
        rfl, ?_, ?_⟩
      · rw [List.length_cons]
        omega
      · rw [List.forall_mem_cons]
        refine ⟨?_, hbefore⟩
        intro inner hbinding
        cases hbinding

end Match

namespace CaptureForest

variable {tokens : List Token} {captures : List Capture}

/-- The captures inside the one at a place are a forest that stands behind it. -/
theorem StandsAt.inside {f : CaptureForest} (hf : f.StandsAt captures base) (hle : base ≤ place)
    (hlt : place < base + f.size) :
    ∃ (binding : Binding) (span : Span) (inside : CaptureForest),
      captures[place]? = some ⟨binding, span, inside.size⟩ ∧
        inside.StandsAt captures (place + 1) := by
  induction f generalizing base with
  | nil =>
    rw [size] at hlt
    omega
  | cons binding span inside rest ihInside ihRest =>
    obtain ⟨hplace, hinside, hrest⟩ := hf
    rw [size] at hlt
    rcases Nat.eq_or_lt_of_le hle with rfl | hbehind
    · exact ⟨binding, span, inside, hplace, hinside⟩
    · by_cases hin : place < base + 1 + inside.size
      · exact ihInside hinside hbehind hin
      · exact ihRest hrest (Nat.not_lt.1 hin) (by omega)

/-- Filling a record keeps what is kept by setting a field of the fact to the value of a capture
of that field. -/
theorem StandsAt.collect_induct {property : Record → Prop} {f : CaptureForest} {start stop : Nat}
    (hf : f.StandsAt captures place) (hstart : start ≤ place) (hstop : place + f.size ≤ stop)
    (hset : ∀ record field value place capture mode, property record →
      start ≤ place → place < stop → captures[place]? = some capture →
      capture.binding = .field schema.name field mode →
      Match.resolveField tokens captures capture mode place = .ok value →
        property (record.set field value))
    (hrecord : property record) (h : f.collect tokens schema record = .ok record') :
    property record' := by
  induction f generalizing place record record' with
  | nil =>
    cases h
    exact hrecord
  | cons binding span inside rest ihInside ihRest =>
    obtain ⟨hplace, hinside, hrest⟩ := hf
    rw [size] at hstop
    have hbehind : ∀ {record}, property record →
        rest.collect tokens schema record = .ok record' → property record' :=
      ihRest hrest (by omega) (by omega)
    cases binding with
    | field owner field mode =>
      rw [collect] at h
      by_cases howner : owner = schema.name
      · rw [if_pos howner] at h
        have hsibling := (hinside.walk tokens (Nat.add_right_comm place inside.size 1)).2
        obtain ⟨value, hvalue, h⟩ := exists_of_bind_eq_ok h
        refine hbehind (hset record field value place _ mode hrecord hstart ?_ hplace ?_ ?_) h
        · omega
        · rw [howner]
        · rw [Match.resolveField_eq, hsibling]
          exact hvalue
      · rw [if_neg howner] at h
        exact hbehind hrecord h
    | fact inner =>
      rw [collect] at h
      by_cases hname : inner.name = schema.name
      · -- The fact lends its fields first, then the captures behind it are read.
        rw [if_pos hname] at h
        obtain ⟨filled, hfilled, h⟩ := exists_of_bind_eq_ok h
        exact hbehind (ihInside hinside (by omega) (by omega) hrecord hfilled) h
      · rw [if_neg hname] at h
        exact hbehind hrecord h

theorem StandsAt.shaped_of_collect {f : CaptureForest} (hf : f.StandsAt captures place)
    (h : f.collect tokens schema (.empty schema) = .ok record) : record.Shaped schema := by
  apply hf.collect_induct (Nat.le_refl _) (Nat.le_refl _) _ (Record.shaped_empty schema) h
  intro record field value _ _ _ hrecord _ _ _ _ _
  exact hrecord.set field value

theorem StandsAt.lendsRecord_of_collect {m : Match} {f : CaptureForest}
    (hf : f.StandsAt m.captures place)
    (h : f.collect m.source schema (.empty schema) = .ok record) :
    ∀ field inner, (field, .record inner) ∈ record.fields →
      ∃ origin, m.LendsRecord place (place + f.size) schema.name field origin inner := by
  apply hf.collect_induct (Nat.le_refl _) (Nat.le_refl _) _ _ h
  · intro record field value place' capture mode hrecord hstart hstop hcapture hbinding hvalue
      field' inner hmem
    rcases mem_setFirst hmem with hold | hnew
    · exact hrecord field' inner hold
    · cases hnew
      obtain ⟨origin, schema', hsibling, hinner⟩ := Match.siblingFact_of_resolveField hvalue
      exact ⟨origin, place', capture, mode, schema', hstart, hstop, hcapture, hbinding, hsibling,
        hinner⟩
  · intro field inner hmem
    obtain ⟨spec, _, habsent⟩ := List.mem_map.1 hmem
    cases habsent

theorem exists_inside {forest : CaptureForest} (hforest : forest.flatten = captures)
    (h : captures[place]? = some ⟨binding, span, descendants⟩) :
    ∃ inside : CaptureForest, inside.size = descendants ∧
      inside.StandsAt captures (place + 1) := by
  have hstands : forest.StandsAt captures 0 := by
    rw [← hforest]
    simpa only [List.nil_append, List.append_nil, List.length_nil] using
      standsAt_flatten [] [] forest
  have hlt : place < 0 + forest.size := by
    rw [Nat.zero_add, ← forest.length_flatten, hforest]
    exact (List.getElem?_eq_some_iff.1 h).1
  obtain ⟨_, _, inside, hplace, hinside⟩ := hstands.inside (Nat.zero_le place) hlt
  rw [h] at hplace
  cases hplace
  exact ⟨inside, rfl, hinside⟩

end CaptureForest

namespace Match

/-- Wherever a fact is captured in a match, its record conforms. -/
theorem conforms_of_resolveFact {m : Match} {forest : CaptureForest} {schema : Schema}
    {span : Span} {record : Record} (hforest : forest.flatten = m.captures)
    (hcaptured : m.captures[place]? = some ⟨.fact schema, span, descendants⟩)
    (h : resolveFact m.source m.captures schema place = .ok record) : m.Conforms place record := by
  -- A fact inside another stands behind it, so fewer captures follow.
  induction hbehind : m.captures.length - place using Nat.strongRecOn
    generalizing place schema span descendants record with
  | ind behind ih =>
    obtain ⟨inside, rfl, hinside⟩ := CaptureForest.exists_inside hforest hcaptured
    have hcollect := (hinside.walk m.source (Nat.add_right_comm place inside.size 1)).1 schema
    have hresolved := h
    rw [resolveFact_of_capture hcaptured, hcollect] at h
    obtain ⟨filled, hfilled, hchecked⟩ := exists_of_bind_eq_ok h
    obtain ⟨hmissing, rfl⟩ := Record.checked_eq_ok_iff.1 hchecked
    have hfits := (hinside.shaped_of_collect hfilled).fits hmissing
    refine .intro hcaptured hresolved hfits (hinside.lendsRecord_of_collect hfilled) ?_
    intro field inner origin _ hlends
    obtain ⟨place', capture, mode, schema', hstart, _, _, _, hsibling, hinner⟩ := hlends
    obtain ⟨span', descendants', horigin⟩ := binding_of_siblingFact hsibling
    have hlater : place' + 1 ≤ origin := (siblingFact_bounds hsibling).1
    have hlt : place < m.captures.length := (List.getElem?_eq_some_iff.1 hcaptured).1
    exact ih _ (by omega) horigin hinner rfl

end Match

/-- The fact of a match conforms to the schema of the fact captured first, and so does every record
in it, at any depth, to the schema of the fact from which it comes. -/
theorem Grammar.conforms_of_matchAt {grammar : Grammar} {m : Match}
    (h : grammar.matchAt rule tokens start = some m) (hfact : m.fact = .ok record) :
    ∃ before schema span descendants behind,
      m.captures = before ++ ⟨.fact schema, span, descendants⟩ :: behind ∧
        (∀ capture ∈ before, ∀ schema, capture.binding ≠ .fact schema) ∧
          m.Conforms before.length record := by
  obtain ⟨_, stop, forest, _, rfl⟩ := Grammar.eval_of_matchAt h
  rw [Match.fact] at hfact
  dsimp only at hfact
  cases hfirst : Match.outermostFact? 0 forest.flatten with
  | none =>
    rw [hfirst] at hfact
    cases hfact
  | some o =>
    obtain ⟨place, schema⟩ := o
    rw [hfirst] at hfact
    obtain ⟨before, span, descendants, behind, hcaptures, rfl, hbefore⟩ :=
      Match.exists_of_outermostFact hfirst
    rw [Nat.zero_add] at hfact
    have hcaptured : forest.flatten[before.length]? = some ⟨.fact schema, span, descendants⟩ := by
      rw [hcaptures, List.getElem?_append_right (Nat.le_refl _), Nat.sub_self]
      rfl
    exact ⟨before, schema, span, descendants, behind, hcaptures, hbefore,
      Match.conforms_of_resolveFact rfl hcaptured hfact⟩

def numberedSchema : Schema :=
  ⟨"Numbered", [.mandatory (.nested "sign"), .text "text", .text "text"]⟩

/-- A sign, then an integer and a sign in a fact of the same name. That fact declares no field, and
the second sign goes to a field that is declared nowhere. -/
def numbered : Rule :=
  .interpreted
    (.sequence [
      .interpreted
        (.interpreted
          (.interpreted (.literal (.kind .punctuation)) (.field "Sign" "text" .raw))
          (.fact signSchema))
        (.field "Numbered" "sign" .nested),
      .interpreted
        (.sequence [
          .interpreted (.literal (.kind .integer)) (.field "Numbered" "text" .raw),
          .interpreted (.literal (.kind .punctuation)) (.field "Numbered" "size" .raw)])
        (.fact ⟨"Numbered", []⟩)])
    (.fact numberedSchema)

theorem Grammar.conforms_of_matchAt_numbered :
    let m : Match := ⟨parentheses, ⟨0, 3⟩,
      [⟨.fact numberedSchema, ⟨0, 3⟩, 6⟩, ⟨.field "Numbered" "sign" .nested, ⟨0, 1⟩, 2⟩,
        ⟨.fact signSchema, ⟨0, 1⟩, 1⟩, ⟨.field "Sign" "text" .raw, ⟨0, 1⟩, 0⟩,
        ⟨.fact ⟨"Numbered", []⟩, ⟨1, 3⟩, 2⟩, ⟨.field "Numbered" "text" .raw, ⟨1, 2⟩, 0⟩,
        ⟨.field "Numbered" "size" .raw, ⟨2, 3⟩, 0⟩]⟩
    let record : Record := ⟨"Numbered", [("sign", .record ⟨"Sign", [("text", .text "(")]⟩),
      ("text", .text "1"), ("text", .absent)]⟩
    Grammar.empty.matchAt numbered parentheses 0 = some m ∧ m.fact = .ok record ∧
      m.Conforms 0 record := by
  intro m record
  let forest : CaptureForest :=
    .cons (.fact numberedSchema) ⟨0, 3⟩
      (.cons (.field "Numbered" "sign" .nested) ⟨0, 1⟩
        (.cons (.fact signSchema) ⟨0, 1⟩ (.cons (.field "Sign" "text" .raw) ⟨0, 1⟩ .nil .nil) .nil)
        (.cons (.fact ⟨"Numbered", []⟩) ⟨1, 3⟩
          (.cons (.field "Numbered" "text" .raw) ⟨1, 2⟩ .nil
            (.cons (.field "Numbered" "size" .raw) ⟨2, 3⟩ .nil .nil)) .nil)) .nil
  have heval : Grammar.empty.eval parentheses maxDepth numbered 0 = some (3, forest) := by
    decide +kernel
  have hmatch : Grammar.empty.matchAt numbered parentheses 0 = some m := by
    rw [matchAt_eq_ite, if_neg (by decide), heval]
    rfl
  have hfact : m.fact = .ok record := (Match.fact_flatten parentheses ⟨0, 3⟩ forest).trans rfl
  obtain ⟨before, schema, span, descendants, behind, hcaptures, hbefore, hconforms⟩ :=
    conforms_of_matchAt hmatch hfact
  cases before with
  | nil => exact ⟨hmatch, hfact, hconforms⟩
  | cons capture rest =>
    obtain ⟨rfl, _⟩ := List.cons.inj hcaptures
    exact absurd rfl (hbefore _ List.mem_cons_self numberedSchema)

end FactGrammar
