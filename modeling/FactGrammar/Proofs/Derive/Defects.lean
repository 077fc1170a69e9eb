import FactGrammar.Proofs.Derive.Agreement

namespace FactGrammar.Derive

/-- Whether a type is the one for text, or for text that may be missing. -/
def TypeExpr.holdsText : TypeExpr → Bool
  | .path _ ⟨"String", false⟩ arguments => arguments.isEmpty
  | .path _ ⟨"Option", false⟩ (.angled [.type (.path _ ⟨"String", false⟩ arguments)]) =>
    arguments.isEmpty
  | _ => false

namespace Field

def isNormalized (f : Field) : Bool :=
  (listedOptions f.attributes).any FactOption.isNormalized

/-- The defects of a field: of its attributes, then of its options, then of its type. -/
def defects (explain : Attribute → String) (f : Field) : List DeriveError :=
  attributeDefects explain f.attributes ++
    (listedOptions f.attributes).filterMap FactOption.fieldDefect? ++
    if f.isNormalized && !f.type.holdsText then [.normalizedNested f.name.name] else []

def described (f : Field) : FieldPlan where
  ident := f.name
  content := if f.type.holdsText then .text else .nested f.type.valueType
  isRequired := f.type.optional?.isNone
  isNormalized := f.isNormalized

end Field

/-- The defects of a body: it belongs to no struct, its fields have no names, or else the defects of
its fields one after the other. -/
def Body.defects (explain : Attribute → String) : Body → List DeriveError
  | notStruct => [.notStruct]
  | unnamed => [.unnamedFields]
  | named fields => fields.flatMap (Field.defects explain)

def Body.fields : Body → List Field
  | named fields => fields
  | _ => []

namespace Item

/-- The defects of an item: of its attributes, then of all their options, then of its body. -/
def defects (explain : Attribute → String) (item : Item) : List DeriveError :=
  attributeDefects explain item.attributes ++
    (listedOptions item.attributes).filterMap FactOption.nameDefect? ++ item.body.defects explain

/-- The fact as it is described by an item without defects. Its name is the last one that an option
gives, or else that of the item. -/
def described (item : Item) : Plan where
  ident := item.name
  params := item.params
  conditions := item.conditions
  factName :=
    ((listedOptions item.attributes).filterMap FactOption.name?).getLast?.getD item.name.text
  fields := item.body.fields.map Field.described

end Item

def Field.bare (f : Field) : Field :=
  { f with attributes := f.attributes.filter Attribute.isFact }

def Body.bare : Body → Body
  | named fields => named (fields.map Field.bare)
  | body => body

/-- The item without the attributes, of its own and of its fields, that do not set options of a
fact. -/
def Item.bare (item : Item) : Item :=
  { item with attributes := item.attributes.filter Attribute.isFact, body := item.body.bare }

variable {explain : Attribute → String}

theorem Item.factName_eq_judge (item : Item) :
    item.factName explain =
      judge (attributeDefects explain item.attributes ++
        (listedOptions item.attributes).filterMap FactOption.nameDefect?)
        item.described.factName := by
  apply bind_eq_judge (factOptions_eq_judge explain item.attributes)
  intro _
  rw [foldlM_eq_judge renamed_eq_judge, foldl_name?]
  rfl

theorem TypeExpr.holdsText_iff {type : TypeExpr} :
    type.holdsText = true ↔ type.IsString ∨ ∃ t, type.IsOptionOf t ∧ t.IsString := by
  constructor
  · intro h
    rw [holdsText.eq_def] at h
    split at h
    · exact .inl ⟨_, _, rfl, h⟩
    · exact .inr ⟨_, ⟨_, rfl⟩, _, _, rfl, h⟩
    · cases h
  · rintro (⟨_, _, rfl, h⟩ | ⟨_, ⟨_, rfl⟩, _, _, rfl, h⟩)
    · exact h
    · exact h

theorem TypeExpr.isText_valueType (type : TypeExpr) : type.valueType.isText = type.holdsText :=
  Bool.eq_iff_iff.2 (isText_valueType_iff.trans holdsText_iff.symm)

theorem Field.plan_eq_judge (f : Field) :
    f.plan explain = judge (f.defects explain) f.described := by
  rw [defects, List.append_assoc]
  apply bind_eq_judge (factOptions_eq_judge explain f.attributes)
  intro _
  apply bind_eq_judge (forM_eq_judge requireNormalized_eq_judge (listedOptions f.attributes))
  intro haccepted
  have hnormalized : f.isNormalized = !(listedOptions f.attributes).isEmpty :=
    any_isNormalized haccepted
  have htext := f.type.isText_valueType
  rw [TypeExpr.valueType] at htext
  rw [described, hnormalized]
  simp only [htext]
  cases f.type.holdsText with
  | true => cases (listedOptions f.attributes).isEmpty <;> rfl
  | false => cases (listedOptions f.attributes).isEmpty <;> rfl

theorem Body.plans_eq_judge (body : Body) :
    body.plans explain = judge (body.defects explain) (body.fields.map Field.described) := by
  cases body with
  | named fields => exact mapM_eq_judge Field.plan_eq_judge fields
  | unnamed | notStruct => rfl

/-- The plan of an item is the fact that it describes, or the first of its defects. -/
theorem Item.plan_eq_judge (item : Item) :
    item.plan explain = judge (item.defects explain) item.described := by
  have hplan : item.plan explain = judge (attributeDefects explain item.attributes ++
      (listedOptions item.attributes).filterMap FactOption.nameDefect? ++
        (item.body.defects explain ++ [])) item.described := by
    apply bind_eq_judge item.factName_eq_judge
    intro _
    exact bind_eq_judge item.body.plans_eq_judge fun _ => rfl
  rwa [List.append_nil] at hplan

namespace Item

theorem generate_of_defects_nil {item : Item} (h : item.defects explain = []) :
    item.generate explain = item.described.implementation := by
  rw [generate, implementation, plan_eq_judge, h]
  rfl

theorem generate_of_defect {item : Item} (h : (item.defects explain).head? = some e) :
    item.generate explain = e.report := by
  rw [generate, implementation, plan_eq_judge, judge_of_head? h]
  rfl

/-- An implementation and a report begin with different words. -/
theorem implementation_ne_report (p : Plan) (e : DeriveError) : p.implementation ≠ e.report := by
  intro h
  have hword : some (Tree.ident ⟨"impl", false⟩) = some (.ident ⟨"compile_error", false⟩) :=
    congrArg List.head? h
  injection hword with hword
  injection hword with hident
  exact absurd hident (by decide)

theorem generate_eq_implementation_iff {item : Item} :
    item.generate explain = item.described.implementation ↔ item.defects explain = [] := by
  refine ⟨?_, generate_of_defects_nil⟩
  intro h
  cases hdefects : item.defects explain with
  | nil => rfl
  | cons e rest =>
    have hfirst : (item.defects explain).head? = some e := by rw [hdefects, List.head?_cons]
    rw [generate_of_defect hfirst] at h
    exact absurd h.symm (implementation_ne_report item.described e)

end Item

theorem filter_isFact (attributes : List Attribute) :
    (attributes.filter Attribute.isFact).filter Attribute.isFact =
      attributes.filter Attribute.isFact := by
  rw [List.filter_filter]
  simp only [Bool.and_self]

theorem attributeDefects_filter (attributes : List Attribute) :
    attributeDefects explain (attributes.filter Attribute.isFact) =
      attributeDefects explain attributes := by
  rw [attributeDefects, filter_isFact, attributeDefects]

theorem listedOptions_filter (attributes : List Attribute) :
    listedOptions (attributes.filter Attribute.isFact) = listedOptions attributes := by
  rw [listedOptions, filter_isFact, listedOptions]

theorem Field.isNormalized_bare (f : Field) : f.bare.isNormalized = f.isNormalized := by
  rw [isNormalized, bare, listedOptions_filter, isNormalized]

theorem Field.defects_bare (f : Field) : f.bare.defects explain = f.defects explain := by
  rw [defects, defects, isNormalized_bare, bare, attributeDefects_filter, listedOptions_filter]

theorem Field.described_bare (f : Field) : f.bare.described = f.described := by
  rw [described, described, isNormalized_bare]
  rfl

theorem Body.defects_bare (body : Body) : body.bare.defects explain = body.defects explain := by
  cases body with
  | named fields =>
    rw [bare, defects, defects, List.flatMap_map]
    exact congrArg fields.flatMap (funext Field.defects_bare)
  | unnamed | notStruct => rfl

theorem Body.map_described_bare (body : Body) :
    body.bare.fields.map Field.described = body.fields.map Field.described := by
  cases body with
  | named fields =>
    rw [bare, Body.fields, Body.fields, List.map_map]
    exact congrArg fields.map (funext Field.described_bare)
  | unnamed | notStruct => rfl

namespace Item

theorem defects_bare (item : Item) : item.bare.defects explain = item.defects explain := by
  rw [defects, defects, bare, attributeDefects_filter, listedOptions_filter, Body.defects_bare]

theorem described_bare (item : Item) : item.bare.described = item.described := by
  rw [described, described, bare, listedOptions_filter, Body.map_described_bare]

theorem generate_bare (item : Item) : item.bare.generate explain = item.generate explain := by
  rw [generate, implementation, plan_eq_judge, defects_bare, described_bare, ← plan_eq_judge]
  rfl

theorem factName_of_defects_nil {item : Item} (h : item.defects explain = []) :
    (readHalves? (item.generate explain)).map Halves.factName =
      some (((listedOptions item.attributes).filterMap FactOption.name?).getLast?.getD
        item.name.text) := by
  rw [generate_of_defects_nil h, Plan.readHalves?_implementation]
  rfl

end Item

namespace Param

/-- A parameter up to its name: its attributes as they are written, whatever they are for. -/
def heading : Param → List Tree
  | lifetime attributes name _ => attributes.flatMap (·.written) ++ [.mark '\'' true, .ident name]
  | type attributes name _ => attributes.flatMap (·.written) ++ [.ident name]
  | const attributes name _ =>
    attributes.flatMap (·.written) ++ [.ident ⟨"const", false⟩, .ident name]

theorem heading_leads (param : Param) : param.heading <+: param.introduced := by
  cases param with
  | lifetime attributes name bounds => exact List.prefix_append _ _
  | type attributes name bounds => exact List.prefix_append _ _
  | const attributes name trees =>
    refine ⟨Code.sign ":" ++ trees, ?_⟩
    simp only [heading, introduced, Code.word, List.append_assoc, List.cons_append, List.nil_append]

variable {param : Param × Bool} {params : List (Param × Bool)}

theorem infix_flatMap {each : Param × Bool → List Tree} (h : param ∈ params)
    (hpart : part <+: each param) : part <:+: params.flatMap each := by
  obtain ⟨before, behind, rfl⟩ := List.append_of_mem h
  rw [List.flatMap_append, List.flatMap_cons]
  exact hpart.isInfix.trans (List.infix_append' _ _ _)

/-- What is printed for a parameter stands between the angle brackets. -/
theorem infix_angled (trees : Param → List Tree) (h : param ∈ params) :
    trees param.1 <:+: angled trees params := by
  rw [angled, List.isEmpty_eq_false_iff.2 (List.ne_nil_of_mem h)]
  simp only [List.partition_eq_filter_filter, Bool.false_eq_true, if_false, List.append_assoc]
  by_cases hlifetime : param.1.isLifetime = true
  · have hmem : param ∈ params.filter (·.1.isLifetime) := List.mem_filter.2 ⟨h, hlifetime⟩
    exact (infix_flatMap hmem (List.prefix_append _ _)).trans (List.infix_append' _ _ _)
  · have hmem : param ∈ params.filter (!·.1.isLifetime) := by
      refine List.mem_filter.2 ⟨h, ?_⟩
      rw [Bool.not_eq_true', Bool.eq_false_iff]
      exact hlifetime
    rw [← List.append_assoc, ← List.append_assoc]
    exact (infix_flatMap hmem (List.prefix_append _ _)).trans (List.infix_append' _ _ _)

end Param

namespace Item

theorem heading_infix_generate {item : Item} {param : Param × Bool}
    (h : item.defects explain = []) (hparam : param ∈ item.params) :
    param.1.heading <:+: item.generate explain := by
  have hangled := param.1.heading_leads.isInfix.trans (Param.infix_angled Param.introduced hparam)
  rw [generate_of_defects_nil h, Plan.implementation]
  simp only [List.append_assoc]
  exact hangled.trans (List.infix_append' _ _ _)

/-- The program text for an item is the implementation of the fact that it describes exactly if it
has no defect, and then the last name that is given is the name of the schema. Otherwise it is the
report of the first defect and nothing else. The attributes of the item and of its fields that do
not set options of a fact make no difference; those of its parameters are repeated. -/
theorem generate_first_defect (explain : Attribute → String) (item : Item) :
    (item.generate explain = item.described.implementation ↔ item.defects explain = []) ∧
      (item.defects explain = [] →
        (readHalves? (item.generate explain)).map Halves.factName =
          some (((listedOptions item.attributes).filterMap FactOption.name?).getLast?.getD
            item.name.text)) ∧
      (∀ e, (item.defects explain).head? = some e →
        piecesOf (item.generate explain) = [.word "compile_error", .mark '!', .mark '(',
          .string e.message, .mark ')', .mark ';']) ∧
      item.bare.generate explain = item.generate explain ∧
      (item.defects explain = [] →
        ∀ param ∈ item.params, param.1.heading <:+: item.generate explain) := by
  refine ⟨generate_eq_implementation_iff, factName_of_defects_nil, ?_, item.generate_bare,
    fun hnone _ => heading_infix_generate hnone⟩
  intro e he
  rw [generate_of_defect he]
  rfl

def renamedText : String :=
  "#[fact(name=\"A\",name=\"B\")]struct S<#[fact]T>\x7bt:String\x7d"

/-- Items that describe no fact, with what is reported for each. -/
def refusals : List (String × String) := [
  ("#[fact x]struct S\x7b\x7d", "Derive error: syn error: unexpected token"),
  ("#[fact(name=1,alias)]struct S\x7b#[fact(normalized)]degree:D,#[fact]name:N\x7d",
    "Derive error: fact name not a string"),
  ("#[fact(alias)]enum E\x7b\x7d", "Unknown fact option: alias"),
  ("#[fact()]enum E\x7b\x7d", "Fact can only be derived for structs"),
  ("struct S(u8);", "Fact can only be derived for structs with named fields"),
  ("struct S\x7b#[fact(normalized)]degree:D,#[fact]name:N\x7d",
    "Nested fact field 'degree' cannot be normalized"),
  ("struct S\x7bdegree:D,#[fact]name:N\x7d", "Derive error: expected #[fact(...)]")]

theorem generate_first_defect_refusals :
    (∃ renamed : Item, Item.ofText? renamedText = some renamed ∧
      renamed.defects (fun _ => "unexpected token") = [] ∧
      (readHalves? (renamed.generate fun _ => "unexpected token")).map Halves.factName =
        some "B" ∧
      ∃ param ∈ renamed.params,
        piecesOf param.1.heading = [.mark '#', .mark '[', .word "fact", .mark ']', .word "T"] ∧
          param.1.heading <:+: renamed.generate fun _ => "unexpected token") ∧
      ∀ r ∈ refusals, ∃ item : Item, Item.ofText? r.1 = some item ∧
        piecesOf (item.generate fun _ => "unexpected token") = [.word "compile_error", .mark '!',
          .mark '(', .string r.2, .mark ')', .mark ';'] := by
  have hrenamed : (Item.ofText? renamedText).map (fun item =>
      ((item.defects fun _ => "unexpected token").map DeriveError.message,
        item.described.factName, item.params.map fun param => piecesOf param.1.heading)) =
          some ([], "B", [[.mark '#', .mark '[', .word "fact", .mark ']', .word "T"]]) := by
    decide +kernel
  have hrefusals : refusals.all (fun r => decide ((Item.ofText? r.1).map (fun item =>
      (item.defects fun _ => "unexpected token").head?.map DeriveError.message) =
        some (some r.2))) = true := by
    decide +kernel
  refine ⟨?_, ?_⟩
  · obtain ⟨renamed, hitem, hrenamed⟩ := Option.map_eq_some_iff.1 hrenamed
    obtain ⟨hmessages, hrenamed⟩ := Prod.mk.inj hrenamed
    obtain ⟨hname, hparams⟩ := Prod.mk.inj hrenamed
    have hnone : renamed.defects (fun _ => "unexpected token") = [] :=
      List.map_eq_nil_iff.1 hmessages
    obtain ⟨param, rest, hparams, hheading, _⟩ := List.map_eq_cons_iff.1 hparams
    have hmem : param ∈ renamed.params := by
      rw [hparams]
      exact List.mem_cons_self
    obtain ⟨_, hread, _, _, hrepeat⟩ := generate_first_defect (fun _ => "unexpected token") renamed
    exact ⟨renamed, hitem, hnone, (hread hnone).trans (congrArg some hname), param, hmem, hheading,
      hrepeat hnone param hmem⟩
  · intro r hr
    have hrefused := of_decide_eq_true (List.all_eq_true.1 hrefusals r hr)
    obtain ⟨item, hitem, hfirst⟩ := Option.map_eq_some_iff.1 hrefused
    obtain ⟨e, he, hmessage⟩ := Option.map_eq_some_iff.1 hfirst
    obtain ⟨_, _, hreport, _, _⟩ := generate_first_defect (fun _ => "unexpected token") item
    exact ⟨item, hitem, hmessage ▸ hreport e he⟩

def parameterText (front : String) : String :=
  "struct S<" ++ front ++ "T>\x7b\x7d"

theorem param_attribute_repeated :
    ∃ noted plain : Item, Item.ofText? (parameterText "#[note]") = some noted ∧
      Item.ofText? (parameterText "") = some plain ∧
      noted.generate (fun _ => "") ≠ plain.generate fun _ => "" := by
  have hdiffer : ((Item.ofText? (parameterText "#[note]")).bind fun noted =>
      (Item.ofText? (parameterText "")).map fun plain =>
        decide (piecesOf (noted.generate fun _ => "") = piecesOf (plain.generate fun _ => ""))) =
          some false := by
    decide +kernel
  obtain ⟨noted, hnoted, hdiffer⟩ := Option.bind_eq_some_iff.1 hdiffer
  obtain ⟨plain, hplain, hdiffer⟩ := Option.map_eq_some_iff.1 hdiffer
  refine ⟨noted, plain, hnoted, hplain, ?_⟩
  intro heq
  exact of_decide_eq_false hdiffer (congrArg piecesOf heq)

end Item

end FactGrammar.Derive
