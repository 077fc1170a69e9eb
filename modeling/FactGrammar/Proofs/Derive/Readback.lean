import FactGrammar.Proofs.Derive.Code

namespace FactGrammar.Derive

open Reader

/-- What a schema says of a field. -/
structure SpecView where
  name : String
  isText : Bool
  isNormalized : Bool
  isRequired : Bool
  deriving DecidableEq

structure InitView where
  ident : Ident
  name : String
  isText : Bool
  /-- The names of fact and field in the failure, if there is one for want of the field. -/
  missing : Option (String × String)
  type : Option (List Tree)

structure Halves where
  factName : String
  specs : List SpecView
  ident : Ident
  inits : List InitView

def specTree : TreeReader SpecView := do
  pathOf ["rules", "FieldSpec"]
  marks "::"
  let content ← oneOfWords ["text", "nested"]
  let name ← inside .parentheses stringTree
  let isNormalized ← hasMethod "normalized"
  let isRequired ← hasMethod "required"
  return ⟨name, content.name == "text", isNormalized, isRequired⟩

def schemaTree : TreeReader (String × List SpecView) := do
  pathOf ["rules", "Schema", "new"]
  let factName ← inside .parentheses stringTree
  return (factName, ← many (methodOf "with_field" specTree))

def toOwnedTree : TreeReader Unit :=
  pathOf ["std", "borrow", "ToOwned", "to_owned"]

def ownedTree : TreeReader String := do
  toOwnedTree
  inside .parentheses stringTree

/-- Takes a failure for want of a field, and gives the names of fact and field in it. -/
def missingTree : TreeReader (String × String) := do
  marks "||"
  pathOf ["rules", "InterpretError", "MissingRequiredField"]
  inside .braces (do
    wordOf "fact"
    marks ":"
    let fact ← ownedTree
    comma
    wordOf "field"
    marks ":"
    let field ← ownedTree
    comma
    return (fact, field))

def lookupTree (ident : Ident) : TreeReader InitView := do
  wordOf "record"
  marks "."
  let content ← oneOfWords ["text", "record"]
  let name ← inside .parentheses stringTree
  if content.name == "text" then
    methodOf "map" toOwnedTree
    return ⟨ident, name, true, none, none⟩
  else return ⟨ident, name, false, none, none⟩

def orMissingTree : TreeReader (String × String) := do
  let missing ← methodOf "ok_or_else" missingTree
  marks "?"
  return missing

/-- Takes what a record holds in a field, perhaps with a failure for want of it. -/
def foundTree (ident : Ident) : TreeReader InitView := do
  let found ← lookupTree ident
  let missing ← optionally orMissingTree
  return { found with missing }

def decoderTree : TreeReader (List Tree) := do
  let inner ← betweenAngles
  -- Behind the type stand seven trees: the word `as` and the path of the trait.
  let (type, trait) := inner.splitAt (inner.length - 7)
  demand (readAll? (do wordOf "as"; pathOf ["rules", "Fact"]) trait).isSome
  marks "::"
  wordOf "from_record"
  return type

def mappedTree : TreeReader (List Tree) := do
  let type ← methodOf "map" decoderTree
  methodOf "transpose" (pure ())
  marks "?"
  return type

/-- Takes the value of a field: a fact that must be there, or a text or a fact that may be missing.
-/
def valueTree (ident : Ident) : TreeReader InitView :=
  (do
    let type ← decoderTree
    let found ← inside .parentheses (foundTree ident)
    marks "?"
    return { found with type := some type }) <|>
  (do
    let found ← foundTree ident
    let type ← optionally mappedTree
    return { found with type })

def initTree : TreeReader InitView := do
  let ident ← anyWord
  marks ":"
  valueTree ident

def resultTree : TreeReader (Ident × List InitView) := do
  pathOf ["std", "result", "Result", "Ok"]
  inside .parentheses (do
    let ident ← anyWord
    return (ident, ← inside .braces (separated initTree comma)))

def halvesTree : TreeReader Halves := do
  wordOf "fn"
  wordOf "schema"
  inside .parentheses (pure ())
  marks "->"
  pathOf ["rules", "Schema"]
  let (factName, specs) ← inside .braces schemaTree
  wordOf "fn"
  wordOf "from_record"
  inside .parentheses (do
    wordOf "record"
    marks ":"
    marks "&"
    pathOf ["rules", "Record"])
  marks "->"
  pathOf ["std", "result", "Result"]
  marks "<"
  wordOf "Self"
  comma
  pathOf ["rules", "InterpretError"]
  marks ">"
  let (ident, inits) ← inside .braces resultTree
  return ⟨factName, specs, ident, inits⟩

/-- The halves of an implementation, which stand in the braces at its end. -/
def readHalves? (trees : List Tree) : Option Halves :=
  match trees.getLast? with
  | some (.group .braces functions) => readAll? halvesTree functions
  | _ => none

namespace FieldPlan

open Code

variable {follow : List Tree → Prop}

def isText (f : FieldPlan) : Bool :=
  match f.content with
  | .text => true
  | .nested _ => false

def specView (f : FieldPlan) : SpecView :=
  ⟨f.name, f.isText, f.isNormalized, f.isRequired⟩

def initView (factName : String) (f : FieldPlan) : InitView where
  ident := f.ident
  name := f.name
  isText := f.isText
  missing := if f.isRequired then some (factName, f.name) else none
  type := match f.content with
    | .text => none
    | .nested t => some t.trees

def flagTrees (f : FieldPlan) : List Tree :=
  (if f.isNormalized then method "normalized" [] else []) ++
    if f.isRequired then method "required" [] else []

theorem specTrees_eq (f : FieldPlan) :
    f.specTrees = path ["rules", "FieldSpec"] ++ (sign "::" ++
      (word (if f.isText then "text" else "nested") ++
        (parens (string f.name) ++ f.flagTrees))) := by
  obtain ⟨ident, content, isRequired, isNormalized⟩ := f
  cases content <;> rfl

theorem reads_specTrees (f : FieldPlan) : specTree.Reads f.specTrees f.specView (· = []) := by
  have hflags (isText : Bool) : (do
      let isNormalized ← hasMethod "normalized"
      let isRequired ← hasMethod "required"
      return ⟨f.name, isText, isNormalized, isRequired⟩ : TreeReader SpecView).Reads
        f.flagTrees ⟨f.name, isText, f.isNormalized, f.isRequired⟩ (· = []) := by
    refine (reads_hasMethod "normalized" f.isNormalized).bind
      (((reads_hasMethod "required" f.isRequired).map _).weaken ?_) ?_
    · rintro _ rfl
      rfl
    · rintro _ rfl
      cases f.isRequired <;> rfl
  have hname := reads_group (reads_string f.name) trivial .parentheses
  rw [specTrees_eq, specView]
  refine (reads_path _).bind ((reads_sign "::").bind ?_)
  cases f.isText with
  | true => exact (reads_oneOfWords (by decide)).bind (hname.bind (hflags true))
  | false => exact (reads_oneOfWords (by decide)).bind (hname.bind (hflags false))

theorem reads_owned (s : String) : ownedTree.AlwaysReads (toOwned ++ parens (string s)) s :=
  (reads_path _).bind (reads_group (reads_string s) trivial .parentheses)

theorem reads_missing (factName : String) (f : FieldPlan) :
    missingTree.AlwaysReads (f.missing factName) (factName, f.name) := by
  have hfields : (do
      wordOf "fact"
      marks ":"
      let fact ← ownedTree
      comma
      wordOf "field"
      marks ":"
      let field ← ownedTree
      comma
      return (fact, field) : TreeReader (String × String)).AlwaysReads
        (word "fact" ++ (sign ":" ++ ((toOwned ++ parens (string factName)) ++ (sign "," ++
          (word "field" ++ (sign ":" ++ ((toOwned ++ parens (string f.name)) ++ sign ",")))))))
        (factName, f.name) :=
    (reads_word "fact").bind ((reads_sign ":").bind ((reads_owned factName).bind
      ((reads_sign ",").bind ((reads_word "field").bind ((reads_sign ":").bind
        ((reads_owned f.name).bind (Reads.map (reads_sign ",") _)))))))
  exact (reads_sign "||").bind ((reads_path _).bind (reads_group hfields trivial .braces))

theorem reads_lookup (f : FieldPlan) : (lookupTree f.ident).AlwaysReads f.lookup
    ⟨f.ident, f.name, f.isText, none, none⟩ := by
  have hname := reads_group (reads_string f.name) trivial .parentheses
  obtain ⟨ident, content, isRequired, isNormalized⟩ := f
  cases content with
  | text =>
    exact (reads_word "record").bind ((reads_sign ".").bind ((reads_oneOfWords (by decide)).bind
      (hname.bind (Reads.map (reads_method (reads_path _) trivial "map") _))))
  | nested t =>
    exact (reads_word "record").bind ((reads_sign ".").bind ((reads_oneOfWords (by decide)).bind
      (hname.bind (Reads.pure _))))

/-- What a record holds in a field, with the failure for want of it. -/
def foundTrees (factName : String) (f : FieldPlan) : List Tree :=
  if f.isRequired then f.lookup ++ method "ok_or_else" (f.missing factName) ++ sign "?"
  else f.lookup

theorem reads_orMissing (factName : String) (f : FieldPlan) : orMissingTree.AlwaysReads
    (method "ok_or_else" (f.missing factName) ++ sign "?") (factName, f.name) :=
  (reads_method (reads_missing factName f) trivial "ok_or_else").bind
    (Reads.map (reads_sign "?") _)

theorem reads_found (factName : String) (f : FieldPlan) :
    (foundTree f.ident).Reads (f.foundTrees factName)
      { f.initView factName with type := none } fun rest => orMissingTree rest = none := by
  rw [foundTrees, initView]
  cases f.isRequired with
  | true =>
    rw [if_pos rfl, if_pos rfl, List.append_assoc]
    exact ((reads_lookup f).bind
      (Reads.map (Reads.optionally_some (reads_orMissing factName f)) _)).weaken fun _ _ => trivial
  | false =>
    rw [if_neg nofun, if_neg nofun, ← List.append_nil f.lookup]
    exact (reads_lookup f).bind (Reads.map Reads.optionally_none _)

def qualifier (t : TypeExpr) : List Tree :=
  t.trees ++ (word "as" ++ path ["rules", "Fact"])

theorem decoder_eq (t : TypeExpr) :
    decoder t = (sign "<" ++ (qualifier t ++ sign ">")) ++ (sign "::" ++ word "from_record") := by
  simp only [decoder, qualifier, List.append_assoc]

theorem splitAtClosing_qualifier (t : TypeExpr) (rest : List Tree) :
    splitAtClosing 0 (qualifier t ++ (sign ">" ++ rest)) = (qualifier t, sign ">" ++ rest) := by
  rw [qualifier, List.append_assoc]
  exact splitAtClosing_append t.written.anglesMatch ⟨"as", false⟩
    (path ["rules", "Fact"] ++ (sign ">" ++ rest))

theorem splitAt_qualifier (t : TypeExpr) :
    (qualifier t).splitAt ((qualifier t).length - 7) =
      (t.trees, word "as" ++ path ["rules", "Fact"]) := by
  have hlength : (qualifier t).length - 7 = t.trees.length := by
    rw [qualifier, List.length_append]
    exact Nat.add_sub_cancel _ 7
  rw [hlength, qualifier, List.splitAt_eq, List.take_left, List.drop_left]

theorem reads_decoder (t : TypeExpr) : decoderTree.AlwaysReads (decoder t) t.trees := by
  rw [decoder_eq]
  refine (reads_betweenAngles (splitAtClosing_qualifier t)).bind ?_
  rw [splitAt_qualifier]
  have hbound : (demand (readAll? (do wordOf "as"; pathOf ["rules", "Fact"] : TreeReader Unit)
      (word "as" ++ path ["rules", "Fact"])).isSome).AlwaysReads [] () := fun _ _ => rfl
  exact hbound.bind ((reads_sign "::").bind (Reads.map (reads_word "from_record") _))

/-- What begins with a word is not the function that makes a fact. -/
theorem decoderTree_of_word (w : String) (rest : List Tree) : decoderTree (word w ++ rest) = none :=
  rfl

theorem foundTrees_eq_word (factName : String) (f : FieldPlan) :
    ∃ behind, f.foundTrees factName = word "record" ++ behind := by
  rw [foundTrees]
  split
  · exact ⟨_, List.append_assoc _ _ _⟩
  · exact ⟨_, rfl⟩

/-- A value is read the second way where it does not begin with the function that makes a fact. -/
theorem reads_foundFirst {behind : List Tree} {type : Option (List Tree)}
    (htype : (optionally mappedTree).Reads behind type follow)
    (hfollow : ∀ rest, follow rest → orMissingTree (behind ++ rest) = none)
    (factName : String) (f : FieldPlan) :
    (valueTree f.ident).Reads (f.foundTrees factName ++ behind)
      { f.initView factName with type } follow := by
  obtain ⟨more, hmore⟩ := foundTrees_eq_word factName f
  refine Reads.orElse_right (fun rest => ?_) ((reads_found factName f).bind (htype.map _) hfollow)
  rw [hmore, List.append_assoc, List.append_assoc]
  exact bind_of_eq_none (decoderTree_of_word _ _)

theorem reads_mapped (t : TypeExpr) : mappedTree.AlwaysReads
    (method "map" (decoder t) ++ (method "transpose" [] ++ sign "?")) t.trees := by
  have htranspose := reads_method (Reads.pure ()) trivial "transpose"
  have hbehind : (do
      methodOf "transpose" (pure ())
      marks "?"
      return t.trees : TreeReader (List Tree)).AlwaysReads (method "transpose" [] ++ sign "?")
        t.trees :=
    htranspose.bind (Reads.map (reads_sign "?") _)
  exact (reads_method (reads_decoder t) trivial "map").bind hbehind

theorem reads_valueTrees (factName : String) (f : FieldPlan) :
    (valueTree f.ident).Reads (f.valueTrees factName) (f.initView factName) fun rest =>
      marks "." rest = none := by
  obtain ⟨ident, content, isRequired, isNormalized⟩ := f
  cases content with
  | text =>
    -- Where no method is called, neither a failure nor a conversion is read.
    have hread := reads_foundFirst (Reads.optionally_none.weaken
      fun rest (hrest : marks "." rest = none) => bind_of_eq_none (bind_of_eq_none hrest))
      (fun rest hrest => bind_of_eq_none (bind_of_eq_none hrest)) factName
      ⟨ident, .text, isRequired, isNormalized⟩
    rw [List.append_nil] at hread
    exact hread
  | nested t =>
    cases isRequired with
    | true =>
      have hfound := reads_found factName ⟨ident, .nested t, true, isNormalized⟩
      have hbehind : (do
          let found ← inside .parentheses (foundTree ident)
          marks "?"
          return { found with type := some t.trees } : TreeReader InitView).AlwaysReads
            (parens (foundTrees factName ⟨ident, .nested t, true, isNormalized⟩) ++ sign "?")
            (initView factName ⟨ident, .nested t, true, isNormalized⟩) :=
        (reads_group hfound rfl .parentheses).bind (Reads.map (reads_sign "?") _)
      have happend : valueTrees factName ⟨ident, .nested t, true, isNormalized⟩ = decoder t ++
          (parens (foundTrees factName ⟨ident, .nested t, true, isNormalized⟩) ++ sign "?") :=
        List.append_assoc _ _ _
      rw [happend]
      exact Reads.orElse_left (((reads_decoder t).bind hbehind).weaken fun _ _ => trivial)
    | false =>
      have hread := reads_foundFirst (Reads.optionally_some (reads_mapped t))
        (fun rest _ => bind_of_eq_none (methodOf_of_ne (by decide))) factName
          ⟨ident, .nested t, false, isNormalized⟩
      rw [← List.append_assoc, ← List.append_assoc] at hread
      exact hread.weaken fun _ _ => trivial

theorem reads_initTrees (factName : String) (f : FieldPlan) :
    initTree.Reads (f.initTrees factName) (f.initView factName) fun rest =>
      marks "." rest = none := by
  have hident : anyWord.AlwaysReads [.ident f.ident] f.ident := fun _ _ => rfl
  exact hident.bind ((reads_sign ":").bind (reads_valueTrees factName f))

end FieldPlan

namespace Plan

open Code

def halves (p : Plan) : Halves where
  factName := p.factName
  specs := p.fields.map FieldPlan.specView
  ident := p.ident
  inits := p.fields.map (FieldPlan.initView p.factName)

theorem reads_schemaTrees (p : Plan) :
    schemaTree.Reads p.schemaTrees (p.factName, p.halves.specs) (· = []) := by
  have hfield (f : FieldPlan) :
      (methodOf "with_field" specTree).AlwaysReads (method "with_field" f.specTrees) f.specView :=
    have hspec := f.reads_specTrees
    reads_method hspec rfl "with_field"
  have hfields : (many (methodOf "with_field" specTree)).Reads
      (p.fields.flatMap fun f => method "with_field" f.specTrees) p.halves.specs (· = []) := by
    refine (Reads.many (fun f _ => hfield f) fun f _ => List.cons_ne_nil _ _).weaken ?_
    rintro _ rfl
    rfl
  have hname := reads_group (reads_string p.factName) trivial .parentheses
  rw [schemaTrees, List.append_assoc]
  exact (reads_path _).bind (hname.bind (hfields.map _))

theorem reads_valueTrees (p : Plan) :
    resultTree.AlwaysReads p.valueTrees (p.ident, p.halves.inits) := by
  have hident : anyWord.AlwaysReads [.ident p.ident] p.ident := fun _ _ => rfl
  have hinits := reads_commaSeparated (fun f (_ : f ∈ p.fields) =>
    FieldPlan.reads_initTrees p.factName f) (fun _ => rfl) rfl rfl
  have hvalue : (do
      let ident ← anyWord
      return (ident, ← inside .braces (separated initTree comma)) :
        TreeReader (Ident × List InitView)).AlwaysReads
          ([.ident p.ident] ++ braces (commaSeparated (p.fields.map (·.initTrees p.factName))))
          (p.ident, p.halves.inits) :=
    hident.bind (Reads.map (reads_group hinits rfl .braces) _)
  exact (reads_path _).bind (reads_group hvalue trivial .parentheses)

theorem reads_functionTrees (p : Plan) : halvesTree.AlwaysReads p.functionTrees p.halves := by
  have hschema := p.reads_schemaTrees
  have hnone : (inside .parentheses (pure ()) : TreeReader Unit).AlwaysReads (parens []) () :=
    reads_group (Reads.pure ()) trivial .parentheses
  have hrecord : (do
      wordOf "record"
      marks ":"
      marks "&"
      pathOf ["rules", "Record"] : TreeReader Unit).AlwaysReads
        (word "record" ++ (sign ":" ++ (sign "&" ++ path ["rules", "Record"]))) () :=
    (reads_word "record").bind ((reads_sign ":").bind ((reads_sign "&").bind (reads_path _)))
  have happend : p.functionTrees =
      word "fn" ++ (word "schema" ++ (parens [] ++ (sign "->" ++ (path ["rules", "Schema"] ++
        (braces p.schemaTrees ++ (word "fn" ++ (word "from_record" ++
          (parens (word "record" ++ (sign ":" ++ (sign "&" ++ path ["rules", "Record"]))) ++
            (sign "->" ++ (path ["std", "result", "Result"] ++ (sign "<" ++ (word "Self" ++
              (sign "," ++ (path ["rules", "InterpretError"] ++ (sign ">" ++
                braces p.valueTrees))))))))))))))) :=
    rfl
  rw [happend]
  exact (reads_word "fn").bind ((reads_word "schema").bind (hnone.bind ((reads_sign "->").bind
    ((reads_path _).bind ((reads_group hschema rfl .braces).bind ((reads_word "fn").bind
      ((reads_word "from_record").bind ((reads_group hrecord trivial .parentheses).bind
        ((reads_sign "->").bind ((reads_path _).bind ((reads_sign "<").bind
          ((reads_word "Self").bind ((reads_sign ",").bind ((reads_path _).bind
            ((reads_sign ">").bind
              (Reads.map (reads_group p.reads_valueTrees trivial .braces) _))))))))))))))))

/-- What is read back of an implementation are the two halves of the plan for it. -/
theorem readHalves?_implementation (p : Plan) : readHalves? p.implementation = some p.halves := by
  have hlast : p.implementation.getLast? = some (.group .braces p.functionTrees) :=
    List.getLast?_concat
  rw [readHalves?, hlast]
  exact Reads.readAll p.reads_functionTrees trivial

end Plan

end FactGrammar.Derive
