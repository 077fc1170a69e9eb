import FactGrammar.Derive.Implementation
import FactGrammar.Proofs.Reading

namespace FactGrammar.Derive

open Reader

def stringTree : TreeReader String := do
  match (← literalTree).value with
  | some value => return value
  | none => fail

def pathOf : List String → TreeReader Unit
  | [] => pure ()
  | w :: rest => do
    marks "::"
    wordOf w
    pathOf rest

def methodOf (w : String) (arguments : TreeReader α) : TreeReader α := do
  marks "."
  wordOf w
  inside .parentheses arguments

/-- Takes the call of a method without arguments, if there is one, and tells whether there is. -/
def hasMethod (w : String) : TreeReader Bool := do
  return (← optionally (methodOf w (pure ()))).isSome

/-- Parts trees in front of the mark that closes an angle bracket opened before them, if `depth`
more are open. -/
def splitAtClosing : (depth : Nat) → List Tree → List Tree × List Tree
  | _, [] => ([], [])
  | depth, .mark '-' true :: .mark '>' joint :: rest =>
    let (inner, behind) := splitAtClosing depth rest
    (.mark '-' true :: .mark '>' joint :: inner, behind)
  | depth, .mark '<' joint :: rest =>
    let (inner, behind) := splitAtClosing (depth + 1) rest
    (.mark '<' joint :: inner, behind)
  | 0, .mark '>' joint :: rest => ([], .mark '>' joint :: rest)
  | depth + 1, .mark '>' joint :: rest =>
    let (inner, behind) := splitAtClosing depth rest
    (.mark '>' joint :: inner, behind)
  | depth, tree :: rest =>
    let (inner, behind) := splitAtClosing depth rest
    (tree :: inner, behind)

def betweenAngles : TreeReader (List Tree) := do
  marks "<"
  let inner ← fun s => some (splitAtClosing 0 s)
  marks ">"
  return inner

variable {α ι : Type} {p : TreeReader α} {trees rest : List Tree} {a : α}
  {follow : List Tree → Prop}

/-- Trees that close every angle bracket they open are passed over. -/
theorem splitAtClosing_append (h : anglesAfter? depth trees = some 0) (i : Ident)
    (rest : List Tree) : splitAtClosing depth (trees ++ .ident i :: rest) =
      (trees ++ .ident i :: (splitAtClosing 0 rest).1, (splitAtClosing 0 rest).2) := by
  fun_induction anglesAfter? depth trees with
  | case1 depth =>
    cases h
    rfl
  | case2 depth joint rest' ih =>
    rw [List.cons_append, List.cons_append, splitAtClosing, ih h]
    rfl
  | case3 depth joint rest' ih =>
    rw [List.cons_append, splitAtClosing, ih h]
    rfl
  | case4 joint rest' => cases h
  | case5 depth joint rest' ih =>
    rw [List.cons_append, splitAtClosing, ih h]
    rfl
  | case6 depth tree rest' harrow hopening hnone hclosing ih =>
    -- An arrow is not completed by what follows, which begins with a word.
    have harrow' : ∀ joint behind, tree = .mark '-' true →
        rest' ++ .ident i :: rest = .mark '>' joint :: behind → False := by
      intro joint behind htree hbehind
      cases rest' with
      | nil => cases hbehind
      | cons next rest' =>
        cases hbehind
        exact harrow joint rest' htree rfl
    rw [List.cons_append, splitAtClosing, ih h]
    · rfl
    · exact harrow'
    · exact hopening
    · exact hnone
    · exact hclosing

namespace Code

theorem reads_oneOfWords {words : List String} (h : words.contains w = true) :
    (oneOfWords words).AlwaysReads (word w) ⟨w, false⟩ := by
  intro rest _
  rw [word, List.singleton_append, oneOfWords]
  dsimp only
  rw [h]
  rfl

theorem reads_word (w : String) : (wordOf w).AlwaysReads (word w) () := by
  have hcontains : [w].contains w = true := List.contains_iff_mem.2 (List.mem_singleton.2 rfl)
  exact (reads_oneOfWords hcontains).map fun _ => ()

theorem reads_signOf : (cs : List Char) → (marksOf cs).AlwaysReads (signOf cs) ()
  | [] => Reads.pure ()
  | [_] => fun _ _ => if_pos rfl
  | _ :: d :: cs => fun rest _ =>
    (bind_of_eq_some (if_pos rfl)).trans (reads_signOf (d :: cs) rest trivial)

theorem reads_sign (s : String) : (marks s).AlwaysReads (sign s) () :=
  reads_signOf s.toList

theorem reads_string (s : String) : stringTree.AlwaysReads (string s) s :=
  fun _ _ => rfl

theorem reads_group (h : p.Reads trees a follow) (hend : follow []) (d : Delimiter) :
    (inside d p).AlwaysReads [.group d trees] a := by
  intro rest _
  rw [List.singleton_append, inside, if_pos rfl, h.readAll hend]
  rfl

theorem reads_path (words : List String) : (pathOf words).AlwaysReads (path words) () := by
  induction words with
  | nil => exact Reads.pure ()
  | cons w words ih =>
    rw [path, List.flatMap_cons, List.append_assoc]
    exact (reads_sign "::").bind ((reads_word w).bind ih)

theorem reads_method (h : p.Reads trees a follow) (hend : follow []) (w : String) :
    (methodOf w p).AlwaysReads (method w trees) a := by
  rw [method, List.append_assoc]
  exact (reads_sign ".").bind ((reads_word w).bind (reads_group h hend .parentheses))

theorem wordOf_of_ne (h : w ≠ w') : wordOf w (word w' ++ rest) = none := by
  have hcontains : [w].contains w' = false := by
    simpa using Ne.symm h
  refine bind_of_eq_none ?_
  rw [word, List.singleton_append, oneOfWords]
  dsimp only
  rw [hcontains]
  rfl

theorem methodOf_of_ne (h : w ≠ w') : methodOf w p (method w' trees ++ rest) = none := by
  rw [method, List.append_assoc, List.append_assoc]
  exact (bind_of_eq_some (reads_sign "." _ trivial)).trans (bind_of_eq_none (wordOf_of_ne h))

theorem reads_hasMethod (w : String) (present : Bool) :
    (hasMethod w).Reads (if present then method w [] else []) present fun rest =>
      methodOf w (pure () : TreeReader Unit) rest = none := by
  cases present with
  | true =>
    have hmethod := reads_method (Reads.pure ()) trivial w
    exact (Reads.map (Reads.optionally_some hmethod) Option.isSome).weaken fun _ _ => trivial
  | false => exact Reads.map Reads.optionally_none Option.isSome

theorem reads_betweenAngles {inner : List Tree}
    (h : ∀ rest, splitAtClosing 0 (inner ++ (sign ">" ++ rest)) = (inner, sign ">" ++ rest)) :
    betweenAngles.AlwaysReads (sign "<" ++ (inner ++ sign ">")) inner := by
  refine (reads_sign "<").bind fun rest _ => ?_
  have hinner : (fun s => some (splitAtClosing 0 s) : TreeReader (List Tree))
      (inner ++ (sign ">" ++ rest)) = some (inner, sign ">" ++ rest) := congrArg some (h rest)
  rw [List.append_assoc]
  exact (bind_of_eq_some hinner).trans (Reads.map (reads_sign ">") _ rest trivial)

theorem commaSeparated_cons (first : List Tree) (rest : List (List Tree)) :
    commaSeparated (first :: rest) = first ++ rest.flatMap fun trees => sign "," ++ trees := by
  induction rest generalizing first with
  | nil => exact (List.append_nil first).symm
  | cons second rest ih =>
    rw [commaSeparated, ih, List.flatMap_cons, List.append_assoc, List.append_assoc]
    exact List.cons_ne_nil second rest

theorem reads_commaSeparated {items : List ι} {print : ι → List Tree} {value : ι → α}
    (hitem : ∀ i ∈ items, p.Reads (print i) (value i) follow)
    (hcomma : ∀ rest, follow (sign "," ++ rest)) (hend : follow []) (hempty : p [] = none) :
    (separated p comma).Reads (commaSeparated (items.map print)) (items.map value) (· = []) := by
  rw [separated]
  cases items with
  | nil =>
    have hnone : separated1 p comma [] = none := bind_of_eq_none hempty
    refine (Reads.map Reads.optionally_none (Option.getD · [])).weaken ?_
    rintro rest rfl
    exact hnone
  | cons first items =>
    rw [List.map_cons, commaSeparated_cons, List.flatMap_map]
    have hread := Reads.separated1 hitem (reads_sign ",") (List.cons_ne_nil _ _) hcomma
    refine (Reads.map hread.optionally_some (Option.getD · [])).weaken ?_
    rintro rest rfl
    exact ⟨rfl, hend⟩

end Code

end FactGrammar.Derive
