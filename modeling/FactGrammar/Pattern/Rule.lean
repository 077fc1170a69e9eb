import FactGrammar.Pattern.Predicate
import FactGrammar.Record.Schema

namespace FactGrammar

inductive Rule where
  | literal (predicate : Predicate)
  /-- Every rule in turn, each from where the last one ended. -/
  | sequence (rules : List Rule)
  /-- The first of the rules that matches. -/
  | alternative (rules : List Rule)
  /-- One token at which the rule does not match. -/
  | negation (rule : Rule)
  /-- The rule, or nothing where it does not match. -/
  | optional (rule : Rule)
  /-- The rule as often as it matches, at least `min` and at most `max` times. -/
  | repetition (rule : Rule) (min : Nat) (max : Option Nat)
  | reference (name : String)
  /-- The rule, recording what it recognised. -/
  | interpreted (rule : Rule) (binding : Binding)
  deriving Inhabited

namespace Rule

/-- Induction in which the parts of a sequence or of an alternative are the members of its list. -/
@[elab_as_elim, induction_eliminator]
theorem induction {motive : Rule → Prop}
    (literal : ∀ predicate, motive (.literal predicate))
    (sequence : ∀ rules, (∀ rule ∈ rules, motive rule) → motive (.sequence rules))
    (alternative : ∀ rules, (∀ rule ∈ rules, motive rule) → motive (.alternative rules))
    (negation : ∀ rule, motive rule → motive (.negation rule))
    (optional : ∀ rule, motive rule → motive (.optional rule))
    (repetition : ∀ rule min max, motive rule → motive (.repetition rule min max))
    (reference : ∀ name, motive (.reference name))
    (interpreted : ∀ rule binding, motive rule → motive (.interpreted rule binding))
    (rule : Rule) : motive rule :=
  @Rule.rec motive (fun rules => ∀ rule ∈ rules, motive rule) literal sequence alternative negation
    optional repetition reference interpreted (fun _ h => by cases h)
    (fun _ _ h hrest => List.forall_mem_cons.2 ⟨h, hrest⟩) rule

def oneOrMore (rule : Rule) : Rule :=
  .repetition rule 1 none

def zeroOrMore (rule : Rule) : Rule :=
  .repetition rule 0 none

def displayBounds (min : Nat) : Option Nat → String
  | some max => toString min ++ ".." ++ toString max
  | none => toString min ++ ".."

mutual

def display : Rule → String
  | literal predicate => predicate.display
  | sequence rules => "( " ++ " , ".intercalate (displayEach rules) ++ " )"
  | alternative rules => "( " ++ " | ".intercalate (displayEach rules) ++ " )"
  | negation rule => "- " ++ display rule
  | optional rule => "[ " ++ display rule ++ " ]"
  | repetition rule min max => "\x7b " ++ display rule ++ " \x7d" ++ displayBounds min max
  | reference name => name
  | interpreted rule binding => display rule ++ " @ " ++ binding.display

def displayEach : List Rule → List String
  | [] => []
  | rule :: rest => display rule :: displayEach rest

end

end Rule

end FactGrammar
