import FactGrammar.Reader

namespace FactGrammar.Reader

variable {σ α β ι : Type} {p q : Reader σ α} {symbols symbols' : List σ} {a : α} {b : β}
  {follow follow' : List σ → Prop}

/-- The reader takes the symbols as the value wherever what follows is acceptable. -/
def Reads (p : Reader σ α) (symbols : List σ) (a : α) (follow : List σ → Prop) : Prop :=
  ∀ rest, follow rest → p (symbols ++ rest) = some (a, rest)

/-- The reader takes the symbols as the value, whatever follows. -/
abbrev AlwaysReads (p : Reader σ α) (symbols : List σ) (a : α) : Prop :=
  p.Reads symbols a fun _ => True

theorem bind_of_eq_some {f : α → Reader σ β} (h : p symbols = some (a, symbols')) :
    (p >>= f) symbols = f a symbols' := by
  change (p symbols).bind _ = _
  rw [h]
  rfl

theorem bind_of_eq_none {f : α → Reader σ β} (h : p symbols = none) :
    (p >>= f) symbols = none := by
  change (p symbols).bind _ = _
  rw [h]
  rfl

theorem orElse_apply (p q : Reader σ α) (symbols : List σ) :
    (p <|> q) symbols = (p symbols).or (q symbols) := by
  change (p symbols <|> q symbols) = _
  cases p symbols with
  | none => rfl
  | some o => rfl

theorem exactly_of_ne [BEq σ] [LawfulBEq σ] {s s' : σ} (h : s ≠ s') :
    exactly (s :: symbols) (s' :: symbols') = none := by
  rw [exactly, List.isPrefixOf, beq_eq_false_iff_ne.2 h, Bool.false_and, if_neg nofun]

namespace Reads

theorem pure (a : α) : AlwaysReads (Pure.pure a) ([] : List σ) a :=
  fun _ _ => rfl

theorem bind {f : α → Reader σ β} (h : p.Reads symbols a follow)
    (hf : (f a).Reads symbols' b follow')
    (hfollow : ∀ rest, follow' rest → follow (symbols' ++ rest)) :
    (p >>= f).Reads (symbols ++ symbols') b follow' := by
  intro rest hrest
  rw [List.append_assoc, bind_of_eq_some (h _ (hfollow rest hrest))]
  exact hf rest hrest

theorem map (h : p.Reads symbols a follow) (f : α → β) :
    (do let a ← p; Pure.pure (f a) : Reader σ β).Reads symbols (f a) follow := by
  intro rest hrest
  exact bind_of_eq_some (h rest hrest)

theorem orElse_left (h : p.Reads symbols a follow) : (p <|> q).Reads symbols a follow := by
  intro rest hrest
  rw [orElse_apply, h rest hrest]
  rfl

theorem orElse_right (hp : ∀ rest, p (symbols ++ rest) = none) (h : q.Reads symbols a follow) :
    (p <|> q).Reads symbols a follow := by
  intro rest hrest
  rw [orElse_apply, hp rest]
  exact h rest hrest

theorem exactly [BEq σ] [LawfulBEq σ] (symbols : List σ) :
    AlwaysReads (exactly symbols) symbols () := by
  intro rest _
  have hprefix := List.isPrefixOf_iff_prefix.2 (List.prefix_append symbols rest)
  rw [Reader.exactly, if_pos hprefix, List.drop_left]

theorem takeWhile {test : σ → Bool} (h : ∀ s ∈ symbols, test s = true) :
    (takeWhile test).Reads symbols symbols fun rest => rest.takeWhile test = [] := by
  intro rest hrest
  have hdrop : rest.dropWhile test = rest := by
    have happend := List.takeWhile_append_dropWhile (p := test) (l := rest)
    rwa [hrest, List.nil_append] at happend
  rw [Reader.takeWhile, List.takeWhile_append_of_pos h, List.dropWhile_append_of_pos h, hrest,
    hdrop, List.append_nil]

theorem takeWhile1 {test : σ → Bool} (h : ∀ s ∈ symbols, test s = true) (hne : symbols ≠ []) :
    (takeWhile1 test).Reads symbols symbols fun rest => rest.takeWhile test = [] := by
  intro rest hrest
  have hread := takeWhile h rest hrest
  rw [Reader.takeWhile] at hread
  obtain ⟨htake, hdrop⟩ := Prod.mk.inj (Option.some.inj hread)
  rw [Reader.takeWhile1, htake, hdrop]
  cases symbols with
  | nil => exact absurd rfl hne
  | cons s symbols => rfl

theorem weaken (h : p.Reads symbols a follow) (hfollow : ∀ rest, follow' rest → follow rest) :
    p.Reads symbols a follow' :=
  fun rest hrest => h rest (hfollow rest hrest)

theorem optionally_some (h : p.Reads symbols a follow) :
    (optionally p).Reads symbols (some a) follow := by
  intro rest hrest
  rw [optionally, h rest hrest]

theorem optionally_none : (optionally p).Reads [] none fun rest => p rest = none := by
  intro rest hrest
  rw [List.nil_append, optionally, hrest]

variable {items : List ι} {print : ι → List σ} {value : ι → α}

theorem upTo (hitem : ∀ i ∈ items, p.Reads (print i) (value i) follow)
    (hnext : ∀ i ∈ items, ∀ rest, follow (print i ++ rest)) (hn : items.length ≤ n) :
    (upTo p n).Reads (items.flatMap print) (items.map value) fun rest =>
      p rest = none ∧ follow rest := by
  intro rest hrest
  induction items generalizing n with
  | nil =>
    cases n with
    | zero => rfl
    | succ n =>
      rw [List.flatMap_nil, List.nil_append, Reader.upTo]
      dsimp only
      rw [hrest.1]
      rfl
  | cons i items ih =>
    cases n with
    | zero => cases hn
    | succ n =>
      obtain ⟨hi, hitems⟩ := List.forall_mem_cons.1 hitem
      have hafter : follow (items.flatMap print ++ rest) := by
        cases items with
        | nil => exact hrest.2
        | cons next items =>
          rw [List.flatMap_cons, List.append_assoc]
          exact hnext next (List.mem_cons_of_mem _ List.mem_cons_self) _
      have hrest := ih hitems (fun j hj => hnext j (List.mem_cons_of_mem _ hj))
        (Nat.le_of_succ_le_succ hn)
      rw [List.flatMap_cons, List.append_assoc, Reader.upTo]
      dsimp only
      rw [hi _ hafter]
      dsimp only
      rw [hrest]
      rfl

theorem length_le_flatMap (hne : ∀ i ∈ items, print i ≠ []) :
    items.length ≤ (items.flatMap print).length := by
  induction items with
  | nil => exact Nat.le_refl 0
  | cons i items ih =>
    obtain ⟨hi, hitems⟩ := List.forall_mem_cons.1 hne
    have hpos := List.length_pos_iff.2 hi
    have hrest := ih hitems
    rw [List.length_cons, List.flatMap_cons, List.length_append]
    omega

theorem manyBefore (hitem : ∀ i ∈ items, p.Reads (print i) (value i) follow)
    (hnext : ∀ i ∈ items, ∀ rest, follow (print i ++ rest))
    (hne : ∀ i ∈ items, print i ≠ []) :
    (Reader.many p).Reads (items.flatMap print) (items.map value) fun rest =>
      p rest = none ∧ follow rest := by
  intro rest hrest
  have hlength := length_le_flatMap hne
  have hn : items.length ≤ (items.flatMap print ++ rest).length := by
    rw [List.length_append]
    omega
  exact upTo hitem hnext hn rest hrest

/-- Printed one after the other, values are read back up to where none begins. -/
theorem many (hitem : ∀ i ∈ items, p.AlwaysReads (print i) (value i))
    (hne : ∀ i ∈ items, print i ≠ []) :
    (many p).Reads (items.flatMap print) (items.map value) fun rest => p rest = none :=
  (manyBefore hitem (fun _ _ _ => trivial) hne).weaken fun _ hrest => ⟨hrest, trivial⟩

variable {separator : Reader σ β} {between : List σ} {first : ι}

/-- Printed with separators between them, values are read back if each of them ends at a
separator. -/
theorem separated1 (hitem : ∀ i ∈ first :: items, p.Reads (print i) (value i) follow)
    (hbetween : separator.AlwaysReads between b) (hne : between ≠ [])
    (hstop : ∀ rest, follow (between ++ rest)) :
    (separated1 p separator).Reads (print first ++ items.flatMap fun i => between ++ print i)
      (value first :: items.map value) fun rest => separator rest = none ∧ follow rest := by
  obtain ⟨hfirst, hitems⟩ := List.forall_mem_cons.1 hitem
  have hmore : (Reader.many (do let _ ← separator; p)).Reads
      (items.flatMap fun i => between ++ print i) (items.map value) fun rest =>
        (do let _ ← separator; p : Reader σ α) rest = none ∧ follow rest := by
    refine manyBefore (fun i hi => bind (f := fun _ => p) hbetween (hitems i hi) fun _ _ => trivial)
      (fun i _ rest => ?_) fun i _ hnil => hne (List.append_eq_nil_iff.1 hnil).1
    rw [List.append_assoc]
    exact hstop _
  refine (hfirst.bind (hmore.map (value first :: ·)) fun rest hrest => ?_).weaken
    fun rest hrest => ⟨bind_of_eq_none hrest.1, hrest.2⟩
  cases items with
  | nil => exact hrest.2
  | cons i items =>
    rw [List.flatMap_cons, List.append_assoc, List.append_assoc]
    exact hstop _

theorem readAll (h : p.Reads symbols a follow) (hend : follow []) :
    readAll? p symbols = some a := by
  have hread := h [] hend
  rw [List.append_nil] at hread
  rw [readAll?, hread]
  rfl

end Reads

theorem AlwaysReads.bind {f : α → Reader σ β} (h : p.AlwaysReads symbols a)
    (hf : (f a).Reads symbols' b follow) : (p >>= f).Reads (symbols ++ symbols') b follow :=
  Reads.bind h hf fun _ _ => trivial

end FactGrammar.Reader
