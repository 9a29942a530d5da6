/-
# One reading at most

Tokens can be read as a phrase of a category in one way only
(`Phrase.tokens_injective`).  What makes that true is where a phrase has to
end: before a token that cannot make it longer.  `category.Stops tokens` says
that no operator in front of `tokens` continues a phrase of the category, and
then a phrase in front of `tokens` is found without looking further
(`Category.IsUnambiguous`).

Chains grow to the right, but are read from the left.  `Phrase.extended` puts
links behind a chain one after another, every chain is one operand with links
behind it (`Phrase.exists_extended`), and both readings of a chain are compared
link by link.
-/

import Calculator.Phrase

namespace Calculator

/-! ### Where a phrase ends -/

/-- The operators that make a phrase of a category longer when they follow it. -/
def Category.ExtendedBy : Category → Operator → Prop
  | atom, _ | factor, _ => False
  | chain .multiplicative, operator => operator.precedence = .multiplicative
  | chain .additive, _ => True

/-- **A phrase of a category ends before these tokens:** they do not begin with an operator that
continues it. -/
def Category.Stops (category : Category) (tokens : List Token) : Prop :=
  ∀ operator, tokens.head?.bind Token.operator? = some operator → ¬ category.ExtendedBy operator

namespace Category

variable {precedence : Precedence} {operator : Operator} {tokens : List Token}

/-- A chain goes on with an operator of its precedence, or because its last operand does. -/
theorem extendedBy_chain_iff :
    (chain precedence).ExtendedBy operator ↔
      operator.precedence = precedence ∨ precedence.operand.ExtendedBy operator := by
  cases precedence with
  | multiplicative => simp [ExtendedBy, Precedence.operand]
  | additive => cases operator <;> simp [ExtendedBy, Precedence.operand, Operator.precedence]

/-- The operator between two operands does not belong to the left one. -/
theorem not_extendedBy_operand (h : operator.precedence = precedence) :
    ¬ precedence.operand.ExtendedBy operator := by
  subst h
  cases operator <;> simp [ExtendedBy, Precedence.operand, Operator.precedence]

theorem stops_nil (category : Category) : category.Stops [] := by
  intro operator h
  simp at h

theorem stops_closing (category : Category) : category.Stops (.closing :: tokens) := by
  intro operator h
  simp [Token.operator?] at h

theorem stops_atom : Category.atom.Stops tokens := fun _ _ => id

theorem Stops.operand (h : (chain precedence).Stops tokens) :
    precedence.operand.Stops tokens :=
  fun operator first extended => h operator first (extendedBy_chain_iff.2 (.inr extended))

theorem stops_operator (h : operator.precedence = precedence) :
    precedence.operand.Stops (operator.token :: tokens) := by
  intro first h'
  rw [List.head?_cons, Option.bind_some, Operator.operator?_token] at h'
  exact Option.some.inj h' ▸ not_extendedBy_operand h

/-- A chain does not end before an operator of its precedence. -/
theorem not_stops_operator (h : operator.precedence = precedence) :
    ¬ (chain precedence).Stops (operator.token :: tokens) := by
  intro stops
  refine stops operator ?_ (extendedBy_chain_iff.2 (.inl h))
  rw [List.head?_cons, Option.bind_some, Operator.operator?_token]

end Category

theorem Operator.token_injective {a b : Operator} (h : a.token = b.token) : a = b := by
  have := congrArg Token.operator? h
  rw [Operator.operator?_token, Operator.operator?_token] at this
  exact Option.some.inj this

/-! ### Chains, link by link -/

/-- An operator and the operand behind it. -/
structure Link (precedence : Precedence) where
  operator : Operator
  fits : operator.precedence = precedence
  operand : Phrase precedence.operand

/-- The tokens of a link. -/
def Link.tokens {precedence : Precedence} (link : Link precedence) : List Token :=
  link.operator.token :: link.operand.tokens

/-- An operand ends before links, and before whatever the chain ends before. -/
theorem Category.Stops.links {precedence : Precedence} {tokens : List Token}
    (h : (chain precedence).Stops tokens) (links : List (Link precedence)) :
    precedence.operand.Stops (links.flatMap Link.tokens ++ tokens) := by
  cases links with
  | nil => exact h.operand
  | cons link links =>
    rw [List.flatMap_cons, Link.tokens, List.cons_append, List.cons_append]
    exact stops_operator link.fits

namespace Phrase

variable {precedence : Precedence}

/-- A chain with one more link. -/
def linked (chain : Phrase (.chain precedence)) (link : Link precedence) :
    Phrase (.chain precedence) :=
  joined chain link.operator link.fits link.operand

/-- A chain with more links behind it. -/
def extended (chain : Phrase (.chain precedence)) (links : List (Link precedence)) :
    Phrase (.chain precedence) :=
  links.foldl linked chain

@[simp] theorem extended_nil (chain : Phrase (.chain precedence)) : chain.extended [] = chain := rfl

@[simp] theorem extended_cons (chain : Phrase (.chain precedence)) (link : Link precedence)
    (links : List (Link precedence)) :
    chain.extended (link :: links) = (chain.linked link).extended links := rfl

theorem extended_append (chain : Phrase (.chain precedence)) (links more : List (Link precedence)) :
    chain.extended (links ++ more) = (chain.extended links).extended more := List.foldl_append

/-- **A chain is an operand with links behind it.** -/
theorem exists_extended :
    ∀ chain : Phrase (.chain precedence), ∃ first links, chain = (single first).extended links
  | single first => ⟨first, [], rfl⟩
  | joined left operator fits right => by
    obtain ⟨first, links, h⟩ := exists_extended left
    refine ⟨first, links ++ [⟨operator, fits, right⟩], ?_⟩
    rw [extended_append, ← h]
    rfl

theorem tokens_extended (chain : Phrase (.chain precedence)) (links : List (Link precedence)) :
    (chain.extended links).tokens = chain.tokens ++ links.flatMap Link.tokens := by
  induction links generalizing chain with
  | nil => exact (List.append_nil _).symm
  | cons link links ih =>
    rw [extended_cons, ih, List.flatMap_cons, ← List.append_assoc]
    rfl

theorem nesting_extended_le_iff {chain : Phrase (.chain precedence)}
    {links : List (Link precedence)} {levels : Nat} :
    (chain.extended links).nesting ≤ levels ↔
      chain.nesting ≤ levels ∧ ∀ link ∈ links, link.operand.nesting ≤ levels := by
  induction links generalizing chain with
  | nil => simp
  | cons link links ih =>
    rw [extended_cons, ih, linked, nesting, Nat.max_le, List.forall_mem_cons, and_assoc]

/-- **No atom begins with the sign.** -/
theorem head?_tokens_atom_ne_minus (atom : Phrase .atom) (s : List Token) :
    (atom.tokens ++ s).head? ≠ some .minus := by
  cases atom <;> simp [tokens]

end Phrase

/-! ### Unambiguity -/

/-- Phrases of a category, with parentheses at most `levels` deep, are found in front of tokens
before which they end. -/
def Category.IsUnambiguous (category : Category) (levels : Nat) : Prop :=
  ∀ (p q : Phrase category) (s t : List Token), p.nesting ≤ levels →
    p.tokens ++ s = q.tokens ++ t → category.Stops s → category.Stops t → p = q ∧ s = t

namespace Category.IsUnambiguous

variable {levels : Nat}

/-- Atoms are unambiguous because their first token says what they are, and a group ends with a
parenthesis before which every sum ends. -/
theorem atom (h : ∀ fewer < levels, Category.sum.IsUnambiguous fewer) :
    Category.atom.IsUnambiguous levels
  | .literal digits, .literal digits', s, t, _, heq, _, _ => by
    obtain ⟨hd, hs⟩ := List.cons.inj heq
    exact ⟨congrArg Phrase.literal (Token.number.inj hd), hs⟩
  | .group inner, .group inner', s, t, hn, heq, _, _ => by
    have inside : inner.tokens ++ (.closing :: s) = inner'.tokens ++ (.closing :: t) := by
      simpa [Phrase.tokens] using heq
    obtain ⟨rfl, hs⟩ := h inner.nesting hn inner inner' _ _ (Nat.le_refl _) inside
      (stops_closing _) (stops_closing _)
    exact ⟨rfl, (List.cons.inj hs).2⟩
  | .literal _, .group _, _, _, _, heq, _, _ => by simp [Phrase.tokens] at heq
  | .group _, .literal _, _, _, _, heq, _, _ => by simp [Phrase.tokens] at heq

theorem factor (h : Category.atom.IsUnambiguous levels) : Category.factor.IsUnambiguous levels
  | .unsigned p, .unsigned q, s, t, hn, heq, _, _ =>
    (h p q s t hn heq stops_atom stops_atom).imp_left (congrArg _)
  | .negated p, .negated q, s, t, hn, heq, _, _ =>
    (h p q s t hn (List.cons.inj heq).2 stops_atom stops_atom).imp_left (congrArg _)
  | .unsigned p, .negated _, s, _, _, heq, _, _ =>
    absurd (heq ▸ rfl) (p.head?_tokens_atom_ne_minus s)
  | .negated _, .unsigned q, _, t, _, heq, _, _ =>
    absurd (heq ▸ rfl) (q.head?_tokens_atom_ne_minus t)

/-- Links are compared one after another. -/
theorem links {precedence : Precedence} (h : precedence.operand.IsUnambiguous levels)
    {s t : List Token} (hs : (chain precedence).Stops s) (ht : (chain precedence).Stops t) :
    ∀ ls ls' : List (Link precedence), (∀ link ∈ ls, link.operand.nesting ≤ levels) →
      ls.flatMap Link.tokens ++ s = ls'.flatMap Link.tokens ++ t → ls = ls' ∧ s = t
  | [], [], _, heq => ⟨rfl, heq⟩
  | [], link :: _, _, heq => by
    rw [List.flatMap_nil, List.nil_append] at heq
    exact absurd (heq ▸ hs) (not_stops_operator link.fits)
  | link :: _, [], _, heq => by
    rw [List.flatMap_nil, List.nil_append] at heq
    exact absurd (heq ▸ ht) (not_stops_operator link.fits)
  | ⟨operator, fits, operand⟩ :: ls, ⟨operator', fits', operand'⟩ :: ls', hn, heq => by
    obtain ⟨hn, hns⟩ := List.forall_mem_cons.1 hn
    simp only [List.flatMap_cons, Link.tokens, List.cons_append, List.append_assoc] at heq
    obtain ⟨ho, hoperands⟩ := List.cons.inj heq
    obtain ⟨rfl, hlinks⟩ :=
      h operand operand' _ _ hn hoperands (hs.links ls) (ht.links ls')
    obtain ⟨rfl, hend⟩ := links h hs ht ls ls' hns hlinks
    obtain rfl := Operator.token_injective ho
    exact ⟨rfl, hend⟩

theorem chain {precedence : Precedence} (h : precedence.operand.IsUnambiguous levels) :
    (Category.chain precedence).IsUnambiguous levels := by
  intro p q s t hn heq hs ht
  obtain ⟨first, ls, rfl⟩ := p.exists_extended
  obtain ⟨first', ls', rfl⟩ := q.exists_extended
  obtain ⟨hn, hns⟩ := Phrase.nesting_extended_le_iff.1 hn
  rw [Phrase.tokens_extended, Phrase.tokens_extended, List.append_assoc, List.append_assoc] at heq
  obtain ⟨rfl, hlinks⟩ := h first first' _ _ hn heq (hs.links ls) (ht.links ls')
  obtain ⟨rfl, hend⟩ := links h hs ht ls ls' hns hlinks
  exact ⟨rfl, hend⟩

theorem sum (levels : Nat) : Category.sum.IsUnambiguous levels := by
  induction levels using Nat.strongRecOn with
  | ind levels ih => exact chain (chain (factor (atom ih)))

end Category.IsUnambiguous

/-- **Tokens are one expression at most.** -/
theorem Phrase.tokens_injective {p q : Phrase .sum} (h : p.tokens = q.tokens) : p = q :=
  (Category.IsUnambiguous.sum p.nesting p q [] [] (Nat.le_refl _) (by rw [h])
    (Category.stops_nil _) (Category.stops_nil _)).1

end Calculator
