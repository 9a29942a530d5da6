/-
# What the rules read

Each rule reads the phrases of its category and no others.  A rule is complete
when it takes a phrase that stands at the front of a rest, all of it and
nothing more, and finds its outcome; the phrase must end there, and its
parentheses must not nest deeper than the rule goes.  A rule is sound when
whatever it takes without calling it malformed is such a phrase.  Both together
are `Rule.Recognizes`.

Every way to build a rule from others keeps this property, and each has its
theorem: `Rule.recognizes_operand`, `Rule.recognizes_signed` and
`Rule.recognizes_chain`.  The rules of the grammar follow by induction on the
levels that are left (`Rule.recognizes_ofCategory`).  In a chain the induction
for completeness is on the links of the phrase and that for soundness on the run
of the rule.
-/

import Calculator.Proofs.Literal
import Calculator.Proofs.Phrase
import Calculator.Proofs.Unambiguity
import Calculator.Rule

namespace Calculator

/-! ### Reading tokens -/

theorem Token.operator?_eq_some_iff {token : Token} {operator : Operator} :
    token.operator? = some operator ↔ token = operator.token := by
  cases token <;> cases operator <;> simp [Token.operator?, Operator.token]

/-- A token that a rule can read: the bytes of a number are digits. -/
def Token.IsReadable : Token → Prop
  | number digits => ∀ byte ∈ Utf8.encode digits, 48 ≤ byte.toNat
  | _ => True

instance : DecidablePred Token.IsReadable
  | .number digits => inferInstanceAs (Decidable (∀ byte ∈ Utf8.encode digits, 48 ≤ byte.toNat))
  | .plus | .minus | .star | .slash | .opening | .closing | .blank =>
    inferInstanceAs (Decidable True)

namespace Rest

/-- The tokens not taken yet. -/
def tokens (rest : Rest) : List Token := rest.lexemes.map Lexeme.token

/-- All tokens that are left can be read. -/
def IsReadable (rest : Rest) : Prop := ∀ token ∈ rest.tokens, token.IsReadable

instance (rest : Rest) : Decidable rest.IsReadable :=
  inferInstanceAs (Decidable (∀ token ∈ rest.tokens, token.IsReadable))

/-- **Taking tokens leads from one rest to another.** -/
def Reads (earlier : Rest) (tokens : List Token) (later : Rest) : Prop :=
  ∃ taken, taken.map Lexeme.token = tokens ∧ earlier = ⟨taken ++ later.lexemes, later.stop⟩

theorem token?_eq_head? (rest : Rest) : rest.token? = rest.tokens.head? := List.head?_map.symm

theorem IsReadable.of_isSuffix {earlier later : Rest} (h : earlier.IsReadable)
    (taken : later.IsSuffix earlier) : later.IsReadable := by
  intro token ht
  obtain ⟨lexeme, hl, rfl⟩ := List.mem_map.1 ht
  exact h _ (List.mem_map_of_mem (taken.1.subset hl))

theorem IsReadable.advance {rest : Rest} (h : rest.IsReadable) : rest.advance.IsReadable :=
  h.of_isSuffix (.advance rest)

theorem IsReadable.of_token? {rest : Rest} (h : rest.IsReadable) {token : Token}
    (ht : rest.token? = some token) : token.IsReadable :=
  h token (List.mem_of_mem_head? (rest.token?_eq_head? ▸ ht))

@[simp] theorem reads_nil {earlier later : Rest} : earlier.Reads [] later ↔ earlier = later := by
  constructor
  · rintro ⟨taken, h, rfl⟩
    rw [List.map_eq_nil_iff.1 h]
    rfl
  · rintro rfl
    exact ⟨[], rfl, rfl⟩

theorem reads_cons {earlier later : Rest} {token : Token} {tokens : List Token} :
    earlier.Reads (token :: tokens) later ↔
      earlier.token? = some token ∧ earlier.advance.Reads tokens later := by
  constructor
  · rintro ⟨taken, h, rfl⟩
    obtain ⟨lexeme, later', rfl, rfl, h'⟩ := List.map_eq_cons_iff.1 h
    exact ⟨rfl, later', h', rfl⟩
  · rintro ⟨ht, taken, h, ha⟩
    obtain ⟨lexemes, stop⟩ := earlier
    cases lexemes with
    | nil => cases ht
    | cons lexeme lexemes =>
      obtain ⟨rfl, rfl⟩ := Rest.mk.inj ha
      exact ⟨lexeme :: taken, by rw [List.map_cons, h, Option.some.inj ht], rfl⟩

theorem reads_append {earlier later : Rest} {s t : List Token} :
    earlier.Reads (s ++ t) later ↔ ∃ middle, earlier.Reads s middle ∧ middle.Reads t later := by
  induction s generalizing earlier with
  | nil => simp
  | cons token s ih => simp only [List.cons_append, reads_cons, ih, exists_and_left, and_assoc]

theorem Reads.tokens_eq {earlier later : Rest} {tokens : List Token}
    (h : earlier.Reads tokens later) : earlier.tokens = tokens ++ later.tokens := by
  obtain ⟨taken, rfl, rfl⟩ := h
  exact List.map_append

theorem Reads.isSuffix {earlier later : Rest} {tokens : List Token}
    (h : earlier.Reads tokens later) : later.IsSuffix earlier := by
  obtain ⟨taken, rfl, rfl⟩ := h
  exact ⟨List.suffix_append .., rfl⟩

theorem operator?_eq_some_iff {rest : Rest} {precedence : Precedence} {operator : Operator} :
    rest.operator? precedence = some operator ↔
      rest.token? = some operator.token ∧ operator.precedence = precedence := by
  simp [operator?, Option.filter_eq_some_iff, Option.bind_eq_some_iff, Token.operator?_eq_some_iff]

/-- No operator of a precedence comes next where a chain of it ends. -/
theorem operator?_eq_none_of_stops {rest : Rest} {precedence : Precedence}
    (h : (Category.chain precedence).Stops rest.tokens) : rest.operator? precedence = none := by
  cases found : rest.operator? precedence with
  | none => rfl
  | some operator =>
    obtain ⟨next, fits⟩ := operator?_eq_some_iff.1 found
    refine absurd (Category.extendedBy_chain_iff.2 (.inl fits)) (h operator ?_)
    rw [← token?_eq_head?, next, Option.bind_some, Operator.operator?_token]

end Rest

/-! ### Rules and phrases -/

namespace Rule

/-- **A rule recognizes a category** of phrases, with parentheses at most `levels` deep. -/
structure Recognizes (rule : Rule) (category : Category) (levels : Nat) : Prop where
  /-- A phrase that ends before what is behind it is taken, exactly, and has its outcome. -/
  complete : ∀ {rest later : Rest} (phrase : Phrase category), phrase.nesting ≤ levels →
    rest.IsReadable → rest.Reads phrase.tokens later → category.Stops later.tokens →
      (rule.run rest).result = ⟨phrase.outcome, later⟩
  /-- What is taken and is not malformed is a phrase with that outcome. -/
  sound : ∀ {rest : Rest}, rest.IsReadable →
    ¬ .malformed ∈ (rule.run rest).result.outcome.faults →
      ∃ phrase : Phrase category, phrase.nesting ≤ levels ∧
        rest.Reads phrase.tokens (rule.run rest).result.rest ∧
          (rule.run rest).result.outcome = phrase.outcome

/-! #### Literals and groups -/

section Operand

variable {group : Rule} {rest : Rest}

theorem run_operand_number {digits : List Char} (h : rest.token? = some (.number digits)) :
    (operand group).run rest = (⟨·, rest.advance⟩) <$> literal digits rest.column := by
  simp only [operand, h]

theorem run_operand_opening (h : rest.token? = some .opening) :
    (operand group).run rest = group.run rest := by
  simp only [operand, h]

/-- **A missing operand is left where it is,** and stands for the placeholder. -/
theorem result_operand_missing (number : ∀ digits, rest.token? ≠ some (.number digits))
    (opening : rest.token? ≠ some .opening) :
    ((operand group).run rest).result = ⟨.flagged Value.placeholder .malformed, rest⟩ := by
  unfold operand
  dsimp only
  split
  · next digits h => exact absurd h (number digits)
  · next h => exact absurd h opening
  · rfl

theorem malformed_operand (number : ∀ digits, rest.token? ≠ some (.number digits))
    (opening : rest.token? ≠ some .opening) :
    .malformed ∈ ((operand group).run rest).result.outcome.faults := by
  rw [result_operand_missing number opening]
  exact FaultSet.mem_singleton.2 rfl

end Operand

/-- **A rule for groups makes one for atoms.** -/
theorem recognizes_operand {group : Rule} {levels : Nat}
    (complete : ∀ {rest later : Rest} (inner : Phrase .sum), inner.nesting < levels →
      rest.IsReadable → rest.Reads (Phrase.group inner).tokens later →
        (group.run rest).result = ⟨inner.outcome, later⟩)
    (sound : ∀ {rest : Rest}, rest.IsReadable → rest.token? = some .opening →
      ¬ .malformed ∈ (group.run rest).result.outcome.faults →
        ∃ inner : Phrase .sum, inner.nesting < levels ∧
          rest.Reads (Phrase.group inner).tokens (group.run rest).result.rest ∧
            (group.run rest).result.outcome = inner.outcome) :
    (operand group).Recognizes .atom levels where
  complete := by
    intro rest later phrase hn readable reads _
    cases phrase with
    | literal digits =>
      obtain ⟨ht, ha⟩ := Rest.reads_cons.1 reads
      rw [run_operand_number ht, Run.result_map, result_literal (readable.of_token? ht),
        Rest.reads_nil.1 ha]
    | group inner =>
      obtain ⟨ht, -⟩ := Rest.reads_cons.1 reads
      rw [run_operand_opening ht]
      exact complete inner hn readable reads
  sound := by
    intro rest readable clean
    by_cases opening : rest.token? = some .opening
    · rw [run_operand_opening opening] at clean ⊢
      obtain ⟨inner, hn, reads, outcome⟩ := sound readable opening clean
      exact ⟨.group inner, hn, reads, outcome⟩
    · by_cases number : ∃ digits, rest.token? = some (.number digits)
      · obtain ⟨digits, ht⟩ := number
        rw [run_operand_number ht, Run.result_map, result_literal (readable.of_token? ht)]
        exact ⟨.literal digits, Nat.zero_le _, Rest.reads_cons.2 ⟨ht, Rest.reads_nil.2 rfl⟩, rfl⟩
      · exact absurd (malformed_operand (not_exists.1 number) opening) clean

/-- **Too deep a group** is no group at all. -/
theorem recognizes_operand_tooDeep (depth : Nat) :
    (operand (tooDeep depth)).Recognizes .atom 0 :=
  recognizes_operand (fun _ hn => absurd hn (Nat.not_lt_zero _))
    (fun _ _ clean => absurd (FaultSet.mem_singleton.2 rfl) clean)

/-- **A group is what is inside it,** if it is closed. -/
theorem result_group (depth : Nat) (inner : Rule) (rest : Rest) :
    ((group depth inner).run rest).result =
      let ⟨outcome, later⟩ := (inner.run rest.advance).result
      if later.token? = some .closing then ⟨outcome, later.advance⟩
      else ⟨outcome.record .malformed, later⟩ := by
  simp only [group, Run.result_bind]
  split <;> rfl

theorem recognizes_operand_group {inner : Rule} {levels : Nat} (depth : Nat)
    (h : inner.Recognizes .sum levels) :
    (operand (group depth inner)).Recognizes .atom (levels + 1) := by
  refine recognizes_operand ?_ ?_
  · intro rest later phrase hn readable reads
    obtain ⟨-, reads⟩ := Rest.reads_cons.1 reads
    obtain ⟨middle, inside, closing⟩ := Rest.reads_append.1 reads
    obtain ⟨ht, closed⟩ := Rest.reads_cons.1 closing
    have ends : Category.sum.Stops middle.tokens := by
      rw [closing.tokens_eq]
      exact Category.stops_closing _
    rw [result_group, h.complete phrase (Nat.le_of_lt_succ hn) readable.advance inside ends]
    simp only [ht, if_true, Rest.reads_nil.1 closed]
  · intro rest readable opening clean
    rw [result_group] at clean ⊢
    dsimp only at clean ⊢
    by_cases closing : (inner.run rest.advance).result.rest.token? = some .closing
    · rw [if_pos closing] at clean ⊢
      obtain ⟨phrase, hn, reads, outcome⟩ := h.sound readable.advance clean
      refine ⟨phrase, Nat.lt_succ_of_le hn, Rest.reads_cons.2 ⟨opening, ?_⟩, outcome⟩
      exact Rest.reads_append.2 ⟨_, reads, Rest.reads_cons.2 ⟨closing, Rest.reads_nil.2 rfl⟩⟩
    · rw [if_neg closing] at clean
      exact absurd (FaultSet.mem_insert.2 (.inl rfl)) clean

/-! #### Signs -/

theorem result_signed (operand : Rule) (rest : Rest) :
    ((signed operand).run rest).result =
      if rest.token? = some .minus then
        ⟨(operand.run rest.advance).result.outcome.map (-·), (operand.run rest.advance).result.rest⟩
      else (operand.run rest).result := by
  simp only [signed]
  split <;> rfl

/-- **A rule for atoms makes one for factors.** -/
theorem recognizes_signed {operand : Rule} {levels : Nat} (h : operand.Recognizes .atom levels) :
    (signed operand).Recognizes .factor levels where
  complete := by
    intro rest later phrase hn readable reads _
    rw [result_signed]
    cases phrase with
    | unsigned atom =>
      have head : rest.token? ≠ some .minus := by
        rw [rest.token?_eq_head?, reads.tokens_eq]
        exact atom.head?_tokens_atom_ne_minus _
      rw [if_neg head, h.complete atom hn readable reads Category.stops_atom]
      rfl
    | negated atom =>
      obtain ⟨ht, reads⟩ := Rest.reads_cons.1 reads
      rw [if_pos ht, h.complete atom hn readable.advance reads Category.stops_atom]
      rfl
  sound := by
    intro rest readable clean
    rw [result_signed] at clean ⊢
    by_cases minus : rest.token? = some .minus
    · rw [if_pos minus] at clean ⊢
      obtain ⟨atom, hn, reads, outcome⟩ := h.sound readable.advance clean
      exact ⟨.negated atom, hn, Rest.reads_cons.2 ⟨minus, reads⟩, by rw [outcome]; rfl⟩
    · rw [if_neg minus] at clean ⊢
      obtain ⟨atom, hn, reads, outcome⟩ := h.sound readable clean
      exact ⟨.unsigned atom, hn, reads, outcome⟩

/-! #### Chains -/

/-- The faults of two operands stay with what joins them. -/
theorem mem_faults_combine {operator : Operator} {left right : Outcome Int} {column : Nat}
    {fault : Fault} (h : fault ∈ left.faults ∨ fault ∈ right.faults) :
    fault ∈ (left.combine operator right column).result.faults := by
  rw [← FaultSet.mem_union] at h
  simp only [Outcome.combine, Run.result_bind]
  split
  · exact h
  · exact FaultSet.mem_insert.2 (.inr h)

theorem result_combine_outcome {precedence : Precedence} (left : Phrase (.chain precedence))
    (link : Link precedence) (column : Nat) :
    (left.outcome.combine link.operator link.operand.outcome column).result =
      (left.linked link).outcome :=
  Outcome.result_combine _ left.inRange_value_outcome link.operand.inRange_value_outcome column

section Links

variable {precedence : Precedence} {operand : Rule} {left : Outcome Int} {rest : Rest}

theorem links_of_none (h : rest.operator? precedence = none) :
    links precedence operand left rest = pure ⟨left, rest⟩ := by
  rw [links]
  split
  · rfl
  · next found => rw [h] at found; cases found

theorem result_links_of_some {operator : Operator} (h : rest.operator? precedence = some operator) :
    (links precedence operand left rest).result =
      (links precedence operand
        (left.combine operator (operand.run rest.advance).result.outcome rest.column).result
        (operand.run rest.advance).result.rest).result := by
  rw [links]
  split
  · next found => rw [h] at found; cases found
  · next found =>
    rw [h] at found
    obtain rfl := Option.some.inj found
    rfl

/-- **What is wrong with the left of a chain is wrong with the chain.** -/
theorem mem_faults_links {fault : Fault} (h : fault ∈ left.faults) :
    fault ∈ (links precedence operand left rest).result.outcome.faults := by
  fun_induction links precedence operand left rest with
  | case1 left rest none => exact h
  | case2 left rest operator some right shorter ih => exact ih _ (mem_faults_combine (.inl h))

end Links

/-- **The links of a chain are taken one after another,** up to where the chain ends. -/
theorem complete_links {precedence : Precedence} {operand : Rule} {levels : Nat}
    (h : operand.Recognizes precedence.operand levels) {later : Rest}
    (ends : (Category.chain precedence).Stops later.tokens) (ls : List (Link precedence)) :
    ∀ (chain : Phrase (.chain precedence)) {rest : Rest},
      (∀ link ∈ ls, link.operand.nesting ≤ levels) → rest.IsReadable →
        rest.Reads (ls.flatMap Link.tokens) later →
          (links precedence operand chain.outcome rest).result =
            ⟨(chain.extended ls).outcome, later⟩ := by
  induction ls with
  | nil =>
    intro chain rest _ _ reads
    obtain rfl := Rest.reads_nil.1 reads
    rw [links_of_none (Rest.operator?_eq_none_of_stops ends)]
    rfl
  | cons link ls ih =>
    intro chain rest hn readable reads
    obtain ⟨hn, hns⟩ := List.forall_mem_cons.1 hn
    rw [List.flatMap_cons, Link.tokens, List.cons_append] at reads
    obtain ⟨ht, reads⟩ := Rest.reads_cons.1 reads
    obtain ⟨middle, front, back⟩ := Rest.reads_append.1 reads
    have stops : precedence.operand.Stops middle.tokens := by
      rw [back.tokens_eq]
      exact ends.links ls
    rw [result_links_of_some (Rest.operator?_eq_some_iff.2 ⟨ht, link.fits⟩),
      h.complete link.operand hn readable.advance front stops]
    dsimp only
    rw [result_combine_outcome, Phrase.extended_cons]
    exact ih _ hns (readable.advance.of_isSuffix front.isSuffix) back

/-- **Whatever is taken as links is links,** if it is not malformed. -/
theorem sound_links {precedence : Precedence} {operand : Rule} {levels : Nat}
    (h : operand.Recognizes precedence.operand levels) {left : Outcome Int} {rest : Rest} :
    rest.IsReadable →
      ¬ .malformed ∈ (links precedence operand left rest).result.outcome.faults →
        ∀ chain : Phrase (.chain precedence), left = chain.outcome →
          ∃ ls : List (Link precedence), (∀ link ∈ ls, link.operand.nesting ≤ levels) ∧
            rest.Reads (ls.flatMap Link.tokens)
              (links precedence operand left rest).result.rest ∧
            (links precedence operand left rest).result.outcome = (chain.extended ls).outcome := by
  fun_induction links precedence operand left rest with
  | case1 left rest none =>
    rintro - - chain rfl
    exact ⟨[], by simp, Rest.reads_nil.2 rfl, rfl⟩
  | case2 left rest operator some right shorter ih =>
    rintro readable clean chain rfl
    obtain ⟨next, fits⟩ := Rest.operator?_eq_some_iff.1 some
    have joined : ¬ .malformed ∈
        (chain.outcome.combine operator right.result.outcome rest.column).result.faults :=
      mt mem_faults_links clean
    obtain ⟨phrase, hn, front, outcome⟩ :=
      h.sound readable.advance (mt (fun wrong => mem_faults_combine (.inr wrong)) joined)
    have linked :
        (chain.outcome.combine operator right.result.outcome rest.column).result =
          (chain.linked ⟨operator, fits, phrase⟩).outcome := by
      rw [outcome]
      exact result_combine_outcome chain ⟨operator, fits, phrase⟩ _
    obtain ⟨ls, hns, back, whole⟩ :=
      ih _ (readable.advance.of_isSuffix front.isSuffix) clean _ linked
    refine ⟨⟨operator, fits, phrase⟩ :: ls, List.forall_mem_cons.2 ⟨hn, hns⟩, ?_, whole⟩
    rw [List.flatMap_cons, Link.tokens, List.cons_append]
    exact Rest.reads_cons.2 ⟨next, Rest.reads_append.2 ⟨_, front, back⟩⟩

/-- **A rule for operands makes one for chains of them.** -/
theorem recognizes_chain {precedence : Precedence} {operand : Rule} {levels : Nat}
    (h : operand.Recognizes precedence.operand levels) :
    (chain precedence operand).Recognizes (.chain precedence) levels where
  complete := by
    intro rest later phrase hn readable reads ends
    obtain ⟨first, ls, rfl⟩ := phrase.exists_extended
    obtain ⟨hn, hns⟩ := Phrase.nesting_extended_le_iff.1 hn
    rw [Phrase.tokens_extended] at reads
    obtain ⟨middle, front, back⟩ := Rest.reads_append.1 reads
    have stops : precedence.operand.Stops middle.tokens := by
      rw [back.tokens_eq]
      exact ends.links ls
    simp only [chain, Run.result_bind, h.complete first hn readable front stops]
    exact complete_links h ends ls (.single first) hns (readable.of_isSuffix front.isSuffix) back
  sound := by
    intro rest readable clean
    simp only [chain, Run.result_bind] at clean ⊢
    obtain ⟨first, hn, front, outcome⟩ := h.sound readable (mt mem_faults_links clean)
    obtain ⟨ls, hns, back, whole⟩ :=
      sound_links h (readable.of_isSuffix front.isSuffix) clean (.single first) outcome
    refine ⟨(Phrase.single first).extended ls, Phrase.nesting_extended_le_iff.2 ⟨hn, hns⟩, ?_,
      whole⟩
    rw [Phrase.tokens_extended]
    exact Rest.reads_append.2 ⟨_, front, back⟩

/-! ### The rules of the grammar -/

theorem recognizes_atomWithin (levels depth : Nat) :
    (atomWithin levels depth).Recognizes .atom levels := by
  induction levels generalizing depth with
  | zero => exact recognizes_operand_tooDeep depth
  | succ levels ih =>
    exact recognizes_operand_group depth
      (recognizes_chain (recognizes_chain (recognizes_signed (ih (depth + 1)))))

/-- **Under any number of open parentheses a sum is read as far as the nesting allows.** -/
theorem recognizes_sum (depth : Nat) : (sum depth).Recognizes .sum (maxNesting - depth) :=
  recognizes_chain (recognizes_chain (recognizes_signed (recognizes_atomWithin _ depth)))

/-- The rule of each category, under `depth` open parentheses. -/
def ofCategory (depth : Nat) : Category → Rule
  | .atom => atom depth
  | .factor => factor depth
  | .chain .multiplicative => product depth
  | .chain .additive => sum depth

/-- **Each rule recognizes its category,** as deep as the nesting still allows. -/
theorem recognizes_ofCategory (depth : Nat) (category : Category) :
    (ofCategory depth category).Recognizes category (maxNesting - depth) := by
  have atom := recognizes_atomWithin (maxNesting - depth) depth
  have factor := recognizes_signed atom
  cases category with
  | atom => exact atom
  | factor => exact factor
  | chain precedence =>
    cases precedence with
    | multiplicative => exact recognizes_chain factor
    | additive => exact recognizes_sum depth

end Rule

/-- Tokens in front of what is left are read up to what is behind them. -/
theorem Rest.exists_reads {rest : Rest} {tokens more : List Token}
    (h : rest.tokens = tokens ++ more) :
    ∃ later, rest.Reads tokens later ∧ later.tokens = more := by
  obtain ⟨taken, behind, split, rfl, rfl⟩ := List.map_eq_append_iff.1 h
  exact ⟨⟨behind, rest.stop⟩, ⟨taken, rfl, by rw [← split]⟩, rfl⟩

/-- **Each rule reads the phrases of its category and no others,** wherever it starts and however
many parentheses are open there.  What it takes without calling it malformed is a phrase that nests
no deeper than is left, and it finds the outcome of that phrase.  And where such a phrase comes
next, and ends there, it takes that phrase and nothing more, and does not call it malformed. -/
theorem rules_read_their_category (depth : Nat) (category : Category) {rest : Rest}
    (readable : rest.IsReadable) :
    let found := ((Rule.ofCategory depth category).run rest).result
    (¬ .malformed ∈ found.outcome.faults →
      ∃ phrase : Phrase category, phrase.nesting ≤ maxNesting - depth ∧
        rest.Reads phrase.tokens found.rest ∧ found.outcome = phrase.outcome) ∧
    ∀ tokens more, Derivable category (maxNesting - depth) tokens → rest.tokens = tokens ++ more →
      category.Stops more →
        rest.Reads tokens found.rest ∧ ¬ .malformed ∈ found.outcome.faults := by
  have recognizes := Rule.recognizes_ofCategory depth category
  refine ⟨recognizes.sound readable, ?_⟩
  rintro _ more ⟨phrase, nested, rfl⟩ next stops
  obtain ⟨later, reads, rfl⟩ := Rest.exists_reads next
  rw [recognizes.complete phrase nested readable reads stops]
  exact ⟨reads, phrase.malformed_not_mem_faults_outcome⟩

/-- With one level left a product with a group is taken up to the parenthesis behind it; a factor
is taken up to the operator behind it. -/
theorem rules_read_their_category_product :
    (∃ later, Rest.Reads ⟨[⟨.minus, 0⟩, ⟨.opening, 1⟩, ⟨.number ['2'], 2⟩, ⟨.closing, 3⟩,
          ⟨.star, 4⟩, ⟨.number ['3'], 5⟩, ⟨.closing, 6⟩], 7⟩
        [.minus, .opening, .number ['2'], .closing, .star, .number ['3']] later) ∧
      ∃ phrase : Phrase .factor,
        Rest.Reads ⟨[⟨.minus, 0⟩, ⟨.number ['2'], 1⟩, ⟨.plus, 2⟩], 3⟩ phrase.tokens
          ⟨[⟨.plus, 2⟩], 3⟩ := by
  constructor
  · let inner : Phrase .sum := .single (.single (.unsigned (.literal ['2'])))
    let whole : Phrase (.chain .multiplicative) :=
      .joined (.single (.negated (.group inner))) .times rfl (.unsigned (.literal ['3']))
    obtain ⟨-, complete⟩ := @rules_read_their_category 255 (.chain .multiplicative)
      ⟨[⟨.minus, 0⟩, ⟨.opening, 1⟩, ⟨.number ['2'], 2⟩, ⟨.closing, 3⟩, ⟨.star, 4⟩,
        ⟨.number ['3'], 5⟩, ⟨.closing, 6⟩], 7⟩ (by decide +kernel)
    exact ⟨_, (complete whole.tokens [.closing] ⟨whole, by decide, rfl⟩ rfl
      (Category.stops_closing _)).1⟩
  · obtain ⟨sound, -⟩ := @rules_read_their_category 0 .factor
      ⟨[⟨.minus, 0⟩, ⟨.number ['2'], 1⟩, ⟨.plus, 2⟩], 3⟩ (by decide +kernel)
    obtain ⟨phrase, -, reads, -⟩ := sound (by decide +kernel)
    have left : ((Rule.ofCategory 0 .factor).run
        ⟨[⟨.minus, 0⟩, ⟨.number ['2'], 1⟩, ⟨.plus, 2⟩], 3⟩).result.rest = ⟨[⟨.plus, 2⟩], 3⟩ := by
      decide +kernel
    rw [left] at reads
    exact ⟨phrase, reads⟩

end Calculator
