import MessageForge.Proofs.Readers
import MessageForge.Source.Grammar.Statements

/-!
# Generated expressions

The expressions of generated code are names with members and calls of them. An
expression ends before a symbol that no expression goes on with, so that what
is read up to there is the same at every level of the grammar.
-/

namespace MessageForge.Source

open Reader

variable {kinds before rest : List TokenKind} {next : TokenKind} {depth : Nat}

/-- The tokens before which expressions end in generated code. -/
def expressionEnds : List TokenKind :=
  [.newline, .symbol .comma, .symbol .closeParen, .symbol .colon]

theorem forall_expressionEnds {p : TokenKind → Prop} :
    (∀ next ∈ expressionEnds, p next) ↔
      p .newline ∧ p (.symbol .comma) ∧ p (.symbol .closeParen) ∧ p (.symbol .colon) := by
  simp [expressionEnds]

theorem cases_expressionEnds (h : next ∈ expressionEnds) :
    next = .newline ∨ next = .symbol .comma ∨ next = .symbol .closeParen ∨
      next = .symbol .colon := by
  simpa [expressionEnds] using h

/-- Tokens of these kinds are read as one expression, wherever it is followed
by one of the ends. -/
structure TakesExpression (need : Nat) (kinds : List TokenKind) : Prop where
  starts : startsExpression (frontKind kinds) = true
  reads : ∀ depth, need ≤ depth → ∀ next ∈ expressionEnds, ∀ rest,
    Reads (partsAt depth .expression) (kinds ++ next :: rest) (next :: rest) fun _ => True

theorem TakesExpression.of_run {need : Nat} (hstarts : startsExpression (frontKind kinds) = true)
    (hrun : ∀ depth, ∀ next ∈ expressionEnds, ∀ places more, ∃ value,
      partsAt (depth + need) .expression (marked places 0 (kinds ++ [next]) ++ more) =
        .ok (value, (marked places 0 (kinds ++ [next])).drop kinds.length ++ more)) :
    TakesExpression need kinds := by
  refine ⟨hstarts, fun depth hdepth next hnext rest => ?_⟩
  have hreads : Reads (partsAt (depth - need + need) .expression) (kinds ++ [next] ++ rest)
      ((kinds ++ [next]).drop kinds.length ++ rest) fun _ => True :=
    Reads.of_run _ _ fun places more => by
      obtain ⟨value, hvalue⟩ := hrun (depth - need) next hnext places more
      exact ⟨value, hvalue, trivial⟩
  rw [Nat.sub_add_cancel hdepth, List.append_assoc, List.drop_left, List.singleton_append] at hreads
  exact hreads

theorem takesExpression_name (id : Text) : TakesExpression 1 [.name id] :=
  .of_run rfl fun _ => forall_expressionEnds.mpr
    ⟨fun _ _ => ⟨_, rfl⟩, fun _ _ => ⟨_, rfl⟩, fun _ _ => ⟨_, rfl⟩, fun _ _ => ⟨_, rfl⟩⟩

theorem takesExpression_none : TakesExpression 1 [.keyword .noneWord] :=
  .of_run rfl fun _ => forall_expressionEnds.mpr
    ⟨fun _ _ => ⟨_, rfl⟩, fun _ _ => ⟨_, rfl⟩, fun _ _ => ⟨_, rfl⟩, fun _ _ => ⟨_, rfl⟩⟩

/-- A name or nothing, as the optional values of generated code are annotated. -/
theorem takesExpression_optional (id : Text) :
    TakesExpression 1 [.name id, .symbol (.binary .bitOr), .keyword .noneWord] :=
  .of_run rfl fun _ => forall_expressionEnds.mpr
    ⟨fun _ _ => ⟨_, rfl⟩, fun _ _ => ⟨_, rfl⟩, fun _ _ => ⟨_, rfl⟩, fun _ _ => ⟨_, rfl⟩⟩

/-- A type with two parameters. -/
theorem takesExpression_pair (id first second : Text) :
    TakesExpression 2 [.name id, .symbol .openBracket, .name first, .symbol .comma, .name second,
      .symbol .closeBracket] :=
  .of_run rfl fun _ => forall_expressionEnds.mpr
    ⟨fun _ _ => ⟨_, rfl⟩, fun _ _ => ⟨_, rfl⟩, fun _ _ => ⟨_, rfl⟩, fun _ _ => ⟨_, rfl⟩⟩

/-- A member of a member. -/
theorem takesExpression_member (id first second : Text) :
    TakesExpression 1 [.name id, .symbol .dot, .name first, .symbol .dot, .name second] :=
  .of_run rfl fun _ => forall_expressionEnds.mpr
    ⟨fun _ _ => ⟨_, rfl⟩, fun _ _ => ⟨_, rfl⟩, fun _ _ => ⟨_, rfl⟩, fun _ _ => ⟨_, rfl⟩⟩

/-! ## From operands to expressions -/

section Levels

variable {reader : Reader Operand}

theorem Reads.binaryLevel (belongs : BinaryOp → Bool) (hnext : next ∈ expressionEnds)
    (h : Reads reader before (next :: rest) fun _ => True) :
    Reads (binaryLevel belongs reader) before (next :: rest) fun _ => True := by
  refine Reads.bind h fun value _ => (Reads.extend_none ?_).mono fun _ _ => trivial
  refine Reads.bind Reads.peek fun kind hkind => ?_
  rw [hkind]
  rcases cases_expressionEnds hnext with rfl | rfl | rfl | rfl
  all_goals exact Reads.pure rfl

theorem Reads.booleanLevel (op : BoolOp) (word : Keyword) (hnext : next ∈ expressionEnds)
    (h : Reads reader before (next :: rest) fun _ => True) :
    Reads (booleanLevel op word reader) before (next :: rest) fun _ => True := by
  refine Reads.bind h fun value _ => ?_
  have hstop : Reads (Reader.nextIsWord word) (next :: rest) (next :: rest) (· = false) := by
    refine Reads.nextIsWord.mono fun value hvalue => ?_
    rw [hvalue]
    rcases cases_expressionEnds hnext with rfl | rfl | rfl | rfl
    all_goals rfl
  refine Reads.bind (Reads.many_none hstop) fun values hvalues => ?_
  rw [hvalues]
  exact Reads.pure trivial

theorem Reads.power {parts : Parts} (hword : frontKind before ≠ .keyword .awaitWord)
    (hnext : next ∈ expressionEnds)
    (h : Reads (primary parts) before (next :: rest) fun _ => True) :
    Reads (power parts) before (next :: rest) fun _ => True := by
  have hawaited : Reads (awaited parts) before (next :: rest) fun _ => True := by
    refine Reads.bind Reads.nextLine fun _ _ => ?_
    refine Reads.bind (Reads.accept_other ?_) fun value hvalue => ?_
    · intro heq
      rw [frontKind, heq] at hword
      exact hword rfl
    · rw [hvalue]
      exact h
  refine Reads.bind hawaited fun base _ => ?_
  refine Reads.bind (Reads.accept_other ?_) fun value hvalue => ?_
  · rcases cases_expressionEnds hnext with rfl | rfl | rfl | rfl
    all_goals simp [doubleStarSymbol]
  · rw [hvalue]
    exact Reads.pure trivial

theorem Reads.comparison {parts : Parts} (hnext : next ∈ expressionEnds)
    (h : Reads (bitOr parts) before (next :: rest) fun _ => True) :
    Reads (comparison parts) before (next :: rest) fun _ => True := by
  refine Reads.bind h fun left _ => ?_
  have hnone : Reads compareOp (next :: rest) (next :: rest) (· = none) := by
    refine Reads.bind Reads.peek fun kind hkind => Reads.bind Reads.peekSecond fun _ _ => ?_
    rw [hkind]
    rcases cases_expressionEnds hnext with rfl | rfl | rfl | rfl
    all_goals exact Reads.pure rfl
  refine Reads.bind (Reads.extend_none (Reads.bind hnone fun op hop => ?_)) fun found hfound => ?_
  · rw [hop]
    exact Reads.pure rfl
  · rw [hfound]
    exact Reads.pure trivial

theorem Reads.refuseAdjacent (parts : Parts) (softly : Bool) (first : Operand)
    (hnext : next ∈ expressionEnds) :
    Reads (refuseAdjacent parts softly first) (next :: rest) (next :: rest) fun _ => True := by
  have hwithin : Reads withinBrackets (next :: rest) (next :: rest) fun _ => True := by
    refine Reads.bind Reads.remaining fun tokens htokens => ?_
    cases tokens with
    | nil => exact Reads.pure trivial
    | cons token more => exact Reads.pure trivial
  refine Reads.bind Reads.peek fun kind hkind => Reads.bind hwithin fun within _ => ?_
  rw [hkind]
  rcases cases_expressionEnds hnext with rfl | rfl | rfl | rfl
  all_goals exact Reads.pure trivial

/-- The kinds of tokens that generated expressions begin with, behind which no
operator can have been read. -/
def TokenKind.IsOperand (kind : TokenKind) : Prop :=
  (∃ id, kind = .name id) ∨ ∃ token, kind = .string token

/-- Names and literals with what follows them are expressions. -/
theorem Reads.expression_of_primary {first : TokenKind} (hfirst : first.IsOperand)
    (hnext : next ∈ expressionEnds)
    (h : Reads (primary (partsAt depth)) (first :: kinds) (next :: rest) fun _ => True) :
    Reads (partsAt (depth + 1) .expression) (first :: kinds) (next :: rest) fun _ => True := by
  have hfactor : Reads (factor (partsAt depth)) (first :: kinds) (next :: rest)
      fun _ => True := by
    refine Reads.bind Reads.nextLine fun _ _ => Reads.bind Reads.peek fun kind hkind => ?_
    rw [hkind]
    rcases hfirst with ⟨id, rfl⟩ | ⟨token, rfl⟩
    all_goals exact h.power (fun heq => TokenKind.noConfusion heq) hnext
  have hbitOr : Reads (bitOr (partsAt depth)) (first :: kinds) (next :: rest) fun _ => True :=
    (((((hfactor.binaryLevel _ hnext).binaryLevel _ hnext).binaryLevel _ hnext).binaryLevel _
      hnext).binaryLevel _ hnext).binaryLevel _ hnext
  have hinversion : Reads (inversion (partsAt depth)) (first :: kinds) (next :: rest)
      fun _ => True := by
    refine Reads.bind Reads.nextLine fun _ _ => ?_
    refine Reads.bind (Reads.accept_other ?_) fun value hvalue => ?_
    · rcases hfirst with ⟨id, rfl⟩ | ⟨token, rfl⟩
      all_goals exact fun heq => nomatch heq
    · rw [hvalue]
      exact hbitOr.comparison hnext
  have hdisjunction : Reads (disjunction (partsAt depth)) (first :: kinds) (next :: rest)
      fun _ => True :=
    (hinversion.booleanLevel _ _ hnext).booleanLevel _ _ hnext
  have hsoftly : Reads beginsSoftly (first :: kinds) (first :: kinds) fun _ => True := by
    refine Reads.bind Reads.peek fun kind hkind => Reads.bind Reads.peekSecond fun second _ => ?_
    rw [hkind]
    rcases hfirst with ⟨id, rfl⟩ | ⟨token, rfl⟩
    all_goals cases second
    all_goals exact Reads.pure trivial
  have hlambda : decide (frontKind (first :: kinds) = .keyword .lambdaWord) = false := by
    rcases hfirst with ⟨id, rfl⟩ | ⟨token, rfl⟩
    all_goals rfl
  show Reads (expression (partsAt depth)) _ _ _
  refine Reads.bind Reads.nextIsWord fun value hvalue => ?_
  rw [hvalue, hlambda]
  refine Reads.bind hsoftly fun softly _ => Reads.bind hdisjunction fun body _ => ?_
  refine Reads.bind (Reads.accept_other ?_) fun value hvalue => ?_
  · rcases cases_expressionEnds hnext with rfl | rfl | rfl | rfl
    all_goals exact fun heq => nomatch heq
  · rw [hvalue]
    exact Reads.bind (Reads.refuseAdjacent _ _ _ hnext) fun _ _ => Reads.pure trivial

end Levels

/-! ## Calls -/

theorem ne_nil_of_starts (h : startsExpression (frontKind kinds) = true) : kinds ≠ [] := by
  rintro rfl
  cases h

/-- The tokens before which an argument ends. -/
def argumentEnds : List TokenKind :=
  [.symbol .comma, .symbol .closeParen]

theorem cases_argumentEnds (h : next ∈ argumentEnds) :
    next = .symbol .comma ∨ next = .symbol .closeParen := by
  simpa [argumentEnds] using h

theorem mem_expressionEnds_of_argumentEnds (h : next ∈ argumentEnds) : next ∈ expressionEnds := by
  rcases cases_argumentEnds h with rfl | rfl
  · simp [expressionEnds]
  · simp [expressionEnds]

/-- So far all arguments stand in their places. -/
structure ArgumentState.IsPositional (state : ArgumentState) : Prop where
  keywords : state.keywords = []
  misplaced : state.misplaced = false

theorem Reads.argument_positional {kind : TokenKind} {start : Nat} {state : ArgumentState}
    (hkind : (∃ id, kind = .name id) ∨ kind = .keyword .falseWord) (hnext : next ∈ argumentEnds)
    (hstate : state.IsPositional) :
    Reads (argument (partsAt (depth + 1)) start true state) (kind :: next :: rest) (next :: rest)
      ArgumentState.IsPositional := by
  have hwell : ∀ expr, (state.addPositional expr false).IsPositional := fun expr => by
    refine ⟨hstate.keywords, ?_⟩
    simp [ArgumentState.addPositional, hstate.keywords, hstate.misplaced]
  rcases hkind with ⟨id, rfl⟩ | rfl
  · rcases cases_argumentEnds hnext with rfl | rfl
    · exact Reads.of_run [.name id, .symbol .comma] 1 fun _ _ => ⟨_, rfl, hwell _⟩
    · exact Reads.of_run [.name id, .symbol .closeParen] 1 fun _ _ => ⟨_, rfl, hwell _⟩
  · rcases cases_argumentEnds hnext with rfl | rfl
    · exact Reads.of_run [.keyword .falseWord, .symbol .comma] 1 fun _ _ => ⟨_, rfl, hwell _⟩
    · exact Reads.of_run [.keyword .falseWord, .symbol .closeParen] 1 fun _ _ => ⟨_, rfl, hwell _⟩

theorem Reads.argument_keyword {id : Text} {start : Nat} {state : ArgumentState}
    (hnext : next ∈ argumentEnds) (hstate : state.misplaced = false)
    (h : Reads (partsAt depth .expression) (kinds ++ next :: rest) (next :: rest) fun _ => True) :
    Reads (argument (partsAt depth) start true state)
      (.name id :: .symbol .assign :: (kinds ++ next :: rest)) (next :: rest)
      fun after => after.misplaced = false := by
  have hclause : Reads startsClause (next :: rest) (next :: rest) (· = false) := by
    refine Reads.bind Reads.peek fun kind hkind => ?_
    rw [hkind]
    rcases cases_argumentEnds hnext with rfl | rfl
    all_goals exact Reads.pure rfl
  refine Reads.bind Reads.nextLine fun _ _ => Reads.bind Reads.peek fun kind hkind =>
    Reads.bind Reads.peekSecond fun second hsecond => ?_
  rw [hkind, hsecond]
  refine Reads.bind Reads.skip fun _ _ => Reads.bind Reads.skip fun _ _ => Reads.bind h fun _ _ => ?_
  refine Reads.bind hclause fun clause hclause => ?_
  rw [hclause]
  exact Reads.pure hstate

section Arguments

variable {ι : Type} {parts : Parts} {spell : ι → List TokenKind} {items : List ι}
  {stop : List TokenKind} {good : ArgumentState → Prop}

/-- An argument behind a comma. -/
def behindComma (spell : ι → List TokenKind) (item : ι) : List TokenKind :=
  .symbol .comma :: spell item

/-- Behind items with commas before them comes a comma or what comes at last. -/
theorem exists_front_behindComma (spell : ι → List TokenKind) (items : List ι) {p : TokenKind → Prop}
    (hcomma : p (.symbol .comma)) (hstop : ∃ next rest, stop = next :: rest ∧ p next) :
    ∃ next rest, items.flatMap (behindComma spell) ++ stop = next :: rest ∧ p next := by
  cases items with
  | nil => exact hstop
  | cons item back => exact ⟨_, _, rfl, hcomma⟩

/-- Arguments with commas between them and possibly behind the last. -/
theorem Reads.arguments {first : List TokenKind}
    (hopen : (first ++ (items.flatMap (behindComma spell) ++ stop)).head? ≠
      some (.symbol .closeParen))
    (hfirst : ∀ start, ∀ next ∈ argumentEnds, ∀ rest,
      Reads (argument parts start true {}) (first ++ next :: rest) (next :: rest) good)
    (hitems : ∀ item ∈ items, (∀ rest, frontKind (spell item ++ rest) ≠ .symbol .closeParen) ∧
      ∀ start state, good state → ∀ next ∈ argumentEnds, ∀ rest,
        Reads (argument parts start true state) (spell item ++ next :: rest) (next :: rest) good)
    (hstop : stop = .symbol .closeParen :: rest ∨
      stop = .symbol .comma :: .symbol .closeParen :: rest)
    (hplaced : ∀ state, good state → state.misplaced = false) :
    Reads (arguments parts true) (first ++ (items.flatMap (behindComma spell) ++ stop)) rest
      fun _ => True := by
  have hend : ∃ next rest, stop = next :: rest ∧ next ∈ argumentEnds := by
    rcases hstop with rfl | rfl
    · exact ⟨_, _, rfl, by simp [argumentEnds]⟩
    · exact ⟨_, _, rfl, by simp [argumentEnds]⟩
  have hnexts : ∀ back : List ι, ∃ next rest,
      back.flatMap (behindComma spell) ++ stop = next :: rest ∧ next ∈ argumentEnds :=
    fun back => exists_front_behindComma spell back (by simp [argumentEnds]) hend
  refine Reads.bind (Reads.accept_other hopen) fun value hvalue => ?_
  rw [hvalue]
  refine Reads.bind Reads.nextLine fun start _ => ?_
  obtain ⟨next, more, hmore, hnext⟩ := hnexts items
  have hfirst' := hfirst start next hnext more
  rw [← hmore] at hfirst'
  refine Reads.bind hfirst' fun state hstate => ?_
  refine Reads.bind (show Reads _ _ (.symbol .closeParen :: rest) good from
    Reads.extend (fun _ _ => List.cons_ne_nil _ _) ?_ ?_ hstate) fun state hstate => ?_
  · intro front item back heq state hstate
    have hmem : item ∈ items := heq ▸ List.mem_append_right _ (List.mem_cons_self ..)
    obtain ⟨hnone, hitem⟩ := hitems item hmem
    obtain ⟨next, more, hmore, hnext⟩ := hnexts back
    rw [hmore]
    refine Reads.bind Reads.nextIs fun value hvalue => ?_
    rw [hvalue]
    refine Reads.bind Reads.skip fun _ _ => ?_
    have hgoesOn : Reads (Reader.nextIs .closeParen) (spell item ++ next :: more)
        (spell item ++ next :: more) (· = false) :=
      Reads.nextIs.mono fun value hvalue => hvalue.trans (decide_eq_false (hnone _))
    refine Reads.bind hgoesOn fun value hvalue => ?_
    rw [hvalue]
    exact Reads.bind (hitem start state hstate next hnext more) fun other hother =>
      Reads.pure ⟨other, rfl, hother⟩
  · intro state _
    rcases hstop with rfl | rfl
    · refine Reads.bind Reads.nextIs fun value hvalue => ?_
      rw [hvalue]
      exact Reads.pure rfl
    · refine Reads.bind Reads.nextIs fun value hvalue => ?_
      rw [hvalue]
      refine Reads.bind Reads.skip fun _ _ => Reads.bind Reads.nextIs fun value hvalue => ?_
      rw [hvalue]
      exact Reads.pure rfl
  · rw [hplaced state hstate]
    exact Reads.bind Reads.expect fun _ _ => Reads.pure trivial

end Arguments

theorem Reads.suffix_none {parts : Parts} {operand : Operand} (hnext : next ∈ expressionEnds) :
    Reads (suffix parts operand) (next :: rest) (next :: rest) (· = none) := by
  refine Reads.bind Reads.peek fun kind hkind => ?_
  rw [hkind]
  rcases cases_expressionEnds hnext with rfl | rfl | rfl | rfl
  all_goals exact Reads.pure rfl

/-- Tokens of these kinds extend an operand, whatever comes behind them. -/
def TakesSuffix (parts : Parts) (kinds : List TokenKind) : Prop :=
  ∀ operand rest, Reads (suffix parts operand) (kinds ++ rest) rest
    fun next => ∃ other, next = some other ∧ True

theorem takesSuffix_member (parts : Parts) (id : Text) :
    TakesSuffix parts [.symbol .dot, .name id] := by
  refine fun operand rest => Reads.bind Reads.peek fun kind hkind => ?_
  rw [hkind]
  exact Reads.bind Reads.skip fun _ _ => Reads.bind Reads.name fun _ _ =>
    Reads.pure ⟨_, rfl, trivial⟩

theorem takesSuffix_call {parts : Parts}
    (h : ∀ rest, Reads (arguments parts true) (kinds ++ rest) rest fun _ => True) :
    TakesSuffix parts (.symbol .openParen :: kinds) := by
  refine fun operand rest => Reads.bind Reads.peek fun kind hkind => ?_
  rw [hkind]
  refine Reads.bind Reads.skip fun _ _ => Reads.bind (h rest) fun found _ => ?_
  cases found
  exact Reads.pure ⟨_, rfl, trivial⟩

/-- A name with members and calls behind it. -/
theorem Reads.primary_of_suffixes {parts : Parts} {id : Text} {suffixes : List (List TokenKind)}
    (hnext : next ∈ expressionEnds)
    (h : ∀ kinds ∈ suffixes, kinds ≠ [] ∧ TakesSuffix parts kinds) :
    Reads (primary parts) (.name id :: (suffixes.flatten ++ next :: rest)) (next :: rest)
      fun _ => True := by
  rw [← List.flatMap_id']
  have hatom : Reads (atom parts) (.name id :: (suffixes.flatMap (fun kinds => kinds) ++ next :: rest))
      (suffixes.flatMap (fun kinds => kinds) ++ next :: rest) fun _ => True := by
    refine Reads.bind Reads.nextLine fun _ _ => Reads.bind Reads.peek fun kind hkind => ?_
    rw [hkind]
    exact Reads.bind Reads.skip fun _ _ => Reads.pure trivial
  refine Reads.bind hatom fun operand _ => ?_
  refine Reads.extend (fun kinds hkinds => (h kinds hkinds).1) ?_
    (fun _ _ => Reads.suffix_none hnext) trivial
  intro front kinds back heq operand _
  exact (h kinds (heq ▸ List.mem_append_right _ (List.mem_cons_self ..))).2 operand _

def TokenKind.IsName (kind : TokenKind) : Prop :=
  ∃ id, kind = .name id

/-- The call that passes a name, a falsehood and further names on. -/
def passingKinds (id member first : Text) (names : List TokenKind) : List TokenKind :=
  .name id :: .symbol .dot :: .name member :: .symbol .openParen :: .name first ::
    ((.keyword .falseWord :: names).flatMap (behindComma fun kind => [kind]) ++
      [.symbol .closeParen])

theorem takesExpression_passing (id member first : Text) {names : List TokenKind}
    (hnames : ∀ kind ∈ names, kind.IsName) :
    TakesExpression 2 (passingKinds id member first names) := by
  refine ⟨rfl, fun depth hdepth next hnext rest => ?_⟩
  obtain ⟨less, rfl⟩ : ∃ less, depth = less + 2 := ⟨depth - 2, by omega⟩
  have hcases : ∀ kind ∈ TokenKind.keyword .falseWord :: names,
      (∃ id, kind = .name id) ∨ kind = .keyword .falseWord := by
    intro kind hkind
    rcases List.mem_cons.mp hkind with rfl | hname
    · exact Or.inr rfl
    · exact Or.inl (hnames kind hname)
  have harguments : ∀ rest, Reads (arguments (partsAt (less + 1)) true)
      ([.name first] ++ ((.keyword .falseWord :: names).flatMap
        (behindComma fun kind => [kind]) ++ .symbol .closeParen :: rest)) rest fun _ => True := by
    intro rest
    refine Reads.arguments (fun heq => nomatch heq)
      (fun start next hnext rest => Reads.argument_positional (.inl ⟨first, rfl⟩) hnext ⟨rfl, rfl⟩)
      (fun kind hkind => ⟨fun rest heq => ?_, fun start state hstate next hnext rest =>
        Reads.argument_positional (hcases kind hkind) hnext hstate⟩)
      (.inl rfl) fun _ hstate => hstate.misplaced
    rcases hcases kind hkind with ⟨name, rfl⟩ | rfl
    · cases heq
    · cases heq
  have hcall : TakesSuffix (partsAt (less + 1)) (.symbol .openParen :: ([.name first] ++
      ((.keyword .falseWord :: names).flatMap (behindComma fun kind => [kind]) ++
        [.symbol .closeParen]))) :=
    takesSuffix_call fun rest => by
      rw [List.append_assoc, List.append_assoc]
      exact harguments rest
  have hprimary : Reads (primary (partsAt (less + 1))) (.name id ::
      ([[.symbol .dot, .name member], _].flatten ++ next :: rest)) (next :: rest) fun _ => True :=
    Reads.primary_of_suffixes hnext (List.forall_mem_cons.mpr
      ⟨⟨List.cons_ne_nil _ _, takesSuffix_member (partsAt (less + 1)) member⟩,
        List.forall_mem_cons.mpr ⟨⟨List.cons_ne_nil _ _, hcall⟩, List.forall_mem_nil _⟩⟩)
  have hexpression := hprimary.expression_of_primary (.inl ⟨id, rfl⟩) hnext
  simpa only [List.flatten_cons, List.flatten_nil, List.append_nil, List.append_assoc,
    List.cons_append, List.nil_append, passingKinds] using hexpression

/-! ## Calls with values by name -/

/-- A value that is given by name. -/
structure GivenValue where
  name : TokenKind
  value : List TokenKind

def GivenValue.spell (given : GivenValue) : List TokenKind :=
  given.name :: .symbol .assign :: given.value

/-- The name is one, and the value is read by itself. -/
structure GivenValue.IsRead (need : Nat) (given : GivenValue) : Prop where
  name : given.name.IsName
  value : TakesExpression need given.value

theorem GivenValue.IsRead.reads {need : Nat} {given : GivenValue} (h : given.IsRead need)
    (hdepth : need ≤ depth) {start : Nat} {state : ArgumentState} (hstate : state.misplaced = false)
    (hnext : next ∈ argumentEnds) :
    Reads (argument (partsAt depth) start true state) (given.spell ++ next :: rest) (next :: rest)
      fun after => after.misplaced = false := by
  obtain ⟨id, hid⟩ := h.name
  rw [spell, hid]
  exact Reads.argument_keyword hnext hstate
    (h.value.reads depth hdepth next (mem_expressionEnds_of_argumentEnds hnext) rest)

theorem GivenValue.IsRead.front {need : Nat} {given : GivenValue} (h : given.IsRead need) :
    frontKind (given.spell ++ rest) ≠ .symbol .closeParen := by
  obtain ⟨id, hid⟩ := h.name
  rw [spell, hid]
  exact TokenKind.noConfusion

/-- The call that is given all its values by name, with a comma behind the last. -/
def callKinds (id : Text) (first : GivenValue) (more : List GivenValue) : List TokenKind :=
  .name id :: .symbol .openParen :: (first.spell ++
    (more.flatMap (behindComma GivenValue.spell) ++ [.symbol .comma, .symbol .closeParen]))

theorem takesExpression_call {need : Nat} (id : Text) {first : GivenValue} {more : List GivenValue}
    (h : ∀ given ∈ first :: more, given.IsRead need) :
    TakesExpression (need + 1) (callKinds id first more) := by
  refine ⟨rfl, fun depth hdepth next hnext rest => ?_⟩
  obtain ⟨less, rfl⟩ : ∃ less, depth = less + 1 := ⟨depth - 1, by omega⟩
  have hless : need ≤ less := Nat.le_of_succ_le_succ hdepth
  obtain ⟨hfirst, hmore⟩ := List.forall_mem_cons.mp h
  have hopen : ∀ rest : List TokenKind, (first.spell ++ rest).head? ≠ some (.symbol .closeParen) :=
    fun rest heq => hfirst.front (by rw [frontKind, heq]; rfl)
  have hcall : TakesSuffix (partsAt less) (.symbol .openParen :: (first.spell ++
      (more.flatMap (behindComma GivenValue.spell) ++ [.symbol .comma, .symbol .closeParen]))) :=
    takesSuffix_call fun rest => by
      rw [List.append_assoc, List.append_assoc]
      exact Reads.arguments (hopen _) (fun _ _ hnext _ => hfirst.reads hless rfl hnext)
        (fun given hgiven => ⟨fun _ => (hmore given hgiven).front,
          fun _ _ hstate _ hnext _ => (hmore given hgiven).reads hless hstate hnext⟩)
        (.inr rfl) fun _ hstate => hstate
  have hprimary : Reads (primary (partsAt less)) (.name id :: ([_].flatten ++ next :: rest))
      (next :: rest) fun _ => True :=
    Reads.primary_of_suffixes hnext (List.forall_mem_cons.mpr
      ⟨⟨List.cons_ne_nil _ _, hcall⟩, List.forall_mem_nil _⟩)
  have hexpression := hprimary.expression_of_primary (.inl ⟨id, rfl⟩) hnext
  simpa only [List.flatten_cons, List.flatten_nil, List.append_nil, List.append_assoc,
    List.cons_append, List.nil_append, callKinds] using hexpression

/-- An argument that gives a name itself. -/
def selfGiven (kind : TokenKind) : GivenValue :=
  ⟨kind, [kind]⟩

theorem isRead_selfGiven {kind : TokenKind} (h : kind.IsName) : (selfGiven kind).IsRead 1 := by
  obtain ⟨id, rfl⟩ := h
  exact ⟨⟨id, rfl⟩, takesExpression_name id⟩

/-- The base record that the full constructor builds, for a category of this
kind. -/
def baseKinds (category : TokenKind) : List TokenKind :=
  callKinds "BaseMessageFields" (selfGiven (.name "content"))
    [selfGiven (.name "example"),
      ⟨.name "message_type", [.name "MessageType", .symbol .dot, category]⟩,
      ⟨.name "additional_kwargs", [.symbol .openBrace, .symbol .closeBrace]⟩,
      ⟨.name "response_metadata", [.symbol .openBrace, .symbol .closeBrace]⟩,
      ⟨.name "id", [.keyword .noneWord]⟩, ⟨.name "name", [.keyword .noneWord]⟩]

theorem takesExpression_base (id : Text) : TakesExpression 2 (baseKinds (.name id)) := by
  have hmember : TakesExpression 1 [.name "MessageType", .symbol .dot, .name id] :=
    .of_run rfl fun _ => forall_expressionEnds.mpr
      ⟨fun _ _ => ⟨_, rfl⟩, fun _ _ => ⟨_, rfl⟩, fun _ _ => ⟨_, rfl⟩, fun _ _ => ⟨_, rfl⟩⟩
  have htable : TakesExpression 1 [.symbol .openBrace, .symbol .closeBrace] :=
    .of_run rfl fun _ => forall_expressionEnds.mpr
      ⟨fun _ _ => ⟨_, rfl⟩, fun _ _ => ⟨_, rfl⟩, fun _ _ => ⟨_, rfl⟩, fun _ _ => ⟨_, rfl⟩⟩
  refine takesExpression_call _ ?_
  simp only [List.forall_mem_cons]
  exact ⟨isRead_selfGiven ⟨_, rfl⟩, isRead_selfGiven ⟨_, rfl⟩, ⟨⟨_, rfl⟩, hmember⟩,
    ⟨⟨_, rfl⟩, htable⟩, ⟨⟨_, rfl⟩, htable⟩, ⟨⟨_, rfl⟩, takesExpression_none⟩,
    ⟨⟨_, rfl⟩, takesExpression_none⟩, List.forall_mem_nil _⟩

end MessageForge.Source
