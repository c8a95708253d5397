import MessageForge.Proofs.Expressions

/-!
# Generated statements

The statements of generated modules: fields, methods with a body of one
statement, and classes of these. Each is read from the kinds of its tokens,
whatever stands behind it.
-/

namespace MessageForge.Source

open Reader

variable {kinds before rest : List TokenKind} {next : TokenKind} {depth need : Nat}
  {statement : Reader (List Stmt)}

/-! ## Simple statements -/

theorem Reads.starExpressions (hvalue : TakesExpression need kinds) (hdepth : need ≤ depth)
    (hnext : next ∈ expressionEnds) (hcomma : next ≠ .symbol .comma) :
    Reads (starExpressions (partsAt depth)) (kinds ++ next :: rest) (next :: rest)
      fun _ => True := by
  have hne := ne_nil_of_starts hvalue.starts
  have hfront : frontKind (kinds ++ next :: rest) ≠ .symbol starSymbol := by
    rw [frontKind_append hne]
    intro heq
    have hstarts := hvalue.starts
    rw [heq] at hstarts
    cases hstarts
  have hstar : Reads (Reader.nextIs starSymbol) (kinds ++ next :: rest) (kinds ++ next :: rest)
      (· = false) :=
    Reads.nextIs.mono fun value heq => heq.trans (decide_eq_false hfront)
  have hitem : Reads (starExpression (partsAt depth)) (kinds ++ next :: rest) (next :: rest)
      fun _ => True := by
    refine Reads.bind hstar fun value hstar => ?_
    rw [hstar]
    exact hvalue.reads depth hdepth next hnext rest
  have hmore : Reads (moreItems startsStarred (starExpression (partsAt depth))) (next :: rest)
      (next :: rest) fun _ => True := by
    refine Reads.bind Reads.remaining fun _ _ => Reads.bind (Reads.accept_other ?_)
      fun value hvalue => ?_
    · exact fun heq => hcomma (Option.some.inj heq)
    · rw [hvalue]
      exact Reads.pure trivial
  have hitems : Reads (commaItems startsStarred (starExpression (partsAt depth)))
      (kinds ++ next :: rest) (next :: rest) fun _ => True := by
    refine Reads.bind hitem fun _ _ => Reads.bind hmore fun found _ => ?_
    cases found
    exact Reads.pure trivial
  refine Reads.bind Reads.nextLine fun _ _ => Reads.bind hitems fun found _ => ?_
  cases found
  exact Reads.pure trivial

theorem Reads.simpleStatements_of {stmt : Stmt → Prop} {parts : Parts}
    (h : Reads (simpleStatement parts) before (.newline :: rest) stmt) :
    Reads (simpleStatements parts) before rest fun found => ∃ first, found = [first] ∧ stmt first := by
  refine Reads.bind h fun first hfirst => ?_
  refine Reads.bind (Reads.extend_none ?_) fun found hfound => ?_
  · refine Reads.bind (Reads.accept_other fun heq => nomatch heq) fun value hvalue => ?_
    rw [hvalue]
    exact Reads.pure rfl
  · rw [hfound]
    exact Reads.bind Reads.expect fun _ _ => Reads.pure ⟨first, rfl, hfirst⟩

/-- The class that a statement defines. -/
def Node.className? : Node → Option Text
  | .classDef name _ _ _ _ => some name
  | _ => none

/-- A statement that is no class. -/
def IsPlain (stmt : Stmt) : Prop :=
  stmt.2.className? = none

theorem Reads.returnStatement (hvalue : TakesExpression need kinds) (hdepth : need ≤ depth) :
    Reads (simpleStatement (partsAt depth)) (.keyword .returnWord :: (kinds ++ .newline :: rest))
      (.newline :: rest) IsPlain := by
  have hne := ne_nil_of_starts hvalue.starts
  have hstarts : Reads startsStarred (kinds ++ .newline :: rest) (kinds ++ .newline :: rest)
      (· = true) := by
    refine Reads.bind Reads.peek fun kind hkind => ?_
    rw [hkind, frontKind_append hne, hvalue.starts]
    exact Reads.pure rfl
  have hnode : Reads (Source.returnStatement (partsAt depth))
      (.keyword .returnWord :: (kinds ++ .newline :: rest)) (.newline :: rest)
      (· = .other) := by
    refine Reads.bind Reads.skip fun _ _ => Reads.bind hstarts fun value hvalue' => ?_
    rw [hvalue']
    exact Reads.bind (Reads.starExpressions hvalue hdepth (by simp [expressionEnds])
      (fun heq => nomatch heq)) fun _ _ => Reads.pure rfl
  refine Reads.bind Reads.nextLine fun _ _ => Reads.bind Reads.peek fun kind hkind => ?_
  rw [hkind]
  refine Reads.bind hnode fun node hnode => ?_
  rw [hnode]
  exact Reads.pure rfl

/-- A member of a member is set to a name. -/
def settingKinds (id first second value : Text) : List TokenKind :=
  [.name id, .symbol .dot, .name first, .symbol .dot, .name second, .symbol .assign, .name value]

theorem Reads.settingStatement (id first second value : Text) :
    Reads (simpleStatement (partsAt (depth + 1)))
      (settingKinds id first second value ++ .newline :: rest) (.newline :: rest) IsPlain := by
  have hrun : Reads (simpleStatement (partsAt (depth + 1)))
      (settingKinds id first second value ++ [.newline] ++ rest)
      ((settingKinds id first second value ++ [TokenKind.newline]).drop 7 ++ rest) IsPlain :=
    Reads.of_run _ _ fun _ _ => ⟨_, rfl, rfl⟩
  rw [List.append_assoc] at hrun
  exact hrun

/-- A name with its annotation, as fields and parameters are given. -/
structure TypedName where
  kind : TokenKind
  type : List TokenKind

def TypedName.spell (typed : TypedName) : List TokenKind :=
  typed.kind :: .symbol .colon :: typed.type

/-- The name is one, and the annotation is read by itself. -/
structure TypedName.IsRead (need : Nat) (typed : TypedName) : Prop where
  kind : typed.kind.IsName
  type : TakesExpression need typed.type

theorem Reads.fieldStatement (id : Text) (htype : TakesExpression need kinds)
    (hdepth : need ≤ depth) (hpositive : 0 < depth) :
    Reads (simpleStatement (partsAt depth))
      (.name id :: .symbol .colon :: (kinds ++ .newline :: rest)) (.newline :: rest) IsPlain := by
  obtain ⟨less, rfl⟩ : ∃ less, depth = less + 1 := ⟨depth - 1, by omega⟩
  have hassigned : Reads (assigned (partsAt (less + 1)))
      (.name id :: .symbol .colon :: (kinds ++ .newline :: rest))
      (.symbol .colon :: (kinds ++ .newline :: rest))
      fun found => found.2 = false ∧ found.1.isSingleTarget = true :=
    Reads.of_run [.name id, .symbol .colon] 1 fun _ _ => ⟨_, rfl, rfl, rfl⟩
  refine Reads.bind Reads.nextLine fun _ _ => Reads.bind Reads.peek fun kind hkind => ?_
  rw [hkind]
  have hannotated : ∀ target : Operand, target.isSingleTarget = true →
      Reads (annotated (partsAt (less + 1)) target) (.symbol .colon :: (kinds ++ .newline :: rest))
        (.newline :: rest) fun node => node.className? = none := by
    intro target htarget
    rw [annotated, htarget]
    refine Reads.bind Reads.skip fun _ _ => Reads.bind (htype.reads _ hdepth .newline
      (by simp [expressionEnds]) rest) fun _ _ => ?_
    refine Reads.bind (Reads.accept_other (by simp)) fun value hvalue => ?_
    rw [hvalue]
    exact Reads.pure rfl
  have hnode : Reads (expressionStatement (partsAt (less + 1)))
      (.name id :: .symbol .colon :: (kinds ++ .newline :: rest)) (.newline :: rest)
      fun node => node.className? = none := by
    refine Reads.bind hassigned fun found hfound => ?_
    obtain ⟨target, isYield⟩ := found
    refine Reads.bind Reads.peek fun kind hkind => ?_
    obtain ⟨rfl, htarget⟩ := hfound
    rw [hkind]
    exact hannotated target htarget
  exact Reads.bind hnode fun node hnode => Reads.pure hnode

/-! ## Parameters -/

/-- No parameter so far has a default or ends the list. -/
structure ParameterState.IsPlain (state : ParameterState) : Prop where
  default : state.default = false
  finished : state.finished = false

theorem Reads.parameter_of {parts : Parts} {id : Text} {state : ParameterState}
    (hstate : state.IsPlain) (hnext : next ∈ argumentEnds)
    (h : Reads ( annotation parts true false) before (next :: rest) fun _ => True) :
    Reads (parameter parts true state) (.name id :: before) (next :: rest)
      ParameterState.IsPlain := by
  refine Reads.bind Reads.nextLine fun _ _ => Reads.bind Reads.peek fun kind hkind => ?_
  rw [hkind]
  refine Reads.bind Reads.skip fun _ _ => Reads.bind h fun _ _ => ?_
  refine Reads.bind (Reads.accept_other ?_) fun value hvalue => ?_
  · rcases cases_argumentEnds hnext with rfl | rfl
    all_goals exact fun heq => nomatch heq
  · rw [hvalue, hstate.default]
    exact Reads.pure ⟨hstate.default, hstate.finished⟩

theorem Reads.annotation_none {parts : Parts} (hnext : next ∈ argumentEnds) :
    Reads ( annotation parts true false) (next :: rest) (next :: rest) fun _ => True := by
  refine Reads.bind (Reads.accept_other ?_) fun value hvalue => ?_
  · rcases cases_argumentEnds hnext with rfl | rfl
    all_goals exact fun heq => nomatch heq
  · rw [hvalue]
    exact Reads.pure trivial

theorem Reads.annotation_some (hnext : next ∈ argumentEnds) (htype : TakesExpression need kinds)
    (hdepth : need ≤ depth) :
    Reads ( annotation (partsAt depth) true false) (.symbol .colon :: (kinds ++ next :: rest))
      (next :: rest) fun _ => True := by
  refine Reads.bind Reads.accept_same fun value hvalue => ?_
  rw [hvalue]
  exact Reads.bind (htype.reads _ hdepth next (mem_expressionEnds_of_argumentEnds hnext) rest)
    fun _ _ => Reads.pure trivial

/-- Typed parameters behind a first one that is not typed. -/
theorem Reads.parameters (first : Text) {typed : List TypedName}
    (htyped : ∀ parameter ∈ typed, parameter.IsRead need) (hdepth : need ≤ depth) :
    Reads (parameters (partsAt depth) true .closeParen)
      (.name first :: (typed.flatMap (behindComma TypedName.spell) ++ .symbol .closeParen :: rest))
      (.symbol .closeParen :: rest) fun _ => True := by
  have hnexts : ∀ back : List TypedName, ∃ next more,
      back.flatMap (behindComma TypedName.spell) ++ .symbol .closeParen :: rest = next :: more ∧
        next ∈ argumentEnds :=
    fun back => exists_front_behindComma _ back (by simp [argumentEnds])
      ⟨_, _, rfl, by simp [argumentEnds]⟩
  refine Reads.bind Reads.nextIs fun value hvalue => ?_
  rw [hvalue]
  obtain ⟨next, more, hmore, hnext⟩ := hnexts typed
  have hfirst : Reads (parameter (partsAt depth) true {}) (.name first ::
      (typed.flatMap (behindComma TypedName.spell) ++ .symbol .closeParen :: rest))
      (typed.flatMap (behindComma TypedName.spell) ++ .symbol .closeParen :: rest)
      ParameterState.IsPlain := by
    rw [hmore]
    exact Reads.parameter_of ⟨rfl, rfl⟩ hnext (Reads.annotation_none hnext)
  refine Reads.bind hfirst fun state hstate => ?_
  refine Reads.bind (show Reads _ _ (.symbol .closeParen :: rest) ParameterState.IsPlain from
    Reads.extend (fun _ _ => List.cons_ne_nil _ _) ?_ ?_ hstate) fun state _ => ?_
  · intro front item back heq state hstate
    have hitem := htyped item (heq ▸ List.mem_append_right _ (List.mem_cons_self ..))
    obtain ⟨id, hid⟩ := hitem.kind
    obtain ⟨next, more, hmore, hnext⟩ := hnexts back
    rw [hmore, behindComma, TypedName.spell, hid]
    refine Reads.bind Reads.nextIs fun value hvalue => ?_
    rw [hvalue]
    refine Reads.bind Reads.skip fun _ _ => Reads.bind Reads.nextIs fun value hvalue => ?_
    rw [hvalue, hstate.finished]
    exact Reads.bind (Reads.parameter_of hstate hnext
      (Reads.annotation_some hnext hitem.type hdepth)) fun other hother =>
        Reads.pure ⟨other, rfl, hother⟩
  · intro state _
    refine Reads.bind Reads.nextIs fun value hvalue => ?_
    rw [hvalue]
    exact Reads.pure rfl
  · refine Reads.bind Reads.nextIs fun value hvalue => ?_
    rw [hvalue]
    exact Reads.pure trivial

/-! ## Statements of any form -/

/-- The classes that statements define, in order. -/
def classNames (statements : List Stmt) : List Text :=
  statements.filterMap fun stmt => stmt.2.className?

/-- Tokens of these kinds are read as statements, nested at most so deep, which
define classes of these names. -/
structure TakesStatement (need level : Nat) (names : List Text) (kinds : List TokenKind) : Prop where
  goesOn : frontKind kinds ≠ .dedent ∧ frontKind kinds ≠ .finish
  reads : ∀ depth, need ≤ depth → ∀ nesting, level ≤ nesting → ∀ rest,
    Reads (statementAt (partsAt depth) nesting) (kinds ++ rest) rest
      fun found => classNames found = names

theorem TakesStatement.ne_nil {level : Nat} {names : List Text}
    (h : TakesStatement need level names kinds) : kinds ≠ [] := by
  rintro rfl
  exact h.goesOn.2 rfl

theorem Reads.orElse_second {α : Type} {first second : Reader α} {good : α → Prop}
    {after : List TokenKind} (hfirst : Refuses first before) (h : Reads second before after good) :
    Reads (orElse first second) before after good := by
  intro tokens htokens
  obtain ⟨refusal, hrefusal⟩ := hfirst tokens htokens
  obtain ⟨value, rest, hrun, hrest, hgood⟩ := h tokens htokens
  refine ⟨value, rest, ?_, hrest, hgood⟩
  rw [orElse, hrefusal, hrun]

theorem classNames_of_isPlain {found : List Stmt} (h : ∃ first, found = [first] ∧ IsPlain first) :
    classNames found = [] := by
  obtain ⟨first, rfl, hfirst⟩ := h
  rw [classNames, List.filterMap_cons, hfirst]
  rfl

/-- No block ends where a statement begins, which then needs one level of its own. -/
theorem TakesStatement.of_front {level : Nat} {names : List Text}
    (hdedent : frontKind kinds ≠ .dedent) (hfinish : frontKind kinds ≠ .finish)
    (h : ∀ depth, need ≤ depth → ∀ nesting, level ≤ nesting → ∀ rest,
      Reads (statementAt (partsAt depth) (nesting + 1)) (kinds ++ rest) rest
        fun found => classNames found = names) :
    TakesStatement need (level + 1) names kinds := by
  refine ⟨⟨hdedent, hfinish⟩, fun depth hdepth nesting hnesting rest => ?_⟩
  obtain ⟨less, rfl⟩ : ∃ less, nesting = less + 1 := ⟨nesting - 1, by omega⟩
  exact h depth hdepth less (Nat.le_of_succ_le_succ hnesting) rest

theorem takesStatement_return (hvalue : TakesExpression need kinds) :
    TakesStatement need 1 [] (.keyword .returnWord :: (kinds ++ [.newline])) := by
  refine .of_front TokenKind.noConfusion TokenKind.noConfusion fun depth hdepth nesting _ rest => ?_
  rw [List.cons_append, List.append_assoc]
  refine Reads.bind Reads.nextLine fun _ _ => Reads.bind Reads.peek fun kind hkind => ?_
  rw [hkind]
  exact (Reads.returnStatement hvalue hdepth).simpleStatements_of.mono fun _ => classNames_of_isPlain

/-- A statement that begins with a name, if it is read as a simple one. -/
theorem Reads.statement_of_name {parts : Parts} {id : Text} {level : Nat}
    (hmatch : id = "match" → Refuses (matchHeader parts) (.name id :: before))
    (h : Reads (simpleStatement parts) (.name id :: before) (.newline :: rest) IsPlain) :
    Reads (statementAt parts (level + 1)) (.name id :: before) rest
      fun found => classNames found = [] := by
  have hsimple := h.simpleStatements_of.mono fun _ => classNames_of_isPlain
  refine Reads.bind Reads.nextLine fun line _ => Reads.bind Reads.peek fun kind hkind => ?_
  rw [hkind]
  show Reads (if id = "match" then _ else _) _ _ _
  split
  · next heq =>
      refine Reads.bind Reads.nextLine fun _ _ => ?_
      have hsome : Reads (simpleStatements parts >>= fun found => Pure.pure (some found))
          (.name id :: before) rest fun found => ∃ statements, found = some statements ∧
            classNames statements = [] :=
        Reads.bind hsimple fun found hfound => Reads.pure ⟨found, rfl, hfound⟩
      refine Reads.bind (Reads.orElse_second ((hmatch heq).bind _) hsome) fun found hfound => ?_
      obtain ⟨statements, rfl, hstatements⟩ := hfound
      exact Reads.pure hstatements
  · exact hsimple

theorem takesStatement_setting (id first second value : Text) (hid : id ≠ "match") :
    TakesStatement 1 1 [] (settingKinds id first second value ++ [.newline]) := by
  refine .of_front TokenKind.noConfusion TokenKind.noConfusion fun depth hdepth nesting _ rest => ?_
  obtain ⟨inner, rfl⟩ : ∃ inner, depth = inner + 1 := ⟨depth - 1, by omega⟩
  rw [List.append_assoc]
  exact Reads.statement_of_name (fun heq => absurd heq hid) (Reads.settingStatement id first second value)

theorem takesStatement_field {field : TypedName} (hfield : field.IsRead need) :
    TakesStatement (need + 1) 1 [] (field.spell ++ [.newline]) := by
  obtain ⟨id, hid⟩ := hfield.kind
  rw [TypedName.spell, hid]
  refine .of_front TokenKind.noConfusion TokenKind.noConfusion fun depth hdepth nesting _ rest => ?_
  obtain ⟨inner, rfl⟩ : ∃ inner, depth = inner + 1 := ⟨depth - 1, by omega⟩
  rw [List.append_assoc]
  refine Reads.statement_of_name (fun _ => ?_)
    (Reads.fieldStatement id hfield.type (Nat.le_of_succ_le hdepth) (Nat.succ_pos inner))
  exact Refuses.of_run [.name id, .symbol .colon] fun _ _ => ⟨_, rfl⟩

/-! ## Blocks -/

/-- Statements as they stand one after another, with the classes they define. -/
structure Chunk where
  kinds : List TokenKind
  names : List Text := []

/-- Each chunk is read as its statements. -/
def TakesChunks (need level : Nat) (chunks : List Chunk) : Prop :=
  ∀ chunk ∈ chunks, TakesStatement need level chunk.names chunk.kinds

theorem TakesChunks.readsEach {level nesting : Nat} {chunks : List Chunk}
    (h : TakesChunks need level chunks) (hdepth : need ≤ depth) (hnesting : level ≤ nesting)
    {kind : TokenKind} (hkind : kind = .dedent ∨ kind = .finish) :
    ReadsEach kind (statementAt (partsAt depth) nesting) Chunk.kinds
      (fun chunk found => classNames found = chunk.names) chunks := by
  intro chunk hchunk
  have htakes := h chunk hchunk
  refine ⟨htakes.ne_nil, ?_, htakes.reads depth hdepth nesting hnesting⟩
  rcases hkind with rfl | rfl
  · exact htakes.goesOn.1
  · exact htakes.goesOn.2

def bodyKinds (chunks : List Chunk) : List TokenKind :=
  chunks.flatMap Chunk.kinds

/-- A block of statements, one after another. -/
theorem Reads.block {level nesting : Nat} {first : Chunk} {chunks : List Chunk}
    (h : TakesChunks need level (first :: chunks)) (hdepth : need ≤ depth)
    (hnesting : level ≤ nesting) :
    Reads (block (partsAt depth) (statementAt (partsAt depth) nesting))
      (.newline :: .indent :: (bodyKinds (first :: chunks) ++ .dedent :: rest)) rest
      fun _ => True := by
  have hfirst := h first (List.mem_cons_self ..)
  have hmore : TakesChunks need level chunks := fun chunk hchunk =>
    h chunk (List.mem_cons_of_mem _ hchunk)
  rw [bodyKinds, List.flatMap_cons, List.append_assoc]
  refine Reads.bind Reads.accept_same fun value hvalue => ?_
  rw [hvalue]
  exact Reads.bind Reads.expect fun _ _ => Reads.bind (hfirst.reads _ hdepth _ hnesting _) fun _ _ =>
    Reads.bind (Reads.many_until (hmore.readsEach hdepth hnesting (.inl rfl))) fun _ _ =>
      Reads.bind Reads.expect fun _ _ => Reads.pure trivial

/-- A block is refused with a statement of it. -/
theorem Refuses.block {level nesting : Nat} {first : Chunk} {chunks : List Chunk}
    (h : TakesChunks need level (first :: chunks)) (hdepth : need ≤ depth)
    (hnesting : level ≤ nesting) (hfront : frontKind kinds ≠ .dedent)
    (hrefuses : Refuses (statementAt (partsAt depth) nesting) kinds) :
    Refuses (block (partsAt depth) (statementAt (partsAt depth) nesting))
      (.newline :: .indent :: (bodyKinds (first :: chunks) ++ kinds)) := by
  have hfirst := h first (List.mem_cons_self ..)
  have hmore : TakesChunks need level chunks := fun chunk hchunk =>
    h chunk (List.mem_cons_of_mem _ hchunk)
  rw [bodyKinds, List.flatMap_cons, List.append_assoc]
  refine Reads.refuse_after Reads.accept_same fun value hvalue => ?_
  rw [hvalue]
  exact Reads.refuse_after Reads.expect fun _ _ =>
    Reads.refuse_after (hfirst.reads _ hdepth _ hnesting _) fun _ _ =>
      (Refuses.many_until (hmore.readsEach hdepth hnesting (.inl rfl)) hfront hrefuses).bind _

/-! ## Methods -/

/-- A method whose body is one statement. -/
structure MethodShape where
  name : Text
  first : Text
  typed : List TypedName
  returns : List TokenKind
  body : List TokenKind

def MethodShape.spell (method : MethodShape) : List TokenKind :=
  .keyword .defWord :: .name method.name :: .symbol .openParen :: .name method.first ::
    (method.typed.flatMap (behindComma TypedName.spell) ++ (.symbol .closeParen ::
      .symbol .arrow :: (method.returns ++ (.symbol .colon :: .newline :: .indent ::
        (method.body ++ [.dedent])))))

theorem MethodShape.spell_append (method : MethodShape) :
    method.spell ++ rest = .keyword .defWord :: .name method.name :: .symbol .openParen ::
      .name method.first :: (method.typed.flatMap (behindComma TypedName.spell) ++
        .symbol .closeParen :: .symbol .arrow :: (method.returns ++ .symbol .colon :: .newline ::
          .indent :: (method.body ++ .dedent :: rest))) := by
  simp [MethodShape.spell]

/-- The parts of a method are read by themselves. -/
structure MethodShape.IsRead (need : Nat) (method : MethodShape) : Prop where
  typed : ∀ parameter ∈ method.typed, parameter.IsRead need
  returns : TakesExpression need method.returns
  body : TakesStatement need 1 [] method.body

theorem Reads.defStatement {method : MethodShape} {nesting : Nat} (h : method.IsRead need)
    (hdepth : need ≤ depth) (hnesting : 1 ≤ nesting) :
    Reads (Source.defStatement (partsAt depth) (statementAt (partsAt depth) nesting))
      (method.spell ++ rest) rest (· = .other) := by
  have hblock : Reads (Source.block (partsAt depth) (statementAt (partsAt depth) nesting))
      (.newline :: .indent :: (bodyKinds [⟨method.body, []⟩] ++ .dedent :: rest)) rest
      fun _ => True :=
    Reads.block (List.forall_mem_singleton.mpr h.body) hdepth hnesting
  rw [bodyKinds, List.flatMap_singleton] at hblock
  rw [MethodShape.spell_append]
  refine Reads.bind Reads.skip fun _ _ => Reads.bind Reads.name fun _ _ =>
    Reads.bind Reads.expect fun _ _ => ?_
  refine Reads.bind (Reads.parameters method.first h.typed hdepth) fun _ _ =>
    Reads.bind Reads.expect fun _ _ => Reads.bind Reads.accept_same fun value hvalue => ?_
  rw [hvalue]
  refine Reads.bind (h.returns.reads _ hdepth _ (by simp [expressionEnds]) _) fun _ _ => ?_
  exact Reads.bind (Reads.bind Reads.expect fun _ _ => hblock) fun _ _ => Reads.pure rfl

/-- A method is refused with its body. -/
theorem Refuses.defStatement {method : MethodShape} {nesting : Nat}
    (htyped : ∀ parameter ∈ method.typed, parameter.IsRead need)
    (hreturns : TakesExpression need method.returns) (hdepth : need ≤ depth)
    (hbody : Refuses (statementAt (partsAt depth) nesting) (method.body ++ .dedent :: rest)) :
    Refuses (Source.defStatement (partsAt depth) (statementAt (partsAt depth) nesting))
      (method.spell ++ rest) := by
  rw [MethodShape.spell_append]
  refine Reads.refuse_after Reads.skip fun _ _ => Reads.refuse_after Reads.name fun _ _ =>
    Reads.refuse_after Reads.expect fun _ _ => ?_
  refine Reads.refuse_after (Reads.parameters method.first htyped hdepth) fun _ _ =>
    Reads.refuse_after Reads.expect fun _ _ => Reads.refuse_after Reads.accept_same fun value hvalue => ?_
  rw [hvalue]
  refine Reads.refuse_after (hreturns.reads _ hdepth _ (by simp [expressionEnds]) _) fun _ _ => ?_
  refine Refuses.bind _ (Reads.refuse_after Reads.expect fun _ _ => ?_)
  refine Reads.refuse_after Reads.accept_same fun value hvalue => ?_
  rw [hvalue]
  exact Reads.refuse_after Reads.expect fun _ _ => hbody.bind _

/-! ## Decorated statements and classes -/

def decoratorKinds (id : Text) : List TokenKind :=
  [.symbol (.binary .matrix), .name id, .newline]

/-- A decorator before a word that begins a definition. -/
theorem Reads.decorators {word : Keyword} (id : Text) (hdepth : 0 < depth) :
    Reads (Reader.many (Reader.nextIs (.binary .matrix)) (Source.decorator (partsAt depth)))
      (decoratorKinds id ++ .keyword word :: rest) (.keyword word :: rest) fun _ => True := by
  obtain ⟨less, rfl⟩ : ∃ less, depth = less + 1 := ⟨depth - 1, by omega⟩
  have hdecorator : Reads (Source.decorator (partsAt (less + 1)))
      (decoratorKinds id ++ .keyword word :: rest) (.keyword word :: rest) fun _ => True :=
    Reads.of_run [.symbol (.binary .matrix), .name id, .newline] 3 fun _ _ => ⟨_, rfl, trivial⟩
  have hstop : Reads (Reader.nextIs (.binary .matrix)) (.keyword word :: rest)
      (.keyword word :: rest) (· = false) :=
    Reads.nextIs
  have hmany : Reads (Reader.many (Reader.nextIs (.binary .matrix))
      (Source.decorator (partsAt (less + 1)))) ([()].flatMap (fun _ => decoratorKinds id) ++
        .keyword word :: rest) (.keyword word :: rest)
      (List.Forall₂ (fun (_ : Unit) (_ : Expr) => True) [()]) :=
    Reads.many (fun _ _ => show decoratorKinds id ≠ [] from List.cons_ne_nil _ _)
      (TakesEach.cons ⟨Reads.nextIs, hdecorator⟩ TakesEach.nil) hstop
  exact hmany.mono fun _ _ => trivial

theorem takesStatement_method {method : MethodShape} (h : method.IsRead need) :
    TakesStatement need 2 [] method.spell := by
  refine .of_front TokenKind.noConfusion TokenKind.noConfusion
    fun depth hdepth less hless rest => ?_
  refine Reads.bind Reads.nextLine fun _ _ => Reads.bind Reads.peek fun kind hkind => ?_
  rw [hkind]
  refine Reads.bind (Reads.defStatement h hdepth (by omega)) fun node hnode => Reads.pure ?_
  rw [hnode]
  rfl

theorem takesStatement_decorated (id : Text) {method : MethodShape} (h : method.IsRead need) :
    TakesStatement (need + 1) 2 [] (decoratorKinds id ++ method.spell) := by
  refine .of_front TokenKind.noConfusion TokenKind.noConfusion
    fun depth hdepth less hless rest => ?_
  rw [List.append_assoc]
  refine Reads.bind Reads.nextLine fun _ _ => Reads.bind Reads.peek fun kind hkind => ?_
  rw [hkind]
  refine Reads.bind (Reads.bind (Reads.decorators id (by omega)) fun _ _ =>
    Reads.bind Reads.nextLine fun _ _ => Reads.bind Reads.peek fun kind hkind => ?_)
    fun stmt (hstmt : IsPlain stmt) => Reads.pure (classNames_of_isPlain ⟨stmt, rfl, hstmt⟩)
  rw [hkind]
  refine Reads.bind (Reads.defStatement h (by omega) (by omega)) fun node hnode => Reads.pure ?_
  rw [hnode]
  rfl

/-- A decorated class with the kind of its name and those of its statements. -/
def classKinds (decorator : Text) (name : TokenKind) (body : List TokenKind) : List TokenKind :=
  decoratorKinds decorator ++ (.keyword .classWord :: name :: .symbol .colon :: .newline ::
    .indent :: (body ++ [.dedent]))

theorem takesStatement_class {level : Nat} (decorator id : Text) {first : Chunk}
    {chunks : List Chunk} (h : TakesChunks need level (first :: chunks)) :
    TakesStatement (need + 1) (level + 1) [id]
      (classKinds decorator (.name id) (bodyKinds (first :: chunks))) := by
  refine .of_front TokenKind.noConfusion TokenKind.noConfusion
    fun depth hdepth less hless rest => ?_
  have hclass : ∀ decorators : List Expr,
      Reads (classStatement (partsAt depth) decorators (statementAt (partsAt depth) less))
        (.keyword .classWord :: .name id :: .symbol .colon :: .newline :: .indent ::
          (bodyKinds (first :: chunks) ++ .dedent :: rest)) rest (·.className? = some id) := by
    intro decorators
    refine Reads.bind Reads.skip fun _ _ => Reads.bind Reads.name fun found hfound => ?_
    refine Reads.bind (Reads.accept_other fun heq => nomatch heq) fun value hvalue => ?_
    rw [hvalue, hfound]
    refine Reads.bind (show Reads _ _ (.symbol .colon :: _) (fun _ => True) from
      Reads.pure trivial) fun found _ => ?_
    cases found
    exact Reads.bind (Reads.bind Reads.expect fun _ _ => Reads.block h (by omega) (by omega))
      fun _ _ => Reads.pure rfl
  rw [classKinds, List.append_assoc]
  simp only [List.cons_append, List.append_assoc, List.nil_append]
  refine Reads.bind Reads.nextLine fun _ _ => Reads.bind Reads.peek fun kind hkind => ?_
  rw [hkind]
  refine Reads.bind (Reads.bind (Reads.decorators decorator (by omega)) fun decorators _ =>
    Reads.bind Reads.nextLine fun line _ => Reads.bind Reads.peek fun kind hkind => ?_)
    fun stmt (hstmt : stmt.2.className? = some id) => Reads.pure ?_
  · rw [hkind]
    exact Reads.bind (hclass decorators) fun node hnode => Reads.pure hnode
  · rw [classNames, List.filterMap_cons, hstmt]
    rfl

/-! ## Refused classes -/

/-- A decorated method is refused with the method. -/
theorem Refuses.decoratedMethod (id : Text) {method : MethodShape} {nesting : Nat}
    (hdepth : 0 < depth)
    (h : Refuses (Source.defStatement (partsAt depth) (statementAt (partsAt depth) nesting))
      (method.spell ++ rest)) :
    Refuses (statementAt (partsAt depth) (nesting + 1))
      (decoratorKinds id ++ method.spell ++ rest) := by
  rw [List.append_assoc]
  refine Reads.refuse_after Reads.nextLine fun _ _ => Reads.refuse_after Reads.peek fun kind hkind => ?_
  rw [hkind]
  refine Refuses.bind _ (Reads.refuse_after (Reads.decorators id hdepth) fun _ _ =>
    Reads.refuse_after Reads.nextLine fun _ _ => Reads.refuse_after Reads.peek fun kind hkind => ?_)
  rw [hkind]
  exact Refuses.bind _ h

/-- A decorated class is refused with its name or its body. -/
theorem Refuses.decoratedClass (decorator : Text) {name : TokenKind} {body : List TokenKind}
    {nesting : Nat} (hdepth : 0 < depth)
    (h : ∀ decorators : List Expr,
      Refuses (classStatement (partsAt depth) decorators (statementAt (partsAt depth) nesting))
        (.keyword .classWord :: name :: body)) :
    Refuses (statementAt (partsAt depth) (nesting + 1))
      (decoratorKinds decorator ++ .keyword .classWord :: name :: body) := by
  refine Reads.refuse_after Reads.nextLine fun _ _ => Reads.refuse_after Reads.peek fun kind hkind => ?_
  rw [hkind]
  refine Refuses.bind _ (Reads.refuse_after (Reads.decorators decorator hdepth) fun decorators _ =>
    Reads.refuse_after Reads.nextLine fun _ _ => Reads.refuse_after Reads.peek fun kind hkind => ?_)
  rw [hkind]
  exact Refuses.bind _ (h decorators)

theorem Refuses.className {parts : Parts} {word : Keyword} (decorators : List Expr) :
    Refuses (classStatement parts decorators statement)
      (.keyword .classWord :: .keyword word :: rest) :=
  Reads.refuse_after Reads.skip fun _ _ => Refuses.name_keyword.bind _

theorem Refuses.classBody {id : Text} {nesting : Nat} (decorators : List Expr)
    (h : Refuses (Source.block (partsAt depth) (statementAt (partsAt depth) nesting)) rest) :
    Refuses (classStatement (partsAt depth) decorators (statementAt (partsAt depth) nesting))
      (.keyword .classWord :: .name id :: .symbol .colon :: rest) := by
  refine Reads.refuse_after Reads.skip fun _ _ => Reads.refuse_after Reads.name fun found hfound => ?_
  refine Reads.refuse_after (Reads.accept_other fun heq => nomatch heq) fun value hvalue => ?_
  rw [hvalue]
  refine Reads.refuse_after (show Reads _ _ (.symbol .colon :: rest) (fun _ => True) from
    Reads.pure trivial) fun found _ => ?_
  cases found
  exact Refuses.bind _ (Reads.refuse_after Reads.expect fun _ _ => h)

/-! ## Modules -/

theorem classNames_flatten {chunks : List Chunk} {found : List (List Stmt)}
    (h : List.Forall₂ (fun (chunk : Chunk) found => classNames found = chunk.names) chunks found) :
    classNames found.flatten = chunks.flatMap Chunk.names := by
  induction h with
  | nil => rfl
  | cons hfirst _ ih =>
      rw [List.flatten_cons, List.flatMap_cons, ← hfirst, ← ih]
      exact List.filterMap_append

/-- The statements of a whole module. -/
theorem Reads.moduleReader {level nesting : Nat} {chunks : List Chunk}
    (h : TakesChunks need level chunks) (hdepth : need ≤ depth) (hnesting : level ≤ nesting) :
    Reads (moduleReader (partsAt depth) nesting) (bodyKinds chunks ++ [.finish]) []
      fun found => classNames found = chunks.flatMap Chunk.names :=
  Reads.bind (Reads.many_until (h.readsEach hdepth hnesting (.inr rfl))) fun _ hfound =>
    Reads.bind Reads.expect fun _ _ => Reads.pure (classNames_flatten hfound)

theorem Refuses.moduleReader {level nesting : Nat} {chunks : List Chunk}
    (h : TakesChunks need level chunks) (hdepth : need ≤ depth) (hnesting : level ≤ nesting)
    (hfront : frontKind kinds ≠ .finish)
    (hrefuses : Refuses (statementAt (partsAt depth) nesting) kinds) :
    Refuses (moduleReader (partsAt depth) nesting) (bodyKinds chunks ++ kinds) :=
  (Refuses.many_until (h.readsEach hdepth hnesting (.inr rfl)) hfront hrefuses).bind _

end MessageForge.Source
