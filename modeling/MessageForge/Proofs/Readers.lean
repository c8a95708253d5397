import Mathlib.Data.List.Basic
import MessageForge.Source.Reader

/-!
# What readers take

A reader is described by the kinds of the tokens before and behind what it
takes. The rules follow the ways in which readers are built: one step after
another, as long as something goes on, and from nothing for a refusal.
-/

namespace MessageForge.Source

open Reader

variable {α β : Type} {before between after kinds : List TokenKind}

/-- On tokens of the kinds `before`, the reader gives a good value and leaves
tokens of the kinds `after`. -/
def Reads (reader : Reader α) (before after : List TokenKind) (good : α → Prop) : Prop :=
  ∀ tokens : List Token, tokens.map Token.kind = before →
    ∃ value rest, reader tokens = .ok (value, rest) ∧ rest.map Token.kind = after ∧ good value

/-- On tokens of these kinds the reader is refused. -/
def Refuses (reader : Reader α) (kinds : List TokenKind) : Prop :=
  ∀ tokens : List Token, tokens.map Token.kind = kinds → ∃ refusal, reader tokens = .error refusal

/-! ## Steps -/

theorem Reads.bind {first : Reader α} {next : α → Reader β} {good : α → Prop} {well : β → Prop}
    (hfirst : Reads first before between good)
    (hnext : ∀ value, good value → Reads (next value) between after well) :
    Reads (first >>= next) before after well := by
  intro tokens htokens
  obtain ⟨value, rest, hrun, hrest, hgood⟩ := hfirst tokens htokens
  obtain ⟨result, last, hrun', hlast, hwell⟩ := hnext value hgood rest hrest
  refine ⟨result, last, ?_, hlast, hwell⟩
  show (first tokens).bind (fun pair => next pair.1 pair.2) = _
  rw [hrun]
  exact hrun'

theorem Reads.refuse_after {first : Reader α} {next : α → Reader β} {good : α → Prop}
    (hfirst : Reads first before between good)
    (hnext : ∀ value, good value → Refuses (next value) between) :
    Refuses (first >>= next) before := by
  intro tokens htokens
  obtain ⟨value, rest, hrun, hrest, hgood⟩ := hfirst tokens htokens
  obtain ⟨refusal, hrefusal⟩ := hnext value hgood rest hrest
  refine ⟨refusal, ?_⟩
  show (first tokens).bind (fun pair => next pair.1 pair.2) = _
  rw [hrun]
  exact hrefusal

theorem Refuses.bind {first : Reader α} (next : α → Reader β) (h : Refuses first kinds) :
    Refuses (first >>= next) kinds := by
  intro tokens htokens
  obtain ⟨refusal, hrun⟩ := h tokens htokens
  refine ⟨refusal, ?_⟩
  show (first tokens).bind (fun pair => next pair.1 pair.2) = _
  rw [hrun]
  rfl

theorem Reads.mono {reader : Reader α} {good well : α → Prop} (h : Reads reader before after good)
    (himp : ∀ value, good value → well value) : Reads reader before after well := by
  intro tokens htokens
  obtain ⟨value, rest, hrun, hrest, hgood⟩ := h tokens htokens
  exact ⟨value, rest, hrun, hrest, himp value hgood⟩

theorem Reads.pure {value : α} {good : α → Prop} (h : good value) :
    Reads (pure value) kinds kinds good :=
  fun tokens htokens => ⟨value, tokens, rfl, htokens, h⟩

theorem Refuses.refuse : Refuses (refuse : Reader α) kinds :=
  fun _ _ => ⟨_, rfl⟩

theorem Reads.remaining :
    Reads remaining kinds kinds fun tokens => tokens.map Token.kind = kinds :=
  fun tokens htokens => ⟨tokens, tokens, rfl, htokens, htokens⟩

theorem Reads.nextLine : Reads nextLine kinds kinds fun _ => True :=
  fun tokens htokens => ⟨_, tokens, rfl, htokens, trivial⟩

/-- The kind of the next token, which is that of the end if there is none. -/
def frontKind (kinds : List TokenKind) : TokenKind :=
  kinds.head?.getD .finish

theorem Reads.peek : Reads peek kinds kinds (· = frontKind kinds) := by
  intro tokens htokens
  refine ⟨_, tokens, rfl, htokens, ?_⟩
  rw [frontKind, ← htokens, List.head?_map]

theorem Reads.peekSecond : Reads peekSecond kinds kinds (· = frontKind (kinds.drop 1)) := by
  intro tokens htokens
  refine ⟨_, tokens, rfl, htokens, ?_⟩
  rw [frontKind, ← htokens, ← List.map_drop, List.head?_map]

theorem Reads.skip {kind : TokenKind} : Reads skip (kind :: kinds) kinds fun _ => True := by
  intro tokens htokens
  refine ⟨(), tokens.drop 1, rfl, ?_, trivial⟩
  rw [List.map_drop, htokens]
  rfl

theorem Reads.accept_same {kind : TokenKind} :
    Reads (accept kind) (kind :: kinds) kinds (· = true) := by
  intro tokens htokens
  obtain ⟨token, rest, rfl, hkind, hrest⟩ := List.map_eq_cons_iff.mp htokens
  refine ⟨true, rest, ?_, hrest, rfl⟩
  rw [accept, if_pos hkind]

theorem Reads.accept_other {kind : TokenKind} (h : kinds.head? ≠ some kind) :
    Reads (accept kind) kinds kinds (· = false) := by
  intro tokens htokens
  refine ⟨false, tokens, ?_, htokens, rfl⟩
  cases tokens with
  | nil => rfl
  | cons token rest =>
      have hkind : token.kind ≠ kind := fun heq => h (by rw [← htokens, List.map_cons, heq]; rfl)
      rw [accept, if_neg hkind]

theorem Reads.expect {kind : TokenKind} :
    Reads (expect kind) (kind :: kinds) kinds fun _ => True :=
  Reads.bind Reads.accept_same fun value hvalue => by
    rw [hvalue]
    exact Reads.pure trivial

theorem Reads.nextIs {symbol : Symbol} :
    Reads (nextIs symbol) kinds kinds (· = decide (frontKind kinds = .symbol symbol)) :=
  Reads.bind Reads.peek fun value hvalue => by
    rw [hvalue]
    exact Reads.pure rfl

theorem Reads.nextIsWord {word : Keyword} :
    Reads (nextIsWord word) kinds kinds (· = decide (frontKind kinds = .keyword word)) :=
  Reads.bind Reads.peek fun value hvalue => by
    rw [hvalue]
    exact Reads.pure rfl

/-- The test by which blocks and modules go on. -/
theorem Reads.nextIsNot {kind : TokenKind} :
    Reads (do return (← Reader.peek) ≠ kind : Reader Bool) kinds kinds
      (· = decide (frontKind kinds ≠ kind)) :=
  Reads.bind Reads.peek fun value hvalue => Reads.pure (by rw [hvalue])

theorem Reads.name {id : Text} : Reads name (.name id :: kinds) kinds (· = id) :=
  Reads.bind Reads.peek fun value hvalue => by
    rw [hvalue]
    exact Reads.bind Reads.skip fun _ _ => Reads.pure rfl

theorem Refuses.name_keyword {word : Keyword} : Refuses name (.keyword word :: kinds) :=
  Reads.refuse_after Reads.peek fun value hvalue => by
    rw [hvalue]
    exact Refuses.refuse

/-! ## Runs on known tokens -/

/-- Tokens of these kinds, of which nothing else is known. -/
def marked (places : Nat → Nat × Nat) : (index : Nat) → List TokenKind → List Token
  | _, [] => []
  | index, kind :: kinds =>
      ⟨kind, (places index).1, (places index).2⟩ :: marked places (index + 1) kinds

theorem exists_marked : ∀ {shown rest : List TokenKind} {tokens : List Token} (index : Nat),
    tokens.map Token.kind = shown ++ rest →
      ∃ places more, tokens = marked places index shown ++ more ∧ more.map Token.kind = rest
  | [], _, tokens, _, htokens => ⟨fun _ => (0, 0), tokens, rfl, htokens⟩
  | kind :: shown, rest, tokens, index, htokens => by
      obtain ⟨token, back, rfl, hkind, hback⟩ := List.map_eq_cons_iff.mp htokens
      obtain ⟨places, more, rfl, hmore⟩ := exists_marked (index + 1) hback
      refine ⟨fun n => if n = index then (token.line, token.depth) else places n, more, ?_, hmore⟩
      have hrest : ∀ (kinds : List TokenKind) (start : Nat), index < start →
          marked (fun n => if n = index then (token.line, token.depth) else places n) start kinds =
            marked places start kinds := by
        intro kinds
        induction kinds with
        | nil => exact fun _ _ => rfl
        | cons other kinds ih =>
            intro start hstart
            rw [marked, marked, ih (start + 1) (Nat.lt_succ_of_lt hstart),
              if_neg (Nat.ne_of_gt hstart)]
      rw [marked, hrest shown (index + 1) (Nat.lt_succ_self index), if_pos rfl, ← hkind]
      rfl

/-- What a reader does can be computed where the kinds of all tokens are known
that it looks at. -/
theorem Reads.of_run {reader : Reader α} {good : α → Prop} (shown : List TokenKind) (taken : Nat)
    (hrun : ∀ places more, ∃ value, reader (marked places 0 shown ++ more) =
      .ok (value, (marked places 0 shown).drop taken ++ more) ∧ good value) :
    Reads reader (shown ++ kinds) (shown.drop taken ++ kinds) good := by
  intro tokens htokens
  obtain ⟨places, more, rfl, hmore⟩ := exists_marked 0 htokens
  obtain ⟨value, hvalue, hgood⟩ := hrun places more
  have hkinds : ∀ (shown : List TokenKind) (index : Nat),
      (marked places index shown).map Token.kind = shown := by
    intro shown
    induction shown with
    | nil => exact fun _ => rfl
    | cons kind rest ih => exact fun index => congrArg (kind :: ·) (ih (index + 1))
  refine ⟨value, _, hvalue, ?_, hgood⟩
  rw [List.map_append, List.map_drop, hkinds, hmore]

theorem Refuses.of_run {reader : Reader α} (shown : List TokenKind)
    (hrun : ∀ places more, ∃ refusal, reader (marked places 0 shown ++ more) = .error refusal) :
    Refuses reader (shown ++ kinds) := by
  intro tokens htokens
  obtain ⟨places, more, rfl, -⟩ := exists_marked 0 htokens
  exact hrun places more

/-! ## Repetition -/

section Repetition

variable {ι : Type} {spell : ι → List TokenKind} {stop : List TokenKind}

/-- Each item is taken, whatever items are spelled between it and the stop. -/
def TakesEach (spell : ι → List TokenKind) (items : List ι) (stop : List TokenKind)
    (takes : ι → (before after : List TokenKind) → Prop) : Prop :=
  ∀ front item back, items = front ++ item :: back →
    takes item (spell item ++ (back.flatMap spell ++ stop)) (back.flatMap spell ++ stop)

theorem TakesEach.nil {takes : ι → (before after : List TokenKind) → Prop} :
    TakesEach spell [] stop takes :=
  fun _ _ _ heq => absurd heq (by simp)

theorem TakesEach.cons {item : ι} {items : List ι}
    {takes : ι → (before after : List TokenKind) → Prop}
    (hitem : takes item (spell item ++ (items.flatMap spell ++ stop)) (items.flatMap spell ++ stop))
    (hitems : TakesEach spell items stop takes) : TakesEach spell (item :: items) stop takes := by
  intro front other back heq
  cases front with
  | nil =>
      obtain ⟨rfl, rfl⟩ := List.cons.inj heq
      exact hitem
  | cons first more => exact hitems more other back (List.cons.inj heq).2

theorem TakesEach.tail {item : ι} {items : List ι}
    {takes : ι → (before after : List TokenKind) → Prop}
    (h : TakesEach spell (item :: items) stop takes) : TakesEach spell items stop takes :=
  fun front other back heq => h (item :: front) other back (congrArg (item :: ·) heq)

theorem Reads.manyFrom {continues : Reader Bool} {reader : Reader α} {good : ι → α → Prop} :
    ∀ {items : List ι} {fuel : Nat}, items.length < fuel →
      TakesEach spell items stop (fun item before after =>
        Reads continues before before (· = true) ∧ Reads reader before after (good item)) →
      Reads continues stop stop (· = false) →
      Reads (manyFrom continues reader fuel) (items.flatMap spell ++ stop) stop
        (List.Forall₂ good items)
  | _, 0, hfuel, _, _ => absurd hfuel (Nat.not_lt_zero _)
  | [], fuel + 1, _, _, hstop =>
      Reads.bind hstop fun value hvalue => by
        rw [hvalue]
        exact Reads.pure List.Forall₂.nil
  | item :: back, fuel + 1, hfuel, hitems, hstop => by
      obtain ⟨hcontinues, hitem⟩ := hitems [] item back rfl
      rw [List.flatMap_cons, List.append_assoc]
      refine Reads.bind hcontinues fun value hvalue => ?_
      rw [hvalue]
      refine Reads.bind hitem fun first hfirst => ?_
      refine Reads.bind (Reads.manyFrom (Nat.lt_of_succ_lt_succ hfuel) hitems.tail hstop)
        fun values hvalues => ?_
      exact Reads.pure (List.Forall₂.cons hfirst hvalues)

theorem Reads.extendFrom {step : α → Reader (Option α)} {good : α → Prop} :
    ∀ {items : List ι} {fuel : Nat} {value : α}, items.length < fuel →
      TakesEach spell items before (fun _ before after => ∀ value, good value →
        Reads (step value) before after fun next => ∃ other, next = some other ∧ good other) →
      (∀ value, good value → Reads (step value) before after (· = none)) → good value →
      Reads (extendFrom step fuel value) (items.flatMap spell ++ before) after good
  | _, 0, _, hfuel, _, _, _ => absurd hfuel (Nat.not_lt_zero _)
  | [], fuel + 1, value, _, _, hstop, hgood =>
      Reads.bind (hstop value hgood) fun next hnext => by
        rw [hnext]
        exact Reads.pure hgood
  | item :: back, fuel + 1, value, hfuel, hitems, hstop, hgood => by
      rw [List.flatMap_cons, List.append_assoc]
      refine Reads.bind (hitems [] item back rfl value hgood) fun next hnext => ?_
      obtain ⟨other, rfl, hother⟩ := hnext
      exact Reads.extendFrom (Nat.lt_of_succ_lt_succ hfuel) hitems.tail hstop hother

/-- Items that are not empty are no more than the tokens they consist of. -/
theorem length_items_lt {items : List ι} {tokens : List Token}
    (hne : ∀ item ∈ items, spell item ≠ [])
    (htokens : tokens.map Token.kind = items.flatMap spell ++ stop) :
    items.length < tokens.length + 1 := by
  have hlength := congrArg List.length htokens
  rw [List.length_map, List.length_append] at hlength
  have hitems : ∀ items : List ι, (∀ item ∈ items, spell item ≠ []) →
      items.length ≤ (items.flatMap spell).length := by
    intro items hne
    induction items with
    | nil => exact Nat.le_refl _
    | cons item rest ih =>
        rw [List.forall_mem_cons] at hne
        have hpos := List.length_pos_of_ne_nil hne.1
        have hrest := ih hne.2
        rw [List.flatMap_cons, List.length_append, List.length_cons]
        omega
  have hle := hitems items hne
  omega

theorem Reads.many {continues : Reader Bool} {reader : Reader α} {good : ι → α → Prop}
    {items : List ι} (hne : ∀ item ∈ items, spell item ≠ [])
    (hitems : TakesEach spell items stop fun item before after =>
      Reads continues before before (· = true) ∧ Reads reader before after (good item))
    (hstop : Reads continues stop stop (· = false)) :
    Reads (many continues reader) (items.flatMap spell ++ stop) stop (List.Forall₂ good items) :=
  Reads.bind Reads.remaining fun _ htokens =>
    Reads.manyFrom (length_items_lt hne htokens) hitems hstop

theorem Reads.extend {step : α → Reader (Option α)} {good : α → Prop} {value : α}
    {items : List ι} (hne : ∀ item ∈ items, spell item ≠ [])
    (hitems : TakesEach spell items before fun _ before after => ∀ value, good value →
      Reads (step value) before after fun next => ∃ other, next = some other ∧ good other)
    (hstop : ∀ value, good value → Reads (step value) before after (· = none))
    (hgood : good value) :
    Reads (extend step value) (items.flatMap spell ++ before) after good :=
  Reads.bind Reads.remaining fun _ htokens =>
    Reads.extendFrom (length_items_lt hne htokens) hitems hstop hgood

end Repetition

/-- Nothing that goes on comes next. -/
theorem Reads.many_none {continues : Reader Bool} {reader : Reader α}
    (hstop : Reads continues kinds kinds (· = false)) :
    Reads (Reader.many continues reader) kinds kinds (· = []) :=
  Reads.bind Reads.remaining fun _ _ => Reads.bind hstop fun value hvalue => by
    rw [hvalue]
    exact Reads.pure rfl

section Until

variable {ι : Type} {spell : ι → List TokenKind} {items : List ι} {kind : TokenKind}
  {reader : Reader α} {good : ι → α → Prop}

/-- Each item is read by itself and does not begin with a token of the kind
before which the reading ends. -/
def ReadsEach (kind : TokenKind) (reader : Reader α) (spell : ι → List TokenKind)
    (good : ι → α → Prop) (items : List ι) : Prop :=
  ∀ item ∈ items, spell item ≠ [] ∧ frontKind (spell item) ≠ kind ∧
    ∀ rest, Reads reader (spell item ++ rest) rest (good item)

theorem frontKind_append (hne : kinds ≠ []) : frontKind (kinds ++ after) = frontKind kinds := by
  cases kinds with
  | nil => exact absurd rfl hne
  | cons kind more => rfl

theorem Reads.goesOn (h : frontKind kinds ≠ kind) :
    Reads (do return (← Reader.peek) ≠ kind : Reader Bool) kinds kinds (· = true) :=
  Reads.nextIsNot.mono fun _ hvalue => hvalue.trans (decide_eq_true h)

theorem ReadsEach.takesEach {stop : List TokenKind} (h : ReadsEach kind reader spell good items) :
    TakesEach spell items stop fun item before after =>
      Reads (do return (← Reader.peek) ≠ kind : Reader Bool) before before (· = true) ∧
        Reads reader before after (good item) := by
  intro front item back heq
  obtain ⟨hne, hfront, hreads⟩ := h item (heq ▸ List.mem_append_right _ (List.mem_cons_self ..))
  exact ⟨Reads.goesOn (frontKind_append hne ▸ hfront), hreads _⟩

/-- Items are read one after another until a token of a certain kind comes. -/
theorem Reads.many_until (h : ReadsEach kind reader spell good items) :
    Reads (Reader.many (do return (← Reader.peek) ≠ kind) reader)
      (items.flatMap spell ++ kind :: kinds) (kind :: kinds) (List.Forall₂ good items) := by
  have hstop : Reads (do return (← Reader.peek) ≠ kind : Reader Bool) (kind :: kinds)
      (kind :: kinds) (· = false) :=
    Reads.nextIsNot.mono fun value hvalue => hvalue.trans (decide_eq_false (not_not.mpr rfl))
  exact Reads.many (fun item hitem => (h item hitem).1) h.takesEach hstop

theorem Refuses.manyFrom {continues : Reader Bool} {stop : List TokenKind}
    (hstop : Reads continues stop stop (· = true)) (hrefuses : Refuses reader stop) :
    ∀ {items : List ι} {fuel : Nat}, items.length < fuel →
      TakesEach spell items stop (fun item before after =>
        Reads continues before before (· = true) ∧ Reads reader before after (good item)) →
      Refuses (manyFrom continues reader fuel) (items.flatMap spell ++ stop)
  | _, 0, hfuel, _ => absurd hfuel (Nat.not_lt_zero _)
  | [], fuel + 1, _, _ =>
      Reads.refuse_after hstop fun value hvalue => by
        rw [hvalue]
        exact hrefuses.bind _
  | item :: back, fuel + 1, hfuel, hitems => by
      obtain ⟨hcontinues, hitem⟩ := hitems [] item back rfl
      rw [List.flatMap_cons, List.append_assoc]
      refine Reads.refuse_after hcontinues fun value hvalue => ?_
      rw [hvalue]
      refine Reads.refuse_after hitem fun first _ => Refuses.bind _ ?_
      exact Refuses.manyFrom hstop hrefuses (Nat.lt_of_succ_lt_succ hfuel) hitems.tail

/-- The reading is refused where it comes to something that is refused. -/
theorem Refuses.many_until (h : ReadsEach kind reader spell good items)
    (hfront : frontKind kinds ≠ kind) (hrefuses : Refuses reader kinds) :
    Refuses (Reader.many (do return (← Reader.peek) ≠ kind) reader)
      (items.flatMap spell ++ kinds) :=
  Reads.refuse_after Reads.remaining fun _ htokens =>
    Refuses.manyFrom (Reads.goesOn hfront) hrefuses
      (length_items_lt (fun item hitem => (h item hitem).1) htokens) h.takesEach

end Until

/-- Nothing by which a value could be extended comes next. -/
theorem Reads.extend_none {step : α → Reader (Option α)} {value : α}
    (hstop : Reads (step value) kinds kinds (· = none)) :
    Reads (Reader.extend step value) kinds kinds (· = value) :=
  Reads.bind Reads.remaining fun _ _ => Reads.bind hstop fun next hnext => by
    rw [hnext]
    exact Reads.pure rfl

end MessageForge.Source
