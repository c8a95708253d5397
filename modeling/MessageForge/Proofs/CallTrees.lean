import MessageForge.Message.Method
import MessageForge.Proofs.Lines

/-!
# Trees of calls

An argument of a call can be a call itself. It is handed over as one text and cut
into lines again, at each level anew; for all that, every line stands at the depth
of its place in the tree. The depth of a line is given by the tree alone, and what
is built from the inside out is compared with it.

Main statement: `calls_are_laid_out_by_depth`.
-/

namespace MessageForge.Code

/-! ## Trees -/

/-- An argument is a text, or a call behind a keyword. -/
inductive Argument where
  | text (text : Text)
  | call (keyword callee : Text) (arguments : List Argument)

structure CallTree where
  callee : Text
  arguments : List Argument

mutual

/-- The text that is handed over as an argument. -/
def Argument.build : Argument → Text
  | .text text => text
  | .call keyword callee arguments =>
      keyword ++ Text.joinLines (newCall callee (buildAll arguments))

def buildAll : List Argument → List Text
  | [] => []
  | argument :: rest => argument.build :: buildAll rest

end

/-- The lines of a call, with those inside it built before. -/
def CallTree.build (tree : CallTree) : List Text :=
  newCall tree.callee (buildAll tree.arguments)

/-- A text with the level at which it stands. -/
structure LevelText where
  level : Nat
  text : Text
  deriving DecidableEq, Repr

mutual

/-- An argument ends in a comma, and what it holds stands one level deeper. -/
def Argument.print (level : Nat) : Argument → List LevelText
  | .text text => [⟨level, text ++ ","⟩]
  | .call keyword callee arguments =>
      ⟨level, keyword ++ callee ++ "("⟩ :: printAll (level + 1) arguments ++ [⟨level, "),"⟩]

def printAll (level : Nat) : List Argument → List LevelText
  | [] => []
  | argument :: rest => argument.print level ++ printAll level rest

end

/-- A call as it is printed outright, from the outside in. -/
def CallTree.print (level : Nat) (tree : CallTree) : List LevelText :=
  ⟨level, tree.callee ++ "("⟩ :: printAll (level + 1) tree.arguments ++ [⟨level, ")"⟩]

/-- A line at its level, with four spaces for each. -/
def LevelText.line (printed : LevelText) : Text :=
  List.replicate (4 * printed.level) ' ' ++ printed.text

/-- Each line of the text at its level. Empty lines stay empty. -/
def LevelText.lines (printed : LevelText) : List Text :=
  (Text.split '\n' printed.text).map fun line =>
    if line = [] then [] else List.replicate (4 * printed.level) ' ' ++ line

/-! ## Indentation -/

theorem repeated_indentUnit (n : Nat) :
    Text.repeated n indentUnit = List.replicate (4 * n) ' ' := by
  induction n with
  | zero => rfl
  | succ n ih =>
      have hunit : indentUnit = List.replicate 4 ' ' := rfl
      rw [Text.repeated] at ih
      rw [Text.repeated, List.replicate_succ, List.flatten_cons, ih, hunit,
        List.replicate_append_replicate]
      congr 1
      omega

theorem indent_eq (level : Nat) (lines : List Text) :
    indent level lines = lines.map fun line =>
      if line = [] then [] else List.replicate (4 * level) ' ' ++ line := by
  rw [indent, Int.toNat_natCast, repeated_indentUnit]
  apply List.map_congr_left
  intro line _
  simp only [List.isEmpty_iff]

theorem indent_zero (lines : List Text) : indent 0 lines = lines := by
  rw [show (0 : Int) = (0 : Nat) from rfl, indent_eq]
  conv_rhs => rw [← List.map_id lines]
  apply List.map_congr_left
  intro line _
  split
  · next hline => exact hline.symm
  · rfl

/-- Levels add up. -/
theorem indent_indent (first second : Nat) (lines : List Text) :
    indent second (indent first lines) = indent (first + second : Nat) lines := by
  rw [indent_eq, indent_eq, indent_eq, List.map_map]
  apply List.map_congr_left
  intro line _
  by_cases hline : line = []
  · simp [hline]
  · simp only [Function.comp_apply, if_neg hline]
    rw [if_neg (by simp [hline]), ← List.append_assoc, List.replicate_append_replicate,
      ← Nat.mul_add, Nat.add_comm]

theorem LevelText.lines_eq_indent (level : Nat) (text : Text) :
    LevelText.lines ⟨level, text⟩ = indent level (Text.split '\n' text) :=
  (indent_eq level _).symm

/-! ## Arguments as lines -/

theorem argumentLines_concat (front : List Text) (last : Text) :
    argumentLines (front ++ [last]) = front ++ [last ++ ","] := by
  induction front with
  | nil => rfl
  | cons line rest ih =>
      rw [List.cons_append, List.cons_append, ← ih]
      cases rest with
      | nil => rfl
      | cons next rest => rfl

/-- The comma behind the last line is the comma behind the text. -/
theorem argumentLines_split (text : Text) :
    argumentLines (Text.split '\n' text) = Text.split '\n' (text ++ ",") := by
  induction text with
  | nil => rfl
  | cons c rest ih =>
      rw [List.cons_append, Text.split, Text.split, ← ih]
      cases hrest : Text.split '\n' rest with
      | nil => exact absurd hrest (Text.split_ne_nil '\n' rest)
      | cons piece pieces =>
          by_cases hc : c = '\n'
          · rw [if_pos hc, if_pos hc]
            rfl
          · rw [if_neg hc, if_neg hc]
            cases pieces with
            | nil => rfl
            | cons next more => rfl

/-- Lines that are joined are cut again, and so are lines that hold line feeds. -/
theorem split_joinLines_eq_flatMap : ∀ {lines : List Text}, lines ≠ [] →
    Text.split '\n' (Text.joinLines lines) = lines.flatMap (Text.split '\n')
  | [], hne => absurd rfl hne
  | [line], _ => by
      rw [List.flatMap_singleton]
      rfl
  | line :: next :: rest, _ => by
      have hrest : Text.split '\n' (Text.joinLines (next :: rest)) =
          (next :: rest).flatMap (Text.split '\n') :=
        split_joinLines_eq_flatMap (List.cons_ne_nil _ _)
      show Text.split '\n' (line ++ ['\n'] ++ Text.joinLines (next :: rest)) = _
      rw [List.append_assoc, List.singleton_append, Text.split_append, hrest]
      rfl

theorem flatMap_split_of_unbroken {lines : List Text} (h : ∀ line ∈ lines, '\n' ∉ line) :
    lines.flatMap (Text.split '\n') = lines := by
  induction lines with
  | nil => rfl
  | cons line rest ih =>
      obtain ⟨hline, hrest⟩ := List.forall_mem_cons.mp h
      rw [List.flatMap_cons, Text.split_of_not_mem hline, ih hrest]
      rfl

/-- The lines that an argument adds to a call. -/
def callLines (arguments : List Text) : List Text :=
  arguments.flatMap fun argument => indent 1 (argumentLines (Text.split '\n' argument))

theorem newCall_eq (callee : Text) (arguments : List Text) :
    newCall callee arguments = (callee ++ "(") :: callLines arguments ++ [[')']] :=
  rfl

theorem unbroken_callLines (arguments : List Text) :
    ∀ line ∈ callLines arguments, '\n' ∉ line := by
  intro line hline
  obtain ⟨argument, -, hline⟩ := List.mem_flatMap.mp hline
  rw [argumentLines_split] at hline
  obtain ⟨piece, hpiece, rfl⟩ := List.mem_map.mp hline
  split
  · exact List.not_mem_nil
  · rw [List.mem_append, not_or]
    exact ⟨by decide, Text.not_mem_of_mem_split hpiece⟩

/-- A call as an argument of another: its head is cut, its lines inside stay as they
are, and the comma stands behind its end. -/
theorem split_build_call (keyword callee : Text) (arguments : List Text) :
    Text.split '\n' (keyword ++ Text.joinLines (newCall callee arguments) ++ ",") =
      Text.split '\n' (keyword ++ callee ++ "(") ++ callLines arguments ++ [("),": Text)] := by
  have hjoin : keyword ++ Text.joinLines (newCall callee arguments) =
      Text.joinLines ((keyword ++ callee ++ "(") :: callLines arguments ++ [[')']]) := by
    rw [newCall_eq, List.cons_append, Text.append_joinLines, ← List.append_assoc]
    rfl
  rw [← argumentLines_split, hjoin, split_joinLines_eq_flatMap (by simp), List.flatMap_append,
    List.flatMap_cons, flatMap_split_of_unbroken (unbroken_callLines arguments)]
  exact argumentLines_concat _ _

/-! ## What is built and what is printed -/

mutual

/-- An argument that has been handed over stands as it is printed. -/
theorem indent_argument (level : Nat) : ∀ argument : Argument,
    indent level (Text.split '\n' (argument.build ++ ",")) =
      (argument.print level).flatMap LevelText.lines
  | .text text => by
      rw [Argument.build, Argument.print, List.flatMap_singleton, LevelText.lines_eq_indent]
  | .call keyword callee arguments => by
      rw [Argument.build, Argument.print, split_build_call, indent_append, indent_append,
        indent_callLines level arguments, List.flatMap_append, List.flatMap_cons,
        LevelText.lines_eq_indent, List.flatMap_singleton, LevelText.lines_eq_indent]
      rfl

theorem indent_callLines (level : Nat) : ∀ arguments : List Argument,
    indent level (callLines (buildAll arguments)) =
      (printAll (level + 1) arguments).flatMap LevelText.lines
  | [] => rfl
  | argument :: rest => by
      have hrest := indent_callLines level rest
      have hargument := indent_argument (level + 1) argument
      rw [buildAll, printAll, List.flatMap_append, ← hrest, ← hargument, callLines,
        List.flatMap_cons, indent_append, argumentLines_split, show (1 : Int) = (1 : Nat) from rfl,
        indent_indent, Nat.add_comm]
      rfl

end

/-- Moved to some level, the lines of a call are those that are printed there. -/
theorem indent_build (level : Nat) (tree : CallTree) :
    indent level (tree.build.flatMap (Text.split '\n')) =
      (tree.print level).flatMap LevelText.lines := by
  have hbuild : tree.build.flatMap (Text.split '\n') =
      Text.split '\n' (tree.callee ++ "(") ++ callLines (buildAll tree.arguments) ++ [[')']] := by
    rw [CallTree.build, newCall_eq, List.flatMap_append, List.flatMap_cons,
      flatMap_split_of_unbroken (unbroken_callLines _)]
    rfl
  rw [hbuild, CallTree.print, indent_append, indent_append, indent_callLines, List.flatMap_append,
    List.flatMap_cons, LevelText.lines_eq_indent, List.flatMap_singleton, LevelText.lines_eq_indent]
  rfl

/-! ## Calls of single lines -/

mutual

/-- The texts that a tree is made of. -/
def Argument.pieces : Argument → List Text
  | .text text => [text]
  | .call keyword callee arguments => keyword :: callee :: piecesOfAll arguments

def piecesOfAll : List Argument → List Text
  | [] => []
  | argument :: rest => argument.pieces ++ piecesOfAll rest

end

def CallTree.pieces (tree : CallTree) : List Text :=
  tree.callee :: piecesOfAll tree.arguments

/-- A text that is there and stands on one line. -/
def LevelText.IsLine (printed : LevelText) : Prop :=
  printed.text ≠ [] ∧ '\n' ∉ printed.text

theorem isLine_append {level : Nat} {text ending : Text} (h : '\n' ∉ text) (hne : ending ≠ [])
    (hending : '\n' ∉ ending) : LevelText.IsLine ⟨level, text ++ ending⟩ :=
  ⟨List.append_ne_nil_of_right_ne_nil _ hne, by
    rw [List.mem_append, not_or]
    exact ⟨h, hending⟩⟩

mutual

theorem isLine_of_print {level : Nat} : ∀ {argument : Argument},
    (∀ piece ∈ argument.pieces, '\n' ∉ piece) → ∀ printed ∈ argument.print level, printed.IsLine
  | .text text, h => by
      rw [Argument.print, List.forall_mem_singleton]
      exact isLine_append (h text (List.mem_singleton_self _)) (by decide) (by decide)
  | .call keyword callee arguments, h => by
      rw [Argument.pieces] at h
      obtain ⟨hkeyword, h⟩ := List.forall_mem_cons.mp h
      obtain ⟨hcallee, harguments⟩ := List.forall_mem_cons.mp h
      have hhead : '\n' ∉ keyword ++ callee := by
        rw [List.mem_append, not_or]
        exact ⟨hkeyword, hcallee⟩
      rw [Argument.print, List.forall_mem_append, List.forall_mem_cons, List.forall_mem_singleton]
      exact ⟨⟨isLine_append hhead (by decide) (by decide), isLine_of_printAll harguments⟩,
        by simp [LevelText.IsLine]⟩

theorem isLine_of_printAll {level : Nat} : ∀ {arguments : List Argument},
    (∀ piece ∈ piecesOfAll arguments, '\n' ∉ piece) →
    ∀ printed ∈ printAll level arguments, printed.IsLine
  | [], _ => List.forall_mem_nil _
  | argument :: rest, h => by
      rw [piecesOfAll] at h
      obtain ⟨hargument, hrest⟩ := List.forall_mem_append.mp h
      rw [printAll, List.forall_mem_append]
      exact ⟨isLine_of_print hargument, isLine_of_printAll hrest⟩

end

theorem CallTree.isLine_of_print {tree : CallTree} (h : ∀ piece ∈ tree.pieces, '\n' ∉ piece)
    (level : Nat) : ∀ printed ∈ tree.print level, printed.IsLine := by
  rw [CallTree.pieces] at h
  obtain ⟨hcallee, harguments⟩ := List.forall_mem_cons.mp h
  rw [CallTree.print, List.forall_mem_append, List.forall_mem_cons, List.forall_mem_singleton]
  exact ⟨⟨isLine_append hcallee (by decide) (by decide), isLine_of_printAll harguments⟩,
    by simp [LevelText.IsLine]⟩

/-- Texts without line feeds are lines of their own. -/
theorem flatMap_lines_eq_map {printed : List LevelText} (h : ∀ row ∈ printed, row.IsLine) :
    printed.flatMap LevelText.lines = printed.map LevelText.line := by
  rw [List.map_eq_flatMap]
  apply List.flatMap_congr
  intro row hrow
  obtain ⟨hne, hunbroken⟩ := h row hrow
  rw [LevelText.lines, Text.split_of_not_mem hunbroken]
  simp [LevelText.line, hne]

theorem CallTree.unbroken_build {tree : CallTree} (h : ∀ piece ∈ tree.pieces, '\n' ∉ piece) :
    ∀ line ∈ tree.build, '\n' ∉ line := by
  have hcallee := h tree.callee (List.mem_cons_self ..)
  rw [CallTree.build, newCall_eq, List.forall_mem_append, List.forall_mem_cons,
    List.forall_mem_singleton]
  refine ⟨⟨?_, unbroken_callLines _⟩, by decide⟩
  rw [List.mem_append, not_or]
  exact ⟨hcallee, by decide⟩

/-! ## Constructions -/

mutual

/-- The initializer of a field as an argument. -/
def initializer (field : Text) : Term → Argument
  | .construct callee initializers => .call (field ++ "=") callee.inline (initializersOf initializers)
  | .name id => .text (field ++ "=" ++ (Term.name id).inline)
  | .member owner id => .text (field ++ "=" ++ (Term.member owner id).inline)
  | .none => .text (field ++ "=" ++ Term.none.inline)
  | .false => .text (field ++ "=" ++ Term.false.inline)
  | .emptyTable => .text (field ++ "=" ++ Term.emptyTable.inline)
  | .call callee arguments => .text (field ++ "=" ++ (Term.call callee arguments).inline)

def initializersOf : List (Text × Term) → List Argument
  | [] => []
  | (field, value) :: rest => initializer field value :: initializersOf rest

end

mutual

theorem build_initializer (field : Text) : ∀ value : Term,
    (initializer field value).build = field ++ "=" ++ Text.joinLines value.lines
  | .construct callee initializers => by
      rw [initializer, Argument.build, buildAll_initializersOf, Term.lines]
  | .name _ => rfl
  | .member _ _ => rfl
  | .none => rfl
  | .false => rfl
  | .emptyTable => rfl
  | .call _ _ => rfl

theorem buildAll_initializersOf : ∀ initializers : List (Text × Term),
    buildAll (initializersOf initializers) = Term.initializerTexts initializers
  | [] => rfl
  | (field, value) :: rest => by
      rw [initializersOf, buildAll, build_initializer, buildAll_initializersOf, Term.initializerTexts]

end

/-- A construction as a tree of calls. -/
def constructionTree (callee : Term) (initializers : List (Text × Term)) : CallTree where
  callee := callee.inline
  arguments := initializersOf initializers

theorem lines_construct (callee : Term) (initializers : List (Text × Term)) :
    (Term.construct callee initializers).lines = (constructionTree callee initializers).build := by
  rw [Term.lines, CallTree.build, constructionTree, buildAll_initializersOf]

/-! ## Layout -/

/-- Built from the inside out, a call has the lines that are printed from the
outside in: each line at the depth of its place, with one comma behind each
argument and each call closed on a line of its own. Indented further, it has the
lines that are printed at that level, as levels add up. All constructions of
messages are laid out in this way. -/
theorem calls_are_laid_out_by_depth :
    (∀ tree : CallTree, (∀ piece ∈ tree.pieces, '\n' ∉ piece) →
      tree.build = (tree.print 0).map LevelText.line ∧
      ∀ level : Nat, indent level tree.build = (tree.print level).map LevelText.line) ∧
    (∀ tree : CallTree, ∀ level : Nat, indent level (tree.build.flatMap (Text.split '\n')) =
      (tree.print level).flatMap LevelText.lines) ∧
    (∀ (lines : List Text) (first second : Nat),
      indent second (indent first lines) = indent (first + second : Nat) lines) ∧
    ∀ (callee : Term) (initializers : List (Text × Term)),
      (Term.construct callee initializers).lines = (constructionTree callee initializers).build := by
  refine ⟨fun tree h => ?_, fun tree level => indent_build level tree, ?_, lines_construct⟩
  · have hlevel : ∀ level : Nat, indent level tree.build = (tree.print level).map LevelText.line := by
      intro level
      have hlines := indent_build level tree
      rwa [flatMap_split_of_unbroken (CallTree.unbroken_build h),
        flatMap_lines_eq_map (CallTree.isLine_of_print h level)] at hlines
    refine ⟨?_, hlevel⟩
    have hzero := hlevel 0
    rwa [show ((0 : Nat) : Int) = 0 from rfl, indent_zero] at hzero
  · intro lines first second
    exact indent_indent first second lines

/-- A call of depth three, with an argument behind the inner calls. -/
def nestedTree : CallTree where
  callee := "cls"
  arguments :=
    [.call "base=" "Base" [.call "inner=" "Inner" [.text "x=1", .text "y=2"], .call "" "empty" []],
      .text "z=3"]

theorem nested_tree_is_laid_out : (∀ piece ∈ nestedTree.pieces, '\n' ∉ piece) ∧
    nestedTree.build =
      (["cls(", "    base=Base(", "        inner=Inner(", "            x=1,", "            y=2,",
        "        ),", "        empty(", "        ),", "    ),", "    z=3,", ")"] : List Text) := by
  have hunbroken : ∀ piece ∈ nestedTree.pieces, '\n' ∉ piece := by decide
  refine ⟨hunbroken, ?_⟩
  rw [(calls_are_laid_out_by_depth.1 nestedTree hunbroken).1]
  decide

end MessageForge.Code
