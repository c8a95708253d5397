import MessageForge.Proofs.Category
import MessageForge.Proofs.Outcome
import MessageForge.Source.Imports

/-!
# Contributions of statements

What a declaration file holds is told statement by statement: marked classes
and calls give its entries with the names of their classes, and import
statements give its import lines, but for those that serve the declarations
themselves. All other statements give nothing.
-/

namespace MessageForge

open Vocabulary

/-- What the results of a traversal give can be told from its items. -/
theorem filterMap_of_mapM_eq_ok {ε α β γ : Type} {f : α → Except ε β} {given : β → Option γ}
    {told : α → Option γ} (htold : ∀ item result, f item = .ok result → given result = told item) :
    ∀ {items : List α} {results : List β}, items.mapM f = .ok results →
      results.filterMap given = items.filterMap told
  | [], _, h => by cases h; rfl
  | item :: rest, results, h => by
      rw [List.mapM_cons] at h
      obtain ⟨first, hfirst, h⟩ := bind_eq_ok_iff.mp h
      obtain ⟨others, hothers, h⟩ := bind_eq_ok_iff.mp h
      cases h
      rw [List.filterMap_cons, List.filterMap_cons, htold item first hfirst,
        filterMap_of_mapM_eq_ok htold hothers]

/-- The name under which the class of an entry is listed. -/
def Entry.className : Entry → Text
  | .declaration d => d.name
  | .definition d => Category.typeName d.category

/-- The category that a text means, whether it can be one or not. -/
def Category.meant (text : Text) : Text :=
  Text.dropPrefix (messageTypeEnum ++ ".") (Text.trim text)

theorem Category.normalize_eq_ok_iff {text category : Text} :
    normalize text = .ok category ↔
      Text.isIdentifier (meant text) = true ∧ category = meant text := by
  rw [normalize, ← meant]
  split
  · next hidentifier => exact ⟨fun h => ⟨hidentifier, (Except.ok.inj h).symm⟩, fun h => h.2 ▸ rfl⟩
  · next hidentifier =>
      constructor
      · intro h
        cases h
      · rintro ⟨hmeant, -⟩
        exact absurd hmeant hidentifier

namespace Source

/-! ## Import statements -/

namespace Import

theorem text_modules (names : List Alias) :
    (modules names).text = ("import " : Text) ++ commaList (names.map Alias.text) :=
  rfl

theorem text_members (level : Nat) (module : Option Text) (names : List Alias) :
    (members level module names).text = ("from " : Text) ++ (List.replicate level '.' ++
      (module.getD [] ++ ((" import " : Text) ++ commaList (names.map Alias.text)))) := by
  simp only [← List.append_assoc]
  rfl

end Import

@[simp]
theorem Import.import?_node (given : Import) : given.node.import? = some given := by
  cases given <;> rfl

/-! ## Statements that give a class -/

/-- The text that a call gives for its category. -/
def Expr.categoryText? : Expr → Option Text
  | .literal (.text codes _) => some (codes.map Char.ofNat)
  | argument => argument.text

/-- The name of the class that a statement asks for. -/
def givenName? : Stmt → Option Text
  | (_, .classDef name decorators _ _ _) => if isMarked decorators then some name else none
  | (_, .expression (.call callee [argument] [] _)) =>
      if namedAmong [defineCall] callee then
        argument.categoryText?.map fun text => Category.typeName (Category.meant text)
      else none
  | _ => none

section Contributions

variable {source : Option Text} {stmt : Stmt} {given : Contribution}

/-- The definition of a call with one argument goes by the text that it gives. -/
theorem definitionOfCall_singleton (source : Option Text) (line : Nat) (argument : Expr) :
    definitionOfCall source line [argument] [] =
      match argument.categoryText? with
      | none => .error .unprintable
      | some text => (Category.normalize text).mapError (refusedAt source line) >>= fun category =>
          .ok { category, source, line := some line } := by
  unfold definitionOfCall
  dsimp only
  split
  · rfl
  · next hliteral =>
      have htext : argument.categoryText? = argument.text := by
        unfold Expr.categoryText?
        split
        · next codes marked => exact absurd rfl (hliteral codes marked)
        · rfl
      rw [htext, printed]
      cases argument.text <;> rfl

theorem definitionOfCall_eq_ok {line : Nat} {arguments : List Expr} {keywords : List Argument}
    {definition : Definition}
    (h : definitionOfCall source line arguments keywords = .ok definition) :
    ∃ argument text, arguments = [argument] ∧ keywords = [] ∧
      argument.categoryText? = some text ∧ Category.normalize text = .ok definition.category := by
  by_cases hcount : ∃ argument, arguments = [argument] ∧ keywords = []
  · obtain ⟨argument, rfl, rfl⟩ := hcount
    rw [definitionOfCall_singleton] at h
    cases htext : argument.categoryText? with
    | none => rw [htext] at h; cases h
    | some text =>
        rw [htext] at h
        obtain ⟨category, hcategory, h⟩ := bind_eq_ok_iff.mp h
        cases h
        exact ⟨argument, text, rfl, rfl, htext, mapError_eq_ok_iff.mp hcategory⟩
  · unfold definitionOfCall at h
    split at h
    · exact absurd ⟨_, rfl, rfl⟩ hcount
    · cases h

/-- An import statement gives its line if it is carried over, and nothing else
gives a line. -/
theorem importLine?_contribution (h : contribution source stmt = .ok given) :
    given.importLine? =
      stmt.2.import?.bind fun found => if found.isOwn then none else some found.text := by
  unfold contribution at h
  split at h
  · cases h; rfl
  · split at h
    · next hown => cases h; exact (if_pos hown).symm
    · next hown => cases h; exact (if_neg hown).symm
  · split at h
    · obtain ⟨declaration, -, h⟩ := bind_eq_ok_iff.mp h
      cases h; rfl
    · cases h; rfl
  · split at h
    · obtain ⟨definition, -, h⟩ := bind_eq_ok_iff.mp h
      cases h; rfl
    · cases h; rfl
  · next hmodules hmembers _ _ =>
      cases h
      obtain ⟨line, node⟩ := stmt
      cases node with
      | imports names => exact absurd rfl (hmodules line names)
      | importsFrom level module names => exact absurd rfl (hmembers line level module names)
      | _ => rfl

/-- An entry has the name of the class that its statement asks for. -/
theorem className_contribution (h : contribution source stmt = .ok given) :
    given.entry?.map Entry.className = givenName? stmt := by
  unfold contribution at h
  split at h
  · cases h; rfl
  · split at h <;> (cases h; rfl)
  · next line name decorators bases keywords body =>
      split at h
      · next hmarked =>
          obtain ⟨declaration, hdeclaration, h⟩ := bind_eq_ok_iff.mp h
          obtain ⟨found, -, hfound⟩ := bind_eq_ok_iff.mp hdeclaration
          cases h
          cases hfound
          exact (if_pos hmarked).symm
      · next hmarked => cases h; exact (if_neg hmarked).symm
  · next line callee arguments keywords callLine =>
      split at h
      · next hcall =>
          obtain ⟨definition, hdefinition, h⟩ := bind_eq_ok_iff.mp h
          cases h
          obtain ⟨argument, text, rfl, rfl, htext, hnormal⟩ := definitionOfCall_eq_ok hdefinition
          have hcategory := (Category.normalize_eq_ok_iff.mp hnormal).2
          simp [givenName?, Contribution.entry?, Entry.className, hcall, htext, hcategory]
      · next hcall =>
          cases h
          unfold givenName?
          split
          · next heq => cases heq
          · next heq => cases heq; exact (if_neg hcall).symm
          · rfl
  · next hclass hcall =>
      cases h
      unfold givenName?
      split
      · exact absurd rfl (hclass _ _ _ _ _ _)
      · exact absurd rfl (hcall _ _ _ _ _)
      · rfl

/-- The category of a definition in a text is its own normal spelling. -/
theorem normalize_of_contribution {definition : Definition}
    (h : contribution source stmt = .ok (.entry (.definition definition))) :
    Category.normalize definition.category = .ok definition.category := by
  unfold contribution at h
  split at h
  · cases h
  · split at h <;> cases h
  · split at h
    · obtain ⟨declaration, -, h⟩ := bind_eq_ok_iff.mp h
      cases h
    · cases h
  · split at h
    · obtain ⟨found, hfound, h⟩ := bind_eq_ok_iff.mp h
      cases h
      obtain ⟨-, text, -, -, -, hnormal⟩ := definitionOfCall_eq_ok hfound
      exact Category.normalize_of_isIdentifier (Category.isIdentifier_of_normalize hnormal)
    · cases h
  · cases h

end Contributions

/-! ## Files of declarations -/

/-- What is in the file of a text that is accepted. -/
structure IsFileOf (file : DeclarationFile) (source : Text) (statements : List Stmt) : Prop where
  path : file.path = source
  imports : file.imports = (carriedOf statements).map Import.text
  names : file.entries.map Entry.className = statements.filterMap givenName?
  definitions : ∀ definition, Entry.definition definition ∈ file.entries →
    Category.normalize definition.category = .ok definition.category

theorem isFileOf_parseDeclarations {characters : CharacterNames} {text source : Text}
    {file : DeclarationFile}
    (h : parseDeclarations characters text source = .ok file) :
    ∃ statements, readStatements characters (some source) text = .ok statements ∧
      IsFileOf file source statements := by
  obtain ⟨statements, hread, h⟩ := bind_eq_ok_iff.mp h
  obtain ⟨contributions, hcontributions, h⟩ := bind_eq_ok_iff.mp h
  cases h
  refine ⟨statements, hread, rfl, ?_, ?_, fun definition hdefinition => ?_⟩
  · rw [filterMap_of_mapM_eq_ok (fun _ _ => importLine?_contribution) hcontributions, carriedOf,
      importsOf, List.filter_filterMap, List.map_filterMap]
    refine List.filterMap_congr fun stmt _ => ?_
    cases stmt.2.import? with
    | none => rfl
    | some found => cases hown : found.isOwn <;> simp [hown, Option.filter]
  · rw [List.map_filterMap]
    exact filterMap_of_mapM_eq_ok (fun _ _ => className_contribution) hcontributions
  · obtain ⟨given, hgiven, hentry⟩ := List.mem_filterMap.mp hdefinition
    obtain ⟨stmt, -, hstmt⟩ := mem_of_mapM_eq_ok hcontributions given hgiven
    cases given with
    | entry declared =>
        cases hentry
        exact normalize_of_contribution hstmt
    | _ => cases hentry

end Source

end MessageForge
