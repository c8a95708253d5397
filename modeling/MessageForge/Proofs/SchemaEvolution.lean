import MessageForge.Proofs.ClassParts
import MessageForge.Proofs.SchemaAnnotations

/-!
# Schemas that change

A schema is written again. Where the lines of the members of a record stand in
another order, under the same ordinals, nothing changes in what it declares.
Where a record that is declared has got one field line more, with the next
ordinal, it is declared with one field more at the end, and so the rows of its
class have got one item more at their ends.

Main statement: `schemas_evolve_compatibly`.
-/

namespace MessageForge.Schema

open Vocabulary Job

variable {outline outline' : Outline} {top top' : TopLevel} {leaf : ValueType} {word source : Text}
  {line : MemberLine} {field : Field} {declaration : Declaration}

/-! ## Edits -/

/-- The lines of a record in another order. -/
inductive TopKind.Reordered : TopKind → TopKind → Prop where
  | same (kind : TopKind) : Reordered kind kind
  | record {hasUnion : Bool} {members members' : List MemberLine} (h : members.Perm members') :
      Reordered (.record hasUnion members) (.record hasUnion members')

/-- A record without an unnamed union with one line more, somewhere among the
others and with a later ordinal than all of them. -/
inductive TopKind.Added (line : MemberLine) : TopKind → TopKind → Prop where
  | record {above below : List MemberLine} (hslot : line.field.isSlot = true)
      (hnext : ∀ member ∈ above ++ below, member.ordinal < line.ordinal) :
      Added line (.record false (above ++ below)) (.record false (above ++ line :: below))

/-- Two nodes are alike but for what they are. -/
structure TopLevel.Edited (edit : TopKind → TopKind → Prop) (top top' : TopLevel) : Prop where
  name : top'.name = top.name
  id : top'.id = top.id
  annotations : top'.annotations = top.annotations
  kind : edit top.kind top'.kind

def Outline.Reordered (outline outline' : Outline) : Prop :=
  List.Forall₂ (TopLevel.Edited TopKind.Reordered) outline outline'

/-- One node has got a line more, and all others are the same. -/
def Outline.Added (top : TopLevel) (line : MemberLine) (outline outline' : Outline) : Prop :=
  ∃ before behind top', outline = before ++ top :: behind ∧ outline' = before ++ top' :: behind ∧
    top.Edited (TopKind.Added line) top'

/-- Both outlines have the same nodes, and the same of them declare annotations. -/
def Alike (outline outline' : Outline) : Prop :=
  List.Forall₂ (TopLevel.Edited fun kind kind' => kind' = .marker ↔ kind = .marker) outline outline'

theorem TopLevel.Edited.mono {edit edit' : TopKind → TopKind → Prop}
    (h : ∀ kind kind', edit kind kind' → edit' kind kind') (hedited : top.Edited edit top') :
    top.Edited edit' top' :=
  ⟨hedited.name, hedited.id, hedited.annotations, h _ _ hedited.kind⟩

theorem TopLevel.Edited.refl {edit : TopKind → TopKind → Prop} (h : ∀ kind, edit kind kind)
    (top : TopLevel) : top.Edited edit top :=
  ⟨rfl, rfl, rfl, h _⟩

theorem Outline.Reordered.alike (h : outline.Reordered outline') : Alike outline outline' :=
  List.Forall₂.imp (fun _ _ => TopLevel.Edited.mono fun kind kind' hkind => by
    cases hkind with
    | same => exact Iff.rfl
    | record => exact ⟨nofun, nofun⟩) h

theorem Alike.flip (h : Alike outline outline') : Alike outline' outline :=
  List.Forall₂.flip (List.Forall₂.imp (fun _ _ hedited =>
    ⟨hedited.name.symm, hedited.id.symm, hedited.annotations.symm, hedited.kind.symm⟩) h)

/-! ## What edits keep -/

theorem ValueType.IsNamed.alike (halike : Alike outline outline') (h : leaf.IsNamed outline word) :
    leaf.IsNamed outline' word := by
  cases h with
  | declared htop hleaf =>
      obtain ⟨other, hother, hedited⟩ := exists_mem_of_forall₂ halike htop
      rw [← hedited.name]
      rw [← hedited.id] at hleaf
      exact .declared hother hleaf
  | foreign hforeign hleaf =>
      refine .foreign (fun other hother heq => ?_) hleaf
      obtain ⟨top, htop, hedited⟩ := exists_left_of_forall₂ halike other hother
      exact hforeign top htop (hedited.id.symm.trans heq)
  | plain type => exact .plain type
  | interface id => exact .interface id
  | anyPointer => exact .anyPointer

theorem Describes.alike (halike : Alike outline outline') (h : Describes outline line field) :
    Describes outline' line field := by
  cases h with
  | slot hname => exact .slot (hname.alike halike)

theorem Carries.alike (halike : Alike outline outline')
    (hedited : top'.annotations = top.annotations) (h : Carries outline top) : Carries outline' top' := by
  obtain ⟨mark, hmark, hname, hkind, hid⟩ := h
  obtain ⟨other, hother, hsame⟩ := exists_mem_of_forall₂ halike hmark
  exact ⟨other, hother, hsame.name.trans hname, hsame.kind.mpr hkind, by rw [hsame.id, hedited]; exact hid⟩

/-- The node itself is the same: so is what it is declared as. -/
theorem Classifies.alike (halike : Alike outline outline') (h : Classifies outline source top declaration) :
    Classifies outline' source top declaration := by
  cases h with
  | enumeration hkind => exact .enumeration hkind
  | interface hkind => exact .interface hkind
  | const hkind => exact .const hkind
  | marker hkind => exact .marker hkind
  | union hkind => exact .union hkind
  | group hkind hsorted hbefore => exact .group hkind hsorted hbefore
  | unit hkind => exact .unit hkind
  | record hkind hsorted hsome hfields =>
      exact .record hkind hsorted hsome (hfields.imp fun _ _ hfield => hfield.alike halike)

/-- The order of the lines makes no difference. -/
theorem Classifies.reordered (hedited : top.Edited TopKind.Reordered top')
    (h : Classifies outline source top declaration) : Classifies outline source top' declaration := by
  obtain ⟨name, id, annotations, kind⟩ := top
  obtain ⟨_, _, _, kind'⟩ := top'
  obtain ⟨rfl, rfl, rfl, hkind⟩ := hedited
  dsimp only at hkind
  cases hkind with
  | same => exact h
  | record hperm =>
      cases h with
      | record hkind hsorted hsome hfields =>
          cases hkind
          exact .record rfl ⟨hsorted.perm.trans hperm, hsorted.pairwise⟩
            (fun hnil => hsome (List.perm_nil.mp (hnil ▸ hperm))) hfields
      | group hkind hsorted hbefore =>
          cases hkind
          exact .group rfl ⟨hsorted.perm.trans hperm, hsorted.pairwise⟩ hbefore
      | union hkind =>
          cases hkind
          exact .union rfl
      | unit hkind =>
          cases hkind
          obtain rfl := List.nil_perm.mp hperm
          exact .unit rfl
      | enumeration hkind | interface hkind | const hkind | marker hkind => cases hkind

/-- A line more, with the next ordinal, is a field more at the end. -/
theorem Classifies.added (hedited : top.Edited (TopKind.Added line) top')
    (hfield : Describes outline line field) (hshape : declaration.shape = .record)
    (h : Classifies outline source top declaration) :
    Classifies outline source top' (declaration.extended field) := by
  obtain ⟨name, id, annotations, kind⟩ := top
  obtain ⟨_, _, _, kind'⟩ := top'
  obtain ⟨rfl, rfl, rfl, hkind⟩ := hedited
  dsimp only at hkind
  cases hkind with
  | @record above below hslot hnext =>
      cases h with
      | @record members sorted fields hkind hsorted hsome hfields =>
          cases hkind
          have hperm : (sorted ++ [line]).Perm (above ++ line :: below) := by
            calc List.Perm (sorted ++ [line]) (line :: sorted) := List.perm_append_singleton ..
              List.Perm _ (line :: (above ++ below)) := hsorted.perm.cons line
              List.Perm _ (above ++ line :: below) := List.perm_middle.symm
          have hpairwise : (sorted ++ [line]).Pairwise fun a b => a.ordinal < b.ordinal := by
            refine List.pairwise_append.mpr ⟨hsorted.pairwise, List.pairwise_singleton _ _, ?_⟩
            intro member hmember other hother
            rw [List.mem_singleton.mp hother]
            exact hnext member (hsorted.perm.subset hmember)
          exact .record rfl ⟨hperm, hpairwise⟩
            (List.append_ne_nil_of_right_ne_nil _ (List.cons_ne_nil _ _))
            (List.rel_append hfields (.cons hfield .nil))
      | _ => cases hshape

/-! ## Schemas by their classification -/

variable {setting : Setting} {importPaths : List Text} {disk disk' : Disk} {path : Text}
  {schema schema' : CompiledSchema} {found : List Declaration}

theorem forall₂_comp_left {α β γ : Type} {first : α → β → Prop} {second : α → γ → Prop}
    {third : β → γ → Prop} (h : ∀ a b c, first a b → second a c → third b c) :
    ∀ {items : List α} {left : List β} {right : List γ}, List.Forall₂ first items left →
      List.Forall₂ second items right → List.Forall₂ third left right
  | [], _, _, .nil, .nil => .nil
  | _ :: _, _, _, .cons hfirst hleft, .cons hsecond hright =>
      .cons (h _ _ _ hfirst hsecond) (forall₂_comp_left h hleft hright)

theorem forall₂_around {α β : Type} {related : α → β → Prop} : ∀ {before behind : List α} {item : α}
    {others : List β}, List.Forall₂ related (before ++ item :: behind) others →
      ∃ front other back, others = front ++ other :: back ∧ List.Forall₂ related before front ∧
        related item other ∧ List.Forall₂ related behind back
  | [], _, _, _, .cons hitem hbehind => ⟨[], _, _, rfl, .nil, hitem, hbehind⟩
  | _ :: _, _, _, _, .cons hfirst hrest => by
      obtain ⟨front, other, back, rfl, hbefore, hitem, hbehind⟩ := forall₂_around hrest
      exact ⟨_ :: front, other, back, rfl, .cons hfirst hbefore, hitem, hbehind⟩

/-- The nodes that are declared, by what they are declared as. -/
def Declares (outline : Outline) (source : Text) (found : List Declaration) : Prop :=
  List.Forall₂ (Classifies outline source) (outline.filter fun top => Carries outline top) found

/-- A schema that compiles is read as what its outline declares, and as nothing else. -/
theorem Compiles.schemaOutcome_eq (h : Compiles setting importPaths disk path schema outline)
    (hdeclares : Declares outline path found) :
    schemaOutcome setting importPaths disk path = .ok { path, entries := found.map .declaration } := by
  rw [schemaOutcome, h.run_readSchema _ rfl, declarationsOf_eq]
  have hpairs : List.Forall₂ (fun inner declaration =>
      (declarationOf schema.nestedNodes path inner.node).1 = declaration)
      (schema.nestedNodes.filter fun inner => isMarked schema.nestedNodes inner.node) found :=
    forall₂_comp_left (fun top inner declaration (hnode : inner.Follows top)
        (hclass : Classifies outline path top declaration) =>
      declarationOf_eq h.follows h.accepted.ids hnode hclass)
        (forall₂_marked h.follows h.accepted).flip hdeclares
  have hfound : declaredNodes schema.nestedNodes path = found := by
    have hequal : List.Forall₂ (· = ·) (declaredNodes schema.nestedNodes path) found :=
      List.forall₂_map_left_iff.mpr hpairs
    rwa [List.forall₂_eq_eq_eq] at hequal
  rw [hfound]

theorem Compiles.exists_declares (h : Compiles setting importPaths disk path schema outline) :
    ∃ found, Declares outline path found :=
  ⟨declaredNodes schema.nestedNodes path, List.forall₂_map_right_iff.mpr
    ((forall₂_marked h.follows h.accepted).flip.imp fun _ _ hnode =>
      (classifies_iff h.follows h.accepted.ids hnode).mpr rfl)⟩

/-- Nodes that carry the annotation carry it in the edited outline. -/
theorem forall₂_carries {edit : TopKind → TopKind → Prop} (halike : Alike outline outline')
    {nodes nodes' : List TopLevel} (h : List.Forall₂ (TopLevel.Edited edit) nodes nodes') :
    List.Forall₂ (TopLevel.Edited edit) (nodes.filter fun top => Carries outline top)
      (nodes'.filter fun top => Carries outline' top) := by
  refine List.rel_filter (fun top top' hedited => ?_) h
  show decide (Carries outline top) = true ↔ decide (Carries outline' top') = true
  rw [decide_eq_true_iff, decide_eq_true_iff]
  exact ⟨fun hcarries => hcarries.alike halike hedited.annotations,
    fun hcarries => hcarries.alike halike.flip hedited.annotations.symm⟩

/-- Lines in another order leave everything that is declared as it is. -/
theorem Declares.reordered (h : Declares outline path found) (hedit : outline.Reordered outline') :
    Declares outline' path found :=
  forall₂_comp_left (fun _ _ _ hedited hclass => (hclass.reordered hedited).alike hedit.alike)
    (forall₂_carries hedit.alike hedit) h

/-- A line more in a node that is declared leaves all that is declared before and
behind it as it is. -/
theorem Declares.added (h : Declares outline path found) (hedit : Outline.Added top line outline outline')
    (hcarries : Carries outline top) (hshape : ∀ declaration ∈ found, declaration.shape = .record) :
    ∃ front back declaration field, found = front ++ declaration :: back ∧
      declaration.name = top.name ∧ Describes outline line field ∧
      Declares outline' path (front ++ declaration.extended field :: back) := by
  obtain ⟨before, behind, top', rfl, rfl, hedited⟩ := hedit
  have halike : Alike (before ++ top :: behind) (before ++ top' :: behind) := by
    have hsame : ∀ nodes : List TopLevel, Alike nodes nodes := fun nodes =>
      List.forall₂_same.mpr fun top _ => .refl (fun _ => Iff.rfl) top
    refine List.rel_append (hsame before) (.cons (hedited.mono fun kind kind' hkind => ?_) (hsame behind))
    cases hkind with
    | record => exact ⟨nofun, nofun⟩
  have hcarries' : Carries (before ++ top' :: behind) top' := hcarries.alike halike hedited.annotations
  have hsame : ∀ nodes : List TopLevel,
      nodes.filter (fun other => Carries (before ++ top' :: behind) other) =
        nodes.filter fun other => Carries (before ++ top :: behind) other := fun nodes => by
    refine List.filter_congr fun other _ => decide_eq_decide.mpr ?_
    exact ⟨fun h => h.alike halike.flip rfl, fun h => h.alike halike rfl⟩
  rw [Declares, List.filter_append, List.filter_cons_of_pos (by simpa using hcarries)] at h
  obtain ⟨front, declaration, back, rfl, hfront, hclass, hback⟩ := forall₂_around h
  have hslot : line.field.isSlot = true := by
    obtain ⟨-, -, -, hkind⟩ := hedited
    generalize top.kind = kind at hkind
    generalize top'.kind = kind' at hkind
    cases hkind with
    | record hslot => exact hslot
  obtain ⟨fields, hfields⟩ := exists_describes (before ++ top :: behind)
    (List.forall_mem_singleton.mpr hslot)
  obtain ⟨field, _, hfield, -, -⟩ := List.forall₂_cons_left_iff.mp hfields
  have hrecord : declaration.shape = .record :=
    hshape declaration (List.mem_append_right _ (List.mem_cons_self ..))
  refine ⟨front, back, declaration, field, rfl, hclass.name_eq, hfield, ?_⟩
  rw [Declares, List.filter_append, List.filter_cons_of_pos (by simpa using hcarries'), hsame, hsame]
  exact List.rel_append (hfront.imp fun _ _ hother => hother.alike halike)
    (.cons ((hclass.added hedited hfield hrecord).alike halike)
      (hback.imp fun _ _ hother => hother.alike halike))

/-! ## Names that can stand in a line -/

theorem avoidKeyword_cases (name : Text) :
    Source.avoidKeyword name = name ∨ Source.avoidKeyword name = name ++ "_" := by
  rw [Source.avoidKeyword]
  split
  · exact .inr rfl
  · exact .inl rfl

theorem avoidKeyword_ne_roleField {name : Text} (h : name ≠ roleField) :
    Source.avoidKeyword name ≠ roleField := by
  intro heq
  rcases avoidKeyword_cases name with hsame | hlonger
  · exact h (hsame.symm.trans heq)
  · have hmem : '_' ∈ roleField := by
      rw [← heq, hlonger]
      exact List.mem_append_right _ (List.mem_singleton_self _)
    exact absurd hmem (by decide)

theorem IsFieldName.plain {name : Text} (h : IsFieldName name) :
    Source.avoidKeyword name ≠ [] ∧ '\n' ∉ Source.avoidKeyword name := by
  have hsome : name ≠ [] := fun hnil => by rw [hnil] at h; exact absurd h.1 (by decide)
  have hline : '\n' ∉ name := fun hmem => absurd (h.2 _ hmem) (by decide)
  rcases avoidKeyword_cases name with hsame | hlonger
  · rw [hsame]
    exact ⟨hsome, hline⟩
  · rw [hlonger]
    refine ⟨List.append_ne_nil_of_left_ne_nil hsome _, fun hmem => ?_⟩
    rcases List.mem_append.mp hmem with hmem | hmem
    · exact hline hmem
    · exact absurd hmem (by decide)

theorem Classifies.isPlain (haccepted : IsAccepted outline) (htop : top ∈ outline)
    (h : Classifies outline source top declaration) : declaration.IsPlain := by
  have hrepresents := h.represents haccepted htop
  constructor
  · rw [hrepresents.name]
    exact fun hmem => absurd ((haccepted.words top htop).2 _ hmem) (by decide)
  · intro field hfield
    by_cases hshape : declaration.shape = .record
    · obtain ⟨-, sorted, hsorted, hfields⟩ := hrepresents.fields hshape
      obtain ⟨member, hmember, hdescribes⟩ := exists_left_of_forall₂ hfields field hfield
      have hname := (haccepted.fields top htop).2 member (hsorted.perm.subset hmember)
      cases hdescribes with
      | slot => exact hname.plain
    · rw [hrepresents.noFields hshape] at hfield
      cases hfield

theorem Represents.fresh (h : Represents outline source top (declaration.extended field)) :
    field.name ∉ declaration.fieldNames := by
  have hdistinct := h.distinct
  rw [Declaration.fieldNames, Declaration.extended, List.map_append] at hdistinct
  obtain ⟨-, -, hapart⟩ := List.nodup_append.mp hdistinct
  exact fun hmem => hapart field.name hmem field.name (List.mem_singleton_self _) rfl

/-- What a module is generated from is records alone. -/
theorem shape_eq_record {declared : DeclarationFile} {draft : Draft}
    (hgenerate : (Draft.ofFile declared).generateAll = (draft, none))
    (hentry : .declaration declaration ∈ declared.entries) : declaration.shape = .record := by
  obtain ⟨written, hwritten⟩ :=
    (Draft.generateAll_eq_none_iff declared).mp (congrArg Prod.snd hgenerate) _ hentry
  cases hwritten with
  | declaration hderive => exact (Declaration.derive_eq_ok_iff.mp hderive).1

/-! ## Modules -/

variable {declared declared' : DeclarationFile} {draft draft' : Draft}

/-- Where a record has got a line more, its class has got one more item at the end
of each row, and the rest of the module is the same. -/
theorem exists_extended_of_added (h : Compiles setting importPaths disk path schema outline)
    (hread : schemaOutcome setting importPaths disk path = .ok declared)
    (hgenerate : (Draft.ofFile declared).generateAll = (draft, none))
    (h' : Compiles setting importPaths disk' path schema' outline')
    (hread' : schemaOutcome setting importPaths disk' path = .ok declared')
    (hgenerate' : (Draft.ofFile declared').generateAll = (draft', none))
    (hcarries : Carries outline top) (hedit : Outline.Added top line outline outline')
    (hrole : line.field.name ≠ roleField) :
    ∃ front back field declaration derivation, .declaration declaration ∈ declared.entries ∧
      declaration.name = top.name ∧ Describes outline line field ∧
      declaration.derive = .ok derivation ∧
      draft.lines = front ++ (ClassParts.ofDerivation derivation).lines ++ back ∧
      draft'.lines = front ++ ((ClassParts.ofDerivation derivation).extended field).lines ++ back := by
  obtain ⟨found, hdeclares⟩ := h.exists_declares
  cases hread.symm.trans (h.schemaOutcome_eq hdeclares)
  obtain ⟨before, behind, declaration, field, rfl, hname, hfield, hextended⟩ :=
    hdeclares.added hedit hcarries fun _ hmem =>
      shape_eq_record hgenerate (List.mem_map_of_mem hmem)
  cases hread'.symm.trans (h'.schemaOutcome_eq hextended)
  obtain ⟨top', htop', hclass⟩ := exists_left_of_forall₂ hextended (declaration.extended field)
    (List.mem_append_right _ (List.mem_cons_self ..))
  have hmem := List.mem_of_mem_filter htop'
  have hfieldRole : field.name ≠ roleField := by
    cases hfield
    exact avoidKeyword_ne_roleField hrole
  obtain ⟨front, back, derivation, hderive, hlines, hlines'⟩ :=
    exists_extended_class hgenerate hgenerate' rfl rfl List.map_append List.map_append
      (hclass.isPlain h'.accepted hmem) (hclass.represents h'.accepted hmem).fresh hfieldRole
  exact ⟨front, back, field, declaration, derivation,
    List.mem_map_of_mem (List.mem_append_right _ (List.mem_cons_self ..)), hname, hfield, hderive,
    hlines, hlines'⟩

/-- A schema that loads and derives can be written again in two ways. Where the
lines of the members of its records stand in another order, it loads and derives
as before, with the same module. Where a record that is derived has got one more
field line with the next ordinal, anywhere among its lines and under a name that
is not the role's, then the new module differs in the class of this record alone,
if it is derived as well: there is one more dataclass field behind the others, one
more parameter of both constructors, one more name that is passed on and one more
initializer. -/
theorem schemas_evolve_compatibly (h : Compiles setting importPaths disk path schema outline)
    (hread : schemaOutcome setting importPaths disk path = .ok declared)
    (hgenerate : (Draft.ofFile declared).generateAll = (draft, none)) :
    (∀ disk' schema' outline', Compiles setting importPaths disk' path schema' outline' →
      outline.Reordered outline' →
      ∃ declared', schemaOutcome setting importPaths disk' path = .ok declared' ∧
        (Draft.ofFile declared').generateAll = (draft, none)) ∧
    ∀ disk' schema' outline' top line declared' draft',
      Compiles setting importPaths disk' path schema' outline' →
      schemaOutcome setting importPaths disk' path = .ok declared' →
      (Draft.ofFile declared').generateAll = (draft', none) →
      Carries outline top → Outline.Added top line outline outline' → line.field.name ≠ roleField →
      ∃ front back field declaration derivation, .declaration declaration ∈ declared.entries ∧
        declaration.name = top.name ∧ Describes outline line field ∧
        declaration.derive = .ok derivation ∧
        draft.lines = front ++ (ClassParts.ofDerivation derivation).lines ++ back ∧
        draft'.lines = front ++ ((ClassParts.ofDerivation derivation).extended field).lines ++ back := by
  constructor
  · intro disk' schema' outline' h' hedit
    obtain ⟨found, hdeclares⟩ := h.exists_declares
    cases hread.symm.trans (h.schemaOutcome_eq hdeclares)
    exact ⟨_, h'.schemaOutcome_eq (hdeclares.reordered hedit), hgenerate⟩
  · intro disk' schema' outline' top line declared' draft' h' hread' hgenerate' hcarries hedit hrole
    exact exists_extended_of_added h hread hgenerate h' hread' hgenerate' hcarries hedit hrole

/-- The schema of a message with a priority, with its two fields the other way round. -/
def movedSchema : Text :=
  Text.joinLines
    ["@0xd4f2a3b1c0e9f876;",
      "annotation deriveBaseMessage @0xf8a1bedf44c89f00 (*) :Void;",
      "struct BaseMessageFields @0xd4af6a4c03b5b0c1 \x7b\x7d",
      "enum Priority @0xb20c7c4b5fba8e30 \x7b low @0; high @1; \x7d",
      "struct HumanMessage @0xa93fc509624c72d9 $deriveBaseMessage \x7b",
      "  priority @1 :Priority;",
      "  base @0 :BaseMessageFields;",
      "\x7d"]

/-- The same schema with a field more, before the others. -/
def urgentSchema : Text :=
  Text.joinLines
    ["@0xd4f2a3b1c0e9f876;",
      "annotation deriveBaseMessage @0xf8a1bedf44c89f00 (*) :Void;",
      "struct BaseMessageFields @0xd4af6a4c03b5b0c1 \x7b\x7d",
      "enum Priority @0xb20c7c4b5fba8e30 \x7b low @0; high @1; \x7d",
      "struct HumanMessage @0xa93fc509624c72d9 $deriveBaseMessage \x7b",
      "  urgent @2 :Bool;",
      "  base @0 :BaseMessageFields;",
      "  priority @1 :Priority;",
      "\x7d"]

def movedSchemaDisk : Disk :=
  { items := [(["m.capnp"], .file (Utf8.encode movedSchema))] }

def urgentSchemaDisk : Disk :=
  { items := [(["m.capnp"], .file (Utf8.encode urgentSchema))] }

def urgentLine : MemberLine :=
  { ordinal := 2, field := .slot "urgent" (.plain .bool) }

theorem compiles_movedSchema : Compiles { root := "/" } [] movedSchemaDisk "m.capnp"
    (priorityNodes [baseLine, priorityLine]) (priorityOutline [priorityLine, baseLine]) where
  isFile := by decide +kernel
  compiled := by decide +kernel
  limits := rfl
  follows := priorityNodes_follows ⟨.swap .., by decide⟩
  accepted := by decide +kernel

theorem compiles_urgentSchema : Compiles { root := "/" } [] urgentSchemaDisk "m.capnp"
    (priorityNodes [baseLine, priorityLine, urgentLine])
    (priorityOutline [urgentLine, baseLine, priorityLine]) where
  isFile := by decide +kernel
  compiled := by decide +kernel
  limits := rfl
  follows := priorityNodes_follows ⟨by decide, by decide⟩
  accepted := by decide +kernel

def urgentDeclaration : Declaration where
  name := "HumanMessage"
  fields := [⟨"base", "BaseMessageFields"⟩, ⟨"priority", "Priority"⟩, ⟨"urgent", "bool"⟩]
  source := some "m.capnp"

def urgentDraft : Draft :=
  (Draft.ofFile { path := "m.capnp", entries := [.declaration urgentDeclaration] }).generateAll.1

theorem generateAll_urgent : (Draft.ofFile
    { path := "m.capnp", entries := [.declaration urgentDeclaration] }).generateAll =
      (urgentDraft, none) :=
  Prod.ext rfl (by decide +kernel)

theorem declarationsOf_urgent :
    (declarationsOf (priorityNodes [baseLine, priorityLine, urgentLine]) "m.capnp").1 =
      { path := "m.capnp", entries := [.declaration urgentDeclaration] } := by
  decide +kernel

theorem Compiles.schemaOutcome_nodes (h : Compiles setting importPaths disk path schema outline)
    (hdeclared : (declarationsOf schema path).1 = declared) :
    schemaOutcome setting importPaths disk path = .ok declared := by
  rw [schemaOutcome, h.run_readSchema _ rfl, hdeclared]

/-- A message with a priority may also be urgent, and its fields may change places. -/
theorem priority_schema_evolves :
    (∃ declared, schemaOutcome { root := "/" } [] movedSchemaDisk "m.capnp" = .ok declared ∧
      (Draft.ofFile declared).generateAll = (priorityDraft, none)) ∧
    ∃ front back field derivation,
      schemaOutcome { root := "/" } [] urgentSchemaDisk "m.capnp" =
        .ok { path := "m.capnp", entries := [.declaration urgentDeclaration] } ∧
      priorityDraft.lines = front ++ (ClassParts.ofDerivation derivation).lines ++ back ∧
      urgentDraft.lines =
        front ++ ((ClassParts.ofDerivation derivation).extended field).lines ++ back := by
  obtain ⟨hmoved, hadded⟩ := schemas_evolve_compatibly compiles_prioritySchema
    (compiles_prioritySchema.schemaOutcome_nodes declarationsOf_priority) generateAll_priority
  have hread := compiles_urgentSchema.schemaOutcome_nodes declarationsOf_urgent
  have hreordered : Outline.Reordered (priorityOutline [baseLine, priorityLine])
      (priorityOutline [priorityLine, baseLine]) :=
    .cons (.refl .same _) (.cons (.refl .same _) (.cons (.refl .same _)
      (.cons ⟨rfl, rfl, rfl, .record (.swap ..)⟩ .nil)))
  refine ⟨hmoved _ _ _ compiles_movedSchema hreordered, ?_⟩
  have hline : Outline.Added { name := "HumanMessage", id := humanId, annotations := [markId]
                               kind := .record false [baseLine, priorityLine] } urgentLine
      (priorityOutline [baseLine, priorityLine])
      (priorityOutline [urgentLine, baseLine, priorityLine]) :=
    ⟨(priorityOutline []).take 3, [], _, rfl, rfl, rfl, rfl, rfl,
      @TopKind.Added.record urgentLine [] [baseLine, priorityLine] rfl (by decide)⟩
  obtain ⟨front, back, field, -, derivation, -, -, -, -, hlines, hlines'⟩ :=
    hadded _ _ _ _ _ _ _ compiles_urgentSchema hread generateAll_urgent (by decide) hline (by decide)
  exact ⟨front, back, field, derivation, hread, hlines, hlines'⟩

end MessageForge.Schema
