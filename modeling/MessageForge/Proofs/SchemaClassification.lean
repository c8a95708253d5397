import MessageForge.Proofs.SchemaOutlines

/-!
# Declarations of compiled schemas

A node at the top level of a schema is declared if it carries the schema's own
annotation. What it is declared as is settled by rules: for its kind, and for a
record by an unnamed union, then by the first group among its members. Only a
record with fields alone has fields, one for each member and in the order of
their ordinals.

Main statement: `schema_declarations_follow_rules`.
-/

namespace MessageForge.Schema

open Vocabulary Job

variable {outline : Outline} {nested : List NestedNode} {inner : NestedNode} {top : TopLevel}
  {leaf : ValueType} {word source : Text} {sorted members : List MemberLine} {fields : List Field}

/-! ## Annotations of types -/

/-- How many lists there are around the innermost type. -/
def ValueType.depth : ValueType → Nat
  | .list element => element.depth + 1
  | _ => 0

/-- The annotation of lists as deep as is said. -/
def listedText : (depth : Nat) → Text → Text
  | 0, word => word
  | depth + 1, word => "list[" ++ listedText depth word ++ "]"

theorem listedText_succ (depth : Nat) (word : Text) :
    listedText (depth + 1) word = "list[" ++ listedText depth word ++ "]" :=
  rfl

/-- How a type that is no list is annotated in the module of a schema: by the word
for a type that stands for itself, by the name of an enumeration or a record at
the top level, and otherwise by the most general type. -/
inductive ValueType.IsNamed (outline : Outline) : ValueType → Text → Prop where
  | plain (type : PlainType) : IsNamed outline (.plain type) type.hint
  | declared {leaf : ValueType} {top : TopLevel} (htop : top ∈ outline)
      (h : leaf = .enumeration top.id ∨ leaf = .record top.id) : IsNamed outline leaf top.name
  | foreign {leaf : ValueType} {id : Nat} (hforeign : ∀ top ∈ outline, top.id ≠ id)
      (h : leaf = .enumeration id ∨ leaf = .record id) : IsNamed outline leaf fallbackType
  | interface (id : Nat) : IsNamed outline (.interface id) fallbackType
  | anyPointer : IsNamed outline .anyPointer fallbackType

theorem exists_isNamed_of_ref {id : Nat} (h : leaf = .enumeration id ∨ leaf = .record id) :
    ∃ word, leaf.IsNamed outline word := by
  by_cases htop : ∃ top ∈ outline, top.id = id
  · obtain ⟨top, htop, rfl⟩ := htop
    exact ⟨_, .declared htop h⟩
  · exact ⟨_, .foreign (fun top hmem heq => htop ⟨top, hmem, heq⟩) h⟩

theorem exists_isNamed (outline : Outline) : ∀ type : ValueType,
    ∃ word, type.leaf.IsNamed outline word
  | .plain type => ⟨_, .plain type⟩
  | .list element => exists_isNamed outline element
  | .enumeration _ => exists_isNamed_of_ref (.inl rfl)
  | .record _ => exists_isNamed_of_ref (.inr rfl)
  | .interface id => ⟨_, .interface id⟩
  | .anyPointer => ⟨_, .anyPointer⟩

/-- An annotation follows the nesting of lists. -/
theorem hint_eq_listedText (nested : List NestedNode) : ∀ type : ValueType,
    (type.hint nested).1 = listedText type.depth (type.leaf.hint nested).1
  | .list element => by
      show "list[" ++ (element.hint nested).1 ++ "]" = _
      rw [hint_eq_listedText nested element]
      rfl
  | .plain _ | .enumeration _ | .record _ | .interface _ | .anyPointer => rfl

theorem map_id_eq (h : List.Forall₂ NestedNode.Follows nested outline) :
    nested.map NestedNode.id = outline.map TopLevel.id := by
  induction h with
  | nil => rfl
  | cons hfirst _ ih => rw [List.map_cons, List.map_cons, hfirst.id, ih]

/-- A number of a node leads to its name. -/
theorem nameOf?_eq (h : List.Forall₂ NestedNode.Follows nested outline)
    (hids : (outline.map TopLevel.id).Nodup) (htop : top ∈ outline) :
    nameOf? nested top.id = some top.name := by
  obtain ⟨inner, hinner, hfollows⟩ := exists_mem_of_forall₂ h.flip htop
  rw [nameOf?, Option.map_eq_some_iff]
  refine ⟨inner, ?_, hfollows.name⟩
  rw [List.find?_eq_some_iff_append]
  refine ⟨decide_eq_true hfollows.id, ?_⟩
  obtain ⟨front, back, hsplit⟩ := List.append_of_mem (List.mem_reverse.mpr hinner)
  refine ⟨front, back, hsplit, fun other hother => ?_⟩
  -- another node with the same number would stand in the list twice
  have hdistinct : (nested.reverse.map NestedNode.id).Nodup := by
    rw [List.map_reverse, List.nodup_reverse, map_id_eq h]
    exact hids
  rw [hsplit, List.map_append, List.map_cons] at hdistinct
  obtain ⟨-, -, hapart⟩ := List.nodup_append.mp hdistinct
  have hne := hapart other.id (List.mem_map_of_mem hother) inner.id (List.mem_cons_self ..)
  simpa [hfollows.id] using hne

theorem nameOf?_eq_none (h : List.Forall₂ NestedNode.Follows nested outline) {id : Nat}
    (hforeign : ∀ top ∈ outline, top.id ≠ id) : nameOf? nested id = none := by
  rw [nameOf?, Option.map_eq_none_iff, List.find?_eq_none]
  intro inner hinner
  obtain ⟨top, htop, hfollows⟩ := exists_mem_of_forall₂ h (List.mem_reverse.mp hinner)
  simpa [hfollows.id] using hforeign top htop

theorem hint_of_ref {id : Nat} (h : leaf = .enumeration id ∨ leaf = .record id) :
    (leaf.hint nested).1 = (nameOf? nested id).getD fallbackType := by
  rcases h with rfl | rfl <;> rfl

theorem hint_of_isNamed (h : List.Forall₂ NestedNode.Follows nested outline)
    (hids : (outline.map TopLevel.id).Nodup) (hname : leaf.IsNamed outline word) :
    (leaf.hint nested).1 = word := by
  cases hname with
  | declared htop hleaf =>
      rw [hint_of_ref hleaf, nameOf?_eq h hids htop]
      rfl
  | foreign hforeign hleaf =>
      rw [hint_of_ref hleaf, nameOf?_eq_none h hforeign]
      rfl
  | _ => rfl

/-! ## Fields -/

/-- The field of a member: its name, with an underscore behind a keyword, and the
annotation of its type. -/
inductive Describes (outline : Outline) : MemberLine → Field → Prop where
  | slot {ordinal : Nat} {name word : Text} {type : ValueType}
      (hname : type.leaf.IsNamed outline word) :
      Describes outline { ordinal, field := .slot name type }
        { name := Source.avoidKeyword name, type := listedText type.depth word }

theorem exists_describes (outline : Outline) : ∀ {sorted : List MemberLine},
    (∀ member ∈ sorted, member.field.isSlot = true) →
      ∃ fields, List.Forall₂ (Describes outline) sorted fields
  | [], _ => ⟨[], .nil⟩
  | ⟨_, .slot _ type⟩ :: _, h => by
      obtain ⟨word, hname⟩ := exists_isNamed outline type
      obtain ⟨fields, hfields⟩ := exists_describes outline (List.forall_mem_cons.mp h).2
      exact ⟨_ :: fields, .cons (.slot hname) hfields⟩
  | ⟨_, .group _⟩ :: _, h => nomatch (List.forall_mem_cons.mp h).1

theorem isSlot_of_describes (h : List.Forall₂ (Describes outline) sorted fields) :
    ∀ member ∈ sorted, member.field.isSlot = true := by
  induction h with
  | nil => exact List.forall_mem_nil _
  | cons hfirst _ ih =>
      cases hfirst
      exact List.forall_mem_cons.mpr ⟨rfl, ih⟩

theorem names_of_describes (h : List.Forall₂ (Describes outline) sorted fields) :
    fields.map Field.name = sorted.map fun member => Source.avoidKeyword member.field.name := by
  induction h with
  | nil => rfl
  | cons hfirst _ ih =>
      cases hfirst
      rw [List.map_cons, List.map_cons, ih]
      rfl

theorem ofFields_slot (nested : List NestedNode) (name : Text) (type : ValueType)
    (rest : List NodeField) :
    (SlotFields.ofFields nested (.slot name type :: rest)).fields =
        { name := Source.avoidKeyword name, type := (type.hint nested).1 } ::
          (SlotFields.ofFields nested rest).fields ∧
      (SlotFields.ofFields nested (.slot name type :: rest)).group =
        (SlotFields.ofFields nested rest).group :=
  ⟨rfl, rfl⟩

/-- Fields in a row are taken over one by one, before what follows them. -/
theorem ofFields_append (h : List.Forall₂ NestedNode.Follows nested outline)
    (hids : (outline.map TopLevel.id).Nodup)
    (hfields : List.Forall₂ (Describes outline) sorted fields) (rest : List NodeField) :
    (SlotFields.ofFields nested (sorted.map MemberLine.field ++ rest)).fields =
        fields ++ (SlotFields.ofFields nested rest).fields ∧
      (SlotFields.ofFields nested (sorted.map MemberLine.field ++ rest)).group =
        (SlotFields.ofFields nested rest).group := by
  induction hfields with
  | nil => exact ⟨rfl, rfl⟩
  | cons hfirst _ ih =>
      cases hfirst with
      | @slot ordinal name word type hname =>
          obtain ⟨hmore, hgroup⟩ := ih
          obtain ⟨hfields, hsame⟩ := ofFields_slot nested name type
            (List.map MemberLine.field _ ++ rest)
          rw [List.map_cons, List.cons_append, hfields, hsame, hmore, hgroup, hint_eq_listedText,
            hint_of_isNamed h hids hname]
          exact ⟨rfl, rfl⟩

/-- The members are fields, or they are so up to a first group. -/
theorem allSlots_or_group : ∀ sorted : List MemberLine,
    (∀ member ∈ sorted, member.field.isSlot = true) ∨
      ∃ before ordinal name after, sorted = before ++ ⟨ordinal, .group name⟩ :: after ∧
        ∀ member ∈ before, member.field.isSlot = true
  | [] => .inl (List.forall_mem_nil _)
  | ⟨ordinal, .group name⟩ :: rest => .inr ⟨[], ordinal, name, rest, rfl, List.forall_mem_nil _⟩
  | ⟨ordinal, .slot name type⟩ :: rest => by
      rcases allSlots_or_group rest with hall | ⟨before, place, group, after, rfl, hbefore⟩
      · exact .inl (List.forall_mem_cons.mpr ⟨rfl, hall⟩)
      · exact .inr ⟨⟨ordinal, .slot name type⟩ :: before, place, group, after, rfl,
          List.forall_mem_cons.mpr ⟨rfl, hbefore⟩⟩

/-! ## Rules -/

/-- What a node at the top level is declared as. Named unions are groups as well. -/
inductive Classifies (outline : Outline) (source : Text) (top : TopLevel) : Declaration → Prop where
  | enumeration (hkind : top.kind = .enumeration) :
      Classifies outline source top
        { name := top.name, shape := .enumeration, reason := "it is a capnp enum"
          source := some source }
  | interface (hkind : top.kind = .interface) :
      Classifies outline source top
        { name := top.name, shape := .other, reason := "it is a capnp interface"
          source := some source }
  | const (hkind : top.kind = .const) :
      Classifies outline source top
        { name := top.name, shape := .other, reason := "it is a capnp const", source := some source }
  | marker (hkind : top.kind = .marker) :
      Classifies outline source top
        { name := top.name, shape := .other, reason := "it is a capnp annotation"
          source := some source }
  | union {members : List MemberLine} (hkind : top.kind = .record true members) :
      Classifies outline source top
        { name := top.name, shape := .union, reason := "it contains a union", source := some source }
  | group {members before after : List MemberLine} {ordinal : Nat} {name : Text}
      (hkind : top.kind = .record false members)
      (hsorted : IsByOrdinal (before ++ ⟨ordinal, .group name⟩ :: after) members)
      (hbefore : ∀ member ∈ before, member.field.isSlot = true) :
      Classifies outline source top
        { name := top.name, shape := .other, reason := "field '" ++ name ++ "' is a group"
          source := some source }
  | unit (hkind : top.kind = .record false []) :
      Classifies outline source top
        { name := top.name, shape := .unit, reason := "it declares no fields", source := some source }
  | record {members sorted : List MemberLine} {fields : List Field}
      (hkind : top.kind = .record false members) (hsorted : IsByOrdinal sorted members)
      (hsome : members ≠ []) (hfields : List.Forall₂ (Describes outline) sorted fields) :
      Classifies outline source top { name := top.name, fields, source := some source }

theorem Classifies.name_eq {declaration : Declaration}
    (h : Classifies outline source top declaration) : declaration.name = top.name := by
  cases h <;> rfl

theorem exists_classifies (outline : Outline) (source : Text) (hnode : inner.Follows top) :
    ∃ declaration, Classifies outline source top declaration := by
  have hcontent := hnode.content
  generalize inner.node.content = content at hcontent
  generalize hkind : top.kind = kind at hcontent
  cases hcontent with
  | enumeration => exact ⟨_, .enumeration hkind⟩
  | interface => exact ⟨_, .interface hkind⟩
  | const => exact ⟨_, .const hkind⟩
  | marker => exact ⟨_, .marker hkind⟩
  | @record count hasUnion sorted members hunion hsorted =>
      cases hasUnion with
      | true => exact ⟨_, .union hkind⟩
      | false =>
          rcases allSlots_or_group sorted with hall | ⟨before, ordinal, name, after, rfl, hbefore⟩
          · by_cases hsome : members = []
            · subst hsome
              exact ⟨_, .unit hkind⟩
            · obtain ⟨fields, hfields⟩ := exists_describes outline hall
              exact ⟨_, .record hkind hsorted hsome hfields⟩
          · exact ⟨_, .group hkind hsorted hbefore⟩

/-- A record of the outline is compiled to its members by their ordinals. -/
theorem exists_content (hnode : inner.Follows top) {hasUnion : Bool}
    (hkind : top.kind = .record hasUnion members) :
    ∃ count listed, inner.node.content = .record count (listed.map MemberLine.field) ∧
      (count ≠ 0 ↔ hasUnion = true) ∧ IsByOrdinal listed members := by
  have hcontent := hnode.content
  rw [hkind] at hcontent
  generalize inner.node.content = content at hcontent
  cases hcontent with
  | record hunion hsorted => exact ⟨_, _, rfl, hunion, hsorted⟩

/-- The declaration of a record without an unnamed union goes by its fields. -/
theorem declarationOf_record (hnode : inner.Follows top) (hkind : top.kind = .record false members)
    (hsorted : IsByOrdinal sorted members) :
    declarationOf nested source inner.node =
      recordDeclaration nested source top.name 0 (sorted.map MemberLine.field) := by
  obtain ⟨count, listed, hcontent, hunion, hlisted⟩ := exists_content hnode hkind
  have hzero : count = 0 := by
    by_contra hsome
    cases hunion.mp hsome
  rw [declarationOf, hcontent, hnode.shortName, hzero, hlisted.unique hsorted (.refl _)]

/-- What the loader declares is what the rules say. -/
theorem declarationOf_eq (h : List.Forall₂ NestedNode.Follows nested outline)
    (hids : (outline.map TopLevel.id).Nodup) (hnode : inner.Follows top) {declaration : Declaration}
    (hclass : Classifies outline source top declaration) :
    (declarationOf nested source inner.node).1 = declaration := by
  have hcontent := hnode.content
  generalize hfound : inner.node.content = content at hcontent
  cases hclass with
  | enumeration hkind =>
      rw [hkind] at hcontent
      cases hcontent
      rw [declarationOf, hfound, hnode.shortName]
  | interface hkind | const hkind | marker hkind =>
      rw [hkind] at hcontent
      cases hcontent
      rw [declarationOf, hfound, hnode.shortName]
      rfl
  | union hkind =>
      obtain ⟨count, listed, hcontent, hunion, -⟩ := exists_content hnode hkind
      rw [declarationOf, hcontent, hnode.shortName]
      dsimp only
      rw [recordDeclaration, if_pos (hunion.mpr rfl)]
  | @group members before after ordinal name hkind hsorted hbefore =>
      obtain ⟨fields, hfields⟩ := exists_describes outline hbefore
      obtain ⟨-, hfound⟩ := ofFields_append h hids hfields (.group name :: after.map MemberLine.field)
      rw [declarationOf_record hnode hkind hsorted, recordDeclaration, if_neg (by simp),
        List.map_append, List.map_cons]
      dsimp only
      rw [hfound]
      rfl
  | unit hkind =>
      rw [declarationOf_record hnode hkind ⟨.refl _, .nil⟩]
      rfl
  | @record members sorted fields hkind hsorted hsome hfields =>
      obtain ⟨hfound, hgroup⟩ := ofFields_append h hids hfields []
      rw [List.append_nil] at hfound hgroup
      have hnone : (SlotFields.ofFields nested ([] : List NodeField)).fields = [] := rfl
      rw [hnone, List.append_nil] at hfound
      have hsome' : fields ≠ [] := by
        rintro rfl
        cases hfields
        exact hsome (List.nil_perm.mp hsorted.perm)
      rw [declarationOf_record hnode hkind hsorted, recordDeclaration, if_neg (by simp)]
      dsimp only
      rw [hgroup, hfound]
      dsimp only [SlotFields.ofFields]
      rw [if_neg (by simpa using hsome')]

theorem classifies_iff (h : List.Forall₂ NestedNode.Follows nested outline)
    (hids : (outline.map TopLevel.id).Nodup) (hnode : inner.Follows top) {other : Declaration} :
    Classifies outline source top other ↔ other = (declarationOf nested source inner.node).1 := by
  constructor
  · exact fun hclass => (declarationOf_eq h hids hnode hclass).symm
  · rintro rfl
    obtain ⟨declaration, hclass⟩ := exists_classifies outline source hnode
    rwa [declarationOf_eq h hids hnode hclass]

/-! ## Names of fields -/

/-- Behind an underscore there is no keyword. -/
theorem ofText?_concat_underscore (name : Text) : Source.Keyword.ofText? (name ++ "_") = none := by
  have hlast : ∀ keyword ∈ Source.Keyword.all, keyword.text.getLast? ≠ some '_' := by decide
  rw [Source.Keyword.ofText?, List.find?_eq_none]
  intro keyword hkeyword heq
  refine hlast keyword hkeyword ?_
  rw [of_decide_eq_true heq]
  exact List.getLast?_concat

theorem ofText?_avoidKeyword (name : Text) :
    Source.Keyword.ofText? (Source.avoidKeyword name) = none := by
  rw [Source.avoidKeyword]
  split
  · exact ofText?_concat_underscore name
  · next hnone => simpa using hnone

/-- Names without underscores are not confused with those behind which one is put. -/
theorem avoidKeyword_injective {first second : Text} (hfirst : '_' ∉ first) (hsecond : '_' ∉ second)
    (h : Source.avoidKeyword first = Source.avoidKeyword second) : first = second := by
  have hmem : ∀ name : Text, '_' ∈ name ++ ("_" : Text) := fun name =>
    List.mem_append_right _ (List.mem_singleton_self _)
  rw [Source.avoidKeyword, Source.avoidKeyword] at h
  -- if only one of the names is a keyword, it is told by the underscore
  split at h
  · split at h
    · exact List.append_cancel_right h
    · exact absurd (h ▸ hmem first) hsecond
  · split at h
    · exact absurd (h ▸ hmem second) hfirst
    · exact h

theorem IsFieldName.underscore_not_mem {name : Text} (h : IsFieldName name) : '_' ∉ name :=
  fun hmem => absurd (h.2 _ hmem) (by decide)

/-- The fields of a record have names of their own, also once keywords are avoided. -/
theorem nodup_names (haccepted : IsAccepted outline) (htop : top ∈ outline)
    (hsorted : IsByOrdinal sorted top.kind.members) :
    (sorted.map fun member => Source.avoidKeyword member.field.name).Nodup := by
  obtain ⟨hdistinct, hnames⟩ := haccepted.fields top htop
  have hlisted : (sorted.map (·.field.name)).Nodup :=
    (hsorted.perm.map (·.field.name)).nodup_iff.mpr hdistinct
  have hplain : ∀ name ∈ sorted.map (·.field.name), '_' ∉ name := by
    intro name hname
    obtain ⟨member, hmember, rfl⟩ := List.mem_map.mp hname
    exact (hnames member (hsorted.perm.subset hmember)).underscore_not_mem
  have hmap := hlisted.map_on fun first hfirst second hsecond heq =>
    avoidKeyword_injective (hplain first hfirst) (hplain second hsecond) heq
  rwa [List.map_map] at hmap

/-! ## Declarations -/

/-- The node carries the annotation that the schema itself declares at its top
level. -/
def Carries (outline : Outline) (top : TopLevel) : Prop :=
  ∃ mark ∈ outline, mark.name = deriveAnnotation ∧ mark.kind = .marker ∧ mark.id ∈ top.annotations

instance (outline : Outline) (top : TopLevel) : Decidable (Carries outline top) :=
  inferInstanceAs (Decidable (∃ mark ∈ outline, _))

/-- The schema declares the annotation at its top level. -/
def DeclaresMark (outline : Outline) : Prop :=
  ∃ mark ∈ outline, mark.name = deriveAnnotation ∧ mark.kind = .marker

/-- What a declaration says of a node: it is a record just if the node is one whose
members are fields, and then it has these by their ordinals. -/
structure Represents (outline : Outline) (source : Text) (top : TopLevel)
    (declaration : Declaration) : Prop where
  name : declaration.name = top.name
  place : declaration.source = some source ∧ declaration.line = none
  record_iff : declaration.shape = .record ↔ ∃ members, top.kind = .record false members ∧
    members ≠ [] ∧ ∀ member ∈ members, member.field.isSlot = true
  fields : declaration.shape = .record → declaration.reason = [] ∧
    ∃ sorted, IsByOrdinal sorted top.kind.members ∧
      List.Forall₂ (Describes outline) sorted declaration.fields
  noFields : declaration.shape ≠ .record → declaration.fields = []
  distinct : declaration.fieldNames.Nodup
  noKeyword : ∀ name ∈ declaration.fieldNames, Source.Keyword.ofText? name = none

theorem Represents.of_noFields {declaration : Declaration} (hname : declaration.name = top.name)
    (hplace : declaration.source = some source ∧ declaration.line = none)
    (hshape : declaration.shape ≠ .record) (hnone : declaration.fields = [])
    (hnot : ∀ members, top.kind = .record false members → members ≠ [] →
      ∃ member ∈ members, member.field.isSlot = false) :
    Represents outline source top declaration := by
  have hnames : declaration.fieldNames = [] := by rw [Declaration.fieldNames, hnone, List.map_nil]
  refine ⟨hname, hplace, iff_of_false hshape ?_, fun hrecord => absurd hrecord hshape,
    fun _ => hnone, hnames ▸ List.nodup_nil, hnames ▸ List.forall_mem_nil _⟩
  rintro ⟨members, hkind, hsome, hall⟩
  obtain ⟨member, hmember, hgroup⟩ := hnot members hkind hsome
  rw [hall member hmember] at hgroup
  cases hgroup

theorem Classifies.represents {declaration : Declaration} (haccepted : IsAccepted outline)
    (htop : top ∈ outline) (h : Classifies outline source top declaration) :
    Represents outline source top declaration := by
  cases h with
  | enumeration hkind | interface hkind | const hkind | marker hkind | union hkind =>
      refine .of_noFields rfl ⟨rfl, rfl⟩ nofun rfl fun members hrecord => ?_
      rw [hkind] at hrecord
      cases hrecord
  | unit hkind =>
      refine .of_noFields rfl ⟨rfl, rfl⟩ nofun rfl fun members hrecord hsome => ?_
      rw [hkind] at hrecord
      cases hrecord
      exact absurd rfl hsome
  | group hkind hsorted =>
      refine .of_noFields rfl ⟨rfl, rfl⟩ nofun rfl fun members hrecord _ => ?_
      rw [hkind] at hrecord
      cases hrecord
      exact ⟨_, hsorted.perm.subset (List.mem_append_right _ (List.mem_cons_self ..)), rfl⟩
  | @record members sorted fields hkind hsorted hsome hfields =>
      have hmembers : top.kind.members = members := by rw [hkind]; rfl
      have hslots : ∀ member ∈ members, member.field.isSlot = true := fun member hmember =>
        isSlot_of_describes hfields member (hsorted.perm.symm.subset hmember)
      have hnames := names_of_describes hfields
      refine ⟨rfl, ⟨rfl, rfl⟩, iff_of_true rfl ⟨members, hkind, hsome, hslots⟩,
        fun _ => ⟨rfl, sorted, hmembers ▸ hsorted, hfields⟩, fun hnot => absurd rfl hnot, ?_, ?_⟩
      · show (fields.map Field.name).Nodup
        rw [hnames]
        exact nodup_names haccepted htop (hmembers ▸ hsorted)
      · show ∀ name ∈ fields.map Field.name, _
        rw [hnames]
        intro name hname
        obtain ⟨member, -, rfl⟩ := List.mem_map.mp hname
        exact ofText?_avoidKeyword member.field.name

theorem mem_annotationIds {id : Nat} : id ∈ annotationIds nested ↔
    ∃ mark ∈ nested, mark.name = deriveAnnotation ∧ mark.id = id := by
  simp [annotationIds, and_assoc]

/-- The loader looks for the numbers of what has the annotation's name. Only an
annotation with this name can be applied. -/
theorem isMarked_iff (h : List.Forall₂ NestedNode.Follows nested outline)
    (haccepted : IsAccepted outline) (hnode : inner.Follows top) (htop : top ∈ outline) :
    isMarked nested inner.node = true ↔ Carries outline top := by
  rw [isMarked, List.any_eq_true, hnode.annotations]
  constructor
  · rintro ⟨id, hid, hmarks⟩
    obtain ⟨found, hfound, hname, rfl⟩ := mem_annotationIds.mp (List.contains_iff_mem.mp hmarks)
    obtain ⟨mark, hmark, hfollows⟩ := exists_mem_of_forall₂ h hfound
    rw [hfollows.id] at hid
    exact ⟨mark, hmark, hfollows.name ▸ hname, haccepted.marks top htop mark hmark hid, hid⟩
  · rintro ⟨mark, hmark, hname, -, hid⟩
    obtain ⟨found, hfound, hfollows⟩ := exists_mem_of_forall₂ h.flip hmark
    refine ⟨mark.id, hid, List.contains_iff_mem.mpr (mem_annotationIds.mpr ⟨found, hfound, ?_⟩)⟩
    exact ⟨hfollows.name.trans hname, hfollows.id⟩

theorem forall₂_mem_right {α β : Type} {related : α → β → Prop} {items : List α} {others : List β}
    (h : List.Forall₂ related items others) :
    List.Forall₂ (fun item other => related item other ∧ other ∈ others) items others :=
  ((List.forall₂_and_left _ _).mpr ⟨fun _ hother => hother, h.flip⟩).flip.imp fun _ _ hboth =>
    ⟨hboth.2, hboth.1⟩

/-- Nodes that are marked follow those that carry the annotation, one by one. -/
theorem forall₂_marked (h : List.Forall₂ NestedNode.Follows nested outline)
    (haccepted : IsAccepted outline) :
    List.Forall₂ (fun inner top => inner.Follows top)
      (nested.filter fun inner => isMarked nested inner.node)
      (outline.filter fun top => Carries outline top) := by
  refine List.Forall₂.imp (fun _ _ hboth => hboth.1)
    (List.rel_filter (fun inner top hboth => ?_) (forall₂_mem_right h))
  show isMarked nested inner.node = true ↔ decide (Carries outline top) = true
  rw [decide_eq_true_iff]
  exact isMarked_iff h haccepted hboth.1 hboth.2

/-- The declarations of the nodes that are marked. -/
def declaredNodes (nested : List NestedNode) (source : Text) : List Declaration :=
  (nested.filter fun inner => isMarked nested inner.node).map fun inner =>
    (declarationOf nested source inner.node).1

/-- Every node that is marked is declared, and nothing else. -/
theorem declarationsOf_eq (schema : CompiledSchema) (source : Text) :
    (declarationsOf schema source).1 =
      { path := source, entries := (declaredNodes schema.nestedNodes source).map .declaration } := by
  unfold declarationsOf
  dsimp only
  split
  · next hempty =>
      have hnone : declaredNodes schema.nestedNodes source = [] := by
        rw [declaredNodes, List.filter_eq_nil_iff.mpr, List.map_nil]
        intro inner hinner
        rw [isMarked, List.isEmpty_iff.mp hempty]
        simp
      rw [hnone]
      rfl
  · rw [declaredNodes, List.map_map, List.map_map]
    rfl

/-- A schema that compiles gives the nodes at its top level that carry its own
annotation, in order and each of them once, and classifies them by the rules. A
record is just a node whose members are fields; its fields are these, by their
ordinals, under names that are distinct and no keywords and with annotations
that follow the nesting of lists. All else has no fields, and without such an
annotation there is nothing. -/
theorem schema_declarations_follow_rules {setting : Setting} {importPaths : List Text} {disk : Disk}
    {path : Text} {schema : CompiledSchema} (h : Compiles setting importPaths disk path schema outline) :
    ∃ events marked found,
      (∀ workspace : Workspace, workspace.disk = disk →
        (readSchema setting importPaths path).run workspace =
          (.ok { path, entries := found.map .declaration }, logged workspace events)) ∧
      marked.Sublist outline ∧ (marked.map TopLevel.name).Nodup ∧
      (∀ top ∈ outline, top ∈ marked ↔ Carries outline top) ∧
      (¬ DeclaresMark outline → found = []) ∧
      List.Forall₂ (fun top declaration => ∀ other,
        Classifies outline path top other ↔ other = declaration) marked found ∧
      List.Forall₂ (Represents outline path) marked found := by
  let marked := outline.filter fun top => Carries outline top
  have hmarked : ∀ top ∈ outline, top ∈ marked ↔ Carries outline top := fun top htop => by
    simp [marked, htop]
  have hfollows : List.Forall₂ (fun inner top => inner.Follows top ∧ top ∈ marked)
      (schema.nestedNodes.filter fun inner => isMarked schema.nestedNodes inner.node) marked :=
    forall₂_mem_right (forall₂_marked h.follows h.accepted)
  have hclass : List.Forall₂ (fun top declaration => ∀ other,
      Classifies outline path top other ↔ other = declaration) marked
        (declaredNodes schema.nestedNodes path) :=
    List.forall₂_map_right_iff.mpr (hfollows.flip.imp fun _ _ hboth _ =>
      classifies_iff h.follows h.accepted.ids hboth.1)
  have hsublist : marked.Sublist outline := List.filter_sublist
  refine ⟨(declarationsOf schema path).2, marked, declaredNodes schema.nestedNodes path,
    fun workspace hdisk => ?_, hsublist, h.accepted.names.sublist (hsublist.map TopLevel.name),
    hmarked, fun hnone => ?_, hclass, ?_⟩
  · rw [h.run_readSchema _ hdisk, declarationsOf_eq]
  · have hempty : marked = [] := List.filter_eq_nil_iff.mpr fun top _ hcarries => by
      obtain ⟨mark, hmark, hname, hkind, -⟩ := of_decide_eq_true hcarries
      exact hnone ⟨mark, hmark, hname, hkind⟩
    exact List.forall₂_nil_left_iff.mp (hempty ▸ hclass)
  · refine (forall₂_mem_right hclass.flip).flip.imp fun top declaration hboth => ?_
    obtain ⟨hiff, htop⟩ := hboth
    exact ((hiff declaration).mpr rfl).represents h.accepted (hsublist.subset htop)

/-- A schema with one annotated record, whose first field has the name of a keyword. -/
def roleSchema : Text :=
  Text.joinLines
    ["@0xd4f2a3b1c0e9f876;",
      "annotation deriveBaseMessage @0xf8a1bedf44c89f00 (*) :Void;",
      "struct HumanMessage @0xa93fc509624c72d9 $deriveBaseMessage \x7b",
      "  from @1 :List(List(Text));",
      "  role @0 :Text;",
      "\x7d"]

def roleSchemaDisk : Disk :=
  { items := [(["chat.capnp"], .file (Utf8.encode roleSchema))] }

def markId : Nat := 0xf8a1bedf44c89f00

def humanId : Nat := 0xa93fc509624c72d9

def fromLine : MemberLine :=
  { ordinal := 1, field := .slot "from" (.list (.list (.plain .text))) }

def roleLine : MemberLine :=
  { ordinal := 0, field := .slot "role" (.plain .text) }

def markLevel : TopLevel :=
  { name := deriveAnnotation, id := markId, kind := .marker }

def roleLevel : TopLevel :=
  { name := "HumanMessage", id := humanId, annotations := [markId]
    kind := .record false [fromLine, roleLine] }

def markNode (front : Text) : NestedNode where
  name := deriveAnnotation
  id := markId
  node := { displayName := front ++ deriveAnnotation, prefixLength := front.length, content := .marker }

def roleNode : NestedNode where
  name := "HumanMessage"
  id := humanId
  node := { displayName := "chat.capnp:HumanMessage", prefixLength := 11, annotations := [markId]
            content := .record 0 [roleLine.field, fromLine.field] }

theorem compiles_roleSchema : Compiles { root := "/" } [] roleSchemaDisk "chat.capnp"
    { nestedNodes := [markNode "chat.capnp:", roleNode] } [markLevel, roleLevel] where
  isFile := by decide +kernel
  compiled := by decide +kernel
  limits := rfl
  follows := .cons ⟨rfl, rfl, rfl, rfl, .marker⟩ <| .cons ⟨rfl, rfl, rfl, rfl,
    @NodeContent.Follows.record 0 false [roleLine, fromLine] _ (by decide)
      ⟨.swap _ _ _, by decide⟩⟩ .nil
  accepted := by decide +kernel

theorem role_schema_is_declared : ∃ events,
    (readSchema { root := "/" } [] "chat.capnp").run { disk := roleSchemaDisk } =
      (.ok { path := "chat.capnp", entries := [.declaration
        { name := "HumanMessage", fields := [⟨"role", "str"⟩, ⟨"from_", "list[list[str]]"⟩]
          source := some "chat.capnp" }] }, logged { disk := roleSchemaDisk } events) := by
  obtain ⟨events, marked, found, hrun, hsublist, -, hmarked, -, hclass, -⟩ :=
    schema_declarations_follow_rules compiles_roleSchema
  have hone : marked = [roleLevel] := by
    have hnot : markLevel ∉ marked := by
      rw [hmarked _ (by decide)]
      decide
    have hin : roleLevel ∈ marked := (hmarked _ (by decide)).mpr (by decide)
    cases hsublist with
    | cons _ hrest =>
        exact (List.sublist_singleton.mp hrest).resolve_left fun hnil => by rw [hnil] at hin; cases hin
    | cons_cons _ _ => exact absurd (List.mem_cons_self ..) hnot
  subst hone
  refine ⟨events, ?_⟩
  obtain ⟨declaration, _, hrules, hnone, rfl⟩ := List.forall₂_cons_left_iff.mp hclass
  cases hnone
  have hdescribes : List.Forall₂ (Describes [markLevel, roleLevel]) [roleLine, fromLine]
      [⟨"role", "str"⟩, ⟨"from_", "list[list[str]]"⟩] :=
    .cons (@Describes.slot _ 0 "role" _ (.plain .text) (.plain .text))
      (.cons (@Describes.slot _ 1 "from" _ (.list (.list (.plain .text))) (.plain .text)) .nil)
  cases (hrules _).mp (.record rfl ⟨.swap _ _ _, by decide⟩ (List.cons_ne_nil _ _) hdescribes)
  exact hrun _ rfl

end MessageForge.Schema
