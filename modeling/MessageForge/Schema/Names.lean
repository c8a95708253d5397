import MessageForge.Schema.Library

/-!
# Names and ordinals of members

What a scope may hold: each name once and in the right style, each kind of
declaration in its place, and ordinals that count from zero without a gap. An
unnamed union adds its members to the scope around it.
-/

namespace MessageForge.Schema

def startsLower (name : Text) : Bool :=
  name.head?.any fun c => 'a' ≤ c && c ≤ 'z'

def startsUpper (name : Text) : Bool :=
  name.head?.any fun c => 'A' ≤ c && c ≤ 'Z'

/-- The name that an expression ends in, if it ends in one. -/
def Expr.lastName : Expr → Text
  | .name id | .absolute id | .member _ id => id
  | .apply function _ => function.lastName
  | _ => []

/-- Types have capital names, all else has small ones, and an alias is named
like its target. -/
def hasStyle (kind : Kind) (name : Text) : Bool :=
  !name.contains '_' &&
    match kind with
    | .aliasFor target => if startsLower target.lastName then startsLower name else startsUpper name
    | .enumeration | .record | .interface _ => startsUpper name
    | .union => name.isEmpty || startsLower name
    | _ => startsLower name

def belongs (parent kind : Kind) : Bool :=
  match kind with
  | .enumerant =>
      match parent with
      | .enumeration => true
      | _ => false
  | .method .. =>
      match parent with
      | .interface _ => true
      | _ => false
  | .field .. | .union | .group =>
      match parent with
      | .record | .union | .group => true
      | _ => false
  | _ =>
      match parent with
      | .file | .record | .interface _ => true
      | _ => false

def areDistinct (names : List Text) : Bool :=
  names.eraseDups.length = names.length

mutual

/-- The names that a member adds to its scope, once what it holds is checked. -/
def memberNames (parent : Kind) : Decl → Check (List Text)
  | ⟨name, kind, _, _, _, _, nested⟩ =>
      if !hasStyle kind name then .error .nameStyle
      else if !belongs parent kind then .error .misplaced
      else
        match kind with
        | .field .. => .ok [name]
        | .union | .group => do
            let inner ← namesOfAll kind nested
            if name.isEmpty then return name :: inner
            else if areDistinct inner then return [name]
            else throw .duplicateName
        | _ => .ok [name]

def namesOfAll (parent : Kind) : List Decl → Check (List Text)
  | [] => .ok []
  | member :: rest => do
      return (← memberNames parent member) ++ (← namesOfAll parent rest)

end

def checkNames (decl : Decl) : Check Unit := do
  if areDistinct (← namesOfAll decl.kind decl.nested) then return ()
  else throw .duplicateName

mutual

/-- The ordinals of a member of a record, of a union with one of its own. -/
def ordinalsOf : Decl → List Nat
  | ⟨_, kind, _, ordinal, _, _, nested⟩ =>
      match kind with
      | .field .. => ordinal.toList
      | .union => ordinal.toList ++ ordinalsOfAll nested
      | .group => ordinalsOfAll nested
      | _ => []

def ordinalsOfAll : List Decl → List Nat
  | [] => []
  | member :: rest => ordinalsOf member ++ ordinalsOfAll rest

end

def areSequential (ordinals : List Nat) : Bool :=
  (List.range ordinals.length).all ordinals.contains

def firstOrdinal (member : Decl) : Nat :=
  (ordinalsOf member).min?.getD 0

def isUnnamedUnion (member : Decl) : Bool :=
  match member.kind with
  | .union => member.name.isEmpty
  | _ => false

/-- A union's own ordinal comes before those of all members but one. -/
def unionOrdinalFits (ordinal : Option Nat) (members : List Decl) : Bool :=
  match ordinal with
  | none => true
  | some ordinal => (members.countP fun member => firstOrdinal member < ordinal) ≤ 1

mutual

/-- Groups hold something, unions a choice of at least two, and no union holds
an unnamed one. -/
def checkShape : Decl → Check Unit
  | ⟨_, kind, _, ordinal, _, _, nested⟩ =>
      match kind with
      | .union =>
          if nested.length < 2 then .error .tooFewMembers
          else if nested.any isUnnamedUnion then .error .misplaced
          else if !unionOrdinalFits ordinal nested then .error .ordinals
          else checkShapes nested
      | .group => if nested.isEmpty then .error .tooFewMembers else checkShapes nested
      | _ => .ok ()

def checkShapes : List Decl → Check Unit
  | [] => .ok ()
  | member :: rest => do
      checkShape member
      checkShapes rest

end

/-- A member of a record as the compiled schema lists it. -/
structure Slot where
  name : Text
  type : Option Expr

mutual

/-- The members of a record with their ordinals. Groups stand at the first
ordinal in them. -/
def slotsOf : Decl → List (Nat × Slot)
  | ⟨name, kind, identifier, ordinal, parameters, annotations, nested⟩ =>
      let first :=
        firstOrdinal ⟨name, kind, identifier, ordinal, parameters, annotations, nested⟩
      match kind with
      | .field type _ => [(first, { name, type := some type })]
      | .union => if name.isEmpty then slotsOfAll nested else [(first, { name, type := none })]
      | .group => [(first, { name, type := none })]
      | _ => []

def slotsOfAll : List Decl → List (Nat × Slot)
  | [] => []
  | member :: rest => slotsOf member ++ slotsOfAll rest

end

def insertSlot (slot : Nat × Slot) : List (Nat × Slot) → List (Nat × Slot)
  | [] => [slot]
  | other :: rest =>
      if slot.1 ≤ other.1 then slot :: other :: rest else other :: insertSlot slot rest

/-- The members of a record by their ordinals. -/
def Decl.slots (decl : Decl) : List Slot :=
  ((slotsOfAll decl.nested).foldr insertSlot []).map Prod.snd

end MessageForge.Schema
