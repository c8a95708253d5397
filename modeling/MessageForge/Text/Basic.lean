/-!
# Text

Names, annotations, lines and whole modules are lists of characters, so that
what is said about them are facts about lists. String literals coerce.
-/

namespace MessageForge

abbrev Text := List Char

namespace Text

/-! ## Literals -/

/-- The characters of a string. In ASCII each byte is one of them, so that long
literals need no decoding when they are evaluated. -/
def ofString (s : String) : Text :=
  match s.toByteArray.data.toList.all fun byte => byte.toNat < 128 with
  | true => s.toByteArray.data.toList.map fun byte => Char.ofNat byte.toNat
  | false => s.toList

theorem map_utf8EncodeChar {c : Char}
    (h : ((String.utf8EncodeChar c).all fun byte => byte.toNat < 128) = true) :
    (String.utf8EncodeChar c).map (fun byte => Char.ofNat byte.toNat) = [c] := by
  unfold String.utf8EncodeChar at h ⊢
  dsimp only at h ⊢
  split at h
  · next hc =>
      have hbyte : (UInt8.ofNat c.val.toNat).toNat = c.toNat := by
        rw [UInt8.toNat_ofNat']
        exact Nat.mod_eq_of_lt (by omega)
      rw [if_pos hc, List.map_singleton, hbyte, Char.ofNat_toNat]
  · -- all bytes of longer encodings are above ASCII
    split at h
    · simp at h
      omega
    · split at h <;> simp at h <;> omega

theorem map_flatMap_utf8EncodeChar : ∀ {text : Text},
    ((text.flatMap String.utf8EncodeChar).all fun byte => byte.toNat < 128) = true →
      (text.flatMap String.utf8EncodeChar).map (fun byte => Char.ofNat byte.toNat) = text
  | [], _ => rfl
  | c :: rest, h => by
      rw [List.flatMap_cons, List.all_append, Bool.and_eq_true] at h
      rw [List.flatMap_cons, List.map_append, map_utf8EncodeChar h.1,
        map_flatMap_utf8EncodeChar h.2, List.singleton_append]

@[simp] theorem ofString_eq_toList (s : String) : ofString s = s.toList := by
  have hbytes : s.toByteArray.data.toList = s.toList.flatMap String.utf8EncodeChar := by
    rw [← congrArg String.toByteArray (String.ofList_toList), String.toByteArray_ofList,
      List.utf8Encode, List.toList_data_toByteArray]
  rw [ofString, hbytes]
  split
  · next hascii => exact map_flatMap_utf8EncodeChar hascii
  · rfl

theorem ofString_ofList (text : Text) : ofString (String.ofList text) = text := by
  rw [ofString_eq_toList, String.toList_ofList]

instance : Coe String Text where
  coe := ofString

/-! ## Parts -/

/-- The pieces between the occurrences of a separator; there is always one. -/
def split (sep : Char) : Text → List Text
  | [] => [[]]
  | c :: rest =>
      if c = sep then [] :: split sep rest
      else
        match split sep rest with
        | [] => [[c]]
        | piece :: pieces => (c :: piece) :: pieces

def join (sep : Text) : List Text → Text
  | [] => []
  | [piece] => piece
  | piece :: pieces => piece ++ sep ++ join sep pieces

def stripPrefix? : (start : Text) → Text → Option Text
  | [], text => some text
  | _ :: _, [] => none
  | p :: start, c :: text => if p = c then stripPrefix? start text else none

def startsWith (start text : Text) : Bool :=
  (stripPrefix? start text).isSome

def endsWith (ending text : Text) : Bool :=
  startsWith ending.reverse text.reverse

def dropPrefix (start text : Text) : Text :=
  (stripPrefix? start text).getD text

def dropSuffix (ending text : Text) : Text :=
  match stripPrefix? ending.reverse text.reverse with
  | some front => front.reverse
  | none => text

def hasPart (part : Text) : Text → Bool
  | [] => part.isEmpty
  | c :: rest => startsWith part (c :: rest) || hasPart part rest

def replaceChar (old new : Char) (text : Text) : Text :=
  text.map fun c => if c = old then new else c

/-- Order by code point, a proper prefix first. -/
def le : Text → Text → Bool
  | [], _ => true
  | _ :: _, [] => false
  | a :: as, b :: bs => a.toNat < b.toNat || (a = b && le as bs)

def ofNat (n : Nat) : Text :=
  Nat.toDigits 10 n

def ofInt : Int → Text
  | .ofNat n => ofNat n
  | .negSucc n => '-' :: ofNat (n + 1)

def repeated (n : Nat) (text : Text) : Text :=
  (List.replicate n text).flatten

end Text

/-- The distinct members in ascending order. -/
def sortedSet (texts : List Text) : List Text :=
  (texts.eraseDups).mergeSort Text.le

end MessageForge
