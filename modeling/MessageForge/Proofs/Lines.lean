import Mathlib.Data.List.Basic
import MessageForge.Code.Layout

/-!
# Lines and pieces

Cutting a text at line feeds undoes the joining of lines that hold none, and
an ending that was put behind a text can be taken off again. A call whose
arguments are given as lines keeps these lines.
-/

namespace MessageForge

namespace Text

/-! ## Pieces -/

theorem split_of_not_mem {sep : Char} : ∀ {text : Text}, sep ∉ text → split sep text = [text]
  | [], _ => rfl
  | c :: rest, h => by
      have hc : c ≠ sep := fun heq => h (heq ▸ List.mem_cons_self ..)
      have hrest : sep ∉ rest := fun hmem => h (List.mem_cons_of_mem _ hmem)
      rw [split, if_neg hc, split_of_not_mem hrest]

theorem split_ne_nil (sep : Char) : ∀ text : Text, split sep text ≠ []
  | [] => List.cons_ne_nil _ _
  | c :: rest => by
      rw [split]
      split
      · exact List.cons_ne_nil _ _
      · split <;> exact List.cons_ne_nil _ _

theorem split_append (sep : Char) : ∀ front back : Text,
    split sep (front ++ sep :: back) = split sep front ++ split sep back
  | [], back => by simp [split]
  | c :: front, back => by
      rw [List.cons_append, split, split, split_append sep front back]
      split
      · rfl
      · cases hfront : split sep front with
        | nil => exact absurd hfront (split_ne_nil sep front)
        | cons piece pieces => rfl

theorem not_mem_of_mem_split {sep : Char} : ∀ {text piece : Text},
    piece ∈ split sep text → sep ∉ piece
  | [], piece, h => by
      rw [List.mem_singleton.mp h]
      exact List.not_mem_nil
  | c :: rest, piece, h => by
      have ih : ∀ {piece}, piece ∈ split sep rest → sep ∉ piece := not_mem_of_mem_split
      rw [split] at h
      split at h
      · rcases List.mem_cons.mp h with rfl | hmem
        · exact List.not_mem_nil
        · exact ih hmem
      · next hc =>
          cases hrest : split sep rest with
          | nil => exact absurd hrest (split_ne_nil sep rest)
          | cons first pieces =>
              rw [hrest] at h
              rcases List.mem_cons.mp h with rfl | hmem
              · have hfirst : sep ∉ first := ih (hrest ▸ List.mem_cons_self ..)
                exact fun hsep => (List.mem_cons.mp hsep).elim (fun heq => hc heq.symm) hfirst
              · exact ih (hrest ▸ List.mem_cons_of_mem _ hmem)

theorem split_join {sep : Char} : ∀ {pieces : List Text}, pieces ≠ [] →
    (∀ piece ∈ pieces, sep ∉ piece) → split sep (join [sep] pieces) = pieces
  | [], hne, _ => absurd rfl hne
  | [piece], _, h => split_of_not_mem (h piece (List.mem_cons_self ..))
  | piece :: next :: rest, _, h => by
      have hpiece : sep ∉ piece := h piece (List.mem_cons_self ..)
      have hrest : split sep (join [sep] (next :: rest)) = next :: rest :=
        split_join (List.cons_ne_nil _ _) fun p hp => h p (List.mem_cons_of_mem _ hp)
      show split sep (piece ++ [sep] ++ join [sep] (next :: rest)) = _
      rw [List.append_assoc, List.singleton_append, split_append, hrest, split_of_not_mem hpiece]
      rfl

theorem join_append (sep : Text) {back : List Text} (hback : back ≠ []) : ∀ {front : List Text},
    front ≠ [] → join sep (front ++ back) = join sep front ++ (sep ++ join sep back)
  | [], hne => absurd rfl hne
  | [piece], _ => by
      cases back with
      | nil => exact absurd rfl hback
      | cons next rest => exact List.append_assoc ..
  | piece :: next :: rest, _ => by
      have hrest : join sep (next :: rest ++ back) = join sep (next :: rest) ++ (sep ++ join sep back) :=
        join_append sep hback (List.cons_ne_nil _ _)
      show piece ++ sep ++ join sep (next :: rest ++ back) =
        piece ++ sep ++ join sep (next :: rest) ++ (sep ++ join sep back)
      rw [hrest, List.append_assoc _ _ (sep ++ join sep back)]

theorem join_cons (sep piece : Text) {rest : List Text} (h : rest ≠ []) :
    join sep (piece :: rest) = piece ++ (sep ++ join sep rest) :=
  join_append sep h (List.cons_ne_nil piece [])

theorem join_eq_flatMap (sep piece : Text) (rest : List Text) :
    join sep (piece :: rest) = piece ++ rest.flatMap (sep ++ ·) := by
  induction rest generalizing piece with
  | nil => exact (List.append_nil piece).symm
  | cons next rest ih =>
      rw [join_cons sep piece (List.cons_ne_nil _ _), ih, List.flatMap_cons, List.append_assoc]

theorem join_split (sep : Char) : ∀ text : Text, join [sep] (split sep text) = text
  | [] => rfl
  | c :: rest => by
      have ih := join_split sep rest
      rw [split]
      split
      · next hc => rw [join_cons _ _ (split_ne_nil sep rest), ih, hc]; rfl
      · cases hrest : split sep rest with
        | nil => exact absurd hrest (split_ne_nil sep rest)
        | cons piece pieces =>
            rw [hrest] at ih
            rw [← ih]
            cases pieces <;> rfl

theorem split_joinLines {lines : List Text} (hne : lines ≠ []) (h : ∀ line ∈ lines, '\n' ∉ line) :
    split '\n' (joinLines lines) = lines :=
  split_join hne h

theorem append_joinLines (front line : Text) (rest : List Text) :
    front ++ joinLines (line :: rest) = joinLines ((front ++ line) :: rest) := by
  cases rest with
  | nil => rfl
  | cons next rest =>
      show front ++ (line ++ ['\n'] ++ joinLines (next :: rest)) = _
      rw [← List.append_assoc, ← List.append_assoc]
      rfl

/-! ## Endings -/

theorem stripPrefix?_append (start text : Text) : stripPrefix? start (start ++ text) = some text := by
  induction start with
  | nil => rfl
  | cons c start ih =>
      rw [List.cons_append, stripPrefix?, if_pos rfl]
      exact ih

theorem eq_append_of_stripPrefix? : ∀ {start text rest : Text},
    stripPrefix? start text = some rest → text = start ++ rest
  | [], _, _, h => Option.some.inj h
  | _ :: _, [], _, h => by cases h
  | p :: start, c :: text, rest, h => by
      rw [stripPrefix?] at h
      split at h
      · next heq => rw [heq, List.cons_append, ← eq_append_of_stripPrefix? h]
      · cases h

theorem endsWith_append (front ending : Text) : endsWith ending (front ++ ending) = true := by
  rw [endsWith, startsWith, List.reverse_append, stripPrefix?_append]
  rfl

theorem dropSuffix_cases (ending text : Text) :
    text = dropSuffix ending text ∨ text = dropSuffix ending text ++ ending := by
  rw [dropSuffix]
  cases h : stripPrefix? ending.reverse text.reverse with
  | none => exact .inl rfl
  | some front =>
      have hreverse := congrArg List.reverse (eq_append_of_stripPrefix? h)
      rw [List.reverse_reverse, List.reverse_append, List.reverse_reverse] at hreverse
      exact .inr hreverse

theorem dropSuffix_append (text ending : Text) : dropSuffix ending (text ++ ending) = text := by
  rw [dropSuffix, List.reverse_append, stripPrefix?_append]
  exact List.reverse_reverse text

end Text

namespace Code

theorem indent_append (levels : Int) (front back : List Text) :
    indent levels (front ++ back) = indent levels front ++ indent levels back :=
  List.map_append

/-- Arguments that are given as lines stand in the call as these lines. -/
theorem newCall_joinLines (callee : Text) (arguments : List (List Text))
    (hne : ∀ lines ∈ arguments, lines ≠ [])
    (h : ∀ lines ∈ arguments, ∀ line ∈ lines, '\n' ∉ line) :
    newCall callee (arguments.map Text.joinLines) =
      (callee ++ "(") :: indent 1 (arguments.flatMap argumentLines) ++ [[')']] := by
  have hargs : (arguments.map Text.joinLines).flatMap
      (fun argument => indent 1 (argumentLines (Text.split '\n' argument))) =
      indent 1 (arguments.flatMap argumentLines) := by
    rw [List.flatMap_map, indent, List.map_flatMap]
    exact List.flatMap_congr fun lines hlines => by
      rw [Text.split_joinLines (hne lines hlines) (h lines hlines)]
      rfl
  rw [newCall, hargs]

def withComma (argument : Text) : Text :=
  argument ++ ","

theorem newCall_of_lines (callee : Text) (arguments : List Text)
    (h : ∀ argument ∈ arguments, '\n' ∉ argument) :
    newCall callee arguments =
      (callee ++ "(") :: indent 1 (arguments.map withComma) ++ [[')']] := by
  have hcall := newCall_joinLines callee (arguments.map fun argument => [argument])
    (fun lines hlines => by
      obtain ⟨argument, -, rfl⟩ := List.mem_map.mp hlines
      exact List.cons_ne_nil _ _)
    (fun lines hlines line hline => by
      obtain ⟨argument, hargument, rfl⟩ := List.mem_map.mp hlines
      obtain rfl := List.mem_singleton.mp hline
      exact h _ hargument)
  have hjoin : (arguments.map fun argument => [argument]).map Text.joinLines = arguments := by
    rw [List.map_map]
    exact List.map_id arguments
  have hlines : (arguments.map fun argument => [argument]).flatMap argumentLines =
      arguments.map withComma := by
    rw [List.flatMap_map, List.map_eq_flatMap]
    rfl
  rw [hjoin, hlines] at hcall
  exact hcall

end Code

end MessageForge
