import TelemetrySim.Iterator.Combination
import TelemetrySim.Text.Ident

/-!
Placeholders in texts. A placeholder is an identifier in braces. A text splits in exactly one way
into plain characters and placeholders, from the left; substitution replaces a placeholder by a
value that is not looked at again.
-/

set_option autoImplicit false
set_option relaxedAutoImplicit false

namespace TelemetrySim.Placeholder

/-- A piece of a text: one plain character, or the name in a placeholder. -/
inductive Piece where
  | char (c : Char)
  | hole (name : List Char)
deriving DecidableEq

/-- The name and the rest of a text that starts with a name and a closing brace. -/
def nameThen (cs : List Char) : Option (List Char × List Char) :=
  match cs.dropWhile Text.isIdentRest with
  | '\x7d' :: rest =>
    if Text.isIdentChars (cs.takeWhile Text.isIdentRest) then
      some (cs.takeWhile Text.isIdentRest, rest)
    else none
  | _ => none

theorem eq_of_nameThen {cs name rest : List Char} (h : nameThen cs = some (name, rest)) :
    cs = name ++ '\x7d' :: rest := by
  unfold nameThen at h
  split at h
  · next r hr =>
    split at h
    · obtain ⟨rfl, rfl⟩ := Prod.mk.inj (Option.some.inj h)
      rw [← hr, List.takeWhile_append_dropWhile]
    · simp at h
  · simp at h

theorem length_of_nameThen {cs name rest : List Char} (h : nameThen cs = some (name, rest)) :
    rest.length < cs.length := by
  rw [eq_of_nameThen h]
  simp only [List.length_append, List.length_cons]
  omega

/-- The pieces of a text. -/
def pieces : List Char → List Piece
  | [] => []
  | c :: cs =>
    if c = '\x7b' then
      match h : nameThen cs with
      | some (name, rest) =>
        have := length_of_nameThen h
        .hole name :: pieces rest
      | none => .char c :: pieces cs
    else .char c :: pieces cs
termination_by cs => cs.length

/-- The text of a piece. -/
def Piece.chars : Piece → List Char
  | char c => [c]
  | hole name => '\x7b' :: name ++ ['\x7d']

def Piece.name? : Piece → Option String
  | char _ => none
  | hole name => some (String.ofList name)

/-- The names in the placeholders of a text, in order and with repetitions. -/
def names (s : String) : List String := (pieces s.toList).filterMap Piece.name?

/-- The text of a piece under an assignment. A placeholder without a value stays. -/
def Piece.fill (a : Assignment) (p : Piece) : List Char :=
  match p.name?.bind fun name ↦ a.lookup name with
  | some value => value.toList
  | none => p.chars

/-- Replaces the placeholders of a text by their values. -/
def substitute (a : Assignment) (s : String) : String :=
  String.ofList ((pieces s.toList).flatMap (Piece.fill a))

end TelemetrySim.Placeholder
