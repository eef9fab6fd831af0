/-!
Identifiers: a letter or underscore followed by letters, digits and underscores, all ASCII. Iterator
names, placeholders and attribute names are identifiers.
-/

set_option autoImplicit false
set_option relaxedAutoImplicit false

namespace TelemetrySim.Text

def isIdentStart (c : Char) : Bool := c.isAlpha || c == '_'

def isIdentRest (c : Char) : Bool := c.isAlphanum || c == '_'

def isIdentChars : List Char → Bool
  | [] => false
  | c :: cs => isIdentStart c && cs.all isIdentRest

def isIdent (s : String) : Bool := isIdentChars s.toList

@[simp] theorem isIdentChars_nil : isIdentChars [] = false := rfl

theorem isIdentChars_cons (c : Char) (cs : List Char) :
    isIdentChars (c :: cs) = (isIdentStart c && cs.all isIdentRest) := rfl

theorem isIdentRest_of_isIdentStart {c : Char} (h : isIdentStart c = true) :
    isIdentRest c = true := by
  simp only [isIdentStart, isIdentRest, Char.isAlphanum, Bool.or_eq_true] at h ⊢
  rcases h with h | h
  · exact Or.inl (Or.inl h)
  · exact Or.inr h

end TelemetrySim.Text
