import TelemetrySim.Exposition.Text

/-!
Escapes character by character. A text is escaped in whole passes, each of which replaces one
character. A pass behind others also goes over what they have written; as backslashes are replaced
first, and no pass writes a character that a later one looks for, the passes together come down to
one map of characters (`escapeHelp_eq`, `escapeLabel_eq`).
-/

set_option autoImplicit false
set_option relaxedAutoImplicit false

namespace TelemetrySim.Exposition

/-- What is written for a character of a description. -/
def helpChar (c : Char) : List Char :=
  if c = '\\' then ['\\', '\\'] else if c = '\n' then ['\\', 'n'] else [c]

/-- What is written for a character of the value of a label. -/
def labelChar (c : Char) : List Char := if c = '"' then ['\\', '"'] else helpChar c

/-- What a pass writes for a character. -/
def passChar (c : Char) (written : String) (d : Char) : List Char :=
  if d = c then written.toList else [d]

theorem passChar_of_ne {c d : Char} (h : d ≠ c) (written : String) : passChar c written d = [d] :=
  if_neg h

/-- A pass behind a map of characters is again a map of characters. -/
theorem replaceChar_ofList_flatMap (c : Char) (written : String) (f : Char → List Char)
    (cs : List Char) :
    replaceChar c written (String.ofList (cs.flatMap f)) =
      String.ofList (cs.flatMap fun d ↦ (f d).flatMap (passChar c written)) := by
  rw [replaceChar, String.toList_ofList, List.flatMap_assoc]
  rfl

theorem replaceChar_eq (c : Char) (written s : String) :
    replaceChar c written s = String.ofList (s.toList.flatMap (passChar c written)) :=
  rfl

theorem helpChar_eq (d : Char) :
    (passChar '\\' "\\\\" d).flatMap (passChar '\n' "\\n") = helpChar d := by
  by_cases hbackslash : d = '\\'
  · subst hbackslash
    rfl
  · rw [passChar_of_ne hbackslash, List.flatMap_singleton, helpChar, if_neg hbackslash]
    rfl

theorem labelChar_eq (d : Char) :
    ((passChar '\\' "\\\\" d).flatMap (passChar '"' "\\\"")).flatMap (passChar '\n' "\\n") =
      labelChar d := by
  by_cases hquote : d = '"'
  · subst hquote
    rfl
  · by_cases hbackslash : d = '\\'
    · subst hbackslash
      rfl
    · rw [labelChar, if_neg hquote, ← helpChar_eq, passChar_of_ne hbackslash,
        List.flatMap_singleton, passChar_of_ne hquote]

theorem escapeHelp_eq (s : String) : escapeHelp s = String.ofList (s.toList.flatMap helpChar) := by
  rw [escapeHelp, replaceChar_eq '\\', replaceChar_ofList_flatMap, funext helpChar_eq]

theorem escapeLabel_eq (s : String) :
    escapeLabel s = String.ofList (s.toList.flatMap labelChar) := by
  rw [escapeLabel, replaceChar_eq '\\', replaceChar_ofList_flatMap, replaceChar_ofList_flatMap,
    funext labelChar_eq]

end TelemetrySim.Exposition
