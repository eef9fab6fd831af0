import Mathlib.Data.List.Basic
import TelemetrySim.Text.Quoted

/-!
Quoted names can be told apart, also within a longer text. What stands for a character can be read
back, wherever it ends, and no character stands for itself as a quote. So the quote that closes a
name is the first one that is not escaped, and two texts that begin with quoted names agree only if
the names agree and what comes after them (`quoted_append_inj`).
-/

set_option autoImplicit false
set_option relaxedAutoImplicit false

namespace TelemetrySim.Text

/-! ### Hexadecimal digits -/

theorem mem_hexDigits {n : Nat} {c : Char} (h : c ∈ hexDigits n) : ∃ d < 16, d.digitChar = c := by
  induction n using Nat.strongRecOn with
  | ind n ih =>
    rcases Nat.lt_or_ge n 16 with hn | hn
    · rw [hexDigits, Nat.toDigits_of_lt_base hn] at h
      exact ⟨n, hn, (List.mem_singleton.mp h).symm⟩
    · rw [hexDigits, Nat.toDigits_of_base_le (by decide) hn] at h
      rcases List.mem_append.mp h with h | h
      · exact ih (n / 16) (by omega) h
      · exact ⟨n % 16, Nat.mod_lt n (by decide), (List.mem_singleton.mp h).symm⟩

theorem brace_notMem_hexDigits (n : Nat) : '\x7d' ∉ hexDigits n := by
  intro h
  obtain ⟨d, hd, hbrace⟩ := mem_hexDigits h
  have hdigits : ∀ d < 16, Nat.digitChar d ≠ '\x7d' := by decide
  exact hdigits d hd hbrace

theorem digitChar_inj {d d' : Nat} (hd : d < 16) (hd' : d' < 16)
    (h : d.digitChar = d'.digitChar) : d = d' := by
  have hdigits : ∀ d < 16, ∀ d' < 16, Nat.digitChar d = Nat.digitChar d' → d = d' := by decide
  exact hdigits d hd d' hd' h

theorem hexDigits_inj {n m : Nat} (h : hexDigits n = hexDigits m) : n = m := by
  have hlong : ∀ k l, k < 16 → 16 ≤ l → hexDigits k ≠ hexDigits l := by
    intro k l hk hl heq
    rw [hexDigits, hexDigits, Nat.toDigits_of_lt_base hk,
      Nat.toDigits_of_base_le (by decide) hl] at heq
    have hfront : [] = Nat.toDigits 16 (l / 16) :=
      (List.append_inj' ((List.nil_append _).trans heq) rfl).1
    exact Nat.toDigits_ne_nil hfront.symm
  induction n using Nat.strongRecOn generalizing m with
  | ind n ih =>
    rcases Nat.lt_or_ge n 16 with hn | hn
    · rcases Nat.lt_or_ge m 16 with hm | hm
      · rw [hexDigits, hexDigits, Nat.toDigits_of_lt_base hn, Nat.toDigits_of_lt_base hm] at h
        exact digitChar_inj hn hm (List.singleton_inj.mp h)
      · exact absurd h (hlong n m hn hm)
    · rcases Nat.lt_or_ge m 16 with hm | hm
      · exact absurd h.symm (hlong m n hm hn)
      · rw [hexDigits, hexDigits, Nat.toDigits_of_base_le (by decide) hn,
          Nat.toDigits_of_base_le (by decide) hm] at h
        obtain ⟨hfront, hlast⟩ := List.append_inj' h rfl
        have hdiv : n / 16 = m / 16 := ih (n / 16) (by omega) hfront
        have hmod : n % 16 = m % 16 := digitChar_inj (Nat.mod_lt n (by decide))
          (Nat.mod_lt m (by decide)) (List.singleton_inj.mp hlast)
        omega

/-- The first place of a character cuts a text in one way. -/
theorem append_cons_inj {α : Type} {c : α} {u v a b : List α} (hu : c ∉ u) (hv : c ∉ v)
    (h : u ++ c :: a = v ++ c :: b) : u = v ∧ a = b := by
  induction u generalizing v with
  | nil =>
    cases v with
    | nil => exact ⟨rfl, (List.cons.inj h).2⟩
    | cons d v => exact absurd (List.cons.inj h).1 fun heq ↦ hv (by simp [heq])
  | cons d u ih =>
    cases v with
    | nil => exact absurd (List.cons.inj h).1 fun heq ↦ hu (by simp [heq])
    | cons d' v =>
      obtain ⟨rfl, hrest⟩ := List.cons.inj h
      obtain ⟨rfl, rfl⟩ := ih (fun hmem ↦ hu (.tail _ hmem)) (fun hmem ↦ hv (.tail _ hmem)) hrest
      exact ⟨rfl, rfl⟩

/-! ### Characters -/

/-- The character that a short escape stands for. -/
def unescaped : Char → Char
  | 't' => '\t'
  | 'r' => '\r'
  | 'n' => '\n'
  | '0' => Char.ofNat 0
  | e => e

/-- A character stands for itself, has a short escape or is shown by its number. -/
inductive Shown (c : Char) : List Char → Prop
  | self (hquote : c ≠ '"') (hbackslash : c ≠ '\\') : Shown c [c]
  | short {e : Char} (he : e ≠ 'u') (hc : unescaped e = c) : Shown c ['\\', e]
  | number : Shown c ('\\' :: 'u' :: '\x7b' :: (hexDigits c.toNat ++ ['\x7d']))

theorem shown_quotedChar (c : Char) : Shown c (quotedChar c) := by
  rw [quotedChar]
  split_ifs with hquote hbackslash htab hreturn hfeed hnull
  · exact .short (by decide) hquote.symm
  · exact .short (by decide) hbackslash.symm
  · exact .short (by decide) htab.symm
  · exact .short (by decide) hreturn.symm
  · exact .short (by decide) hfeed.symm
  · exact .short (by decide) hnull.symm
  · exact .number
  · exact .self hquote hbackslash

variable {c c' : Char} {cs cs' a b : List Char}

theorem Shown.inj (h : Shown c cs) (h' : Shown c' cs') (heq : cs ++ a = cs' ++ b) :
    c = c' ∧ a = b := by
  cases h with
  | self hquote hbackslash =>
    cases h' with
    | self => exact List.cons.inj heq
    | short => exact absurd (List.cons.inj heq).1 hbackslash
    | number => exact absurd (List.cons.inj heq).1 hbackslash
  | short he hc =>
    cases h' with
    | self hquote hbackslash => exact absurd (List.cons.inj heq).1.symm hbackslash
    | short he' hc' =>
      obtain ⟨hescape, hrest⟩ := List.cons.inj (List.cons.inj heq).2
      exact ⟨by rw [← hc, ← hc', hescape], hrest⟩
    | number => exact absurd (List.cons.inj (List.cons.inj heq).2).1 he
  | number =>
    cases h' with
    | self hquote hbackslash => exact absurd (List.cons.inj heq).1.symm hbackslash
    | short he => exact absurd (List.cons.inj (List.cons.inj heq).2).1.symm he
    | number =>
      have hnumber : hexDigits c.toNat ++ '\x7d' :: a = hexDigits c'.toNat ++ '\x7d' :: b := by
        simpa using heq
      obtain ⟨hdigits, hrest⟩ := append_cons_inj (brace_notMem_hexDigits _)
        (brace_notMem_hexDigits _) hnumber
      exact ⟨Char.toNat_inj.mp (hexDigits_inj hdigits), hrest⟩

/-- What stands for a character does not begin with a quote. -/
theorem Shown.ne_quote (h : Shown c cs) : cs ++ a ≠ '"' :: b := by
  intro heq
  cases h with
  | self hquote => exact hquote (List.cons.inj heq).1
  | short => exact absurd (List.cons.inj heq).1 (by decide)
  | number => exact absurd (List.cons.inj heq).1 (by decide)

/-! ### Names -/

theorem flatMap_quotedChar_inj {l l' : List Char}
    (h : l.flatMap quotedChar ++ '"' :: a = l'.flatMap quotedChar ++ '"' :: b) :
    l = l' ∧ a = b := by
  induction l generalizing l' with
  | nil =>
    cases l' with
    | nil => exact ⟨rfl, (List.cons.inj h).2⟩
    | cons c' l' =>
      rw [List.flatMap_cons, List.append_assoc] at h
      exact absurd h.symm (shown_quotedChar c').ne_quote
  | cons c l ih =>
    cases l' with
    | nil =>
      rw [List.flatMap_cons, List.append_assoc] at h
      exact absurd h (shown_quotedChar c).ne_quote
    | cons c' l' =>
      rw [List.flatMap_cons, List.flatMap_cons, List.append_assoc, List.append_assoc] at h
      obtain ⟨rfl, hrest⟩ := (shown_quotedChar c).inj (shown_quotedChar c') h
      obtain ⟨rfl, rfl⟩ := ih hrest
      exact ⟨rfl, rfl⟩

/-- Texts that begin with quoted names agree in the names and in what comes after them. -/
theorem quoted_append_inj {s s' t t' : String} (h : quoted s ++ t = quoted s' ++ t') :
    s = s' ∧ t = t' := by
  have hlists := congrArg String.toList h
  simp only [quoted, String.toList_append, String.toList_ofList, List.cons_append,
    List.append_assoc, List.nil_append] at hlists
  obtain ⟨hname, hrest⟩ := flatMap_quotedChar_inj (List.cons.inj hlists).2
  exact ⟨String.toList_inj.mp hname, String.toList_inj.mp hrest⟩

end TelemetrySim.Text
