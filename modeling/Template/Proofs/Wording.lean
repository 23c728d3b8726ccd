import Mathlib.Data.List.Basic
import Template.Error

/-!
# The wording of errors is unambiguous

A character between two marks is written in one of three ways (`Quoted.Written`), and from what is written it can be told which
character it is and where it ends, whatever stands behind it (`Quoted.Written.unique`). The same holds of whole texts between
marks and of numbers before a space. So two errors with one wording are one error, and the wording is a single line
(`messageWith_unambiguous`), whatever characters beyond ASCII are shown by number.
-/

namespace Template

/-- No control character of ASCII stands in a text. -/
def Text.IsLine (t : Text) : Prop := ∀ c ∈ t, 0x20 ≤ c.toNat ∧ c.toNat ≠ 0x7f

namespace Text

theorem IsLine.append {s t : Text} (hs : s.IsLine) (ht : t.IsLine) : (s ++ t).IsLine :=
  List.forall_mem_append.mpr ⟨hs, ht⟩

/-- Printable characters are a line. -/
theorem isLine_of_isPrintable {t : Text} (h : ∀ c ∈ t, isPrintable c = true) : t.IsLine := by
  intro c hc
  have := isPrintable_iff.mp (h c hc)
  omega

/-! ## Numbers -/

/-- Digits up to 16 have different characters. -/
theorem digitChar_inj {m n : Nat} (hm : m < 16) (hn : n < 16) (h : m.digitChar = n.digitChar) : m = n := by
  have hall : ∀ m < 16, ∀ n < 16, m.digitChar = n.digitChar → m = n := by decide
  exact hall m hm n hn h

/-- The character of a digit is printable. -/
theorem isPrintable_digitChar (d : Nat) : isPrintable d.digitChar = true := by
  have hall : ∀ d < 16, isPrintable d.digitChar = true := by decide
  rcases Nat.lt_or_ge d 16 with hlt | hge
  · exact hall d hlt
  · rw [Nat.digitChar_eq_star.mpr hge]
    rfl

/-- Every character of a number is that of a digit. -/
theorem exists_digitChar_of_mem {b n : Nat} (hb : 1 < b) {c : Char} (h : c ∈ Nat.toDigits b n) : ∃ d : Nat, c = d.digitChar := by
  induction n using Nat.strongRecOn with
  | ind n ih =>
    rw [Nat.toDigits_eq_if hb] at h
    split at h
    · exact ⟨n, List.mem_singleton.mp h⟩
    · next hle =>
      rcases List.mem_append.mp h with h | h
      · exact ih (n / b) (Nat.div_lt_self (by omega) hb) h
      · exact ⟨n % b, List.mem_singleton.mp h⟩

/-- Numbers in a base up to 16 are told apart by their digits. -/
theorem toDigits_inj {b m n : Nat} (hb : 1 < b) (hb' : b ≤ 16) (h : Nat.toDigits b m = Nat.toDigits b n) : m = n := by
  induction m using Nat.strongRecOn generalizing n with
  | ind m ih =>
    rw [Nat.toDigits_eq_if hb, Nat.toDigits_eq_if hb (n := n)] at h
    split at h <;> split at h
    · next hm hn => exact digitChar_inj (by omega) (by omega) (List.singleton_inj.mp h)
    · exact absurd (List.append_eq_singleton_iff.mp h.symm) (by simp)
    · exact absurd (List.append_eq_singleton_iff.mp h) (by simp)
    · next hm hn =>
      obtain ⟨hinit, hlast⟩ := List.append_inj' h rfl
      have hpos : 0 < b := by omega
      have hmod : m % b = n % b :=
        digitChar_inj (Nat.lt_of_lt_of_le (Nat.mod_lt m hpos) hb') (Nat.lt_of_lt_of_le (Nat.mod_lt n hpos) hb')
          (List.singleton_inj.mp hlast)
      have hdiv : m / b = n / b := ih (m / b) (Nat.div_lt_self (by omega) hb) hinit
      calc m = b * (m / b) + m % b := (Nat.div_add_mod m b).symm
        _ = b * (n / b) + n % b := by rw [hdiv, hmod]
        _ = n := Nat.div_add_mod n b

/-- A character that is none of a digit stands in no number. -/
theorem not_mem_toDigits {b n : Nat} (hb : 1 < b) {c : Char} (hc : ∀ d : Nat, d.digitChar ≠ c) : c ∉ Nat.toDigits b n := by
  intro hmem
  obtain ⟨d, rfl⟩ := exists_digitChar_of_mem hb hmem
  exact hc d rfl

/-- Where a character marks the end of texts in which it does not stand, the texts and what is behind them can be told. -/
theorem append_cons_inj {s t x y : Text} {c : Char} (hs : c ∉ s) (ht : c ∉ t) (h : s ++ c :: x = t ++ c :: y) :
    s = t ∧ x = y := by
  have hsplit := congrArg (List.splitOn c) h
  rw [List.splitOn_append_cons_self_of_not_mem hs, List.splitOn_append_cons_self_of_not_mem ht] at hsplit
  obtain rfl := (List.cons.inj hsplit).1
  exact ⟨rfl, (List.cons.inj (List.append_cancel_left h)).2⟩

/-- A number can be told, and what is behind it, if a character that is none of a digit marks its end. -/
theorem toDigits_append_inj {b m n : Nat} (hb : 1 < b) (hb' : b ≤ 16) {c : Char} (hc : ∀ d : Nat, d.digitChar ≠ c) {x y : Text}
    (h : Nat.toDigits b m ++ c :: x = Nat.toDigits b n ++ c :: y) : m = n ∧ x = y := by
  obtain ⟨hdigits, hrest⟩ := append_cons_inj (not_mem_toDigits hb hc) (not_mem_toDigits hb hc) h
  exact ⟨toDigits_inj hb hb' hdigits, hrest⟩

/-- A number is written on a line. -/
theorem isLine_toDigits {b : Nat} (hb : 1 < b) (n : Nat) : IsLine (Nat.toDigits b n) := by
  refine isLine_of_isPrintable fun c hc => ?_
  obtain ⟨d, rfl⟩ := exists_digitChar_of_mem hb hc
  exact isPrintable_digitChar d

end Text

namespace Quoted

/-! ## A character between two marks -/

/-- The character that a letter behind a backslash stands for. -/
def unescape (letter : Char) : Char :=
  if letter = '0' then '\x00'
  else if letter = 't' then '\t'
  else if letter = 'r' then '\r'
  else if letter = 'n' then '\n'
  else letter

/-- What a character is written as between two marks: a backslash and a letter, its number, or itself. -/
inductive Written (mark : Char) : Char → Text → Prop where
  | short (letter : Char) : isPrintable letter = true → letter ≠ 'u' → Written mark (unescape letter) ['\\', letter]
  | number (c : Char) : Written mark c (byNumber c)
  | itself {c : Char} : c ≠ '\\' → c ≠ mark → Text.IsLine [c] → Written mark c [c]

/-- The marks that quoted text stands between. -/
def IsMark (mark : Char) : Prop := mark = '\'' ∨ mark = '"'

variable {mark : Char} {wide : Char → Bool} {a b c : Char} {s t x y : Text}

/-- A backslash and each mark are written behind a backslash. -/
theorem written_backslash (h : c = '\\' ∨ IsMark c) : Written mark c ['\\', c] := by
  rcases h with rfl | rfl | rfl
  · exact .short '\\' rfl (by decide)
  · exact .short '\'' rfl (by decide)
  · exact .short '"' rfl (by decide)

/-- A character that need not be written by number can be written as itself. -/
theorem isLine_of_not_needsNumber (h : needsNumber wide c = false) : Text.IsLine [c] := by
  refine List.forall_mem_singleton.mpr ?_
  unfold needsNumber at h
  split at h
  · simp only [Bool.or_eq_false_iff, decide_eq_false_iff_not, beq_eq_false_iff_ne] at h
    omega
  · omega

/-- Whatever characters beyond ASCII are written by number, a character is written in one of the three ways. -/
theorem written_escape (hmark : IsMark mark) (wide : Char → Bool) (c : Char) : Written mark c (escape mark wide c) := by
  unfold escape
  split
  · next h => exact h ▸ .short '0' rfl (by decide)
  split
  · next h => exact h ▸ .short 't' rfl (by decide)
  split
  · next h => exact h ▸ .short 'r' rfl (by decide)
  split
  · next h => exact h ▸ .short 'n' rfl (by decide)
  split
  · next h => exact written_backslash (h.imp_right fun (hc : c = mark) => hc ▸ hmark)
  next hplain =>
  rw [not_or] at hplain
  split
  · exact .number c
  · next hnumber => exact .itself hplain.1 hplain.2 (isLine_of_not_needsNumber (Bool.not_eq_true _ ▸ hnumber))

namespace Written

/-- Whatever stands behind it, from what is written it can be told which character it is, and where it ends. -/
theorem unique (ha : Written mark a s) (hb : Written mark b t) (h : s ++ x = t ++ y) : a = b ∧ x = y := by
  cases ha with
  | short _ _ hletter =>
    cases hb with
    | short _ _ _ =>
      cases h
      exact ⟨rfl, rfl⟩
    | number _ =>
      cases h
      exact absurd rfl hletter
    | itself hbackslash _ _ =>
      cases h
      exact absurd rfl hbackslash
  | number _ =>
    cases hb with
    | short _ _ hletter =>
      cases h
      exact absurd rfl hletter
    | number _ =>
      simp only [byNumber, List.append_assoc, List.singleton_append] at h
      obtain ⟨hcode, hrest⟩ := Text.toDigits_append_inj (by decide) (by decide) (fun d => Nat.digitChar_ne '}' rfl)
        (List.append_cancel_left h)
      exact ⟨Char.toNat_inj.mp hcode, hrest⟩
    | itself hbackslash _ _ =>
      cases h
      exact absurd rfl hbackslash
  | itself hbackslash _ _ =>
    cases hb with
    | itself _ _ _ =>
      cases h
      exact ⟨rfl, rfl⟩
    | _ =>
      cases h
      exact absurd rfl hbackslash

/-- What is written of a character begins with no mark. -/
theorem not_mark_first (hmark : IsMark mark) (h : Written mark c s) : s ++ x ≠ mark :: y := by
  have hbackslash : '\\' ≠ mark := by rcases hmark with rfl | rfl <;> decide
  cases h with
  | short _ _ _ => exact fun heq => hbackslash (List.cons.inj heq).1
  | number _ => exact fun heq => hbackslash (List.cons.inj heq).1
  | itself _ hne _ => exact fun heq => hne (List.cons.inj heq).1

/-- What is written of a character is on a line. -/
theorem isLine (h : Written mark c s) : s.IsLine := by
  cases h with
  | short _ hletter _ => exact Text.isLine_of_isPrintable (List.forall_mem_cons.mpr ⟨rfl, List.forall_mem_singleton.mpr hletter⟩)
  | number c =>
    have hopen : Text.IsLine ['\\', 'u', '{'] := Text.isLine_of_isPrintable (List.all_eq_true.mp rfl)
    exact (hopen.append (Text.isLine_toDigits (by decide) _)).append (Text.isLine_of_isPrintable (List.all_eq_true.mp rfl))
  | itself _ _ hline => exact hline

end Written

/-! ## A text between two marks -/

/-- Up to the closing mark, a text can be told, and what is behind the mark. -/
theorem flatMap_escape_inj (hmark : IsMark mark)
    (h : s.flatMap (escape mark wide) ++ mark :: x = t.flatMap (escape mark wide) ++ mark :: y) : s = t ∧ x = y := by
  induction s generalizing t with
  | nil =>
    cases t with
    | nil => exact ⟨rfl, (List.cons.inj h).2⟩
    | cons b t =>
      rw [List.flatMap_cons, List.append_assoc] at h
      exact absurd h.symm ((written_escape hmark wide b).not_mark_first hmark)
  | cons a s ih =>
    rw [List.flatMap_cons, List.append_assoc] at h
    cases t with
    | nil => exact absurd h ((written_escape hmark wide a).not_mark_first hmark)
    | cons b t =>
      rw [List.flatMap_cons, List.append_assoc] at h
      obtain ⟨rfl, hrest⟩ := (written_escape hmark wide a).unique (written_escape hmark wide b) h
      obtain ⟨rfl, hbehind⟩ := ih hrest
      exact ⟨rfl, hbehind⟩

/-- A text between marks can be told, and what is behind it. -/
theorem enclose_append_inj (hmark : IsMark mark) (h : enclose mark wide s ++ x = enclose mark wide t ++ y) :
    s = t ∧ x = y := by
  simp only [enclose, List.cons_append, List.append_assoc, List.cons.injEq, true_and] at h
  exact flatMap_escape_inj hmark h

theorem enclose_inj (hmark : IsMark mark) (h : enclose mark wide s = enclose mark wide t) : s = t :=
  (enclose_append_inj (x := []) (y := []) hmark (by rw [h])).1

/-- A text between marks is on a line. -/
theorem isLine_enclose (hmark : IsMark mark) (wide : Char → Bool) (t : Text) : (enclose mark wide t).IsLine := by
  have hline : Text.IsLine [mark] := by rcases hmark with rfl | rfl <;> exact Text.isLine_of_isPrintable (List.all_eq_true.mp rfl)
  have htext : Text.IsLine (t.flatMap (escape mark wide)) := by
    intro c hc
    obtain ⟨d, -, hd⟩ := List.mem_flatMap.mp hc
    exact (written_escape hmark wide d).isLine c hd
  exact (hline.append htext).append hline

end Quoted

/-! ## The wording of an error -/

namespace Error

open Quoted

variable {wide : Char → Bool} {name name' : Text} {c c' : Char} {column column' : Nat}

/-- Which of the three kinds an error is of is told by the first letter of its wording. -/
theorem head?_messageWith (wide : Char → Bool) (e : Error) :
    (e.messageWith wide).head? = some (match e with
      | noName _ => 'v'
      | unterminatedVariable _ => 'u'
      | badCharacter _ _ _ => 'b') := by
  cases e <;> rfl

theorem eq_of_message_noName (h : (noName column).messageWith wide = (noName column').messageWith wide) : column = column' :=
  Text.toDigits_inj (by decide) (by decide) (List.append_cancel_left h)

theorem eq_of_message_unterminatedVariable
    (h : (unterminatedVariable name).messageWith wide = (unterminatedVariable name').messageWith wide) : name = name' :=
  enclose_inj (.inr rfl) (List.append_cancel_left h)

theorem eq_of_message_badCharacter
    (h : (badCharacter name c column).messageWith wide = (badCharacter name' c' column').messageWith wide) :
    name = name' ∧ c = c' ∧ column = column' := by
  have hspace : " in variable ".toList = ' ' :: "in variable ".toList := by decide +kernel
  unfold messageWith at h
  simp only [Text.ofNat, hspace, List.append_assoc, List.cons_append] at h
  -- the parts are told one after another, from the front
  obtain ⟨hcharacter, hrest⟩ := enclose_append_inj (.inl rfl) (List.append_cancel_left h)
  obtain ⟨hcolumn, hend⟩ := Text.toDigits_append_inj (by decide) (by decide) (fun d => Nat.digitChar_ne ' ' rfl)
    (List.append_cancel_left hrest)
  exact ⟨enclose_inj (.inr rfl) (List.append_cancel_left hend), List.singleton_inj.mp hcharacter, hcolumn⟩

/-- Errors with the same wording are the same. -/
theorem eq_of_messageWith {e₁ e₂ : Error} (h : e₁.messageWith wide = e₂.messageWith wide) : e₁ = e₂ := by
  have hkind := congrArg List.head? h
  rw [head?_messageWith, head?_messageWith] at hkind
  cases e₁ with
  | noName column =>
    cases e₂ with
    | noName column' => rw [eq_of_message_noName h]
    | _ => simp at hkind
  | unterminatedVariable name =>
    cases e₂ with
    | unterminatedVariable name' => rw [eq_of_message_unterminatedVariable h]
    | _ => simp at hkind
  | badCharacter name c column =>
    cases e₂ with
    | badCharacter name' c' column' =>
      obtain ⟨rfl, rfl, rfl⟩ := eq_of_message_badCharacter h
      rfl
    | _ => simp at hkind

/-- The wording of an error is a line. -/
theorem isLine_messageWith (wide : Char → Bool) (e : Error) : (e.messageWith wide).IsLine := by
  have hwords {t : Text} (h : t.all isPrintable = true) : t.IsLine := Text.isLine_of_isPrintable (List.all_eq_true.mp h)
  have hnumber (n : Nat) : (Text.ofNat n).IsLine := Text.isLine_toDigits (by decide) n
  cases e with
  | noName column => exact (hwords (by decide +kernel)).append (hnumber column)
  | unterminatedVariable name => exact (hwords (by decide +kernel)).append (isLine_enclose (.inr rfl) wide name)
  | badCharacter name c column =>
    exact (((((hwords (by decide +kernel)).append (isLine_enclose (.inl rfl) wide [c])).append
      (hwords (by decide +kernel))).append (hnumber column)).append (hwords (by decide +kernel))).append
        (isLine_enclose (.inr rfl) wide name)

/-- The wording of errors is unambiguous, and it fits on one line. Whatever characters beyond ASCII are shown by number, two errors
have the same wording only if they are the same in kind and in every field; and no control character of ASCII stands in it. -/
theorem messageWith_unambiguous (wide : Char → Bool) :
    (∀ e₁ e₂ : Error, e₁.messageWith wide = e₂.messageWith wide → e₁ = e₂) ∧
    ∀ (e : Error), ∀ c ∈ e.messageWith wide, 0x20 ≤ c.toNat ∧ c.toNat ≠ 0x7f := by
  refine ⟨?_, ?_⟩
  · intro e₁ e₂ h
    exact eq_of_messageWith h
  · intro e
    exact isLine_messageWith wide e

/-- A name that is a line break is not worded as one that is a backslash and the letter of its short form; the wording of the first
is `unterminated variable "\n"`, without a line break in it. The same wording at the same place is the same error. -/
theorem messageWith_unambiguous_break :
    let e : Error := .unterminatedVariable ['\n']
    let e' : Error := .unterminatedVariable ['\\', 'n']
    let e'' : Error := .badCharacter ['"', '\''] '\'' 3
    e.message ≠ e'.message ∧ '\\' ∈ e.message ∧ (0x20 ≤ '\\'.toNat ∧ '\\'.toNat ≠ 0x7f) ∧
      (Malformed.badCharacter .percent ['"', '\''] '\'').errorAt 0 = e'' := by
  intro e e' e''
  obtain ⟨hsame, hline⟩ := messageWith_unambiguous isUnprintable
  have hmem : '\\' ∈ e.message := by decide +kernel
  refine ⟨fun h => ?_, hmem, hline e _ hmem, hsame _ _ ?_⟩
  · exact absurd (hsame e e' h) (by decide)
  · decide +kernel

end Error

end Template
