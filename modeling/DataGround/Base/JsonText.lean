import DataGround.Library.Determining
import Mathlib.Data.Char
import Mathlib.Tactic.IntervalCases

/-!
# Texts of JSON documents

How `encoding/json` writes strings, numbers and lists of strings.  The text of each says where it ends,
so that the text of a record determines its fields (`Library.Determining`).

A slice of Go may be nil, and then it is written as `null`; it is `none` here.
-/

namespace DataGround

/-- A digit of `"0123456789abcdef"`. -/
def hexDigit (n : ℕ) : Char :=
  if n < 10 then Char.ofNat (0x30 + n) else Char.ofNat (0x57 + n)

/-- A character of a string, as `appendString` writes it. -/
def escape (c : Char) : List Char :=
  if c = '\\' ∨ c = '"' then ['\\', c]
  else if c.toNat = 0x08 then ['\\', 'b']
  else if c.toNat = 0x0c then ['\\', 'f']
  else if c = '\n' then ['\\', 'n']
  else if c = '\r' then ['\\', 'r']
  else if c = '\t' then ['\\', 't']
  else if c.toNat < 0x20 ∨ c = '<' ∨ c = '>' ∨ c = '&' then
    ['\\', 'u', '0', '0', hexDigit (c.toNat / 16), hexDigit (c.toNat % 16)]
  else if c.toNat = 0x2028 ∨ c.toNat = 0x2029 then
    ['\\', 'u', '2', '0', '2', hexDigit (c.toNat % 16)]
  else [c]

/-- A string in its quotes. -/
def quoted (text : String) : List Char :=
  ['"'] ++ (text.toList.flatMap escape ++ ['"'])

/-- The value of a digit. -/
def hexValue (c : Char) : ℕ :=
  if c.toNat < 0x3a then c.toNat - 0x30 else c.toNat - 0x57

/-- What a reader makes of an escaped character. -/
def unescape : List Char → Option (Char × List Char)
  | '\\' :: 'b' :: rest => some (Char.ofNat 0x08, rest)
  | '\\' :: 'f' :: rest => some (Char.ofNat 0x0c, rest)
  | '\\' :: 'n' :: rest => some ('\n', rest)
  | '\\' :: 'r' :: rest => some ('\r', rest)
  | '\\' :: 't' :: rest => some ('\t', rest)
  | '\\' :: 'u' :: a :: b :: c :: d :: rest =>
    some (Char.ofNat (((hexValue a * 16 + hexValue b) * 16 + hexValue c) * 16 + hexValue d), rest)
  | '\\' :: c :: rest => some (c, rest)
  | c :: rest => some (c, rest)
  | [] => none

lemma hexValue_hexDigit {n : ℕ} (h : n < 16) : hexValue (hexDigit n) = n := by
  interval_cases n <;> decide

/-- A nonempty list of strings after its first bracket. -/
def quotedRest (text : String) (texts : List String) : List Char :=
  quoted text ++ (texts.flatMap (fun text => [','] ++ quoted text) ++ [']'])

/-- A slice of strings. -/
def quotedList : Option (List String) → List Char
  | none => "null".toList
  | some [] => "[]".toList
  | some (text :: texts) => ['['] ++ quotedRest text texts

/-- A number. -/
def decimal (n : ℤ) : List Char :=
  if n < 0 then '-' :: Nat.toDigits 10 n.natAbs else Nat.toDigits 10 n.natAbs

/-! ### What the texts determine -/

lemma unescape_plain {c : Char} (h : c ≠ '\\') (rest : List Char) :
    unescape (c :: rest) = some (c, rest) := by
  unfold unescape
  split <;> simp_all

lemma unescape_unicode (a b c d : Char) (rest : List Char) :
    unescape ('\\' :: 'u' :: a :: b :: c :: d :: rest) = some
      (Char.ofNat (((hexValue a * 16 + hexValue b) * 16 + hexValue c) * 16 + hexValue d), rest) :=
  rfl

lemma unescape_escape (c : Char) (rest : List Char) : unescape (escape c ++ rest) = some (c, rest) := by
  have hcode : Char.ofNat c.toNat = c := Char.ofNat_toNat c
  unfold escape
  split_ifs with hquote hb hf hn hr ht hcontrol hseparator
  · rcases hquote with rfl | rfl <;> rfl
  · rw [hb] at hcode
    exact congrArg (fun c => some (c, rest)) hcode
  · rw [hf] at hcode
    exact congrArg (fun c => some (c, rest)) hcode
  · rw [hn]
    rfl
  · rw [hr]
    rfl
  · rw [ht]
    rfl
  · have hsmall : c.toNat < 0x40 := by
      rcases hcontrol with h | rfl | rfl | rfl
      · omega
      all_goals decide
    have hvalue : ((hexValue '0' * 16 + hexValue '0') * 16 + c.toNat / 16) * 16 + c.toNat % 16 =
        c.toNat := by
      rw [show hexValue '0' = 0 from rfl]
      omega
    rw [List.cons_append, List.cons_append, List.cons_append, List.cons_append, List.cons_append,
      List.cons_append, unescape_unicode, hexValue_hexDigit (by omega), hexValue_hexDigit (by omega),
      hvalue, hcode]
    rfl
  · have hvalue : ((hexValue '2' * 16 + hexValue '0') * 16 + hexValue '2') * 16 + c.toNat % 16 =
        c.toNat := by
      rw [show hexValue '0' = 0 from rfl, show hexValue '2' = 2 from rfl]
      omega
    rw [List.cons_append, List.cons_append, List.cons_append, List.cons_append, List.cons_append,
      List.cons_append, unescape_unicode, hexValue_hexDigit (by omega), hvalue, hcode]
    rfl
  · exact unescape_plain (fun h => hquote (.inl h)) rest

lemma determines_escape : Determines escape id :=
  .of_reader unescape unescape_escape

lemma escape_start (c : Char) : ∃ letter rest, escape c = letter :: rest ∧ letter ≠ '"' := by
  unfold escape
  split_ifs with hplain
  all_goals first
    | exact ⟨_, _, rfl, by decide⟩
    | exact ⟨c, [], rfl, fun hquote => hplain (.inr hquote)⟩

lemma determines_quoted : Determines quoted id := by
  have hstar := Determines.star determines_escape escape_start
  intro text text' rest rest' heq
  obtain ⟨hlist, hrest⟩ := hstar text.toList text'.toList rest rest' (by simpa [quoted] using heq)
  exact ⟨String.toList_injective hlist, hrest⟩

lemma determines_quotedRest :
    Determines (fun texts : String × List String => quotedRest texts.1 texts.2) id := by
  have hitem : Determines (fun text => [','] ++ quoted text) (id : String → String) := by
    intro text text' rest rest' heq
    exact determines_quoted text text' rest rest' (List.tail_eq_of_cons_eq heq)
  have hstart : ∀ text : String, ∃ letter rest, [','] ++ quoted text = letter :: rest ∧ letter ≠ ']' :=
    fun text => ⟨',', _, rfl, by decide⟩
  have hstar := Determines.star hitem hstart
  intro texts texts' rest rest' heq
  simp only [quotedRest, List.append_assoc] at heq
  obtain ⟨hfirst, hrest⟩ := determines_quoted _ _ _ _ heq
  obtain ⟨hothers, hrest⟩ := hstar texts.2 texts'.2 rest rest' (by simpa using hrest)
  exact ⟨Prod.ext hfirst hothers, hrest⟩

lemma determines_quotedList : Determines quotedList id := by
  intro texts texts' rest rest' heq
  rcases texts with _ | _ | ⟨text, texts⟩ <;> rcases texts' with _ | _ | ⟨text', texts'⟩
  · exact ⟨rfl, List.append_cancel_left heq⟩
  · cases heq
  · cases heq
  · cases heq
  · exact ⟨rfl, List.append_cancel_left heq⟩
  · exact absurd (List.head_eq_of_cons_eq (List.tail_eq_of_cons_eq heq)) (by decide)
  · cases heq
  · exact absurd (List.head_eq_of_cons_eq (List.tail_eq_of_cons_eq heq)) (by decide)
  · obtain ⟨htexts, hrest⟩ := determines_quotedRest (text, texts) (text', texts') rest rest'
      (List.tail_eq_of_cons_eq heq)
    cases htexts
    exact ⟨rfl, hrest⟩

lemma decimal_injective : Function.Injective decimal := by
  have hdigits : ∀ m n : ℕ, Nat.toDigits 10 m = Nat.toDigits 10 n → m = n := by
    intro m n h
    calc m = Nat.ofDigitChars 10 (Nat.toDigits 10 m) 0 := Nat.ofDigitChars_ten_toDigits.symm
      _ = Nat.ofDigitChars 10 (Nat.toDigits 10 n) 0 := by rw [h]
      _ = n := Nat.ofDigitChars_ten_toDigits
  have hsign : ∀ n : ℕ, ∀ rest, Nat.toDigits 10 n ≠ '-' :: rest := by
    intro n rest h
    have := Nat.isDigit_of_mem_toDigits (b := 10) (n := n) (c := '-') (by decide) (by decide)
      (h ▸ List.mem_cons_self)
    exact absurd this (by decide)
  intro m n h
  unfold decimal at h
  split_ifs at h with hm hn hn
  · have := hdigits _ _ (List.tail_eq_of_cons_eq h)
    omega
  · exact absurd h.symm (hsign _ _)
  · exact absurd h (hsign _ _)
  · have := hdigits _ _ h
    omega

/-- A number and the letter behind it. -/
lemma determines_decimal {stop : Char} (hdigit : stop.isDigit = false) (hsign : stop ≠ '-') :
    Determines (fun n => decimal n ++ [stop]) id := by
  have hsort : ∀ n, ∀ c ∈ decimal n, c.isDigit = true ∨ c = '-' := by
    intro n letter hletter
    have hdigits : ∀ c ∈ Nat.toDigits 10 n.natAbs, c.isDigit = true :=
      fun c hc => Nat.isDigit_of_mem_toDigits (by decide) (by decide) hc
    unfold decimal at hletter
    split_ifs at hletter
    · rcases List.mem_cons.mp hletter with rfl | hletter
      · exact .inr rfl
      · exact .inl (hdigits _ hletter)
    · exact .inl (hdigits _ hletter)
  refine .until_other decimal_injective hsort ?_
  rintro (h | h)
  · exact absurd (h.symm.trans hdigit) (by decide)
  · exact hsign h

end DataGround
