import Mathlib.Data.List.Basic

/-!
# Codes that say where a word ends

A code writes something about a value as a word.  It determines a part of the value if no two values
that differ there have words that start alike: the word can then be told from whatever follows it, and
so words can be put together without a length in front of them.

Codes of whole records are built from those of their fields, one rule for each way to go on:
`Determines.text` for a field with a code of its own, `Determines.word` for fixed letters, and
`Determines.star` for a list of items with a letter at its end.
-/

variable {α β γ δ : Type*}

/-- The word of a value, with anything behind it, determines `part` of the value and where it ends. -/
def Determines (code : α → List β) (part : α → γ) : Prop :=
  ∀ a a' rest rest', code a ++ rest = code a' ++ rest' → part a = part a' ∧ rest = rest'

namespace Determines

variable {code : α → List β} {part : α → γ}

/-- A word determines its value also if nothing is behind it. -/
lemma eq_of_eq (h : Determines code part) {a a' : α} (heq : code a = code a') : part a = part a' :=
  (h a a' [] [] (by rw [heq])).1

lemma of_reader (read : List β → Option (γ × List β))
    (h : ∀ a rest, read (code a ++ rest) = some (part a, rest)) : Determines code part := by
  intro a a' rest rest' heq
  have hread : some (part a, rest) = some (part a', rest') := by rw [← h a rest, heq, h a' rest']
  exact Prod.mk.inj (Option.some.inj hread)

lemma start (letters : List β) : Determines (fun _ : α => letters) fun _ => () :=
  fun _ _ _ _ heq => ⟨rfl, List.append_cancel_left heq⟩

lemma word (h : Determines code part) (letters : List β) :
    Determines (fun a => code a ++ letters) part := by
  intro a a' rest rest' heq
  rw [List.append_assoc, List.append_assoc] at heq
  obtain ⟨hpart, hrest⟩ := h a a' _ _ heq
  exact ⟨hpart, List.append_cancel_left hrest⟩

lemma text (h : Determines code part) {other : δ → List β} (hother : Determines other id) (f : α → δ) :
    Determines (fun a => code a ++ other (f a)) fun a => (part a, f a) := by
  intro a a' rest rest' heq
  rw [List.append_assoc, List.append_assoc] at heq
  obtain ⟨hpart, hrest⟩ := h a a' _ _ heq
  obtain ⟨hf, hrest⟩ := hother (f a) (f a') _ _ hrest
  exact ⟨Prod.ext hpart hf, hrest⟩

/-- Items one after the other, and a letter at the end that no item starts with. -/
lemma star {item : δ → List β} (hitem : Determines item id) {stop : β}
    (hstart : ∀ d, ∃ letter rest, item d = letter :: rest ∧ letter ≠ stop) :
    Determines (fun items : List δ => items.flatMap item ++ [stop]) id := by
  intro items
  induction items with
  | nil =>
    intro items' rest rest' heq
    cases items' with
    | nil => exact ⟨rfl, List.tail_eq_of_cons_eq heq⟩
    | cons d =>
      obtain ⟨_, _, hd, hne⟩ := hstart d
      simp only [List.flatMap_cons, hd, List.cons_append] at heq
      exact absurd (List.head_eq_of_cons_eq heq).symm hne
  | cons d _ ih =>
    intro items' rest rest' heq
    cases items' with
    | nil =>
      obtain ⟨_, _, hd, hne⟩ := hstart d
      simp only [List.flatMap_cons, hd, List.cons_append] at heq
      exact absurd (List.head_eq_of_cons_eq heq) hne
    | cons d' items' =>
      simp only [List.flatMap_cons, List.append_assoc] at heq
      obtain ⟨hd, hrest⟩ := hitem d d' _ _ heq
      obtain ⟨hitems, hrest⟩ := ih items' rest rest' (by simpa using hrest)
      exact ⟨congrArg₂ List.cons hd hitems, hrest⟩

/-- A letter that is in neither of two words tells where they end. -/
lemma append_stop_inj {stop : β} {w w' rest rest' : List β} (hw : stop ∉ w) (hw' : stop ∉ w')
    (heq : w ++ stop :: rest = w' ++ stop :: rest') : w = w' ∧ rest = rest' := by
  induction w generalizing w' with
  | nil =>
    cases w' with
    | nil => exact ⟨rfl, List.tail_eq_of_cons_eq heq⟩
    | cons letter =>
      have hletter : stop = letter := List.head_eq_of_cons_eq heq
      exact absurd (hletter ▸ List.mem_cons_self) hw'
  | cons letter _ ih =>
    cases w' with
    | nil =>
      have hletter : letter = stop := List.head_eq_of_cons_eq heq
      exact absurd (hletter ▸ List.mem_cons_self) hw
    | cons =>
      obtain ⟨rfl, htail⟩ := List.cons.inj heq
      obtain ⟨rfl, hrest⟩ := ih (fun h => hw (List.mem_cons_of_mem _ h))
        (fun h => hw' (List.mem_cons_of_mem _ h)) htail
      exact ⟨rfl, hrest⟩

/-- Letters of one sort, and a letter of another sort at their end. -/
lemma until_other {f : α → List β} (hf : Function.Injective f) {sort : β → Prop} {stop : β}
    (hsort : ∀ a, ∀ letter ∈ f a, sort letter) (hstop : ¬sort stop) :
    Determines (fun a => f a ++ [stop]) id := by
  intro a a' rest rest' heq
  simp only [List.append_assoc, List.singleton_append] at heq
  obtain ⟨hw, hrest⟩ := append_stop_inj (fun h => hstop (hsort a stop h))
    (fun h => hstop (hsort a' stop h)) heq
  exact ⟨hf hw, hrest⟩

end Determines
