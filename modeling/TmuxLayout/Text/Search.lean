/-!
# Searching in text

Every search of the library is for a fixed word, and all of them come down to
one function on lists of characters.

- `after? word text`: the text behind `word`, when `text` starts with it.
- `cut? word text`: the text before and behind the leftmost place of `word`.
- `occurs word text`: whether `word` stands anywhere in `text`.
-/

namespace TmuxLayout.Text

/-- The text behind `word`, when `text` starts with it. -/
def after? : (word text : List Char) → Option (List Char)
  | [], text => some text
  | _ :: _, [] => none
  | w :: word, c :: text => if w = c then after? word text else none

/-- The text before and behind the leftmost place where `word` stands. -/
def cut? (word : List Char) : List Char → Option (List Char × List Char)
  | [] => (after? word []).map fun rest => ([], rest)
  | c :: text =>
    match after? word (c :: text) with
    | some rest => some ([], rest)
    | none => (cut? word text).map fun (before, rest) => (c :: before, rest)

/-- Whether `word` stands anywhere in `text`; the empty word always does. -/
def occurs (word text : List Char) : Bool :=
  (cut? word text).isSome

/-- A word is found at the begin of a text that starts with it. -/
theorem after?_append (word rest : List Char) : after? word (word ++ rest) = some rest := by
  induction word with
  | nil => rfl
  | cons w word ih => simp [after?, ih]

/-- What stands behind a word at the begin of a text makes up the text with it. -/
theorem eq_append_of_after? {word text rest : List Char} (h : after? word text = some rest) :
    text = word ++ rest := by
  fun_induction after? word text with
  | case1 => simp_all
  | case2 => simp at h
  | case3 w word text ih => simp_all
  | case4 => simp at h

/-- A word does not begin a text that lacks one of its characters. -/
theorem after?_eq_none_of_not_mem {c : Char} {word text : List Char} (hword : c ∈ word)
    (htext : c ∉ text) : after? word text = none := by
  cases hafter : after? word text with
  | none => rfl
  | some rest =>
    rw [eq_append_of_after? hafter] at htext
    exact absurd (List.mem_append_left rest hword) htext

/-- A word is found behind a text that lacks its first character. -/
theorem cut?_append {c : Char} {text : List Char} (htext : c ∉ text) (word rest : List Char) :
    cut? (c :: word) (text ++ (c :: word ++ rest)) = some (text, rest) := by
  induction text with
  | nil =>
    show cut? (c :: word) (c :: (word ++ rest)) = _
    rw [cut?, ← List.cons_append, after?_append]
  | cons d text ih =>
    have hne : c ≠ d := fun heq => htext (heq ▸ List.mem_cons_self)
    have hnone : after? (c :: word) (d :: (text ++ (c :: word ++ rest))) = none := by
      rw [after?, if_neg hne]
    rw [List.cons_append, cut?, hnone, ih fun hmem => htext (List.mem_cons_of_mem d hmem)]
    rfl

/-- A word is nowhere in a text that lacks one of its characters. -/
theorem occurs_eq_false_of_not_mem {c : Char} {word text : List Char} (hword : c ∈ word)
    (htext : c ∉ text) : occurs word text = false := by
  have hcut : cut? word text = none := by
    induction text with
    | nil => rw [cut?, after?_eq_none_of_not_mem hword htext, Option.map_none]
    | cons d text ih =>
      rw [cut?, after?_eq_none_of_not_mem hword htext]
      show (cut? word text).map _ = none
      rw [ih fun hmem => htext (List.mem_cons_of_mem d hmem), Option.map_none]
  rw [occurs, hcut, Option.isSome_none]

end TmuxLayout.Text

namespace String

/-- The text behind `word`, when the string starts with it. -/
def after? (text word : String) : Option String :=
  (TmuxLayout.Text.after? word.toList text.toList).map String.ofList

/-- Whether `word` stands anywhere in the string. -/
def occursIn (word text : String) : Bool :=
  TmuxLayout.Text.occurs word.toList text.toList

end String
