import TmuxLayout.Text.Search

/-!
# Cutting a text at every place of a word

A text that was joined with a word between its pieces is not always cut into the same
pieces again: the word may stand within a piece, or begin in one and end in the joint. It
does neither when it is in no piece and each piece ends with a character that the word
does not have.

- `cutAll`, `countPlaces`: the pieces between the places of a word, from the left and
  without overlaps, and the number of these places.
- `append_cons_inj`: a text in front of a character that it lacks.
- `cut?_append_cons`: a word is looked for on both sides of a character that it does not
  have.
- `Sealed`: a text that a word neither stands in nor reaches out of.
- `cutAll_intercalate`: sealed pieces are found again.
-/

namespace TmuxLayout.Text

/-! ## Cutting -/

/-- A text is made of what is before the place of a word, the word, and what is behind. -/
theorem eq_append_of_cut? {word text before behind : List Char}
    (h : cut? word text = some (before, behind)) : text = before ++ (word ++ behind) := by
  induction text generalizing before with
  | nil =>
    obtain ⟨rest, hafter, heq⟩ := Option.map_eq_some_iff.mp h
    cases heq
    rw [List.nil_append]
    exact eq_append_of_after? hafter
  | cons c text ih =>
    rw [cut?] at h
    split at h
    · next rest hafter =>
      cases h
      rw [List.nil_append]
      exact eq_append_of_after? hafter
    · obtain ⟨⟨start, rest⟩, hcut, heq⟩ := Option.map_eq_some_iff.mp h
      cases heq
      rw [ih hcut]
      rfl

/-- A text that lacks a character ends where the character first stands. -/
theorem append_cons_inj {c : Char} {text other rest behind : List Char} (htext : c ∉ text)
    (hother : c ∉ other) (h : text ++ c :: rest = other ++ c :: behind) :
    text = other ∧ rest = behind := by
  have hcut : cut? [c] (text ++ c :: rest) = some (text, rest) := cut?_append htext [] rest
  have hcut' : cut? [c] (other ++ c :: behind) = some (other, behind) :=
    cut?_append hother [] behind
  rw [h, hcut', Option.some_inj, Prod.mk.injEq] at hcut
  exact ⟨hcut.1.symm, hcut.2.symm⟩

theorem length_lt_of_cut? {c : Char} {word text before behind : List Char}
    (h : cut? (c :: word) text = some (before, behind)) : behind.length < text.length := by
  rw [eq_append_of_cut? h, List.length_append, List.length_append, List.length_cons]
  omega

/-- The pieces of a text between the places of a word, which begins with `c`: each place
is the leftmost one behind the last. -/
def cutAll (c : Char) (word text : List Char) : List (List Char) :=
  match h : cut? (c :: word) text with
  | none => [text]
  | some (before, behind) =>
    have := length_lt_of_cut? h
    before :: cutAll c word behind
termination_by text.length

/-- The number of places of a word, each of them behind the last. -/
def countPlaces (c : Char) (word text : List Char) : Nat :=
  match h : cut? (c :: word) text with
  | none => 0
  | some (_, behind) =>
    have := length_lt_of_cut? h
    countPlaces c word behind + 1
termination_by text.length

section

variable {c : Char} {word text : List Char}

theorem cutAll_of_none (h : cut? (c :: word) text = none) : cutAll c word text = [text] := by
  rw [cutAll]
  split
  · rfl
  · next hsome =>
    rw [h] at hsome
    cases hsome

theorem cutAll_of_some {before behind : List Char}
    (h : cut? (c :: word) text = some (before, behind)) :
    cutAll c word text = before :: cutAll c word behind := by
  rw [cutAll]
  split
  · next hnone =>
    rw [h] at hnone
    cases hnone
  · next hsome =>
    rw [h] at hsome
    cases hsome
    rfl

/-- There is one piece more than there are places. -/
theorem length_cutAll (c : Char) (word text : List Char) :
    (cutAll c word text).length = countPlaces c word text + 1 := by
  fun_induction countPlaces c word text with
  | case1 text h => rw [cutAll_of_none h, List.length_singleton]
  | case2 text before behind h _ ih => rw [cutAll_of_some h, List.length_cons, ih]

end

/-! ## Characters that a word does not have -/

theorem after?_append_cons {d : Char} {word text : List Char} (hd : d ∉ word)
    (h : after? word text = none) (rest : List Char) :
    after? word (text ++ d :: rest) = none := by
  -- the word parts from the text before `d`, or comes as far as `d` and parts there
  induction word generalizing text with
  | nil => cases h
  | cons w word ih =>
    rw [List.mem_cons, not_or] at hd
    cases text with
    | nil => exact if_neg (Ne.symm hd.1)
    | cons c text =>
      rw [after?] at h
      rw [List.cons_append, after?]
      by_cases hc : w = c
      · rw [if_pos hc] at h ⊢
        exact ih hd.2 h
      · rw [if_neg hc]

/-- A word that is not before a character that it does not have is looked for behind it. -/
theorem cut?_append_cons {d : Char} {word text : List Char} (hd : d ∉ word)
    (h : occurs word text = false) (rest : List Char) :
    cut? word (text ++ d :: rest) =
      (cut? word rest).map fun (before, behind) => (text ++ d :: before, behind) := by
  induction text with
  | nil =>
    have hnone : after? word [] = none := by
      rw [occurs, cut?, Option.isSome_map] at h
      exact Option.not_isSome_iff_eq_none.mp (ne_true_of_eq_false h)
    -- the word does not begin at the character, which it does not have
    have hafter : after? word (d :: rest) = none := after?_append_cons hd hnone rest
    rw [List.nil_append, cut?, hafter]
    rfl
  | cons c text ih =>
    rw [occurs, cut?] at h
    split at h
    · cases h
    · next hnone =>
      rw [Option.isSome_map] at h
      rw [List.cons_append, cut?, ← List.cons_append, after?_append_cons hd hnone, ih h,
        Option.map_map]
      rfl

theorem occurs_append_cons {d : Char} {word text : List Char} (hd : d ∉ word)
    (h : occurs word text = false) (rest : List Char) :
    occurs word (text ++ d :: rest) = occurs word rest := by
  rw [occurs, cut?_append_cons hd h, Option.isSome_map, occurs]

/-! ## Sealed texts -/

/-- The word is nowhere in the text, and the text ends with a character that the word does
not have. -/
def Sealed (word text : List Char) : Prop :=
  ∃ init last, text = init ++ [last] ∧ last ∉ word ∧ occurs word init = false

theorem Sealed.single {d : Char} {word text : List Char} (h : occurs word text = false)
    (hd : d ∉ word) : Sealed word (text ++ [d]) :=
  ⟨text, d, rfl, hd, h⟩

/-- What comes before a sealed text is apart from it by a character that the word does not
have. -/
theorem Sealed.append_cons {d : Char} {word text rest : List Char}
    (hrest : Sealed word rest) (h : occurs word text = false) (hd : d ∉ word) :
    Sealed word (text ++ d :: rest) := by
  obtain ⟨init, last, rfl, hlast, hinit⟩ := hrest
  refine ⟨text ++ d :: init, last, ?_, hlast, ?_⟩
  · rw [List.append_assoc, List.cons_append]
  · rw [occurs_append_cons hd h, hinit]

section

variable {c : Char} {word text : List Char} (h : Sealed (c :: word) text)

include h

theorem Sealed.cut?_eq_none : cut? (c :: word) text = none := by
  obtain ⟨init, last, rfl, hlast, hinit⟩ := h
  rw [cut?_append_cons hlast hinit]
  rfl

/-- The first place of a word behind a sealed text is right behind it. -/
theorem Sealed.cut?_append (rest : List Char) :
    cut? (c :: word) (text ++ (c :: word ++ rest)) = some (text, rest) := by
  obtain ⟨init, last, rfl, hlast, hinit⟩ := h
  rw [List.append_assoc, List.singleton_append, cut?_append_cons hlast hinit]
  have hfirst : cut? (c :: word) (c :: word ++ rest) = some ([], rest) :=
    Text.cut?_append List.not_mem_nil word rest
  rw [hfirst]
  rfl

end

/-- Sealed pieces are found again when they were joined with the word. -/
theorem cutAll_intercalate {c : Char} {word : List Char} {texts : List (List Char)}
    (h : ∀ text ∈ texts, Sealed (c :: word) text) (hne : texts ≠ []) :
    cutAll c word ((c :: word).intercalate texts) = texts := by
  induction texts with
  | nil => exact absurd rfl hne
  | cons text texts ih =>
    rw [List.forall_mem_cons] at h
    cases texts with
    | nil => rw [List.intercalate_singleton, cutAll_of_none h.1.cut?_eq_none]
    | cons next others =>
      -- the first place is right behind the first piece, so the others are cut as if alone
      rw [List.intercalate_cons_cons, List.append_assoc, cutAll_of_some (h.1.cut?_append _),
        ih h.2 (List.cons_ne_nil _ _)]

end TmuxLayout.Text
