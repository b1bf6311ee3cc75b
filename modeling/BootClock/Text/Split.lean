/-!
# Splitting a text

The parts of a text between the marks in it; there is one part more than there are marks. The text can
be put together from them again (`intercalate_split`), and parts without the mark come back out of a
text that was put together from them (`split_intercalate`).
-/

namespace BootClock

/-- The parts of a text between the characters `mark`. -/
def split (mark : Char) : List Char → List (List Char)
  | [] => [[]]
  | c :: s =>
    if c = mark then [] :: split mark s
    else match split mark s with
      | [] => [[c]]
      | part :: parts => (c :: part) :: parts

theorem split_ne_nil (mark : Char) (s : List Char) : split mark s ≠ [] := by
  cases s with
  | nil => simp [split]
  | cons c s =>
    unfold split
    split
    · simp
    · split <;> simp

theorem intercalate_split (mark : Char) (s : List Char) :
    List.intercalate [mark] (split mark s) = s := by
  induction s with
  | nil => rfl
  | cons c s ih =>
    have hne := split_ne_nil mark s
    unfold split
    split
    · next h =>
      obtain ⟨p, ps, hp⟩ := List.exists_cons_of_ne_nil hne
      rw [hp] at ih ⊢
      simp [List.intercalate_cons_cons, ih, h]
    · split
      · next h => exact absurd h hne
      · next p ps hp =>
        rw [hp] at ih
        cases ps with
        | nil => simpa using ih
        | cons q ps => simpa [List.intercalate_cons_cons] using ih

theorem split_of_not_mem {mark : Char} {s : List Char} (h : mark ∉ s) : split mark s = [s] := by
  induction s with
  | nil => rfl
  | cons c s ih =>
    simp only [List.mem_cons, not_or] at h
    have hne : c ≠ mark := fun heq => h.1 heq.symm
    rw [split, if_neg hne, ih h.2]

theorem split_append_cons {mark : Char} {part : List Char} (h : mark ∉ part) (s : List Char) :
    split mark (part ++ mark :: s) = part :: split mark s := by
  induction part with
  | nil => rw [List.nil_append, split, if_pos rfl]
  | cons c part ih =>
    simp only [List.mem_cons, not_or] at h
    have hne : c ≠ mark := fun heq => h.1 heq.symm
    rw [List.cons_append, split, if_neg hne, ih h.2]

/-- Parts without the mark come back out of a text that was put together from them. -/
theorem split_intercalate {mark : Char} {parts : List (List Char)} (hne : parts ≠ [])
    (h : ∀ part ∈ parts, mark ∉ part) : split mark (List.intercalate [mark] parts) = parts := by
  induction parts with
  | nil => exact absurd rfl hne
  | cons part parts ih =>
    have hpart : mark ∉ part := h part List.mem_cons_self
    have hparts : ∀ other ∈ parts, mark ∉ other := fun other hmem =>
      h other (List.mem_cons_of_mem part hmem)
    cases parts with
    | nil => rw [List.intercalate_singleton, split_of_not_mem hpart]
    | cons next parts =>
      rw [List.intercalate_cons_cons, List.append_assoc, List.singleton_append,
        split_append_cons hpart, ih (List.cons_ne_nil next parts) hparts]

/-- A text that was put together from parts holds what the separator holds and what the parts hold. -/
theorem mem_intercalate {sep : List Char} {c : Char} {parts : List (List Char)}
    (h : c ∈ List.intercalate sep parts) : c ∈ sep ∨ ∃ part ∈ parts, c ∈ part := by
  induction parts with
  | nil => cases h
  | cons part parts ih =>
    cases parts with
    | nil =>
      rw [List.intercalate_singleton] at h
      exact .inr ⟨part, List.mem_cons_self, h⟩
    | cons next parts =>
      rw [List.intercalate_cons_cons] at h
      simp only [List.mem_append] at h
      rcases h with (hpart | hsep) | hrest
      · exact .inr ⟨part, List.mem_cons_self, hpart⟩
      · exact .inl hsep
      · rcases ih hrest with hsep | ⟨other, hmem, hother⟩
        · exact .inl hsep
        · exact .inr ⟨other, List.mem_cons_of_mem part hmem, hother⟩

example : split '/' "/a//b".toList = [[], ['a'], [], ['b']] := by decide

end BootClock
