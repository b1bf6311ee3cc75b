import BootClock.Toml.Document
/-!
# Documents beyond the limits

The language of documents has no limits; its reader has three of them (`Limits`). So a text is a
document if it is read within some limits, whichever these are (`IsDocument`). Of two readers, a third
one with the narrower limits of both refuses what one of them refuses and else reads the same
(`Meet`), piece by piece from the key of an entry to the whole text (`Table.meet_ofText?`). Hence what
a document stands for does not depend on the limits (`IsDocument.unique`), and a reader takes a
document exactly if it keeps to each of the three limits on its own (`Table.ofText?_eq_some_iff`).
-/

namespace BootClock.Toml

/-- The limits of two readers together. -/
def Limits.both (l l' : Limits) : Limits :=
  ⟨min l.names l'.names, min l.nesting l'.nesting, l.finite || l'.finite⟩

/-- What is read within the limits of both of two readers, by what each of them reads: the same as they
do, if both of them read it. -/
inductive Meet {α : Type} : Option α → Option α → Option α → Prop where
  | left (o : Option α) : Meet none o none
  | right (o : Option α) : Meet o none none
  | same (x : α) : Meet (some x) (some x) (some x)

namespace Meet

variable {α β : Type} {o o' o'' : Option α} {x y : α}

theorem refl (o : Option α) : Meet o o o := by
  cases o with
  | none => exact left none
  | some x => exact same x

theorem bind {g g' g'' : α → Option β} (h : Meet o o' o'')
    (hg : ∀ x, Meet (g x) (g' x) (g'' x)) : Meet (o >>= g) (o' >>= g') (o'' >>= g'') := by
  cases h with
  | left => exact left _
  | right => exact right _
  | same x => exact hg x

theorem map (h : Meet o o' o'') (f : α → β) : Meet (o.map f) (o'.map f) (o''.map f) := by
  cases h with
  | left => exact left _
  | right => exact right _
  | same x => exact same (f x)

/-- Each of two conditions may refuse what is read. -/
theorem guard (p q : Prop) [Decidable p] [Decidable q] (o : Option α) :
    Meet (if p then o else none) (if q then o else none) (if p ∧ q then o else none) := by
  by_cases hp : p
  · by_cases hq : q
    · simpa [hp, hq] using refl o
    · simpa [hp, hq] using right o
  · simpa [hp] using left _

theorem ite {p : Prop} [Decidable p] (h : p → Meet o o' o'') :
    Meet (if p then o else none) (if p then o' else none) (if p then o'' else none) := by
  split
  · next hp => exact h hp
  · exact left none

theorem eq (h : Meet (some x) (some y) o'') : x = y ∧ o'' = some x := by
  cases h
  exact ⟨rfl, rfl⟩

/-- What is read within narrower limits is read the same within wider ones. -/
theorem eq_some (h : Meet (some x) o' (some y)) : o' = some x := by
  cases h
  rfl

end Meet

variable {value value' value'' : List Char → Option (Value × List Char)}

theorem meet_key? (m m' : Nat) (s : List Char) :
    Meet (key? m s) (key? m' s) (key? (min m m') s) := by
  unfold key?
  refine .bind (.refl _) fun ⟨names, rest⟩ => .bind (.refl _) fun name => ?_
  simp only [Nat.le_min]
  exact .guard _ _ _

theorem meet_number? (b b' : Bool) (s : List Char) :
    Meet (number? b s) (number? b' s) (number? (b || b') s) := by
  unfold number?
  cases named? s with
  | some p => exact .refl _
  | none => cases float? s with
    | none => exact .refl _
    | some p =>
      dsimp only
      by_cases hx : p.1 = .infinite false
      · cases b with
        | true => simpa [hx] using .left _
        | false => cases b' with
          | true => simpa [hx] using .right _
          | false => exact .refl _
      · simpa [hx] using .refl _

theorem meet_scalar? (b b' : Bool) (s : List Char) :
    Meet (scalar? b s) (scalar? b' s) (scalar? (b || b') s) := by
  unfold scalar?
  split
  · exact .refl _
  · exact .refl _
  · exact .refl _
  · exact .refl _
  · cases moment? s with
    | some rest => exact .refl _
    | none => exact meet_number? b b' s

theorem meet_assignment? (m m' : Nat) (hv : ∀ s, Meet (value s) (value' s) (value'' s))
    (s : List Char) : Meet (assignment? m value s) (assignment? m' value' s)
      (assignment? (min m m') value'' s) := by
  unfold assignment?
  exact .bind (meet_key? m m' s) fun p => .bind (.refl _) fun r => .bind (hv _) fun q => .refl _

theorem meet_elements? (hv : ∀ s, Meet (value s) (value' s) (value'' s)) (s : List Char) :
    Meet (elements? value s) (elements? value' s) (elements? value'' s) := by
  unfold elements?
  split
  · exact .refl _
  · have hfirst := hv (skipGap false s)
    generalize value (skipGap false s) = o, value' (skipGap false s) = o',
      value'' (skipGap false s) = o'' at hfirst
    cases hfirst with
    | left => exact .left _
    | right => exact .right _
    | same p =>
      dsimp only
      split
      · exact .refl _
      · exact .ite fun hlt => .map (meet_elements? hv _) _
      · exact .left none
termination_by s.length

theorem meet_members? (m m' : Nat) (hv : ∀ s, Meet (value s) (value' s) (value'' s))
    (s : List Char) : Meet (members? m value s) (members? m' value' s)
      (members? (min m m') value'' s) := by
  have hfirst := meet_assignment? m m' hv s
  unfold members?
  generalize assignment? m value s = o, assignment? m' value' s = o',
    assignment? (min m m') value'' s = o'' at hfirst
  cases hfirst with
  | left => exact .left _
  | right => exact .right _
  | same p =>
    dsimp only
    split
    · exact .refl _
    · exact .ite fun hlt => .map (meet_members? m m' hv _) _
    · exact .left none
termination_by s.length

theorem meet_inline? (m m' : Nat) (hv : ∀ s, Meet (value s) (value' s) (value'' s))
    (s : List Char) : Meet (inline? m value s) (inline? m' value' s)
      (inline? (min m m') value'' s) := by
  unfold inline?
  split
  · exact .refl _
  · exact .bind (meet_members? m m' hv s) fun p => .refl _

/-- The characters that an array or an inline table starts with. -/
def Opens (c : Char) : Prop := c = '[' ∨ c = '\x7b'

theorem scalar?_of_opens (b : Bool) {c : Char} (hc : Opens c) (s : List Char) :
    scalar? b (c :: s) = none := by
  rcases hc with rfl | rfl <;>
    simp [scalar?, moment?, date?, time?, pair?, fixed?, number?, named?, sign, float?, whole?,
      digits?, integer?, base?]

/-- What is no array and no inline table is read the same at every depth. -/
theorem valueWithin?_cases (s : List Char) :
    (∃ c r, Opens c ∧ s = c :: r) ∨
      ∀ limits depth, valueWithin? limits depth s = scalar? limits.finite s := by
  by_cases h : ∃ c r, Opens c ∧ s = c :: r
  · exact .inl h
  · refine .inr fun limits depth => ?_
    unfold valueWithin?
    split
    · next r => exact absurd ⟨'[', r, .inl rfl, rfl⟩ h
    · next r => exact absurd ⟨'\x7b', r, .inr rfl, rfl⟩ h
    · rfl

/-- By induction on how deep the one reads; the other one may read less or more deep. -/
theorem meet_valueWithin? (l l' : Limits) (d d' : Nat) (s : List Char) :
    Meet (valueWithin? l d s) (valueWithin? l' d' s) (valueWithin? (l.both l') (min d d') s) := by
  have hzero (l : Limits) {c : Char} (hc : Opens c) (r : List Char) :
      valueWithin? l 0 (c :: r) = none := scalar?_of_opens l.finite hc r
  induction d generalizing d' s with
  | zero =>
    rcases valueWithin?_cases s with ⟨c, r, hc, rfl⟩ | hs
    · rw [Nat.zero_min, hzero l hc, hzero _ hc]
      exact .left _
    · rw [hs, hs, hs]
      exact meet_scalar? _ _ s
  | succ d ih =>
    rcases valueWithin?_cases s with ⟨c, r, hc, rfl⟩ | hs
    · cases d' with
      | zero =>
        rw [Nat.min_zero, hzero l' hc, hzero _ hc]
        exact .right _
      | succ d' =>
        rw [Nat.succ_min_succ]
        rcases hc with rfl | rfl
        · exact .map (meet_elements? (ih d') r) _
        · exact meet_inline? _ _ (ih d') r
    · rw [hs, hs, hs]
      exact meet_scalar? _ _ s

theorem meet_value? (l l' : Limits) (s : List Char) :
    Meet (value? l s) (value? l' s) (value? (l.both l') s) :=
  meet_valueWithin? l l' l.nesting l'.nesting s

/-! ## Documents -/

theorem meet_statement? (l l' : Limits) (s : List Char) :
    Meet (statement? l s) (statement? l' s) (statement? (l.both l') s) := by
  unfold statement?
  split
  · exact .bind (meet_key? _ _ _) fun p => .refl _
  · exact .bind (meet_key? _ _ _) fun p => .refl _
  · exact .map (meet_assignment? _ _ (meet_value? l l') s) _

theorem meet_line? (l l' : Limits) (s : List Char) :
    Meet (line? l s) (line? l' s) (line? (l.both l') s) := by
  unfold line?
  split
  · exact .refl _
  · exact .bind (meet_statement? l l' _) fun p => .refl _

theorem meet_statements? (l l' : Limits) (s : List Char) :
    Meet (statements? l s) (statements? l' s) (statements? (l.both l') s) := by
  have hline := meet_line? l l' s
  unfold statements?
  split
  · exact .refl _
  generalize line? l s = o, line? l' s = o', line? (l.both l') s = o'' at hline
  cases hline with
  | left => exact .left _
  | right => exact .right _
  | same p => exact .ite fun hlt => .map (meet_statements? l l' _) _
termination_by s.length

theorem Table.meet_ofText? (l l' : Limits) (s : List Char) :
    Meet (ofText? l s) (ofText? l' s) (ofText? (l.both l') s) :=
  .bind (meet_statements? l l' _) fun _ => .refl _

/-- The text is a document and stands for the table. -/
def IsDocument (s : List Char) (t : Table) : Prop := ∃ limits, Table.ofText? limits s = some t

/-- The text is a document whose keys have at most so many names. -/
def KeysWithin (names : Nat) (s : List Char) : Prop :=
  ∃ limits t, limits.names = names ∧ Table.ofText? limits s = some t

/-- The text is a document whose arrays and inline tables are nested at most so deep. -/
def NestedWithin (nesting : Nat) (s : List Char) : Prop :=
  ∃ limits t, limits.nesting = nesting ∧ Table.ofText? limits s = some t

/-- The text is a document without a positive number that is too large to be finite. -/
def FiniteNumbers (s : List Char) : Prop :=
  ∃ limits t, limits.finite = true ∧ Table.ofText? limits s = some t

section Documents

variable {l l' : Limits} {s : List Char} {t t' : Table}

theorem Table.ofText?_both (h : ofText? l s = some t) (h' : ofText? l' s = some t') :
    t = t' ∧ ofText? (l.both l') s = some t := by
  have hmeet := meet_ofText? l l' s
  rw [h, h'] at hmeet
  exact hmeet.eq

theorem IsDocument.unique (h : IsDocument s t) (h' : IsDocument s t') : t = t' := by
  obtain ⟨l, h⟩ := h
  obtain ⟨l', h'⟩ := h'
  exact (Table.ofText?_both h h').1

/-- Wider limits refuse no document that narrower ones let through. -/
theorem Table.ofText?_of_both_eq (hle : l.both l' = l) (h : ofText? l s = some t) :
    ofText? l' s = some t := by
  have hmeet := meet_ofText? l l' s
  rw [hle, h] at hmeet
  exact hmeet.eq_some

/-- **The limits apply one by one.** A reader takes a text exactly if it is a document that keeps to
each of its limits, whatever the document needs of the other two. -/
theorem Table.ofText?_eq_some_iff (names nesting : Nat) :
    ofText? ⟨names, nesting, true⟩ s = some t ↔
      IsDocument s t ∧ KeysWithin names s ∧ NestedWithin nesting s ∧ FiniteNumbers s := by
  constructor
  · intro h
    exact ⟨⟨_, h⟩, ⟨_, t, rfl, h⟩, ⟨_, t, rfl, h⟩, ⟨_, t, rfl, h⟩⟩
  · rintro ⟨⟨l, h⟩, ⟨k, u, hnames, hk⟩, ⟨d, v, hnesting, hd⟩, ⟨f, x, hfinite, hf⟩⟩
    -- the reader with the narrowest limits of the four takes the text, too
    obtain ⟨-, h⟩ := ofText?_both h hk
    obtain ⟨-, h⟩ := ofText?_both h hd
    obtain ⟨-, h⟩ := ofText?_both h hf
    refine ofText?_of_both_eq ?_ h
    simp only [Limits.both, hnames, hnesting, hfinite, Limits.mk.injEq]
    exact ⟨by omega, by omega, by simp⟩

end Documents

end BootClock.Toml
