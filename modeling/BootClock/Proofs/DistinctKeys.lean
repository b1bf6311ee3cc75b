import BootClock.Toml.Document
/-!
# No key twice

A document that sets a key twice is none, so no table of a document has two entries under one key,
however deep it lies (`proper_of_ofText?`). Each of the three operations that build a document adds
a key only where it is new, and what it finds on its way it puts back under its own key
(`proper_alter`); the values that are added were built in the same way, from the inside out
(`readsProper_valueWithin?`).
-/

namespace BootClock

namespace Keyed

variable {α : Type} {t : Keyed α} {e : String × α} {key : String} {v : α}

/-- No key has two entries. -/
def Distinct (t : Keyed α) : Prop := (t.map Prod.fst).Nodup

theorem distinct_cons : Distinct (e :: t) ↔ e.1 ∉ t.map Prod.fst ∧ Distinct t := List.nodup_cons

theorem get?_cons (e : String × α) (t : Keyed α) (key : String) :
    get? (e :: t) key = if e.1 = key then some e.2 else get? t key := by
  by_cases h : e.1 = key <;> simp [get?, h]

theorem get?_eq_none_of_not_mem (h : key ∉ t.map Prod.fst) : get? t key = none := by
  induction t with
  | nil => rfl
  | cons e t ih =>
    rw [List.map_cons, List.mem_cons, not_or] at h
    rw [get?_cons, if_neg (fun heq => h.1 heq.symm), ih h.2]

theorem mem_of_get? (h : get? t key = some v) : (key, v) ∈ t := by
  induction t with
  | nil => cases h
  | cons e t ih =>
    rw [get?_cons] at h
    split at h
    · next hkey =>
      cases h
      rw [← hkey]
      exact List.mem_cons_self
    · exact List.mem_cons_of_mem e (ih h)

theorem mem_set (h : e ∈ set t key v) : e = (key, v) ∨ e ∈ t := by
  induction t with
  | nil => exact .inl (List.mem_singleton.1 h)
  | cons d t ih =>
    unfold set at h
    split at h
    · rcases List.mem_cons.1 h with rfl | h
      · exact .inl rfl
      · exact .inr (List.mem_cons_of_mem d h)
    · rcases List.mem_cons.1 h with rfl | h
      · exact .inr List.mem_cons_self
      · exact (ih h).imp_right (List.mem_cons_of_mem d)

theorem Distinct.set (h : Distinct t) (key : String) (v : α) : Distinct (set t key v) := by
  induction t with
  | nil => exact distinct_cons.2 ⟨nofun, List.nodup_nil⟩
  | cons e t ih =>
    obtain ⟨hnew, htail⟩ := distinct_cons.1 h
    unfold Keyed.set
    split
    · next hkey => exact distinct_cons.2 ⟨hkey ▸ hnew, htail⟩
    · next hkey =>
      refine distinct_cons.2 ⟨fun hmem => ?_, ih htail⟩
      obtain ⟨d, hd, heq⟩ := List.mem_map.1 hmem
      rcases mem_set hd with rfl | hd
      · exact hkey heq.symm
      · exact hnew (heq ▸ List.mem_map_of_mem hd)

theorem Distinct.erase (h : Distinct t) (key : String) : Distinct (erase t key) :=
  h.sublist (List.filter_sublist.map Prod.fst)

end Keyed

namespace Toml

/-- What every step keeps holds at the end. -/
theorem foldlM_induction {σ α : Type} {P : σ → Prop} {step : σ → α → Option σ} {l : List α}
    (hstep : ∀ {s a s'}, a ∈ l → P s → step s a = some s' → P s') {s s' : σ} (hs : P s)
    (h : l.foldlM step s = some s') : P s' := by
  induction l generalizing s with
  | nil =>
    cases h
    exact hs
  | cons a l ih =>
    rw [List.foldlM_cons] at h
    obtain ⟨u, hu, h⟩ := Option.bind_eq_some_iff.1 h
    exact ih (fun ha => hstep (List.mem_cons_of_mem a ha)) (hstep List.mem_cons_self hs hu) h

/-- No table in the value has two entries under one key. -/
inductive Value.Proper : Value → Prop where
  | text (s : String) : Proper (.text s)
  | integer (n : Int64) : Proper (.integer n)
  | float (x : Binary64) : Proper (.float x)
  | boolean (b : Bool) : Proper (.boolean b)
  | moment : Proper .moment
  | array {items : List Value} : (∀ v ∈ items, Proper v) → Proper (.array items)
  | tables {items : List (List (String × Value))} : (∀ t ∈ items, Keyed.Distinct t) →
      (∀ t ∈ items, ∀ e ∈ t, Proper e.2) → Proper (.tables items)
  | table (origin : Origin) {entries : List (String × Value)} : Keyed.Distinct entries →
      (∀ e ∈ entries, Proper e.2) → Proper (.table origin entries)

namespace Table

/-- Neither the table nor one inside it has two entries under one key. -/
def Proper (t : Table) : Prop := t.Distinct ∧ ∀ e ∈ t, e.2.Proper

variable {t t' : Table} {v : Value} {key : String} {way : Way} {origin : Origin}

theorem proper_nil : Proper [] := ⟨List.nodup_nil, nofun⟩

theorem proper_table_iff : (Value.table origin t).Proper ↔ t.Proper := by
  constructor
  · intro h
    cases h with
    | table origin hkeys hvalues => exact ⟨hkeys, hvalues⟩
  · intro h
    exact .table origin h.1 h.2

theorem proper_tables_iff {items : List Table} :
    (Value.tables items).Proper ↔ ∀ t ∈ items, Proper t := by
  constructor
  · intro h t ht
    cases h with
    | tables hkeys hvalues => exact ⟨hkeys t ht, hvalues t ht⟩
  · intro h
    exact .tables (fun t ht => (h t ht).1) fun t ht => (h t ht).2

theorem Proper.get? (h : t.Proper) (hv : t.get? key = some v) : v.Proper :=
  h.2 _ (Keyed.mem_of_get? hv)

theorem Proper.set (h : t.Proper) (hv : v.Proper) (key : String) : Proper (t.set key v) := by
  refine ⟨h.1.set key v, fun e he => ?_⟩
  rcases Keyed.mem_set he with rfl | he
  · exact hv
  · exact h.2 e he

theorem Proper.erase (h : t.Proper) (key : String) : Proper (t.erase key) :=
  ⟨h.1.erase key, fun e he => h.2 e (List.mem_filter.1 he).1⟩

/-! ## Building -/

/-- A change at the end of a path keeps every table proper if it keeps the one there proper. -/
theorem proper_alter {f : Origin → Table → Option Table} {path : List String}
    (hf : ∀ {origin t t'}, Proper t → f origin t = some t' → Proper t') (ht : t.Proper)
    (h : alter way f path origin t = some t') : t'.Proper := by
  -- along the path; a table found on it is proper, as it stands in a proper one
  induction path generalizing origin t t' with
  | nil => exact hf ht h
  | cons key path ih =>
    simp only [alter, Option.bind_eq_bind, Option.pure_def] at h
    split at h
    · obtain ⟨inner, hinner, hset⟩ := Option.bind_eq_some_iff.1 h
      cases hset
      exact ht.set (proper_table_iff.2 (ih proper_nil hinner)) key
    · next hvalue =>
      obtain ⟨-, h⟩ := Option.ite_none_right_eq_some.1 h
      obtain ⟨inner, hinner, hset⟩ := Option.bind_eq_some_iff.1 h
      cases hset
      have hold := proper_table_iff.1 (ht.get? hvalue)
      exact ht.set (proper_table_iff.2 (ih hold hinner)) key
    · next items hvalue =>
      obtain ⟨last, hlast, h⟩ := Option.bind_eq_some_iff.1 h
      obtain ⟨inner, hinner, hset⟩ := Option.bind_eq_some_iff.1 h
      cases hset
      have hold := proper_tables_iff.1 (ht.get? hvalue)
      have hnew := ih (hold last (List.mem_of_getLast? hlast)) hinner
      refine ht.set (proper_tables_iff.2 fun u hu => ?_) key
      rcases List.mem_append.1 hu with hu | hu
      · exact hold u ((List.dropLast_sublist items).subset hu)
      · exact List.mem_singleton.1 hu ▸ hnew
    · cases h

theorem proper_insert {key : Key} (ht : t.Proper) (hv : v.Proper)
    (h : insert origin t key v = some t') : t'.Proper := by
  refine proper_alter (fun ht h => ?_) ht h
  obtain ⟨-, hset⟩ := Option.ite_none_left_eq_some.1 h
  cases hset
  exact ht.set hv key.name

theorem proper_openTable {key : Key} (ht : t.Proper) (h : openTable t key = some t') :
    t'.Proper := by
  refine proper_alter (fun ht h => ?_) ht h
  split at h
  · cases h
    exact ht.set (proper_table_iff.2 proper_nil) key.name
  · next hvalue =>
    cases h
    have hold := proper_table_iff.1 (ht.get? hvalue)
    exact (ht.erase key.name).set (proper_table_iff.2 hold) key.name
  · cases h

theorem proper_appendTable {key : Key} (ht : t.Proper) (h : appendTable t key = some t') :
    t'.Proper := by
  refine proper_alter (fun ht h => ?_) ht h
  split at h
  · cases h
    refine ht.set (proper_tables_iff.2 fun u hu => ?_) key.name
    exact List.mem_singleton.1 hu ▸ proper_nil
  · next items hvalue =>
    cases h
    have hold := proper_tables_iff.1 (ht.get? hvalue)
    refine ht.set (proper_tables_iff.2 fun u hu => ?_) key.name
    rcases List.mem_append.1 hu with hu | hu
    · exact hold u hu
    · exact List.mem_singleton.1 hu ▸ proper_nil
  · cases h

theorem proper_ofEntries? {entries : List (Key × Value)} (hv : ∀ e ∈ entries, e.2.Proper)
    (h : ofEntries? origin entries = some t) : t.Proper :=
  foldlM_induction (fun he ht => proper_insert ht (hv _ he)) proper_nil h

end Table

/-! ## Reading values -/

/-- A reader of values whose tables are proper. -/
def ReadsProper (value : List Char → Option (Value × List Char)) : Prop :=
  ∀ s v rest, value s = some (v, rest) → v.Proper

variable {value : List Char → Option (Value × List Char)} {limits : Limits} {most : Nat}
  {s rest : List Char}

theorem readsProper_number? (finite : Bool) : ReadsProper (number? finite) := by
  intro s v rest h
  unfold number? at h
  split at h
  · cases h
    exact .float _
  · split at h
    · obtain ⟨-, hp⟩ := Option.ite_none_left_eq_some.1 h
      cases hp
      exact .float _
    · obtain ⟨p, -, hp⟩ := Option.map_eq_some_iff.1 h
      cases hp
      exact .integer _

theorem readsProper_scalar? (finite : Bool) : ReadsProper (scalar? finite) := by
  intro s v rest h
  unfold scalar? at h
  split at h
  · obtain ⟨p, -, hp⟩ := Option.map_eq_some_iff.1 h
    cases hp
    exact .text _
  · obtain ⟨p, -, hp⟩ := Option.map_eq_some_iff.1 h
    cases hp
    exact .text _
  · cases h
    exact .boolean true
  · cases h
    exact .boolean false
  · split at h
    · cases h
      exact .moment
    · exact readsProper_number? finite _ _ _ h

theorem proper_of_assignment? (hvalue : ReadsProper value) {e : Key × Value}
    (h : assignment? most value s = some (e, rest)) : e.2.Proper := by
  simp only [assignment?, Option.bind_eq_bind, Option.bind_eq_some_iff, Option.pure_def,
    Option.some.injEq] at h
  obtain ⟨_, -, _, -, p, hread, hp⟩ := h
  cases hp
  exact hvalue _ _ _ hread

theorem proper_of_elements? (hvalue : ReadsProper value) {vs : List Value}
    (h : elements? value s = some (vs, rest)) : ∀ v ∈ vs, v.Proper := by
  fun_induction elements? value s generalizing vs with
  | case1 => cases h; nofun
  | case2 => cases h
  | case3 s v r r' hlast hfirst hread =>
    cases h
    exact List.forall_mem_singleton.2 (hvalue _ _ _ hread)
  | case4 s v r r' hmore hlt hfirst hread ih =>
    obtain ⟨p, hp, heq⟩ := Option.map_eq_some_iff.1 h
    cases heq
    exact List.forall_mem_cons.2 ⟨hvalue _ _ _ hread, ih hp⟩
  | case5 => cases h
  | case6 => cases h

theorem proper_of_members? (hvalue : ReadsProper value) {es : List (Key × Value)}
    (h : members? most value s = some (es, rest)) : ∀ e ∈ es, e.2.Proper := by
  fun_induction members? most value s generalizing es with
  | case1 => cases h
  | case2 s e r hread r' hlast =>
    cases h
    exact List.forall_mem_singleton.2 (proper_of_assignment? hvalue hread)
  | case3 s e r hread r' hmore hlt ih =>
    obtain ⟨p, hp, heq⟩ := Option.map_eq_some_iff.1 h
    cases heq
    exact List.forall_mem_cons.2 ⟨proper_of_assignment? hvalue hread, ih hp⟩
  | case4 => cases h
  | case5 => cases h

theorem readsProper_inline? (hvalue : ReadsProper value) : ReadsProper (inline? most value) := by
  intro s v rest h
  unfold inline? at h
  split at h
  · cases h
    exact Table.proper_table_iff.2 Table.proper_nil
  · simp only [Option.bind_eq_bind, Option.bind_eq_some_iff, Option.pure_def,
      Option.some.injEq] at h
    obtain ⟨p, hmembers, t, ht, hp⟩ := h
    cases hp
    exact Table.proper_table_iff.2 (Table.proper_ofEntries? (proper_of_members? hvalue hmembers) ht)

/-- By induction on how deep the value may be nested. -/
theorem readsProper_valueWithin? (limits : Limits) (depth : Nat) :
    ReadsProper (valueWithin? limits depth) := by
  induction depth with
  | zero => exact readsProper_scalar? limits.finite
  | succ depth ih =>
    intro s v rest h
    unfold valueWithin? at h
    split at h
    · next heq =>
      cases heq
      obtain ⟨p, helements, hp⟩ := Option.map_eq_some_iff.1 h
      cases hp
      exact .array (proper_of_elements? ih helements)
    · next heq =>
      cases heq
      exact readsProper_inline? ih _ _ _ h
    · exact readsProper_scalar? _ _ _ _ h

/-! ## Documents -/

/-- The value that a statement sets, if it sets one, is proper. -/
def Statement.Proper : Statement → Prop
  | .entry _ v => v.Proper
  | .header _ | .element _ => True

theorem proper_of_statement? {statement : Statement} (h : statement? limits s = some (statement, rest)) :
    statement.Proper := by
  unfold statement? at h
  split at h
  · simp only [Option.bind_eq_bind, Option.bind_eq_some_iff, Option.pure_def,
      Option.some.injEq] at h
    obtain ⟨_, -, _, -, _, -, hp⟩ := h
    cases hp
    trivial
  · simp only [Option.bind_eq_bind, Option.bind_eq_some_iff, Option.pure_def,
      Option.some.injEq] at h
    obtain ⟨_, -, _, -, hp⟩ := h
    cases hp
    trivial
  · obtain ⟨p, hread, hp⟩ := Option.map_eq_some_iff.1 h
    cases hp
    exact proper_of_assignment? (readsProper_valueWithin? limits _) hread

theorem proper_of_line? {statement : Option Statement} (h : line? limits s = some (statement, rest)) :
    ∀ st ∈ statement, st.Proper := by
  unfold line? at h
  split at h
  · cases h
    intro st hst
    cases hst
  · simp only [Option.bind_eq_bind, Option.bind_eq_some_iff, Option.pure_def,
      Option.some.injEq] at h
    obtain ⟨p, hread, _, -, hp⟩ := h
    cases hp
    rintro st ⟨⟩
    exact proper_of_statement? hread

theorem proper_of_statements? {statements : List Statement}
    (h : statements? limits s = some statements) : ∀ st ∈ statements, st.Proper := by
  fun_induction statements? limits s generalizing statements with
  | case1 => cases h; nofun
  | case2 => cases h
  | case3 s hne statement r hline hlt ih =>
    obtain ⟨sts, hsts, heq⟩ := Option.map_eq_some_iff.1 h
    cases heq
    intro st hst
    rcases List.mem_append.1 hst with hst | hst
    · exact proper_of_line? hline st (Option.mem_toList.1 hst)
    · exact ih hsts st hst
  | case4 => cases h

namespace Table

theorem Draft.proper_add {d d' : Draft} {statement : Statement} (hd : d.table.Proper)
    (hs : statement.Proper) (h : d.add statement = some d') : d'.table.Proper := by
  cases statement with
  | entry key v =>
    obtain ⟨t, ht, hd'⟩ := Option.bind_eq_some_iff.1 h
    cases hd'
    exact proper_alter (fun ht h => proper_insert ht hs h) hd ht
  | header key =>
    obtain ⟨t, ht, hd'⟩ := Option.bind_eq_some_iff.1 h
    cases hd'
    exact proper_openTable hd ht
  | element key =>
    obtain ⟨t, ht, hd'⟩ := Option.bind_eq_some_iff.1 h
    cases hd'
    exact proper_appendTable hd ht

/-- **No table of a document**, the document's own included, has a key twice. -/
theorem proper_of_ofText? {t : Table} (h : ofText? limits s = some t) : t.Proper := by
  obtain ⟨statements, hread, hbuild⟩ := Option.bind_eq_some_iff.1 h
  have hproper := proper_of_statements? hread
  obtain ⟨d, hd, rfl⟩ := Option.map_eq_some_iff.1 hbuild
  exact foldlM_induction (P := fun d => d.table.Proper)
    (fun hmem hd h => Draft.proper_add hd (hproper _ hmem) h) proper_nil hd

end Table

end Toml

end BootClock
