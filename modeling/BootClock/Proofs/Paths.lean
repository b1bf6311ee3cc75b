import BootClock.FileTree
import Mathlib.Algebra.GroupWithZero.Nat
/-!
# Paths of places

The path of a place is its names between slashes. If an entry can be called by each of them (`IsName`),
a path splits into them again (`names_path`), and following them goes through the entries one by one
(`follow_eq_ok_iff`). The path of a place therefore leads to that place and to no other, exactly if
something is there (`walk_path_eq_ok_iff`), unless it is longer than a path can be (`place_eq_ok_iff`).
-/

namespace BootClock

namespace FileTree

/-! ## Names -/

/-- An entry of a directory can be called so. -/
structure IsName (name : String) : Prop where
  ne_empty : name ≠ ""
  ne_dot : name ≠ "."
  ne_dots : name ≠ ".."
  no_slash : '/' ∉ name.toList
  no_nul : '\x00' ∉ name.toList
  short : name.utf8ByteSize ≤ longestName

instance (name : String) : Decidable (IsName name) :=
  decidable_of_iff (_ ∧ _ ∧ _ ∧ _ ∧ _ ∧ _)
    ⟨fun ⟨h1, h2, h3, h4, h5, h6⟩ => ⟨h1, h2, h3, h4, h5, h6⟩,
      fun ⟨h1, h2, h3, h4, h5, h6⟩ => ⟨h1, h2, h3, h4, h5, h6⟩⟩

variable {t : FileTree} {here p q : Place} {name : String}

theorem toList_path (p : Place) :
    p.path.toList = '/' :: List.intercalate ['/'] (p.map String.toList) := by
  unfold Place.path
  rw [String.toList_append, String.toList_intercalate]
  rfl

/-- The path of a place starts with a slash, so the first of its names is empty. -/
theorem names_path (hne : p ≠ []) (hp : ∀ name ∈ p, IsName name) : names p.path = "" :: p := by
  have hslash : ∀ part ∈ p.map String.toList, '/' ∉ part := by
    intro part hmem
    obtain ⟨name, hname, rfl⟩ := List.mem_map.1 hmem
    exact (hp name hname).no_slash
  have hparts : split '/' (List.intercalate ['/'] (p.map String.toList)) = p.map String.toList := by
    refine split_intercalate ?_ hslash
    rwa [ne_eq, List.map_eq_nil_iff]
  unfold names
  rw [toList_path, split, if_pos rfl, hparts]
  simp

theorem nul_not_mem_path (hp : ∀ name ∈ p, IsName name) : '\x00' ∉ p.path.toList := by
  rw [toList_path, List.mem_cons]
  rintro (hnul | hmem)
  · exact absurd hnul (by decide)
  · rcases mem_intercalate hmem with hnul | ⟨part, hpart, hnul⟩
    · exact absurd (List.mem_singleton.1 hnul) (by decide)
    · obtain ⟨name, hname, rfl⟩ := List.mem_map.1 hpart
      exact (hp name hname).no_nul hnul

/-! ## Following names -/

theorem get?_append (t : FileTree) (p q : Place) :
    t.get? (p ++ q) = (t.get? p).bind fun below => below.get? q := by
  induction p generalizing t with
  | nil => rfl
  | cons name p ih =>
    rw [List.cons_append, get?, get?]
    cases t.child? name with
    | none => rfl
    | some c => exact ih c

theorem get?_concat (t : FileTree) (p : Place) (name : String) :
    t.get? (p ++ [name]) = (t.get? p).bind fun below => below.child? name := by
  rw [get?_append]
  congr 1
  funext below
  rw [get?]
  cases below.child? name <;> rfl

/-- One name is looked up in the directory at hand. -/
theorem follow_cons (hname : IsName name) (rest : List String) :
    t.follow here (name :: rest) = match t.get? here with
      | some (directory entries) =>
        if (Keyed.get? entries name).isSome then t.follow (here ++ [name]) rest else .error noEntry
      | some (file _) => .error notDirectory
      | none => .error noEntry := by
  have hstay : ¬ (name = "" ∨ name = ".") := by
    rintro (hempty | hdot)
    · exact hname.ne_empty hempty
    · exact hname.ne_dot hdot
  rw [follow]
  cases t.get? here with
  | none => rfl
  | some below =>
    cases below with
    | file contents => rfl
    | directory entries =>
      simp only [if_neg hstay, if_neg hname.ne_dots, if_neg (Nat.not_lt.2 hname.short)]

theorem follow_cons_of_entry (hname : IsName name) (h : (t.get? (here ++ [name])).isSome)
    (rest : List String) : t.follow here (name :: rest) = t.follow (here ++ [name]) rest := by
  rw [get?_concat] at h
  rw [follow_cons hname]
  cases hhere : t.get? here with
  | none => simp [hhere] at h
  | some below =>
    cases below with
    | file contents => simp [hhere, child?] at h
    | directory entries =>
      have hentry : (Keyed.get? entries name).isSome := by simpa [hhere, child?] using h
      simp only [hentry, if_true]

theorem follow_cons_of_no_entry (hname : IsName name) (h : t.get? (here ++ [name]) = none)
    (rest : List String) : ∃ e, t.follow here (name :: rest) = .error e := by
  rw [get?_concat] at h
  rw [follow_cons hname]
  cases hhere : t.get? here with
  | none => exact ⟨noEntry, rfl⟩
  | some below =>
    cases below with
    | file contents => exact ⟨notDirectory, rfl⟩
    | directory entries =>
      have hentry : Keyed.get? entries name = none := by simpa [hhere, child?] using h
      exact ⟨noEntry, by simp [hentry]⟩

/-- Names lead on to the place that they are, if something is there. -/
theorem follow_eq_ok_iff (hp : ∀ name ∈ p, IsName name) :
    t.follow here p = .ok q ↔ q = here ++ p ∧ (p = [] ∨ (t.get? (here ++ p)).isSome) := by
  induction p generalizing here with
  | nil =>
    rw [follow, List.append_nil]
    constructor
    · intro heq
      exact ⟨(Except.ok.inj heq).symm, .inl rfl⟩
    · rintro ⟨rfl, -⟩
      rfl
  | cons name rest ih =>
    have hname : IsName name := hp name List.mem_cons_self
    have hrest : ∀ other ∈ rest, IsName other := fun other hmem =>
      hp other (List.mem_cons_of_mem name hmem)
    have hplace : here ++ name :: rest = here ++ [name] ++ rest := by simp
    cases hentry : t.get? (here ++ [name]) with
    | none =>
      obtain ⟨e, he⟩ := follow_cons_of_no_entry hname hentry rest
      rw [he, hplace, get?_append, hentry]
      simp
    | some c =>
      have hsome : (t.get? (here ++ [name])).isSome := by rw [hentry]; rfl
      rw [follow_cons_of_entry hname hsome, ih hrest, hplace]
      cases rest with
      | nil => simp [hentry]
      | cons next rest => simp

/-- The empty name that a path from the root starts with only asks for the root to be a directory. -/
theorem follow_root_eq_ok_iff (hne : p ≠ []) (hp : ∀ name ∈ p, IsName name) :
    t.follow [] ("" :: p) = .ok q ↔ q = p ∧ (t.get? p).isSome := by
  cases t with
  | file contents =>
    obtain ⟨name, rest, rfl⟩ := List.exists_cons_of_ne_nil hne
    simp [follow, get?, child?]
  | directory entries =>
    have hroot : (directory entries).follow [] ("" :: p) = (directory entries).follow [] p := by
      simp [follow, get?]
    rw [hroot, follow_eq_ok_iff hp, List.nil_append]
    simp [hne]

/-- The path of a place leads there if something is there, and nowhere else. -/
theorem walk_path_eq_ok_iff (hne : p ≠ []) (hp : ∀ name ∈ p, IsName name) (current : Option Place) :
    t.walk current p.path = .ok q ↔ q = p ∧ (t.get? p).isSome := by
  have hnul := nul_not_mem_path hp
  have habsolute : isAbsolute p.path = true := by simp [isAbsolute, toList_path]
  have hempty : p.path ≠ "" := by
    intro heq
    have htoList := toList_path p
    rw [heq] at htoList
    cases htoList
  unfold walk
  rw [if_neg hnul, if_neg hempty, if_pos habsolute, names_path hne hp, follow_root_eq_ok_iff hne hp]

/-- Each name of a place has a slash in front of it. -/
theorem utf8ByteSize_path (hne : p ≠ []) :
    p.path.utf8ByteSize = (p.map fun name => 1 + name.utf8ByteSize).sum := by
  have hslash : "/".utf8ByteSize = 1 := rfl
  unfold Place.path
  induction p with
  | nil => exact absurd rfl hne
  | cons name p ih =>
    cases p with
    | nil => simp [String.utf8ByteSize_append, hslash]
    | cons next p =>
      have hrest := ih (List.cons_ne_nil next p)
      rw [String.utf8ByteSize_append] at hrest
      rw [String.utf8ByteSize_append, String.intercalate_cons_cons, String.utf8ByteSize_append,
        String.utf8ByteSize_append, List.map_cons, List.sum_cons]
      omega

theorem place_of_long {current : Option Place} {path : String} (hnul : '\x00' ∉ path.toList)
    (h : longestPath < path.utf8ByteSize) : t.place current path = .error tooLong :=
  if_pos ⟨hnul, h⟩

/-- A path leads somewhere only if it is no longer than a path can be. -/
theorem place_eq_ok_iff {current : Option Place} {path : String} :
    t.place current path = .ok q ↔
      t.walk current path = .ok q ∧ path.utf8ByteSize ≤ longestPath := by
  unfold place
  split
  · next h => simp [Nat.not_le.2 h.2]
  · next h =>
    by_cases hnul : '\x00' ∈ path.toList
    · simp [walk, hnul]
    · have hshort : path.utf8ByteSize ≤ longestPath := Nat.not_lt.1 fun hlt => h ⟨hnul, hlt⟩
      simp [hshort]

end FileTree

end BootClock
