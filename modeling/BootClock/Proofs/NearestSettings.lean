import BootClock.Proofs.Lookup
import BootClock.Proofs.Paths
import BootClock.Settings.Discovery
/-!
# The settings that are found

The search goes up from the current directory to the root and stops at the first directory that has an
entry for settings (`findSome?_upward`). What that entry leads to counts, be it a file or a directory
and whatever is in it; only where there is none the entry in the directory for configuration counts,
and the defaults where that is missing too (`settings_of_nearest`). Nothing further up, and nothing in
the directory for configuration, can change the outcome once there is a nearer entry. An entry whose
path is longer than a path can be is passed over as if it were missing (`settings_of_deep_directory`).
-/

namespace BootClock

open FileTree Settings

/-! ## Going up -/

namespace Place

variable {α : Type} {f : Place → Option α} {here : Place} {n : Nat}

/-- Numbers tried from the greatest down stop at the greatest one that gives anything. -/
theorem findSome?_range_reverse {g : Nat → Option α} {k : Nat} (hn : n < k) (hsome : (g n).isSome)
    (hnone : ∀ m, n < m → m < k → g m = none) : (List.range k).reverse.findSome? g = g n := by
  induction k with
  | zero => omega
  | succ k ih =>
    rw [List.range_succ, List.reverse_append, List.reverse_singleton, List.singleton_append,
      List.findSome?_cons]
    by_cases hlast : n = k
    · subst hlast
      obtain ⟨a, ha⟩ := Option.isSome_iff_exists.1 hsome
      rw [ha]
    · rw [hnone k (by omega) (by omega)]
      exact ih (by omega) fun m hlt hle => hnone m hlt (by omega)

/-- A search upward gives what the nearest directory gives that gives anything. -/
theorem findSome?_upward (hle : n ≤ here.length) (hsome : (f (here.take n)).isSome)
    (hnearer : ∀ m, n < m → m ≤ here.length → f (here.take m) = none) :
    here.upward.findSome? f = f (here.take n) := by
  unfold upward
  rw [List.findSome?_map]
  refine findSome?_range_reverse (by omega) hsome ?_
  intro m hlt hle
  exact hnearer m hlt (by omega)

theorem findSome?_upward_eq_none (hnone : ∀ n ≤ here.length, f (here.take n) = none) :
    here.upward.findSome? f = none := by
  rw [List.findSome?_eq_none_iff]
  intro dir hdir
  unfold upward at hdir
  obtain ⟨n, hn, rfl⟩ := List.mem_map.1 hdir
  rw [List.mem_reverse, List.mem_range] at hn
  exact hnone n (by omega)

end Place

/-! ## Entries -/

namespace Surroundings

/-- A directory has an entry for settings. -/
def HasEntry (s : Surroundings) (dir : Place) : Prop := (s.root.get? (entryOf dir)).isSome

instance (s : Surroundings) (dir : Place) : Decidable (s.HasEntry dir) :=
  inferInstanceAs (Decidable (_ = _))

/-- The path of a directory's entry is no longer than a path can be. -/
def Short (dir : Place) : Prop := (entryOf dir).path.utf8ByteSize ≤ longestPath

/-- The directory that the first `n` names of a place lead to has an entry with a short path, and none
nearer has. -/
structure NearestAt (s : Surroundings) (here : Place) (n : Nat) : Prop where
  le : n ≤ here.length
  has : s.HasEntry (here.take n)
  short : Short (here.take n)
  nearer : ∀ m, n < m → m ≤ here.length → s.HasEntry (here.take m) → ¬ Short (here.take m)

variable {s s' : Surroundings} {here dir : Place} {n : Nat} {path : String} {source : Source}

theorem isName_of_mem_entryOf (hdir : ∀ name ∈ dir, IsName name) :
    ∀ name ∈ entryOf dir, IsName name := by
  intro name hmem
  unfold entryOf at hmem
  rcases List.mem_append.1 hmem with hmem | hmem
  · exact hdir name hmem
  · rw [List.mem_singleton.1 hmem]
    decide

theorem place_entryOf_iff (hdir : ∀ name ∈ dir, IsName name) {place : Place} :
    s.root.place s.current (entryOf dir).path = .ok place ↔
      place = entryOf dir ∧ s.HasEntry dir ∧ Short dir := by
  have hne : entryOf dir ≠ [] := by simp [entryOf]
  rw [place_eq_ok_iff, walk_path_eq_ok_iff hne (isName_of_mem_entryOf hdir), and_assoc]
  rfl

theorem lookUp?_of_hasEntry (hdir : ∀ name ∈ dir, IsName name) (h : s.HasEntry dir)
    (hshort : Short dir) :
    s.lookUp? (entryOf dir).path = some ⟨(entryOf dir).path, entryOf dir⟩ := by
  unfold lookUp?
  rw [(place_entryOf_iff hdir).2 ⟨rfl, h, hshort⟩]

theorem lookUp?_of_not_hasEntry (hdir : ∀ name ∈ dir, IsName name)
    (h : s.HasEntry dir → ¬ Short dir) : s.lookUp? (entryOf dir).path = none := by
  unfold lookUp?
  cases hplace : s.root.place s.current (entryOf dir).path with
  | error e => rfl
  | ok place =>
    obtain ⟨-, hhas, hshort⟩ := (place_entryOf_iff hdir).1 hplace
    exact absurd hshort (h hhas)

theorem isName_of_mem_take (hnames : ∀ name ∈ here, IsName name) (n : Nat) :
    ∀ name ∈ here.take n, IsName name := fun name hmem => hnames name (List.mem_of_mem_take hmem)

/-! ## The entry that counts -/

theorem source?_of_nearest (hcurrent : s.current = some here) (hnames : ∀ name ∈ here, IsName name)
    (h : s.NearestAt here n) :
    s.source? = some ⟨(entryOf (here.take n)).path, entryOf (here.take n)⟩ := by
  have hfound := lookUp?_of_hasEntry (isName_of_mem_take hnames n) h.has h.short
  have hnearest : s.nearest? here =
      some ⟨(entryOf (here.take n)).path, entryOf (here.take n)⟩ := by
    refine (Place.findSome?_upward h.le ?_ ?_).trans hfound
    · rw [hfound]
      rfl
    · intro m hlt hle
      exact lookUp?_of_not_hasEntry (isName_of_mem_take hnames m) (h.nearer m hlt hle)
  simp [source?, hcurrent, hnearest]

theorem source?_of_no_entry (hcurrent : s.current = some here)
    (hnames : ∀ name ∈ here, IsName name)
    (h : ∀ n ≤ here.length, s.HasEntry (here.take n) → ¬ Short (here.take n)) :
    s.source? = s.global? := by
  have hnearest : s.nearest? here = none := by
    refine Place.findSome?_upward_eq_none ?_
    intro n hle
    exact lookUp?_of_not_hasEntry (isName_of_mem_take hnames n) (h n hle)
  simp [source?, hcurrent, hnearest]

/-- What is looked up is what is loaded. -/
theorem settingsFrom_of_lookUp? (h : s.lookUp? path = some source) :
    s.settingsFrom path = s.settingsAt source.place := by
  unfold lookUp? at h
  unfold settingsFrom
  cases hplace : s.root.place s.current path with
  | error e =>
    rw [hplace] at h
    cases h
  | ok place =>
    rw [hplace] at h
    cases h
    rfl

theorem value_settings_of_source (h : s.source? = some source) (d : Device) :
    (s.settings.run d).value = s.settingsAt source.place := by
  simp only [settings, h, Probe.run_bind, Probe.run_note, Probe.run_pure]

theorem value_settings_of_no_source (h : s.source? = none) (d : Device) :
    (s.settings.run d).value = .ok {} := by
  simp only [settings, h, Probe.run_bind, Probe.run_note, Probe.run_pure]

/-! ## Entries further up -/

/-- A tree with the same entries down from the nearest one has that for its nearest one. -/
theorem NearestAt.congr (h : s.NearestAt here n)
    (hsame : ∀ m, n ≤ m → m ≤ here.length →
      s'.root.get? (entryOf (here.take m)) = s.root.get? (entryOf (here.take m))) :
    s'.NearestAt here n := by
  have hiff : ∀ m, n ≤ m → m ≤ here.length →
      (s'.HasEntry (here.take m) ↔ s.HasEntry (here.take m)) := by
    intro m hlow hhigh
    unfold HasEntry
    rw [hsame m hlow hhigh]
  refine ⟨h.le, (hiff n (Nat.le_refl n) h.le).2 h.has, h.short, ?_⟩
  intro m hlt hle
  rw [hiff m (Nat.le_of_lt hlt) hle]
  exact h.nearer m hlt hle

theorem settingsAt_congr {place : Place} (h : s'.root.get? place = s.root.get? place) :
    s'.settingsAt place = s.settingsAt place := by
  unfold settingsAt readAt
  rw [h]

/-- The entry in the directory for configuration counts if its path leads to one. -/
theorem value_settings_of_global {dir : String} (hsource : s.source? = s.global?)
    (hdir : s.configDirectory = some dir) (d : Device) :
    let path := join (join dir "device-uptime") ".device-uptime.toml"
    ((∃ place, s.root.walk s.current path = .ok place) → path.utf8ByteSize ≤ longestPath →
      (s.settings.run d).value = s.settingsFrom path) ∧
    ((¬ ∃ place, s.root.walk s.current path = .ok place) ∨ longestPath < path.utf8ByteSize →
      (s.settings.run d).value = .ok {}) := by
  intro path
  have hlookUp : s.source? = s.lookUp? path := by
    rw [hsource, global?, globalPath, hdir]
    rfl
  constructor
  · rintro ⟨place, hplace⟩ hshort
    have hfound : s.lookUp? path = some ⟨path, place⟩ := by
      unfold lookUp?
      rw [place_eq_ok_iff.2 ⟨hplace, hshort⟩]
    rw [value_settings_of_source (hlookUp.trans hfound) d, settingsFrom_of_lookUp? hfound]
  · intro hmissing
    refine value_settings_of_no_source (hlookUp.trans ?_) d
    unfold lookUp?
    cases hplace : s.root.place s.current path with
    | error e => rfl
    | ok place =>
      obtain ⟨hwalk, hshort⟩ := place_eq_ok_iff.1 hplace
      rcases hmissing with hmissing | hlong
      · exact absurd ⟨place, hwalk⟩ hmissing
      · exact absurd hshort (Nat.not_le.2 hlong)

/-- **The nearest entry decides.** Where no file is named, the settings are those that the path of the
nearest entry leads to, and stay so whatever else is there as long as the entries down from it are the
same; without any entry they are those in the directory for configuration, and the defaults if there
are none either. An entry counts only if its path has no more than 4095 bytes. -/
theorem settings_of_nearest (hcurrent : s.current = some here)
    (hnames : ∀ name ∈ here, IsName name) (d : Device) :
    (∀ n ≤ here.length, s.HasEntry (here.take n) →
      (entryOf (here.take n)).path.utf8ByteSize ≤ 4095 →
      (∀ m, n < m → m ≤ here.length → s.HasEntry (here.take m) →
        4095 < (entryOf (here.take m)).path.utf8ByteSize) →
      (s.settings.run d).value = s.settingsFrom (entryOf (here.take n)).path ∧
      s.settingsFrom (entryOf (here.take n)).path = s.settingsAt (entryOf (here.take n)) ∧
      ∀ (s' : Surroundings) (d' : Device), s'.current = some here →
        (∀ m, n ≤ m → m ≤ here.length →
          s'.root.get? (entryOf (here.take m)) = s.root.get? (entryOf (here.take m))) →
        (s'.settings.run d').value = (s.settings.run d).value) ∧
    ((∀ n ≤ here.length, s.HasEntry (here.take n) →
        4095 < (entryOf (here.take n)).path.utf8ByteSize) →
      (∀ dir, s.configDirectory = some dir →
        let path := join (join dir "device-uptime") ".device-uptime.toml"
        ((∃ place, s.root.walk s.current path = .ok place) → path.utf8ByteSize ≤ 4095 →
          (s.settings.run d).value = s.settingsFrom path) ∧
        ((¬ ∃ place, s.root.walk s.current path = .ok place) ∨ 4095 < path.utf8ByteSize →
          (s.settings.run d).value = .ok {})) ∧
      (s.configDirectory = none → (s.settings.run d).value = .ok {})) := by
  constructor
  · intro n hle hhas hshort hnearer
    have h : s.NearestAt here n :=
      ⟨hle, hhas, hshort, fun m hlt hle hm => Nat.not_le.2 (hnearer m hlt hle hm)⟩
    have hfound := lookUp?_of_hasEntry (isName_of_mem_take hnames n) h.has h.short
    have hvalue := value_settings_of_source (source?_of_nearest hcurrent hnames h) d
    have hfrom := settingsFrom_of_lookUp? hfound
    refine ⟨hvalue.trans hfrom.symm, hfrom, ?_⟩
    intro s' d' hcurrent' hsame
    rw [value_settings_of_source (source?_of_nearest hcurrent' hnames (h.congr hsame)) d', hvalue]
    exact settingsAt_congr (hsame n (Nat.le_refl n) h.le)
  · intro hnone
    have hsource : s.source? = s.global? :=
      source?_of_no_entry hcurrent hnames fun n hle hn => Nat.not_le.2 (hnone n hle hn)
    refine ⟨fun dir hdir => value_settings_of_global hsource hdir d, fun hdir => ?_⟩
    refine value_settings_of_no_source (hsource.trans ?_) d
    rw [global?, globalPath, hdir]
    rfl

/-- A home directory with a working directory in it and something called like a file of settings. -/
def homeWith (entry : FileTree) (above : List (String × FileTree)) : Surroundings where
  root := .directory [("home", .directory (("u", .directory
    [("work", .directory []), (Settings.fileName, entry)]) :: above))]
  current := some ["home", "u", "work"]
  home := some "/home/u"
  accountHome := none
  configHome := none

/-- A directory that is called like a file of settings stands in front of a file that holds some: it
cannot be read, with the file above it and without. -/
theorem settings_behind_directory :
    let above := [(Settings.fileName, FileTree.file "[output]\nformat = \"json\"\n".toUTF8)]
    let s := homeWith (.directory []) above
    let s' := homeWith (.directory []) []
    s.HasEntry (["home", "u", "work"].take 2) ∧
      (s.settings.run .sample).value = .error (.unreadable isDirectory) ∧
      (s'.settings.run .sample).value = .error (.unreadable isDirectory) ∧
      (s.settingsFrom "/home/.device-uptime.toml").toOption.map Settings.format = some .json := by
  intro above s s'
  have hnames : ∀ name ∈ ["home", "u", "work"], IsName name := by decide +kernel
  have hhas : s.HasEntry (["home", "u", "work"].take 2) := by decide +kernel
  have hnearer : ∀ m, 2 < m → m ≤ 3 → s.HasEntry (["home", "u", "work"].take m) →
      4095 < (entryOf (["home", "u", "work"].take m)).path.utf8ByteSize := by
    intro m hlt hle hentry
    obtain rfl : m = 3 := by omega
    exact absurd hentry (by decide +kernel)
  obtain ⟨hfound, -⟩ := settings_of_nearest (s := s) rfl hnames .sample
  obtain ⟨hvalue, hplace, hsame⟩ := hfound 2 (by decide) hhas (by decide +kernel) hnearer
  have hbelow : ∀ m, 2 ≤ m → m ≤ 3 →
      s'.root.get? (entryOf (["home", "u", "work"].take m)) =
        s.root.get? (entryOf (["home", "u", "work"].take m)) := by
    intro m hlow hhigh
    obtain rfl | rfl : m = 2 ∨ m = 3 := by omega
    · rfl
    · rfl
  have hunreadable : s.settingsAt (entryOf (["home", "u", "work"].take 2)) =
      .error (.unreadable isDirectory) := rfl
  have hvalue := (hvalue.trans hplace).trans hunreadable
  exact ⟨hhas, hvalue, (hsame s' .sample rfl hbelow).trans hvalue, by decide +kernel⟩

theorem settingsFrom_of_place_error {cause : SystemError}
    (h : s.root.place s.current path = .error cause) :
    s.settingsFrom path = .error (.unreadable cause) := by
  unfold settingsFrom
  rw [h]

/-- A name of 250 bytes. -/
def longName : String := String.ofList (List.replicate 250 'd')

theorem not_mem_replicate {c c' : Char} (hne : c ≠ c') (n : Nat) :
    c ∉ (String.ofList (List.replicate n c')).toList := by
  rw [String.toList_ofList]
  exact fun hmem => hne (List.eq_of_mem_replicate hmem)

theorem isName_longName : IsName longName :=
  ⟨by decide +kernel, by decide +kernel, by decide +kernel, not_mem_replicate (by decide) 250,
    not_mem_replicate (by decide) 250, by decide +kernel⟩

/-- A directory so deep that the path of an entry in it is longer than a path can be. -/
def deep : Place := List.replicate 17 longName

/-- Something called like a file of settings in the current directory, which is that deep. -/
def deepWith (entry : FileTree) : Surroundings :=
  { homeWith entry [] with root := put entry (entryOf deep) (.directory []), current := some deep }

/-- Settings in so deep a directory are passed over: the defaults hold, though there is an entry in the
current directory itself and other settings are in it. Loading them by the path of the entry fails. -/
theorem settings_of_deep_directory :
    let s := deepWith (.file "[output]\nformat = \"json\"\n".toUTF8)
    s.current = some deep ∧ (∀ name ∈ deep, IsName name) ∧ s.HasEntry deep ∧
      (s.settingsAt (entryOf deep)).toOption.map Settings.format = some .json ∧
      s.settingsFrom (entryOf deep).path = .error (.unreadable tooLong) ∧
      (s.settings.run .sample).value = .ok {} := by
  intro s
  have hnames : ∀ name ∈ deep, IsName name := fun name hmem =>
    List.eq_of_mem_replicate hmem ▸ isName_longName
  have hfile : s.root.get? (entryOf deep) = some (.file "[output]\nformat = \"json\"\n".toUTF8) :=
    get?_put_self ..
  have hhas : s.HasEntry deep := by
    unfold HasEntry
    rw [hfile]
    rfl
  have hlong : longestPath < (entryOf deep).path.utf8ByteSize := by
    rw [utf8ByteSize_path (by simp [entryOf])]
    decide +kernel
  have hglobal : s.global? = none := by decide +kernel
  have hwhole : deep.take 17 = deep := List.take_of_length_le (by decide)
  have hnone : ∀ n ≤ deep.length, s.HasEntry (deep.take n) → ¬ Short (deep.take n) := by
    intro n hn hentry
    have hlast : ∀ n ≤ 17, s.HasEntry (deep.take n) → n = 17 := by decide +kernel
    rw [hlast n hn hentry, hwhole]
    exact Nat.not_le.2 hlong
  have hsource : s.source? = none := (source?_of_no_entry rfl hnames hnone).trans hglobal
  refine ⟨rfl, hnames, hhas, ?_, ?_, value_settings_of_no_source hsource .sample⟩
  · unfold settingsAt readAt
    rw [hfile]
    decide +kernel
  · have hnul := nul_not_mem_path (isName_of_mem_entryOf hnames)
    exact settingsFrom_of_place_error (place_of_long hnul hlong)

end Surroundings

end BootClock
