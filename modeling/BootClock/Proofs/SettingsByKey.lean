import BootClock.Proofs.DistinctKeys
import BootClock.Proofs.Limits
import BootClock.Proofs.NearestSettings
/-!
# Each setting has its own key

The reader of settings goes through a document entry by entry and stops at the first value that is
not what its key wants. As no table of a document has a key twice, the outcome is the same as if
each setting were looked up under its key, with a default where the key is absent: in a section
(`Thresholds.readKey_eq_ok_iff`, `Format.readKey_eq_readKey`) as at the root
(`Settings.ofTable_eq_ok_iff`). So a document sets exactly the settings whose keys it has, and a
threshold that is none is refused and not passed over (`settings_by_key`). A document beyond the
limits of the reader sets none of them, wherever in it the limit is passed.
-/

namespace BootClock

/-! ## Reading by key -/

namespace Keyed

variable {α β γ ε σ : Type} {t : Keyed α} {e : String × α} {key key' : String} {v : α}
  {read : α → Except ε β} {read' : α → Except ε γ} {b b' : β} {c c' : γ}

/-- What the value under a key reads as, and a default without the key. -/
def readKey (t : Keyed α) (key : String) (read : α → Except ε β) (default : β) : Except ε β :=
  match t.get? key with
  | some v => read v
  | none => .ok default

theorem readKey_of_get? (h : t.get? key = some v) : t.readKey key read b = read v := by
  unfold readKey
  rw [h]

theorem readKey_of_absent (h : t.get? key = none) : t.readKey key read b = .ok b := by
  unfold readKey
  rw [h]

theorem readKey_cons_self (h : e.1 = key) : readKey (e :: t) key read b = read e.2 :=
  readKey_of_get? ((get?_cons e t key).trans (if_pos h))

theorem readKey_cons_of_ne (h : e.1 ≠ key) :
    readKey (e :: t) key read b = readKey t key read b := by
  unfold readKey
  rw [get?_cons, if_neg h]

/-- Behind the entry with a key, the rest has none. -/
theorem readKey_tail (hnew : e.1 ∉ t.map Prod.fst) (h : e.1 = key) : t.readKey key read b = .ok b :=
  readKey_of_absent (get?_eq_none_of_not_mem (h ▸ hnew))

/-- One slot, filled from the value under one key. -/
theorem foldlM_eq_readKey {step : β → String × α → Except ε β}
    (hstep : ∀ b e, step b e = if e.1 = key then read e.2 else .ok b) (ht : t.Distinct) (b : β) :
    t.foldlM step b = t.readKey key read b := by
  induction t generalizing b with
  | nil => rfl
  | cons e t ih =>
    obtain ⟨hnew, htail⟩ := distinct_cons.1 ht
    rw [List.foldlM_cons, hstep]
    by_cases hkey : e.1 = key
    · rw [if_pos hkey, readKey_cons_self hkey]
      cases hread : read e.2 with
      | error u => rfl
      | ok a => exact (ih htail a).trans (readKey_tail hnew hkey)
    · rw [if_neg hkey, readKey_cons_of_ne hkey]
      exact ih htail b

/-- Two slots, each filled from the value under its own key: what the one reads does not reach the
other. -/
theorem foldlM_eq_ok_iff (mk : β → γ → σ) {step : σ → String × α → Except ε σ}
    (hmk : ∀ {b c b' c'}, mk b c = mk b' c' ↔ b = b' ∧ c = c') (hkeys : key ≠ key')
    (hstep : ∀ b c e, step (mk b c) e =
      if e.1 = key then (read e.2).map (mk · c)
      else if e.1 = key' then (read' e.2).map (mk b ·)
      else .ok (mk b c))
    (ht : t.Distinct) :
    t.foldlM step (mk b c) = .ok (mk b' c') ↔
      t.readKey key read b = .ok b' ∧ t.readKey key' read' c = .ok c' := by
  induction t generalizing b c with
  | nil => simp [readKey, get?, pure, Except.pure, hmk]
  | cons e t ih =>
    obtain ⟨hnew, htail⟩ := distinct_cons.1 ht
    rw [List.foldlM_cons, hstep]
    by_cases hkey : e.1 = key
    · have hother : e.1 ≠ key' := hkey ▸ hkeys
      rw [if_pos hkey, readKey_cons_self hkey, readKey_cons_of_ne hother]
      cases hread : read e.2 with
      | error u => simp [Except.map, bind, Except.bind]
      | ok a =>
        -- the slot stays as this entry leaves it, as no later one has its key
        have hrest := ih (b := a) (c := c) htail
        rwa [readKey_tail hnew hkey] at hrest
    · rw [if_neg hkey, readKey_cons_of_ne hkey]
      by_cases hother : e.1 = key'
      · rw [if_pos hother, readKey_cons_self hother]
        cases hread : read' e.2 with
        | error u => simp [Except.map, bind, Except.bind]
        | ok a =>
          have hrest := ih (b := b) (c := a) htail
          rwa [readKey_tail hnew hother] at hrest
      · rw [if_neg hother, readKey_cons_of_ne hother]
        exact ih htail

end Keyed

open Toml Keyed

/-! ## Sections -/

/-- The entries under a key that is a table, none if it is absent; other values are no section. -/
def Toml.Table.section? (t : Table) (key : String) : Option Table :=
  match t.get? key with
  | none => some []
  | some (.table _ es) => some es
  | some _ => none

section Sections

variable {t es clock output : Table} {origin : Origin} {key : String} {v : Value} {β : Type}

theorem Toml.Table.section?_eq_some_iff :
    t.section? key = some es ↔
      t.get? key = none ∧ es = [] ∨ ∃ origin, t.get? key = some (.table origin es) := by
  unfold section?
  cases hvalue : t.get? key with
  | none => simp [eq_comm]
  | some v => cases v <;> simp [eq_comm]

theorem Toml.Table.Proper.section? (ht : t.Proper) (h : t.section? key = some es) : es.Proper := by
  rcases Table.section?_eq_some_iff.1 h with ⟨-, rfl⟩ | ⟨origin, hvalue⟩
  · exact Table.proper_nil
  · exact Table.proper_table_iff.1 (ht.get? hvalue)

/-- An absent section reads as an empty one. -/
theorem readKey_of_section {read : Value → Except Unsuitable β} {default : β}
    (hdefault : ∀ origin, read (.table origin []) = .ok default) (h : t.section? key = some es) :
    ∃ origin, t.readKey key read default = read (.table origin es) := by
  rcases Table.section?_eq_some_iff.1 h with ⟨hnone, rfl⟩ | ⟨origin, hvalue⟩
  · exact ⟨.header, (readKey_of_absent hnone).trans (hdefault .header).symm⟩
  · exact ⟨origin, readKey_of_get? hvalue⟩

namespace Thresholds

theorem ofValue_eq_ok_iff (hes : Keyed.Distinct es) {limits : Thresholds} :
    ofValue (.table origin es) = .ok limits ↔
      es.readKey lagKey limit 180 = .ok limits.lag ∧
        es.readKey resyncKey limit 60 = .ok limits.resync :=
  foldlM_eq_ok_iff Thresholds.mk (by simp) (by decide) (fun _ _ _ => rfl) hes

theorem readKey_eq_ok_iff (ht : t.Proper) (hclock : t.section? Settings.thresholdsKey = some clock)
    {limits : Thresholds} :
    t.readKey Settings.thresholdsKey ofValue {} = .ok limits ↔
      clock.readKey lagKey limit 180 = .ok limits.lag ∧
        clock.readKey resyncKey limit 60 = .ok limits.resync := by
  have hdefault : ∀ origin, ofValue (.table origin []) = .ok {} := fun _ => rfl
  obtain ⟨origin, hread⟩ := readKey_of_section hdefault hclock
  rw [hread]
  exact ofValue_eq_ok_iff (ht.section? hclock).1

/-- A threshold is what its key says, if that is not negative, and the default without the key. -/
theorem exists_readKey_limit {n : Option Int64}
    (h : es.get? key = n.map .integer) (hn : ∀ i ∈ n, 0 ≤ i.toInt) (default : UInt64) :
    ∃ l, es.readKey key limit default = .ok l ∧
      (l.toNat : Int) = n.elim (default.toNat : Int) Int64.toInt := by
  cases n with
  | none => exact ⟨default, readKey_of_absent h, rfl⟩
  | some i =>
    have hi : 0 ≤ i.toInt := hn i rfl
    have hlt : i.toInt.toNat < UInt64.size := by
      have hle := i.toInt_lt
      simp only [UInt64.size]
      omega
    refine ⟨.ofNat i.toInt.toNat, (readKey_of_get? h).trans (if_pos hi), ?_⟩
    rw [UInt64.toNat_ofNat_of_lt' hlt, Int.toNat_of_nonneg hi]
    rfl

/-- Nothing but an integer that is not negative is a threshold. -/
theorem limit_ne_ok (h : ∀ n, v = .integer n → n.toInt < 0) (l : UInt64) : limit v ≠ .ok l := by
  intro hok
  unfold limit at hok
  split at hok
  · next n =>
    have hneg := h n rfl
    rw [if_neg (by omega)] at hok
    cases hok
  · cases hok

end Thresholds

namespace Format

theorem readKey_eq_readKey (ht : t.Proper) (houtput : t.section? Settings.outputKey = some output) :
    t.readKey Settings.outputKey ofSection .text = output.readKey Format.key ofValue .text := by
  have hdefault : ∀ origin, ofSection (.table origin []) = .ok .text := fun _ => rfl
  obtain ⟨origin, hread⟩ := readKey_of_section hdefault houtput
  rw [hread]
  exact foldlM_eq_readKey (fun _ _ => rfl) (ht.section? houtput).1 Format.text

/-- The format is the one that its key names, and the default without the key. -/
theorem readKey_eq_getD {f : Option Format} (h : es.get? Format.key = f.map (.text ·.name)) :
    es.readKey Format.key ofValue .text = .ok (f.getD .text) := by
  cases f with
  | none => exact readKey_of_absent h
  | some f =>
    have hname : ofName f.name = .ok f := by
      unfold ofName
      rw [ofName?_name]
    exact (readKey_of_get? h).trans hname

end Format

end Sections

/-! ## Loading -/

theorem Settings.ofTable_eq_ok_iff {t : Table} (ht : Keyed.Distinct t) {s : Settings} :
    ofTable t = .ok s ↔
      t.readKey thresholdsKey Thresholds.ofValue {} = .ok s.thresholds ∧
        t.readKey outputKey Format.ofSection .text = .ok s.format :=
  foldlM_eq_ok_iff Settings.mk (by simp) (by decide) (fun _ _ _ => rfl) ht

theorem Toml.Value.found_eq_integer_iff {v : Value} {n : Int64} :
    v.found = .integer n.toInt ↔ v = .integer n := by
  cases v <;> simp [found, Int64.toInt_inj]

theorem Toml.Value.found_eq_text_iff {v : Value} {s : String} :
    v.found = .text s ↔ v = .text s := by
  cases v <;> simp [found]

namespace Surroundings

variable {w : Surroundings} {path text : String} {t clock : Table}

/-- The path leads to a file that holds the text. -/
def Holds (w : Surroundings) (path text : String) : Prop :=
  ∃ place, w.root.place w.current path = .ok place ∧ w.root.readAt place = .ok text.toUTF8

theorem settingsFrom_of_holds (h : w.Holds path text) :
    w.settingsFrom path = Settings.ofText text := by
  obtain ⟨place, hplace, hread⟩ := h
  have hdecode : String.fromUTF8? text.toUTF8 = some text := dif_pos text.isValidUTF8
  simp only [settingsFrom, settingsAt, Settings.ofBytes, hplace, hread, hdecode]

theorem settingsFrom_of_document (hfile : w.Holds path text)
    (htext : Table.ofText? .standard text.toList = some t) :
    w.settingsFrom path = (Settings.ofTable t).mapError .unsuitable := by
  rw [settingsFrom_of_holds hfile]
  simp only [Settings.ofText, htext]
  cases Settings.ofTable t <;> rfl

theorem settingsFrom_of_refused (hfile : w.Holds path text)
    (htext : Table.ofText? .standard text.toList = none) :
    w.settingsFrom path = .error .malformed := by
  rw [settingsFrom_of_holds hfile]
  simp only [Settings.ofText, htext]

theorem settingsFrom_beyond (hfile : w.Holds path text)
    (hbeyond : ¬KeysWithin 79 text.toList ∨ ¬NestedWithin 79 text.toList ∨
      ¬FiniteNumbers text.toList) :
    w.settingsFrom path = .error .malformed := by
  refine settingsFrom_of_refused hfile ?_
  cases htext : Table.ofText? .standard text.toList with
  | none => rfl
  | some u =>
    obtain ⟨-, hkeys, hnested, hfinite⟩ := (Table.ofText?_eq_some_iff 79 79).1 htext
    exact hbeyond.elim (absurd hkeys) (·.elim (absurd hnested) (absurd hfinite))

theorem settings_within (hfile : w.Holds path text)
    (htext : Table.ofText? .standard text.toList = some t)
    (hclock : t.section? "time_service" = some clock) {output : Table}
    {lag resync : Option Int64} {format : Option Format}
    (houtput : t.section? "output" = some output)
    (hlag : clock.get? "network_lag_threshold_secs" = lag.map .integer)
    (hresync : clock.get? "resync_threshold_secs" = resync.map .integer)
    (hformat : output.get? "format" = format.map (.text ·.name))
    (hnonneg : ∀ n, n ∈ lag ∨ n ∈ resync → 0 ≤ n.toInt) :
    ∃ s, w.settingsFrom path = .ok s ∧
      (s.thresholds.lag.toNat : Int) = lag.elim 180 Int64.toInt ∧
      (s.thresholds.resync.toNat : Int) = resync.elim 60 Int64.toInt ∧
      s.format = format.getD .text := by
  have ht := Table.proper_of_ofText? htext
  obtain ⟨l, hl, hlvalue⟩ := Thresholds.exists_readKey_limit hlag
    (fun n hn => hnonneg n (.inl hn)) 180
  obtain ⟨r, hr, hrvalue⟩ := Thresholds.exists_readKey_limit hresync
    (fun n hn => hnonneg n (.inr hn)) 60
  have hthresholds : t.readKey Settings.thresholdsKey Thresholds.ofValue {} = .ok ⟨l, r⟩ :=
    (Thresholds.readKey_eq_ok_iff ht hclock).2 ⟨hl, hr⟩
  have hname := (Format.readKey_eq_readKey ht houtput).trans (Format.readKey_eq_getD hformat)
  have hok : Settings.ofTable t = .ok ⟨⟨l, r⟩, format.getD .text⟩ :=
    (Settings.ofTable_eq_ok_iff ht.1).2 ⟨hthresholds, hname⟩
  rw [settingsFrom_of_document hfile htext, hok]
  exact ⟨_, rfl, hlvalue, hrvalue, rfl⟩

theorem settings_unsuitable (hfile : w.Holds path text)
    (htext : Table.ofText? .standard text.toList = some t)
    (hclock : t.section? "time_service" = some clock) {key : String} {v : Value}
    (hkey : key = "network_lag_threshold_secs" ∨ key = "resync_threshold_secs")
    (hvalue : clock.get? key = some v) (hbad : ∀ n, v = .integer n → n.toInt < 0) :
    ∃ u, w.settingsFrom path = .error (.unsuitable u) := by
  have ht := Table.proper_of_ofText? htext
  rw [settingsFrom_of_document hfile htext]
  cases htable : Settings.ofTable t with
  | error u => exact ⟨u, rfl⟩
  | ok s =>
    -- a table that is read has both thresholds read
    obtain ⟨hthresholds, -⟩ := (Settings.ofTable_eq_ok_iff ht.1).1 htable
    obtain ⟨hlag, hresync⟩ := (Thresholds.readKey_eq_ok_iff ht hclock).1 hthresholds
    rcases hkey with rfl | rfl
    · exact absurd ((readKey_of_get? hvalue).symm.trans hlag) (Thresholds.limit_ne_ok hbad _)
    · exact absurd ((readKey_of_get? hvalue).symm.trans hresync) (Thresholds.limit_ne_ok hbad _)

/-- **Every setting has its own key.** Of a document whose section `time_service` is a table or
absent, and whose keys have at most 79 names, whose arrays and inline tables are nested at most 79
deep and whose positive numbers are not too large to be finite, the settings are what the keys say
that it has and the defaults for those that it has not, whatever else is in it and in whatever order;
and a threshold that is no integer or a negative one is refused. A document beyond one of these three
limits is refused as a whole, as if it were none. So with a threshold that is none, nothing is loaded
in either case. -/
theorem settings_by_key (hfile : w.Holds path text) (hdocument : IsDocument text.toList t)
    (hclock : t.section? "time_service" = some clock) :
    (KeysWithin 79 text.toList → NestedWithin 79 text.toList → FiniteNumbers text.toList →
      (∀ (output : Table) (lag resync : Option Int64) (format : Option Format),
        t.section? "output" = some output →
        clock.get? "network_lag_threshold_secs" = lag.map .integer →
        clock.get? "resync_threshold_secs" = resync.map .integer →
        output.get? "format" = format.map (.text ·.name) →
        (∀ n, n ∈ lag ∨ n ∈ resync → 0 ≤ n.toInt) →
        ∃ s, w.settingsFrom path = .ok s ∧
          (s.thresholds.lag.toNat : Int) = lag.elim 180 Int64.toInt ∧
          (s.thresholds.resync.toNat : Int) = resync.elim 60 Int64.toInt ∧
          s.format = format.getD .text) ∧
      (∀ key v, key = "network_lag_threshold_secs" ∨ key = "resync_threshold_secs" →
        clock.get? key = some v → (∀ n, v = .integer n → n.toInt < 0) →
        ∃ u, w.settingsFrom path = .error (.unsuitable u))) ∧
    (¬KeysWithin 79 text.toList ∨ ¬NestedWithin 79 text.toList ∨ ¬FiniteNumbers text.toList →
      w.settingsFrom path = .error .malformed) ∧
    (∀ key v, key = "network_lag_threshold_secs" ∨ key = "resync_threshold_secs" →
      clock.get? key = some v → (∀ n, v = .integer n → n.toInt < 0) →
      ∃ fault, w.settingsFrom path = .error fault) := by
  refine ⟨fun hkeys hnested hfinite => ?_, settingsFrom_beyond hfile, fun key v hkey hvalue hbad => ?_⟩
  · have htext := (Table.ofText?_eq_some_iff 79 79).2 ⟨hdocument, hkeys, hnested, hfinite⟩
    exact ⟨fun _ _ _ _ houtput hlag hresync hformat hnonneg =>
        settings_within hfile htext hclock houtput hlag hresync hformat hnonneg,
      fun _ _ hkey hvalue hbad => settings_unsuitable hfile htext hclock hkey hvalue hbad⟩
  · cases htext : Table.ofText? .standard text.toList with
    | none => exact ⟨_, settingsFrom_of_refused hfile htext⟩
    | some u =>
      obtain rfl := hdocument.unique ⟨_, htext⟩
      obtain ⟨u, hu⟩ := settings_unsuitable hfile htext hclock hkey hvalue hbad
      exact ⟨_, hu⟩

/-- Sets the format, among colours, and further down one threshold, among retries. -/
def lagAndJson : String :=
  "\n".intercalate ["title = \"all\"", "[output]", "colors = [[1], [2.5, true]]",
    "format = 'json'", "[time_service]", "retry.at = 07:30:00", "network_lag_threshold_secs = 0xF0"]

/-- A threshold in quotes. -/
def quotedResync : String := "time_service.resync_threshold_secs = \"60\"\n"

theorem holds_homeWith (text : String) :
    (homeWith (.file text.toUTF8) []).Holds "/home/u/.device-uptime.toml" text :=
  ⟨["home", "u", ".device-uptime.toml"], rfl, rfl⟩

/-- One threshold and the format are set, the other threshold keeps its default; and a threshold in
quotes is refused. -/
theorem settings_of_lag_and_json :
    let path := "/home/u/.device-uptime.toml"
    let w := homeWith (.file lagAndJson.toUTF8) []
    let w' := homeWith (.file quotedResync.toUTF8) []
    w.settingsFrom path = .ok ⟨⟨240, 60⟩, .json⟩ ∧
      ∃ u, w'.settingsFrom path = .error (.unsuitable u) := by
  intro path w w'
  constructor
  · have hread : (do
        let t ← Table.ofText? ⟨79, 79, true⟩ lagAndJson.toList
        let clock ← t.section? "time_service"
        let output ← t.section? "output"
        return ((clock.get? "network_lag_threshold_secs").map Value.found,
          (clock.get? "resync_threshold_secs").map Value.found,
          (output.get? "format").map Value.found)) =
        some (some (.integer (240 : Int64).toInt), none, some (.text "json")) := by
      decide +kernel
    simp only [Option.bind_eq_bind, Option.bind_eq_some_iff, Option.pure_def, Option.some.injEq,
      Prod.mk.injEq, Option.map_eq_some_iff, Option.map_eq_none_iff] at hread
    obtain ⟨t, htext, clock, hclock, output, houtput, ⟨_, hlag, hn⟩, hresync, _, hformat, hs⟩ :=
      hread
    obtain rfl := Value.found_eq_integer_iff.1 hn
    obtain rfl := Value.found_eq_text_iff.1 hs
    have hnonneg : ∀ n : Int64, n ∈ some 240 ∨ n ∈ none → 0 ≤ n.toInt := by
      rintro n (hn | hn)
      · obtain rfl : 240 = n := Option.some.inj hn
        decide
      · cases hn
    obtain ⟨hdocument, hkeys, hnested, hfinite⟩ := (Table.ofText?_eq_some_iff 79 79).1 htext
    obtain ⟨hwithin, -⟩ := settings_by_key (holds_homeWith lagAndJson) hdocument hclock
    obtain ⟨hset, -⟩ := hwithin hkeys hnested hfinite
    obtain ⟨s, hs, hlag, hresync, hformat⟩ :=
      hset output (some 240) none (some .json) houtput hlag hresync hformat hnonneg
    obtain ⟨⟨l, r⟩, f⟩ := s
    obtain rfl : l = 240 := UInt64.toNat_inj.1 (Int.ofNat_inj.1 hlag)
    obtain rfl : r = 60 := UInt64.toNat_inj.1 (Int.ofNat_inj.1 hresync)
    obtain rfl : f = .json := hformat
    exact hs
  · have hread : (do
        let t ← Table.ofText? ⟨79, 79, true⟩ quotedResync.toList
        let clock ← t.section? "time_service"
        return (clock.get? "resync_threshold_secs").map Value.found) =
        some (some (.text "60")) := by
      decide +kernel
    simp only [Option.bind_eq_bind, Option.bind_eq_some_iff, Option.pure_def, Option.some.injEq,
      Option.map_eq_some_iff] at hread
    obtain ⟨t, htext, clock, hclock, _, hresync, hs⟩ := hread
    obtain rfl := Value.found_eq_text_iff.1 hs
    obtain ⟨hdocument, hkeys, hnested, hfinite⟩ := (Table.ofText?_eq_some_iff 79 79).1 htext
    obtain ⟨hwithin, -⟩ := settings_by_key (holds_homeWith quotedResync) hdocument hclock
    obtain ⟨-, hrefused⟩ := hwithin hkeys hnested hfinite
    exact hrefused _ _ (.inr rfl) hresync nofun

/-- A number that is too large to be finite. -/
def hugeNumber : String := "x = 1e400\n"

/-- Documents without any setting, each beyond one of the limits: a number, an array and a key. -/
def unlimited : List String :=
  [hugeNumber, "x = " ++ String.ofList (List.replicate 80 '[' ++ List.replicate 80 ']') ++ "\n",
    ".".intercalate (List.replicate 80 "a") ++ " = 1\n"]

theorem settings_of_unlimited {text : String} (htext : text ∈ unlimited) :
    (∃ t, IsDocument text.toList t ∧ t.section? "time_service" = some [] ∧
      t.section? "output" = some []) ∧
    (homeWith (.file text.toUTF8) []).settingsFrom "/home/u/.device-uptime.toml" =
      .error .malformed := by
  have hreads : ∀ text ∈ unlimited,
      (Table.ofText? ⟨80, 80, false⟩ text.toList).map
        (fun t => (t.get? "time_service").isNone && (t.get? "output").isNone) = some true ∧
      (Table.ofText? .standard text.toList).isNone := by
    decide +kernel
  obtain ⟨hdocument, hrefused⟩ := hreads text htext
  obtain ⟨t, ht, hnone⟩ := Option.map_eq_some_iff.1 hdocument
  obtain ⟨hclock, houtput⟩ := Bool.and_eq_true_iff.1 hnone
  refine ⟨⟨t, ⟨_, ht⟩, ?_, ?_⟩, settingsFrom_of_refused (holds_homeWith text) ?_⟩
  · exact Table.section?_eq_some_iff.2 (.inl ⟨Option.isNone_iff_eq_none.1 hclock, rfl⟩)
  · exact Table.section?_eq_some_iff.2 (.inl ⟨Option.isNone_iff_eq_none.1 houtput, rfl⟩)
  · exact Option.isNone_iff_eq_none.1 hrefused

/-- A document that sets nothing is refused for a number under a key of no setting: the defaults do
not hold. -/
theorem settings_of_huge_number :
    (∃ t, IsDocument hugeNumber.toList t ∧ t.section? "time_service" = some [] ∧
      t.section? "output" = some []) ∧
    (homeWith (.file hugeNumber.toUTF8) []).settingsFrom "/home/u/.device-uptime.toml" =
      .error .malformed :=
  settings_of_unlimited List.mem_cons_self

end Surroundings

end BootClock
