import BootClock.Proofs.LastError
/-!
# Reports for host programs

The call for a report can end in four ways (`Ending`). Two of them never happen (`ending_of_ok`): every
report has a text, and no character of it is below the blank, so a host that reads up to the first
zero byte has the whole text (`readBack_memory`) and in it the whole report.
-/

namespace BootClock

namespace Host

/-! ## C strings in memory -/

/-- What a host finds at the pointer of a text: its bytes, a zero, and whatever is in the memory
behind that. -/
def memory (text : String) (behind : List UInt8) : List UInt8 :=
  text.toUTF8.data.toList ++ 0 :: behind

/-- What a host reads at a pointer: the bytes up to the first zero, as a text. -/
def readBack (bytes : List UInt8) : Option String :=
  String.fromUTF8? (bytes.takeWhile (· != 0)).toByteArray

/-- Only the NUL is written with a zero byte: the others that are one byte long are that byte, and
the bytes of longer ones have their highest bit set. -/
theorem ne_zero_of_mem_utf8EncodeChar {c : Char} {b : UInt8} (hc : c ≠ '\x00')
    (hb : b ∈ String.utf8EncodeChar c) : b ≠ 0 := by
  have hval : c.val.toNat ≠ 0 := fun h => hc (Char.toNat_inj.1 h)
  have hbyte : ∀ n, n % 256 ≠ 0 → UInt8.ofNat n ≠ 0 := by
    intro n hn heq
    have hnat := congrArg UInt8.toNat heq
    rw [UInt8.toNat_ofNat'] at hnat
    exact hn hnat
  unfold String.utf8EncodeChar at hb
  simp only at hb
  split at hb
  · next hone =>
    rw [List.mem_singleton.1 hb]
    exact hbyte _ (by omega)
  · split at hb
    · simp only [List.mem_cons, List.not_mem_nil, or_false] at hb
      rcases hb with rfl | rfl
      all_goals exact hbyte _ (by omega)
    · split at hb
      · simp only [List.mem_cons, List.not_mem_nil, or_false] at hb
        rcases hb with rfl | rfl | rfl
        all_goals exact hbyte _ (by omega)
      · simp only [List.mem_cons, List.not_mem_nil, or_false] at hb
        rcases hb with rfl | rfl | rfl | rfl
        all_goals exact hbyte _ (by omega)

/-- A text without a NUL is read back whole. -/
theorem readBack_memory {text : String} (h : nulAt? text = none) (behind : List UInt8) :
    readBack (memory text behind) = some text := by
  rw [nulAt?_eq_none_iff] at h
  obtain ⟨cs, rfl⟩ := text.exists_eq_ofList
  rw [String.toList_ofList] at h
  have hbytes : (String.ofList cs).toUTF8.data.toList = cs.flatMap String.utf8EncodeChar :=
    List.toList_data_toByteArray
  have hnonzero : ∀ b ∈ cs.flatMap String.utf8EncodeChar, (b != 0) = true := by
    intro b hb
    obtain ⟨c, hc, hb⟩ := List.mem_flatMap.1 hb
    exact bne_iff_ne.2 (ne_zero_of_mem_utf8EncodeChar (fun heq => h (heq ▸ hc)) hb)
  rw [readBack, memory, hbytes, List.takeWhile_append_of_pos hnonzero,
    List.takeWhile_cons_of_neg (by decide), List.append_nil]
  exact dif_pos ByteArray.isValidUTF8_utf8Encode

/-! ## How the call ends -/

/-- A look that gives no report fails with what the report is refused for. -/
theorem fault?_eq_report (d : Device) : d.fault? =
    match (Query.report.run d).value with
    | .ok _ => none
    | .error f => some f := by
  rw [Device.fault?, Query.run_report, Query.run_sample]
  cases Query.sampleOf d.now d.kernel.bootTime <;> rfl

/-- **The report of a host program.** No text of a report has a character below the blank. So the
call answers a null pointer exactly if the device refuses a report, and with the message of that
refusal recorded; every other time the text of the device's report is given with nothing recorded, a
host that reads it up to the first zero has all of it, and it is read back as that report. A leap second
elsewhere than at the end of a minute, which no system's clock shows, would come back as the second
after it. -/
theorem reportJson_whole :
    (∀ r : Report, ∀ c ∈ r.json.toList, 0x20 ≤ c.toNat) ∧
    ∀ (t : Thread) (d : Device),
      let o := (call t .reportJson).run d
      (o.value.1 = .text none ↔ ∃ f, (Query.report.run d).value = .error f) ∧
      match (Query.report.run d).value with
      | .error f => ending (Query.report.run d).value = .unanswered f ∧
          o.value = (.text none, { lastError := cString? f.message })
      | .ok r => ending (Query.report.run d).value = .given r.json ∧
          o.value = (.text (some r.json), clear) ∧
          (∀ behind, readBack (memory r.json behind) = some r.json) ∧
          Report.ofJson r.json.toList = .ok r.told ∧ (d.now.Regular → r.told = r) := by
  constructor
  · intro r c hc
    rw [Report.json, String.toList_ofList] at hc
    exact Report.le_toNat_of_mem_compact hc
  · intro t d o
    have hvalue : o.value = _ := value_reportJson d
    rw [hvalue, recordedOf, fault?_eq_report]
    cases hreport : (Query.report.run d).value with
    | error f => exact ⟨by simp [Except.toOption], ending_of_error f, rfl⟩
    | ok r =>
      have hnow : r.sampledAt = d.now := Query.sampledAt_of_report hreport
      exact ⟨by simp [Except.toOption], ending_of_ok r, rfl, readBack_memory (nulAt?_json r),
        Report.ofJson_compact r, fun h => Report.told_eq_self_iff.2 (hnow ▸ h)⟩

end Host

end BootClock
