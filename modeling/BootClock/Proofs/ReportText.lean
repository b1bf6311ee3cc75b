import BootClock.Json.Report
import BootClock.Proofs.InstantText
import BootClock.Proofs.JsonInteger
import BootClock.Proofs.JsonText
import Mathlib.Data.List.TakeWhile
/-!
# Reading back a written report

The two ways to write a report differ only in the white space between its parts, a `Spacing`. The
reader of an object's members takes in one written member after the other (`readMembers_member`), so
all of them, whatever the spacing (`readMembers_members`), and finds every field of the report as it
was written (`ofJson_written`). Only the clock reading may come back as another instant, if it is in a
leap second elsewhere than at the end of a minute (`told_eq_self_iff`). A report on one line holds no
control character (`le_toNat_of_mem_compact`).
-/

namespace BootClock

namespace Json

variable {gap s : List Char}

theorem skipSpace_append (hgap : gap.all isSpace = true) (s : List Char) :
    skipSpace (gap ++ s) = skipSpace s :=
  List.dropWhile_append_of_pos (List.all_eq_true.1 hgap)

theorem readInteger_append (hgap : gap.all isSpace = true) (s : List Char) :
    readInteger (gap ++ s) = readInteger s := by
  simp only [readInteger, skipSpace_append hgap]

theorem readString_writeText (hgap : gap.all isSpace = true) (wanted : Wanted)
    (t s : List Char) :
    readString wanted (gap ++ (writeText t ++ s)) = .ok (String.ofList t, s) := by
  have hquote : skipSpace (writeText t ++ s) = '"' :: (t.flatMap escape ++ '"' :: s) := by
    simp [writeText, skipSpace, isSpace]
  simp only [readString, skipSpace_append hgap, hquote, readText_writeText, Except.map]

theorem atEnd_iff : atEnd s = true ↔ s.all isSpace = true := by
  rw [atEnd, skipSpace, List.isEmpty_iff, List.dropWhile_eq_nil_iff, List.all_eq_true]

/-- White space ends a number. -/
theorem Number.Ends.append (hs : Number.Ends s) (hgap : gap.all isSpace = true) :
    Number.Ends (gap ++ s) := by
  cases gap with
  | nil => exact hs
  | cons c gap =>
    have hspace := List.all_eq_true.1 hgap c List.mem_cons_self
    simp only [isSpace, Bool.or_eq_true, beq_iff_eq] at hspace
    rcases hspace with ((rfl | rfl) | rfl) | rfl
    all_goals exact ⟨by decide, by decide, by decide, by decide⟩

theorem Number.ends_of_space (hgap : gap.all isSpace = true) : Number.Ends gap := by
  have hnil : Number.Ends [] := trivial
  have happend := hnil.append hgap
  rwa [List.append_nil] at happend

end Json

namespace Report

open Json

/-- The white space of a written object: in front of every name, in front of every value, and in
front of the closing brace. -/
structure Spacing where
  name : List Char
  value : List Char
  close : List Char
  name_blank : name.all isSpace = true := by decide
  value_blank : value.all isSpace = true := by decide
  close_blank : close.all isSpace = true := by decide

namespace Spacing

/-- No white space at all. -/
def tight : Spacing where
  name := []
  value := []
  close := []

/-- A line for each member. -/
def lines : Spacing where
  name := ['\n', ' ', ' ']
  value := [' ']
  close := ['\n']

end Spacing

variable {sp : Spacing} {r : Report} {d : Draft} {f : Field} {s : List Char}

/-- The report that the text of a report tells. -/
def told (r : Report) : Report := { r with sampledAt := r.sampledAt.told }

theorem told_eq_self_iff : r.told = r ↔ r.sampledAt.Regular := by
  rw [← Instant.told_eq_self_iff]
  constructor
  · exact congrArg sampledAt
  · intro h
    rw [told, h]

/-! ## Drafts -/

namespace Draft

/-- The draft with the field of the report put in. -/
def put (d : Draft) (r : Report) : Field → Draft
  | .millis => { d with millis := some r.millis }
  | .seconds => { d with seconds := some r.seconds }
  | .human => { d with human := some r.human }
  | .boot => { d with boot := some r.boot }
  | .sampledAt => { d with sampledAt := some r.sampledAt }

theorem has_put (d : Draft) (r : Report) (f g : Field) :
    (d.put r f).has g = (d.has g || decide (f = g)) := by
  cases f <;> cases g <;> simp [put, has]

/-- With every field put in the draft is the report. -/
theorem complete_put_all (r : Report) :
    (Field.all.foldl (fun d f => put d r f) {}).complete = .ok r := rfl

theorem readField_value (sp : Spacing) (d : Draft) (f : Field) (r : Report) (hs : Number.Ends s) :
    d.readField f (sp.value ++ (f.value r ++ s)) = .ok (d.put r.told f, s) := by
  have hgap := sp.value_blank
  cases f with
  | millis | seconds | boot =>
    simp only [readField, Field.value, readInteger_append hgap, readInteger_ofInt _ hs, Except.map,
      put, told]
  | human =>
    simp only [readField, Field.value, readString_writeText hgap, String.ofList_toList, Except.map,
      put, told]
  | sampledAt =>
    simp only [readField, Field.value, readString_writeText hgap, String.toList_ofList,
      Instant.read_write _ (.inl rfl), bind, Except.bind, pure, Except.pure, put, told]

end Draft

/-! ## Members -/

theorem Field.ofName?_name (f : Field) : ofName? f.name = some f := by cases f <;> rfl

namespace Spacing

/-- A member of the object: the name, the colon and the value. -/
def member (sp : Spacing) (r : Report) (f : Field) : List Char :=
  sp.name ++ (writeText f.name ++ ':' :: (sp.value ++ f.value r))

/-- What stands in front of a member: nothing if it is the first one. -/
def lead : Bool → List Char
  | true => []
  | false => [',']

/-- The members of those fields. -/
def members (sp : Spacing) (r : Report) : Bool → List Field → List Char
  | _, [] => []
  | first, f :: fs => lead first ++ (sp.member r f ++ sp.members r false fs)

/-- The whole object. -/
def written (sp : Spacing) (r : Report) : List Char :=
  '\x7b' :: (sp.members r true Field.all ++ (sp.close ++ ['\x7d']))

theorem written_tight (r : Report) : tight.written r = r.compact := by
  simp [written, compact, members, lead, member, tight, Field.all, List.intercalate]

theorem written_lines (r : Report) : lines.written r = r.indented := by
  simp [written, indented, members, lead, member, lines, Field.all, List.intercalate]

/-- A number in a member is followed by a comma, white space or the closing brace. -/
theorem ends_members (sp : Spacing) (r : Report) (fs : List Field) (s : List Char) :
    Number.Ends (sp.members r false fs ++ (sp.close ++ '\x7d' :: s)) := by
  cases fs with
  | nil =>
    have hbrace : Number.Ends ('\x7d' :: s) := ⟨rfl, by decide, by decide, by decide⟩
    exact hbrace.append sp.close_blank
  | cons f fs => exact ⟨rfl, by decide, by decide, by decide⟩

end Spacing

theorem readMember_member (sp : Spacing) (hd : d.has f = false) (hs : Number.Ends s) :
    readMember d (f.name.flatMap escape ++ '"' :: ':' :: (sp.value ++ (f.value r ++ s))) =
      .ok (d.put r.told f, s) := by
  have hcolon : ∀ t, afterColon (':' :: t) = .ok t := fun t => rfl
  simp only [readMember, readText_writeText, Field.ofName?_name, hd, hcolon,
    Draft.readField_value sp d f r hs, bind, Except.bind]
  rfl

/-- A member is taken in, and the reader goes on behind it. -/
theorem readMembers_member (sp : Spacing) (first : Bool) (hd : d.has f = false)
    (hs : Number.Ends s) :
    readMembers first d (Spacing.lead first ++ (sp.member r f ++ s)) =
      readMembers false (d.put r.told f) s := by
  have hname : skipSpace (sp.member r f ++ s) =
      '"' :: (f.name.flatMap escape ++ '"' :: ':' :: (sp.value ++ (f.value r ++ s))) := by
    simp only [Spacing.member, List.append_assoc, skipSpace_append sp.name_blank]
    simp [writeText, skipSpace, isSpace]
  have hcomma : ∀ t, skipSpace (',' :: t) = ',' :: t := fun t => rfl
  have hlength : s.length < (Spacing.lead first ++ (sp.member r f ++ s)).length := by
    simp [Spacing.member, writeText]
    omega
  rw [readMembers.eq_def]
  cases first with
  | true =>
    simp only [Spacing.lead, List.nil_append] at hlength ⊢
    simp only [hname, readMember_member sp hd hs, hlength, if_true]
  | false =>
    simp only [Spacing.lead, List.cons_append, List.nil_append] at hlength ⊢
    simp only [hcomma, hname, readMember_member sp hd hs, hlength, if_true]

theorem readMembers_close (sp : Spacing) (first : Bool) (d : Draft) (s : List Char) :
    readMembers first d (sp.close ++ '\x7d' :: s) = .ok (d, s) := by
  have hbrace : skipSpace (sp.close ++ '\x7d' :: s) = '\x7d' :: s :=
    skipSpace_append sp.close_blank _
  rw [readMembers.eq_def]
  simp only [hbrace, List.drop_succ_cons, List.drop_zero]

/-- Members of different fields, none of which was there before, are all taken in. -/
theorem readMembers_members (sp : Spacing) (r : Report) (first : Bool) {fs : List Field}
    (hfs : fs.Nodup) (hd : ∀ f ∈ fs, d.has f = false) (s : List Char) :
    readMembers first d (sp.members r first fs ++ (sp.close ++ '\x7d' :: s)) =
      .ok (fs.foldl (fun d f => d.put r.told f) d, s) := by
  induction fs generalizing first d with
  | nil => exact readMembers_close sp first d s
  | cons f fs ih =>
    obtain ⟨hf, hfs⟩ := List.nodup_cons.1 hfs
    have hrest : ∀ g ∈ fs, (d.put r.told f).has g = false := by
      intro g hg
      have hne : f ≠ g := fun heq => hf (heq ▸ hg)
      simp [Draft.has_put, hd g (List.mem_cons_of_mem f hg), hne]
    rw [Spacing.members, List.append_assoc, List.append_assoc,
      readMembers_member sp first (hd f List.mem_cons_self) (sp.ends_members r fs s)]
    exact ih false hfs hrest

/-! ## Whole reports -/

theorem Field.value?_eq_value (r : Report) (f : Field) : f.value? r = some (f.value r) := by
  cases f with
  | sampledAt => rw [Field.value?, Instant.write?_eq_write]; rfl
  | millis | seconds | human | boot => rfl

/-- Every report has a text. -/
theorem json?_eq_json (r : Report) : r.json? = some r.json := by
  have hmembers :
      (Field.all.mapM fun f => do return Json.writeText f.name ++ ':' :: (← f.value? r)) =
        some (Field.all.map fun f => Json.writeText f.name ++ ':' :: f.value r) := by
    simp only [Field.value?_eq_value]
    rfl
  rw [json?, hmembers]
  rfl

/-- White space may follow the object. -/
theorem ofJson_written_append (sp : Spacing) (r : Report) {gap : List Char}
    (hgap : gap.all isSpace = true) : ofJson (sp.written r ++ gap) = .ok r.told := by
  have hempty : ∀ f ∈ Field.all, Draft.has {} f = false := by decide
  have hmembers := readMembers_members sp r true (by decide) hempty gap
  have hbrace : ∀ t, skipSpace ('\x7b' :: t) = '\x7b' :: t := fun t => rfl
  have hend : atEnd gap = true := atEnd_iff.2 hgap
  simp only [ofJson, readJson, Spacing.written, List.cons_append, List.append_assoc,
    List.nil_append, hbrace, hmembers, Draft.complete_put_all, bind, Except.bind, pure, Except.pure,
    whole, hend, if_true]

theorem ofJson_written (sp : Spacing) (r : Report) : ofJson (sp.written r) = .ok r.told := by
  have h := ofJson_written_append sp r (rfl : [].all isSpace = true)
  rwa [List.append_nil] at h

theorem ofJson_compact (r : Report) : ofJson r.json.toList = .ok r.told := by
  rw [json, String.toList_ofList, ← Spacing.written_tight]
  exact ofJson_written .tight r

namespace Field

theorem le_toNat_of_mem_value {c : Char} (h : c ∈ f.value r) : 32 ≤ c.toNat := by
  have hinteger : ∀ i : Int64, c ∈ Numeral.ofInt i.toInt → 32 ≤ c.toNat := by
    intro i hi
    rcases Numeral.mem_ofInt hi with rfl | hdigit
    · decide
    · have hrange := toNat_of_isDigit hdigit
      omega
  cases f with
  | millis | seconds | boot => exact hinteger _ h
  | human | sampledAt => exact le_toNat_of_mem_writeText h

end Field

namespace Spacing

theorem le_toNat_of_mem_member {c : Char} (h : c ∈ tight.member r f) : 32 ≤ c.toNat := by
  simp only [member, tight, List.nil_append, List.mem_append, List.mem_cons] at h
  rcases h with hname | rfl | hvalue
  · exact le_toNat_of_mem_writeText hname
  · decide
  · exact Field.le_toNat_of_mem_value hvalue

theorem le_toNat_of_mem_members {c : Char} {first : Bool} {fs : List Field}
    (h : c ∈ tight.members r first fs) : 32 ≤ c.toNat := by
  induction fs generalizing first with
  | nil => cases h
  | cons f fs ih =>
    simp only [members, List.mem_append] at h
    rcases h with hlead | hmember | hrest
    · cases first with
      | true => cases hlead
      | false => rw [List.mem_singleton.1 hlead]; decide
    · exact le_toNat_of_mem_member hmember
    · exact ih hrest

end Spacing

/-- What is written on one line holds no control character. -/
theorem le_toNat_of_mem_compact {c : Char} (h : c ∈ r.compact) : 32 ≤ c.toNat := by
  rw [← Spacing.written_tight] at h
  simp only [Spacing.written, List.mem_cons, List.mem_append] at h
  rcases h with rfl | hmembers | hclose | rfl | hnil
  · decide
  · exact Spacing.le_toNat_of_mem_members hmembers
  · cases hclose
  · decide
  · cases hnil

end Report

end BootClock
