import ReportQuery.Files
import ReportQuery.Proofs.Results

/-!
# Files that are written over

Writing over a file that is there leaves every path to what it led to. A path
therefore reads as it did, or it led to the file that was written, and of
several texts written to one file the last one stays.
-/

namespace ReportQuery.Files

variable {files : Files} {path text : String}

theorem read_eq_ok_iff :
    files.read path = .ok text ↔
      ∃ place, files.follow path = .ok place ∧
        files.entries.lookup place = some text := by
  rw [read, Except.bind_eq_ok_iff]
  constructor
  · rintro ⟨place, hplace, htext⟩
    split at htext
    · next found hfound =>
        obtain rfl := Except.ok.inj htext
        exact ⟨place, hplace, hfound⟩
    · simp at htext
  · rintro ⟨place, hplace, hlookup⟩
    exact ⟨place, hplace, by simp [hlookup]⟩

theorem lookup_put_other {place other content : String}
    (h : (files.entries.lookup place).isSome) (hne : other ≠ place) :
    (files.put place content).entries.lookup other =
      files.entries.lookup other := by
  rw [put, if_pos h]
  change List.lookup other (files.entries.map _) = _
  generalize files.entries = entries
  induction entries with
  | nil => rfl
  | cons entry rest ih =>
      obtain ⟨name, found⟩ := entry
      rw [List.map_cons, List.lookup_cons, List.lookup_cons, ih]
      by_cases hname : other = name
      · subst hname
        simp [hne]
      · have hmiss : (other == name) = false := by simpa using hname
        rw [hmiss]

theorem put_put {place first second : String}
    (h : (files.entries.lookup place).isSome) :
    (files.put place first).put place second = files.put place second := by
  have hagain : ((files.put place first).entries.lookup place).isSome := by
    rw [lookup_put_same h]
    rfl
  rw [put, if_pos hagain, put, if_pos h, put, if_pos h]
  simp only [List.map_map, Files.mk.injEq, and_true, true_and]
  refine List.map_congr_left fun entry _ => ?_
  by_cases hentry : entry.1 = place <;> simp [hentry]

/-- A path reads as it did before a file was written, unless it led to the
file. -/
theorem read_write_cases (h : files.read path = .ok text)
    (content other : String) :
    (files.write path content).read other = files.read other ∨
      files.read other = .ok text ∧
        (files.write path content).read other = .ok content := by
  obtain ⟨place, hplace, hlookup⟩ := read_eq_ok_iff.mp h
  have hfile : (files.entries.lookup place).isSome := by
    rw [hlookup, Option.isSome_some]
  have hwrite : files.write path content = files.put place content := by
    rw [write, hplace]
  rw [hwrite]
  cases hother : files.follow other with
  | error fault =>
      left
      rw [read, read, follow_put hfile, hother]
      rfl
  | ok found =>
      by_cases hsame : found = place
      · subst hsame
        right
        refine ⟨read_eq_ok_iff.mpr ⟨found, hother, hlookup⟩,
          read_eq_ok_iff.mpr ⟨found, ?_, ?_⟩⟩
        · rw [follow_put hfile, hother]
        · exact lookup_put_same hfile
      · left
        rw [read, read, follow_put hfile, hother]
        simp only [Except.bind, lookup_put_other hfile hsame]

theorem write_write (h : files.read path = .ok text) (first second : String) :
    (files.write path first).write path second = files.write path second := by
  obtain ⟨place, hplace, hlookup⟩ := read_eq_ok_iff.mp h
  have hfile : (files.entries.lookup place).isSome := by
    rw [hlookup, Option.isSome_some]
  have hwrite : ∀ content, files.write path content = files.put place content :=
    fun content => by
    rw [write, hplace]
  rw [hwrite, hwrite, write, follow_put hfile, hplace]
  exact put_put hfile

end ReportQuery.Files
