import Mathlib.Data.List.Nodup
import ReportQuery.Cache.Store

/-!
# Files and their names

The name of a file tells the hash of its key, so two keys share a file exactly
when they share a hash. A store that was filled by its own operations has no
two files of one name, and then what stands in it and what is found in it are
the same.
-/

namespace ReportQuery

namespace Hash

theorem hexDigit?_digitChar {n : Nat} (h : n < 16) :
    Numeral.hexDigit? n.digitChar = some n := by
  have hall : ∀ m : Fin 16, Numeral.hexDigit? (Nat.digitChar m) =
      some m.val := by decide
  exact hall ⟨n, h⟩

theorem digits?_append_singleton (cs : List Char) (c : Char) :
    Numeral.digits? Numeral.hexDigit? 16 (cs ++ [c]) =
      (Numeral.digits? Numeral.hexDigit? 16 cs).bind fun n =>
        (Numeral.hexDigit? c).map fun d => n * 16 + d := by
  simp [Numeral.digits?, List.foldlM_append]

theorem digits?_toDigits (n : Nat) :
    Numeral.digits? Numeral.hexDigit? 16 (Nat.toDigits 16 n) = some n := by
  induction n using Nat.strongRecOn with
  | ind n ih =>
      by_cases hsmall : n < 16
      · rw [Nat.toDigits_of_lt_base hsmall]
        simp [Numeral.digits?, hexDigit?_digitChar hsmall]
      · have hlast := hexDigit?_digitChar (Nat.mod_lt n (by decide : 0 < 16))
        rw [Nat.toDigits_of_base_le (by decide) (Nat.le_of_not_lt hsmall),
          digits?_append_singleton, ih (n / 16) (by omega), hlast]
        simp only [Option.bind_some, Option.map_some, Option.some.injEq]
        omega

theorem digits?_replicate_zero_append (width : Nat) (cs : List Char) :
    Numeral.digits? Numeral.hexDigit? 16 (List.replicate width '0' ++ cs) =
      Numeral.digits? Numeral.hexDigit? 16 cs := by
  have hzero : Numeral.hexDigit? '0' = some 0 := by decide
  induction width with
  | zero => rfl
  | succ width ih =>
      rw [← ih, List.replicate_succ, List.cons_append]
      simp [Numeral.digits?, hzero]

theorem hex_injective : Function.Injective hex := by
  have hread : ∀ word, Numeral.digits? Numeral.hexDigit? 16 (hex word).toList =
      some word.toNat := by
    intro word
    rw [hex, String.toList_ofList, digits?_replicate_zero_append,
      digits?_toDigits]
  intro word other h
  have hnat := (hread word).symm.trans (h ▸ hread other)
  exact UInt64.toNat_inj.mp (Option.some.inj hnat)

end Hash

namespace ReportStore

/-- Keys share a file exactly when they share a hash. -/
theorem fileName_eq_iff {key other : String} :
    fileName key = fileName other ↔ Hash.ofText key = Hash.ofText other := by
  constructor
  · intro h
    have hchars := congrArg String.toList h
    simp only [fileName, String.toList_append] at hchars
    exact Hash.hex_injective
      (String.toList_injective (List.append_cancel_right hchars))
  · intro h
    rw [fileName, h, fileName]

/-! ## Stores without two files of one name -/

/-- No two files have the same name. -/
def NamesUnique (store : ReportStore) : Prop :=
  (store.files.map StoredFile.name).Nodup

variable {store : ReportStore} {file : StoredFile} {name : String}

theorem file?_eq_some_iff (h : store.NamesUnique) :
    store.file? name = some file ↔ file ∈ store.files ∧ file.name = name := by
  constructor
  · intro hfound
    refine ⟨List.mem_of_find?_eq_some hfound, ?_⟩
    simpa using List.find?_some hfound
  · rintro ⟨hmem, rfl⟩
    have hsome : (store.file? file.name).isSome = true := by
      rw [file?, List.find?_isSome]
      exact ⟨file, hmem, by simp⟩
    obtain ⟨found, hfound⟩ := Option.isSome_iff_exists.mp hsome
    have hname : found.name = file.name := by simpa using List.find?_some hfound
    rw [hfound, List.inj_on_of_nodup_map h (List.mem_of_find?_eq_some hfound)
      hmem hname]

theorem NamesUnique.filter (h : store.NamesUnique) (keep : StoredFile → Bool) :
    NamesUnique { store with files := store.files.filter keep } :=
  h.sublist (List.filter_sublist.map _)

theorem NamesUnique.erase (h : store.NamesUnique) (name : String) :
    (store.erase name).NamesUnique :=
  h.filter _

theorem NamesUnique.write (h : store.NamesUnique) (file : StoredFile) :
    (store.write file).NamesUnique := by
  rw [NamesUnique, ReportStore.write, List.map_append, List.nodup_append]
  refine ⟨h.erase file.name, List.nodup_singleton _, ?_⟩
  rintro name hname other hother rfl
  obtain ⟨kept, hkept, rfl⟩ := List.mem_map.mp hname
  obtain ⟨-, hother'⟩ := List.mem_filter.mp hkept
  rw [List.map_singleton, List.mem_singleton] at hother
  simp [hother] at hother'

/-- What is found among some of the files is what is found among all, if it is
one of them. -/
theorem file?_filter (h : store.NamesUnique) (keep : StoredFile → Bool)
    (name : String) :
    file? { store with files := store.files.filter keep } name =
      (store.file? name).filter keep := by
  apply Option.ext
  intro file
  rw [Option.filter_eq_some_iff, file?_eq_some_iff (h.filter keep),
    file?_eq_some_iff h, List.mem_filter]
  exact ⟨fun ⟨⟨hmem, hkeep⟩, hname⟩ => ⟨⟨hmem, hname⟩, hkeep⟩,
    fun ⟨⟨hmem, hname⟩, hkeep⟩ => ⟨⟨hmem, hkeep⟩, hname⟩⟩

end ReportStore

end ReportQuery
