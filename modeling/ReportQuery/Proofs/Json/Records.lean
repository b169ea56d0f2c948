import ReportQuery.Catalog.Document
import ReportQuery.Proofs.Json.RoundTrip

/-!
# Records in documents

A record is written member by member, without the members that hold nothing.
Its names tell the members apart, so that each is found again or found missing,
and a missing one reads as what was not written. A value survives being saved
when it is read again, when nothing of it is lost in the text, and when it is
not taken for a missing one.
-/

namespace ReportQuery.JsonValue

/-! ## Members that may be missing -/

/-- The members that are written of those that a record may have. -/
def present (members : List (String × Option JsonValue)) :
    List (String × JsonValue) :=
  members.filterMap fun member => member.2.map fun value => (member.1, value)

@[simp] theorem present_nil : present [] = [] := rfl

@[simp] theorem present_cons (member : String × Option JsonValue)
    (members : List (String × Option JsonValue)) :
    present (member :: members) =
      (member.2.map fun value => (member.1, value)).toList ++
        present members := by
  cases hvalue : member.2 <;> simp [present, hvalue]

theorem name_mem_of_mem_present {members : List (String × Option JsonValue)}
    {member : String × JsonValue} (h : member ∈ present members) :
    member.1 ∈ members.map Prod.fst := by
  obtain ⟨slot, hslot, hvalue⟩ := List.mem_filterMap.mp h
  obtain ⟨value, -, rfl⟩ := Option.map_eq_some_iff.mp hvalue
  exact List.mem_map_of_mem hslot

/-- At most one of the written members has a name, and it is the member of that
name. -/
theorem filter_present {members : List (String × Option JsonValue)}
    (h : (members.map Prod.fst).Nodup) {member : String × Option JsonValue}
    (hmember : member ∈ members) :
    (present members).filter (fun other => other.1 == member.1) =
      (member.2.map fun value => (member.1, value)).toList := by
  induction members with
  | nil => simp at hmember
  | cons first members ih =>
      obtain ⟨hfirst, hrest⟩ := List.nodup_cons.mp h
      rw [present_cons, List.filter_append]
      rcases List.mem_cons.mp hmember with rfl | hin
      · have hnone : (present members).filter
            (fun other => other.1 == member.1) = [] := by
          rw [List.filter_eq_nil_iff]
          intro other hother heq
          exact hfirst (beq_iff_eq.mp heq ▸ name_mem_of_mem_present hother)
        rw [hnone]
        cases member.2 <;> simp
      · have hne : first.1 ≠ member.1 := by
          intro heq
          exact hfirst (heq ▸ List.mem_map_of_mem hin)
        rw [ih hrest hin]
        cases first.2 <;> simp [hne]

theorem uniqueMember_present {members : List (String × Option JsonValue)}
    (h : (members.map Prod.fst).Nodup) {member : String × Option JsonValue}
    (hmember : member ∈ members) :
    uniqueMember (present members) member.1 = some member.2 := by
  rw [uniqueMember, filter_present h hmember]
  cases member.2 <;> rfl

/-- The members of a record are found again, and found missing where they were
not written. -/
theorem record?_present {names : List String}
    {members : List (String × Option JsonValue)}
    (hnames : members.map Prod.fst = names) (h : names.Nodup) :
    record? names (object (present members)) = some (members.map Prod.snd) := by
  subst hnames
  exact List.mapM_map_of_some fun _ hmember => uniqueMember_present h hmember

theorem exact_present {members : List (String × Option JsonValue)}
    (h : ∀ member ∈ members, ∀ value ∈ member.2, value.Exact) :
    (object (present members)).Exact := by
  apply Exact.object
  intro member hmember
  obtain ⟨slot, hslot, hvalue⟩ := List.mem_filterMap.mp hmember
  obtain ⟨value, hsome, rfl⟩ := Option.map_eq_some_iff.mp hvalue
  exact h slot hslot value hsome

/-- A value that is there only when it is not the default. -/
def presentUnless (absent : Bool) (value : JsonValue) : Option JsonValue :=
  if absent then none else some value

theorem optionMember_eq {α : Type} (name : String) (write : α → JsonValue)
    (o : Option α) :
    optionMember name write o =
      ((o.map write).map fun value => (name, value)).toList := by
  cases o <;> rfl

theorem memberUnless_eq (absent : Bool) (name : String) (value : JsonValue) :
    memberUnless absent name value =
      ((presentUnless absent value).map fun value => (name, value)).toList := by
  cases absent <;> rfl

/-! ## Values that survive -/

section Survives

variable {α : Type} {read : JsonValue → Option α} {write : α → JsonValue}
  {a : α}

/-- Whether a value survives being written and read. -/
structure Survives (read : JsonValue → Option α) (write : α → JsonValue)
    (a : α) : Prop where
  read_write : read (write a) = some a
  exact : (write a).Exact
  ne_null : write a ≠ null

theorem survives_text (s : String) : Survives readText? text s where
  read_write := rfl
  exact := .text s
  ne_null := by simp

theorem survives_bool (b : Bool) : Survives readBool? bool b where
  read_write := rfl
  exact := .bool b
  ne_null := by simp

theorem survives_nat {n : Nat} (h : n < Numeral.wordBound) :
    Survives readWord? nat n where
  read_write := by
    have hword : (0 : Int) ≤ n ∧ (n : Int) < Numeral.wordBound := by omega
    rw [nat, readWord?, if_pos hword, Int.toNat_natCast]
  exact := by
    apply Exact.integer
    simpa [isWord,
      decide_eq_false (Int.not_lt.mpr (Int.natCast_nonneg n))] using h
  ne_null := by simp [nat]

theorem survives_list {items : List α}
    (h : ∀ a ∈ items, Survives read write a) :
    Survives (readList? read) (fun items => array (items.map write)) items where
  read_write := List.mapM_map_self fun a ha => (h a ha).read_write
  exact := by
    apply Exact.array
    intro value hvalue
    obtain ⟨a, ha, rfl⟩ := List.mem_map.mp hvalue
    exact (h a ha).exact
  ne_null := by simp

/-- Whether a member, written or not, is read as a value and nothing of it is
lost. -/
structure MemberSurvives (read : Option JsonValue → Option α)
    (member : Option JsonValue) (a : α) : Prop where
  read_member : read member = some a
  exact : ∀ value ∈ member, value.Exact

theorem Survives.required (h : Survives read write a) :
    MemberSurvives (required read) (some (write a)) a where
  read_member := h.read_write
  exact := by
    rintro value hvalue
    exact Option.some.inj hvalue ▸ h.exact

/-- A member that is missing when there is no value. -/
theorem Survives.optional {o : Option α} (h : ∀ a ∈ o, Survives read write a) :
    MemberSurvives (optionalMember read) (o.map write) o where
  read_member := by
    cases o with
    | none => rfl
    | some a =>
        have ha := h a rfl
        rw [Option.map_some, optionalMember]
        · rw [ha.read_write, Option.map_some]
        · exact ha.ne_null
  exact := by
    rintro value hvalue
    obtain ⟨a, ha, rfl⟩ := Option.map_eq_some_iff.mp hvalue
    exact (h a ha).exact

/-- A member that may be missing and is not. -/
theorem Survives.written (h : Survives read write a) (default : α) :
    MemberSurvives (withDefault default read) (some (write a)) a where
  read_member := h.read_write
  exact := h.required.exact

/-- A member that is missing only when it has its default. -/
theorem Survives.unless (h : Survives read write a) {absent : Bool}
    {default : α} (hdefault : absent = true → a = default) :
    MemberSurvives (withDefault default read) (presentUnless absent (write a))
      a := by
  cases absent with
  | false => exact h.written default
  | true =>
      obtain rfl := hdefault rfl
      exact ⟨rfl, by simp [presentUnless]⟩

/-- A list of values, missing when it is empty. -/
theorem Survives.listUnless {items : List α}
    (h : ∀ a ∈ items, Survives read write a) :
    MemberSurvives (withDefault [] (readList? read))
      (presentUnless items.isEmpty (array (items.map write))) items :=
  (survives_list h).unless List.isEmpty_iff.mp

/-- A record survives when its members do. -/
theorem survives_record (names : List String)
    {members : List (String × Option JsonValue)}
    (hwrite : write a = object (present members))
    (hnames : members.map Prod.fst = names) (hdistinct : names.Nodup)
    (hread : ∀ value, record? names value = some (members.map Prod.snd) →
      read value = some a)
    (hexact : ∀ member ∈ members, ∀ value ∈ member.2, value.Exact) :
    Survives read write a where
  read_write := by
    rw [hwrite]
    exact hread _ (record?_present hnames hdistinct)
  exact := hwrite ▸ exact_present hexact
  ne_null := by simp [hwrite]

end Survives

end ReportQuery.JsonValue
