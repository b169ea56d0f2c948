import ReportQuery.Proofs.Catalog.SavedDocument
import ReportQuery.Proofs.Catalog.StoredView
import ReportQuery.Proofs.Statement.WellFormed

/-!
# Catalogs whose numbers fit a word

A document gives no number beyond a word, so that every loaded catalog can be
saved and loaded again. A view of a parsed statement keeps it so: its positions
count entries of the select list, of which a text has no more than characters,
and its row counts were read as signed words.
-/

namespace ReportQuery

/-! ## Numbers read from documents -/

namespace JsonValue

/-- Everything that a reader gives satisfies `P`. -/
def Yields {α β : Type} (read : β → Option α) (P : α → Prop) : Prop :=
  ∀ value a, read value = some a → P a

section Readers

variable {α : Type} {read : JsonValue → Option α} {P : α → Prop}

theorem yields_word : Yields readWord? fun n => n < Numeral.wordBound := by
  intro value n h
  unfold readWord? at h
  split at h
  · split at h
    · obtain rfl := Option.some.inj h
      omega
    · simp at h
  · simp at h

theorem Yields.list (h : Yields read P) :
    Yields (readList? read) fun as => ∀ a ∈ as, P a := by
  intro value as hread
  unfold readList? at hread
  split at hread
  · next items =>
      induction items generalizing as with
      | nil =>
          obtain rfl := Option.some.inj hread
          simp
      | cons item items ih =>
          simp only [List.mapM_cons, Option.bind_eq_bind,
            Option.bind_eq_some_iff] at hread
          obtain ⟨a, hitem, rest, hrest, hcons⟩ := hread
          obtain rfl := Option.some.inj hcons
          rw [List.forall_mem_cons]
          exact ⟨h item a hitem, ih rest hrest⟩
  · simp at hread

theorem Yields.required (h : Yields read P) : Yields (required read) P := by
  intro member a hread
  obtain ⟨value, -, hvalue⟩ := Option.bind_eq_some_iff.mp hread
  exact h value a hvalue

theorem Yields.withDefault (h : Yields read P) {default : α}
    (hdefault : P default) : Yields (withDefault default read) P := by
  intro member a hread
  cases member with
  | none =>
      obtain rfl := Option.some.inj hread
      exact hdefault
  | some value => exact h value a hread

theorem Yields.optional (h : Yields read P) :
    Yields (optionalMember read) fun found => ∀ a ∈ found, P a := by
  intro member found hread a ha
  unfold optionalMember at hread
  split at hread
  · obtain rfl := Option.some.inj hread
    simp at ha
  · obtain rfl := Option.some.inj hread
    simp at ha
  · next value _ =>
      obtain ⟨b, hb, rfl⟩ := Option.map_eq_some_iff.mp hread
      obtain rfl := Option.some.inj ha
      exact h value _ hb

end Readers

end JsonValue

open JsonValue

theorem ColumnPosition.yields_ofJson? :
    Yields ColumnPosition.ofJson? fun p => p.position < Numeral.wordBound := by
  intro value p h
  simp only [ofJson?, Option.bind_eq_bind, Option.bind_eq_some_iff] at h
  obtain ⟨members, -, h⟩ := h
  split at h
  · simp only [Option.bind_eq_some_iff, Option.some.injEq] at h
    obtain ⟨column, -, position, hposition, rfl⟩ := h
    exact yields_word.required _ _ hposition
  · simp at h

theorem OrderEntry.yields_ofJson? :
    Yields OrderEntry.ofJson? fun entry => entry.target.position <
      Numeral.wordBound := by
  intro value entry h
  simp only [ofJson?, Option.bind_eq_bind, Option.bind_eq_some_iff] at h
  obtain ⟨members, -, h⟩ := h
  split at h
  · simp only [Option.bind_eq_some_iff, Option.some.injEq] at h
    obtain ⟨target, htarget, descending, -, rfl⟩ := h
    exact ColumnPosition.yields_ofJson?.required _ _ htarget
  · simp at h

theorem Limit.yields_ofJson? :
    Yields Limit.ofJson? fun limit =>
      limit.offset < Numeral.wordBound ∧ limit.count < Numeral.wordBound := by
  intro value limit h
  simp only [ofJson?, Option.bind_eq_bind, Option.bind_eq_some_iff] at h
  obtain ⟨members, -, h⟩ := h
  split at h
  · simp only [Option.bind_eq_some_iff, Option.some.injEq] at h
    obtain ⟨offset, hoffset, count, hcount, rfl⟩ := h
    have hzero : 0 < Numeral.wordBound := by decide
    exact ⟨yields_word.withDefault hzero _ _ hoffset,
      yields_word.required _ _ hcount⟩
  · simp at h

theorem View.yields_ofJson? : Yields View.ofJson? View.FitsWords := by
  intro value view h
  simp only [ofJson?, Option.bind_eq_bind, Option.bind_eq_some_iff] at h
  obtain ⟨members, -, h⟩ := h
  split at h
  · simp only [Option.bind_eq_some_iff, Option.some.injEq] at h
    obtain ⟨source, -, primaryKey, -, conditions, -, during, -, groupBy,
      hgroupBy, orderBy, horderBy, limit, hlimit, rfl⟩ := h
    exact {
      groupBy := ColumnPosition.yields_ofJson?.list.withDefault
        (by simp) _ _ hgroupBy
      orderBy := OrderEntry.yields_ofJson?.list.withDefault
        (by simp) _ _ horderBy
      limit := Limit.yields_ofJson?.optional _ _ hlimit }
  · simp at h

theorem Table.yields_ofJson? :
    Yields Table.ofJson? fun table => ∀ view ∈ table.view, view.FitsWords := by
  intro value table h
  simp only [ofJson?, Option.bind_eq_bind, Option.bind_eq_some_iff] at h
  obtain ⟨members, -, h⟩ := h
  split at h
  · simp only [Option.bind_eq_some_iff, Option.some.injEq] at h
    obtain ⟨name, -, aggregateColumn, -, columns, -, view, hview, rfl⟩ := h
    exact View.yields_ofJson?.optional _ _ hview
  · simp at h

namespace Catalog

theorem yields_ofJson? : Yields Catalog.ofJson? Catalog.FitsWords := by
  intro value catalog h
  simp only [ofJson?, Option.bind_eq_bind, Option.bind_eq_some_iff] at h
  obtain ⟨members, -, h⟩ := h
  split at h
  · simp only [Option.bind_eq_some_iff, Option.some.injEq] at h
    obtain ⟨version, -, tables, htables, rfl⟩ := h
    exact Table.yields_ofJson?.list.required _ _ htables
  · simp at h

/-- The numbers of a loaded catalog fit a word. -/
theorem fitsWords_of_ofDocument? {document : String} {catalog : Catalog}
    (h : ofDocument? document = some catalog) : catalog.FitsWords := by
  obtain ⟨value, -, hvalue⟩ := Option.bind_eq_some_iff.mp h
  exact yields_ofJson? value catalog hvalue

/-- A catalog whose numbers fit a word is loaded as it was saved. -/
theorem FitsWords.loads {catalog : Catalog} (h : catalog.FitsWords) :
    ofDocument? catalog.document = some catalog := by
  rw [ofDocument?, document, (survives h).exact.ofText?_toText]
  exact (survives h).read_write

end Catalog

/-! ## Numbers in statements -/

/-- The numbers in the clauses of a SELECT fit a word. -/
structure Select.FitsWords (select : Select) : Prop where
  groupBy : ∀ p ∈ select.groupBy, p.position < Numeral.wordBound
  orderBy : ∀ entry ∈ select.orderBy, entry.target.position < Numeral.wordBound
  limit : ∀ limit ∈ select.limit,
    limit.offset < Numeral.wordBound ∧ limit.count < Numeral.wordBound

/-- The numbers that a statement would store fit a word. -/
def Statement.FitsWords : Statement → Prop
  | .createView create => create.select.FitsWords
  | _ => True

theorem Select.WellFormed.fitsWords {select : Select} (h : select.WellFormed)
    (hlength : select.items.length < Numeral.wordBound) : select.FitsWords where
  groupBy p hp := by
    have hposition := (h.groupBy p hp).bounds
    omega
  orderBy entry hentry := by
    have hposition := (h.orderBy entry hentry).bounds
    omega
  limit limit hlimit := by
    have hoffset := (h.limit limit hlimit).offset
    have hcount := (h.limit limit hlimit).count
    have hbounds : Numeral.signedBound < Numeral.wordBound := by decide
    omega

theorem Statement.WellFormed.fitsWords {s : Statement} (h : s.WellFormed)
    (hlength : s.items.length < Numeral.wordBound) : s.FitsWords := by
  cases s with
  | createView create =>
      exact (CreateView.WellFormed.select h).fitsWords hlength
  | _ => exact trivial

/-- The statements of a text whose characters a word can count store only
words. -/
theorem fitsWords_of_mem_parseScript {text : String}
    (hlength : text.length < Numeral.wordBound) {statements : List Statement}
    (h : parseScript text = .ok statements) {s : Statement}
    (hmem : s ∈ statements) : s.FitsWords := by
  have hlexed : ∀ word ∈ Word.ofText text, word.token.Lexed :=
    fun _ => Word.lexed_of_mem_ofText
  obtain ⟨⟨hwellFormed, hread⟩, -⟩ :=
    exists_read_of_mem_scriptOfWords (gives_statement hlexed)
      (List.suffix_refl _) h hmem
  have hitems := hread.length_le.trans (Word.length_ofText_le text)
  exact hwellFormed.fitsWords (Nat.lt_of_le_of_lt hitems hlength)

/-- A stored view keeps the numbers of a catalog to words when its own fit. -/
theorem Catalog.FitsWords.addView {catalog after : Catalog}
    {create : CreateView} (h : catalog.FitsWords)
    (hcreate : create.select.FitsWords)
    (hadd : catalog.addView create = .ok after) : after.FitsWords := by
  obtain ⟨-, source, blocks, -, -, rfl⟩ := addView_eq_ok_iff.mp hadd
  intro table htable view hview
  rcases eq_or_mem_of_mem_put htable with rfl | hmem
  · obtain rfl := Option.some.inj hview
    exact ⟨hcreate.groupBy, hcreate.orderBy, hcreate.limit⟩
  · exact h table hmem view hview

end ReportQuery
