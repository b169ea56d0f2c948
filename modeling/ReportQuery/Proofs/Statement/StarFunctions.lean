import ReportQuery.Proofs.Statement.ClauseText

/-!
# Functions on the star

A star in parentheses is refused under every function but COUNT. A position in
parentheses stands for the column of an earlier entry, and nothing is asked
about that column. So the other functions apply to the star exactly where they
are called on the position of an entry that has it.
-/

namespace ReportQuery

open ReportQuery.Parser

/-- The next word is the position of an entry with a star among the entries
before. -/
def StarAt (before : List SelectItem) (words : List Word) : Prop :=
  ∃ word rest position earlier, words = word :: rest ∧
    word.token.kind = .digits ∧
    Numeral.natural? word.token.literal.toList = some position ∧
      itemAt? before position = some earlier ∧ earlier.name = starName

/-- The next words call a function other than COUNT on the position of an entry
with a star. -/
def CallsOnStar (before : List SelectItem) (words : List Word) : Prop :=
  ∃ name bracket rest function, words = name :: bracket :: rest ∧
    name.token.kind = .identifier ∧
    bracket.opensCall = true ∧ AggregateFunction.ofName? name.token.literal =
    some function ∧ function ≠ .count ∧ StarAt before rest

variable {before : List SelectItem} {words rest : List Word}

theorem not_starAt {word : Word} (h : word.token.kind ≠ .digits) :
    ¬ StarAt before (word :: rest) := by
  rintro ⟨other, tail, position, earlier, hwords, hkind, -⟩
  obtain ⟨rfl, -⟩ := List.cons.inj hwords
  exact h hkind

theorem not_callsOnStar {word : Word} (h : word.token.kind ≠ .identifier) :
    ¬ CallsOnStar before (word :: rest) := by
  rintro ⟨name, bracket, tail, function, hwords, hkind, -⟩
  obtain ⟨rfl, -⟩ := List.cons.inj hwords
  exact h hkind

theorem givesOn_distinctItem (hwords : ∀ word ∈ words, word.token.Lexed) :
    GivesOn words distinctItem fun item => IsIdentifier item.name ∧
      item.function = none := by
  refine givesOn_bind fun name left hname => givesOn_pure ⟨?_, rfl⟩
  exact (gives_identifier hwords .invalidField words (List.suffix_refl _) name
    left hname).1

/-- Under a function that does not count, only a position can stand for the
star. -/
theorem givesOn_argument {function : AggregateFunction}
    (hfunction : function ≠ .count)
    (hwords : ∀ word ∈ words, word.token.Lexed) :
    GivesOn words (argument function before) fun item =>
      item.name = starName ↔ StarAt before words := by
  cases words with
  | nil => exact givesOn_bind_of_ok rfl (givesOn_fail _)
  | cons word tail =>
      obtain ⟨hword, htail⟩ := List.forall_mem_cons.mp hwords
      refine givesOn_bind_of_ok (nextToken_cons word tail) ?_
      split
      · rw [if_neg hfunction]
        exact givesOn_fail _
      · next hkind =>
          intro item rest hitem
          obtain ⟨hname, -⟩ := givesOn_distinctItem htail item rest hitem
          exact iff_of_false hname.ne_starName (not_starAt (by simp [hkind]))
      · next hkind =>
          split
          · next earlier hearlier =>
              obtain ⟨position, hposition, hentry⟩ :=
                Option.bind_eq_some_iff.mp hearlier
              refine givesOn_pure ⟨fun hstar =>
                ⟨word, tail, position, earlier, rfl, hkind, hposition,
                  hentry, hstar⟩, ?_⟩
              rintro ⟨other, left, position', earlier', hsame, -, hposition',
                hentry', hstar⟩
              obtain ⟨rfl, -⟩ := List.cons.inj hsame
              obtain rfl := Option.some.inj (hposition.symm.trans hposition')
              obtain rfl := Option.some.inj (hentry.symm.trans hentry')
              exact hstar
          · exact givesOn_fail _
      · next hkind =>
          have hname := hword.isIdentifier hkind
          exact givesOn_pure (iff_of_false hname.ne_starName
            (not_starAt (by simp [hkind])))
      · exact givesOn_fail _

theorem givesOn_call {name bracket : Word}
    (hkind : name.token.kind = .identifier) (hopens : bracket.opensCall = true)
    (hwords : ∀ word ∈ words, word.token.Lexed) :
    GivesOn words (call name.token.literal before) fun item =>
      item.CountsStar ↔ ¬ CallsOnStar before (name :: bracket :: words) := by
  unfold call
  split
  · exact givesOn_fail _
  · next function hname =>
      refine givesOn_bind fun item left hitem =>
        givesOn_bind fun _ _ _ => givesOn_pure ?_
      have hcalls : CallsOnStar before (name :: bracket :: words) ↔
          function ≠ .count ∧ StarAt before words := by
        constructor
        · rintro ⟨name', bracket', tail, function', hsame, -, -, hname',
            hcount, hat⟩
          obtain ⟨rfl, rfl, rfl⟩ : name = name' ∧ bracket = bracket' ∧
              words = tail := by
            simpa using hsame
          obtain rfl := Option.some.inj (hname.symm.trans hname')
          exact ⟨hcount, hat⟩
        · rintro ⟨hcount, hat⟩
          exact ⟨name, bracket, words, function, rfl, hkind, hopens, hname,
            hcount, hat⟩
      rw [hcalls]
      change (item.name = starName →
        some function = none ∨ some function = some .count) ↔ _
      by_cases hcount : function = .count
      · simp [hcount]
      · have hstar : item.name = starName ↔ StarAt before words :=
          givesOn_argument hcount hwords item left hitem
        simp [hcount, hstar]

theorem givesOn_plainItem (hwords : ∀ word ∈ words, word.token.Lexed) :
    GivesOn words (plainItem before) fun item =>
      item.CountsStar ↔ ¬ CallsOnStar before words := by
  have hnone : ∀ {item : SelectItem}, item.function = none → item.CountsStar :=
    fun h _ => Or.inl h
  cases words with
  | nil => exact givesOn_bind_of_ok rfl (givesOn_fail _)
  | cons word tail =>
      obtain ⟨-, htail⟩ := List.forall_mem_cons.mp hwords
      refine givesOn_bind_of_ok (nextToken_cons word tail) ?_
      split
      · next hkind =>
          exact givesOn_pure (iff_of_true (hnone rfl)
            (not_callsOnStar (by simp [hkind])))
      · next hkind =>
          intro item rest hitem
          obtain ⟨-, hfunction⟩ := givesOn_distinctItem htail item rest hitem
          exact iff_of_true (hnone hfunction)
            (not_callsOnStar (by simp [hkind]))
      · next hkind =>
          refine givesOn_bind fun taken left haccept => ?_
          cases tail with
          | nil =>
              obtain ⟨rfl, rfl⟩ : false = taken ∧ [] = left := by
                simpa [acceptCall] using haccept
              refine givesOn_pure (iff_of_true (hnone rfl) ?_)
              rintro ⟨name, bracket, rest, function, hsame, -⟩
              simp at hsame
          | cons bracket tail =>
              cases hopens : bracket.opensCall with
              | true =>
                  obtain ⟨rfl, rfl⟩ : true = taken ∧ tail = left := by
                    simpa [acceptCall, hopens] using haccept
                  exact givesOn_call hkind hopens
                    (List.forall_mem_cons.mp htail).2
              | false =>
                  obtain ⟨rfl, rfl⟩ : false = taken ∧
                      bracket :: tail = left := by
                    simpa [acceptCall, hopens] using haccept
                  refine givesOn_pure (iff_of_true (hnone rfl) ?_)
                  rintro ⟨name, bracket', rest, function, hsame, -, hopens', -⟩
                  obtain ⟨-, rfl, -⟩ : word = name ∧ bracket = bracket' ∧
                      tail = rest := by
                    simpa using hsame
                  simp [hopens] at hopens'
      · exact givesOn_fail _

/-- An alias does not change what an entry applies to. -/
theorem givesOn_selectItem (hwords : ∀ word ∈ words, word.token.Lexed) :
    GivesOn words (selectItem before) fun item =>
      item.CountsStar ↔ ¬ CallsOnStar before words :=
  givesOn_bind fun item left hitem => givesOn_bind fun _ _ _ =>
    givesOn_pure (givesOn_plainItem hwords item left hitem)

/-- Every entry of a select list in a script is read from words of the text. It
applies a function other than COUNT to the star exactly when these words call
one on the position of an entry that has the star and stands before it in the
list. -/
theorem countsStar_iff_of_parseScript {text : String}
    {statements : List Statement} (h : parseScript text = .ok statements)
    {s : Statement} (hs : s ∈ statements) {i : Nat} {item : SelectItem}
    (hitem : s.items[i]? = some item) :
    ∃ words rest, words <:+ Word.ofText text ∧
      selectItem (s.items.take i) words = (.ok item, rest) ∧
        (item.CountsStar ↔ ¬ CallsOnStar (s.items.take i) words) := by
  have hlexed : ∀ word ∈ Word.ofText text, word.token.Lexed :=
    fun _ => Word.lexed_of_mem_ofText
  obtain ⟨⟨-, hread⟩, -⟩ :=
    exists_read_of_mem_scriptOfWords (gives_statement hlexed)
      (List.suffix_refl _) h hs
  obtain ⟨words, rest, hwords, hrun⟩ := hread.inTurn i item hitem
  refine ⟨words, rest, hwords, hrun, ?_⟩
  exact givesOn_selectItem (fun word hword => hlexed word (hwords.subset hword))
    item rest hrun

/-- A view that counts what a star stands for, and takes its greatest value. -/
def starView : Statement :=
  .createView {
    replace := false
    name := "totals"
    columns := []
    select := {
      items := [{ column := { name := "*" } },
        { column := { name := "*" }, function := some .count },
        { column := { name := "*" }, function := some .max }]
      source := "SHOPS" } }

theorem countsStar_iff_of_starView :
    parseScript "CREATE VIEW totals AS SELECT *, COUNT(1), MAX(1) FROM SHOPS" =
      .ok [starView] ∧ ∃ words rest, words <:+
          Word.ofText
            "CREATE VIEW totals AS SELECT *, COUNT(1), MAX(1) FROM SHOPS" ∧
        selectItem (starView.items.take 2) words =
          (.ok { column := { name := "*" }, function := some .max }, rest) ∧
        CallsOnStar (starView.items.take 2) words := by
  have hparse :
      parseScript
        "CREATE VIEW totals AS SELECT *, COUNT(1), MAX(1) FROM SHOPS" =
      .ok [starView] := by decide +kernel
  obtain ⟨words, rest, hwords, hrun, hcounts⟩ :=
    countsStar_iff_of_parseScript hparse List.mem_cons_self (i := 2) rfl
  refine ⟨hparse, words, rest, hwords, hrun, ?_⟩
  have hmax : ¬ SelectItem.CountsStar { column := { name := "*" },
                                        function := some .max } := by
    simp [SelectItem.CountsStar, SelectItem.name, starName]
  exact not_not.mp (mt hcounts.mpr hmax)

/-- The sum of what a star stands for is read as well. -/
theorem not_countsStar_sum :
    ¬ ∀ statements, parseScript "SELECT *, SUM(1) FROM SHOPS" = .ok statements →
      ∀ s ∈ statements, ∀ item ∈ s.items, item.CountsStar := by
  intro h
  have hparse : parseScript "SELECT *, SUM(1) FROM SHOPS" = .ok [.select {
      items :=
        [{ column := { name := "*" } },
          { column := { name := "*" }, function := some .sum }]
      source := "SHOPS" }] := by decide +kernel
  have hsum := h _ hparse _ List.mem_cons_self
    { column := { name := "*" }, function := some .sum }
    (by simp [Statement.items])
  simp [SelectItem.CountsStar, SelectItem.name, starName] at hsum

end ReportQuery
