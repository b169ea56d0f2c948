import ReportQuery.Plan.Bind
import ReportQuery.Plan.Unfold
import ReportQuery.Proofs.Calendar.Hyphens
import ReportQuery.Proofs.Json.Records

/-!
# Saved catalogs

Every part of a catalog survives being saved, whether its members are all there
or some hold nothing. Only numbers need a condition: positions and row counts
have to fit a word, as they do in every catalog that can be held. A loaded
catalog is therefore the one that was saved, and statements mean the same on
both.
-/

namespace ReportQuery

open JsonValue

/-! ## Clauses -/

/-- The members of a column's document form. -/
def ColumnRef.members (column : ColumnRef) : List (String × Option JsonValue) :=
  [("name", some (text column.name)), ("alias", column.aliasName.map text)]

theorem ColumnRef.survives (column : ColumnRef) :
    Survives ColumnRef.ofJson? ColumnRef.toJson column := by
  have hname := (survives_text column.name).required
  have halias : MemberSurvives (optionalMember readText?) _ column.aliasName :=
    Survives.optional fun s _ => survives_text s
  have hwrite : column.toJson = object (present column.members) := by
    simp [toJson, members, optionMember_eq]
  refine survives_record ["name", "alias"] hwrite rfl (by decide) ?_ ?_
  · intro value hvalue
    simp [ofJson?, hvalue, members, hname.read_member, halias.read_member]
  · simp only [members, List.forall_mem_cons]
    exact ⟨hname.exact, halias.exact, by simp⟩

/-- The members of a position's document form. -/
def ColumnPosition.members (position : ColumnPosition) :
    List (String × Option JsonValue) :=
  [("column", some position.column.toJson),
    ("position", some (nat position.position))]

theorem ColumnPosition.survives {position : ColumnPosition}
    (h : position.position < Numeral.wordBound) :
    Survives ColumnPosition.ofJson? ColumnPosition.toJson position := by
  have hcolumn := position.column.survives.required
  have hposition := (survives_nat h).required
  have hwrite : position.toJson = object (present position.members) := rfl
  refine survives_record ["column", "position"] hwrite rfl (by decide) ?_ ?_
  · intro value hvalue
    simp [ofJson?, hvalue, members, hcolumn.read_member, hposition.read_member]
  · simp only [members, List.forall_mem_cons]
    exact ⟨hcolumn.exact, hposition.exact, by simp⟩

/-- The members of a condition's document form. -/
def Condition.members (condition : Condition) :
    List (String × Option JsonValue) :=
  [("column", some (JsonValue.text condition.column)),
    ("operator", some (JsonValue.text condition.operator.documentName)),
    ("values", some (texts condition.values)),
    ("literal", some (bool condition.literal))]

theorem Operator.survives (operator : Operator) :
    Survives (fun value => (readVariant? value).bind Operator.ofDocumentName?)
      (fun operator => text operator.documentName) operator where
  read_write := ofDocumentName?_documentName operator
  exact := .text _
  ne_null := by simp

theorem Condition.survives (condition : Condition) :
    Survives Condition.ofJson? Condition.toJson condition := by
  have hcolumn := (survives_text condition.column).required
  have hoperator := condition.operator.survives.required
  have hvalues : MemberSurvives (required (readList? readText?))
      (some (texts condition.values)) condition.values :=
    (survives_list fun s _ => survives_text s).required
  have hliteral : MemberSurvives (withDefault false readBool?)
      (some (bool condition.literal)) condition.literal :=
    (survives_bool condition.literal).written false
  have hwrite : condition.toJson = object (present condition.members) := rfl
  refine survives_record ["column", "operator", "values", "literal"] hwrite
    rfl (by decide) ?_ ?_
  · intro value hvalue
    simp [ofJson?, hvalue, members, hcolumn.read_member, hoperator.read_member,
      hvalues.read_member, hliteral.read_member]
  · simp only [members, List.forall_mem_cons]
    exact ⟨hcolumn.exact, hoperator.exact, hvalues.exact,
      hliteral.exact, by simp⟩

theorem survives_day (day : Day) :
    Survives readDay? (fun day => text (Calendar.Layout.date.writeDay day))
      day where
  read_write := by
    rw [readDay?, readText?, Option.bind_some]
    exact Calendar.readDay?_writeDay day
  exact := .text _
  ne_null := by simp

/-- A name is read as a range, and an object of two days is not taken for a
name. -/
theorem During.survives (during : During) :
    Survives During.ofJson? During.toJson during := by
  cases during with
  | named range =>
      have hword : NamedRange.ofExactWord? range.word = some range := by
        cases range <;> decide
      refine ⟨?_, .text _, by simp [toJson]⟩
      simp [ofJson?, toJson, isReadable, depth, readVariant?, hword]
  | days span =>
      have hstart := (survives_day span.start).required
      have hstop := (survives_day span.stop).required
      have hspan : spanOfJson? (toJson (days span)) = some span := by
        simp [spanOfJson?, toJson, uniqueMember, hstart.read_member,
          hstop.read_member]
      refine ⟨?_, ?_, by simp [toJson]⟩
      · have hvariant : readVariant? (toJson (days span)) = none := rfl
        have hreadable : (toJson (days span)).isReadable = true := rfl
        have hdepth : (toJson (days span)).depth ≤ duringDepth := by
          change 1 ≤ 123
          decide
        simp [ofJson?, hvariant, hreadable, hdepth, hspan]
      · apply Exact.object
        simp only [List.forall_mem_cons]
        exact ⟨.text _, .text _, by simp⟩

/-- The members of the document form of an ORDER BY entry. -/
def OrderEntry.members (entry : OrderEntry) :
    List (String × Option JsonValue) :=
  [("column", some entry.target.toJson), ("desc", some (bool entry.descending))]

theorem OrderEntry.survives {entry : OrderEntry}
    (h : entry.target.position < Numeral.wordBound) :
    Survives OrderEntry.ofJson? OrderEntry.toJson entry := by
  have htarget := (ColumnPosition.survives h).required
  have hdescending := (survives_bool entry.descending).written false
  have hwrite : entry.toJson = object (present entry.members) := rfl
  refine survives_record ["column", "desc"] hwrite rfl (by decide) ?_ ?_
  · intro value hvalue
    simp [ofJson?, hvalue, members, htarget.read_member,
      hdescending.read_member]
  · simp only [members, List.forall_mem_cons]
    exact ⟨htarget.exact, hdescending.exact, by simp⟩

/-- The members of the document form of a LIMIT clause. -/
def Limit.members (limit : Limit) : List (String × Option JsonValue) :=
  [("offset", some (nat limit.offset)), ("row_count", some (nat limit.count))]

theorem Limit.ofJson?_of_record {value : JsonValue}
    {offset count : Option JsonValue}
    (hrecord : record? ["offset", "row_count"] value = some [offset, count])
    {limit : Limit}
    (hoffset : withDefault 0 readWord? offset = some limit.offset)
    (hcount : required readWord? count = some limit.count) :
    ofJson? value = some limit := by
  simp [ofJson?, hrecord, hoffset, hcount]

theorem Limit.survives {limit : Limit}
    (hoffset : limit.offset < Numeral.wordBound)
    (hcount : limit.count < Numeral.wordBound) :
    Survives Limit.ofJson? Limit.toJson limit := by
  have hoffset := (survives_nat hoffset).written 0
  have hcount := (survives_nat hcount).required
  have hwrite : limit.toJson = object (present limit.members) := rfl
  refine survives_record ["offset", "row_count"] hwrite rfl (by decide) ?_ ?_
  · intro value hvalue
    exact ofJson?_of_record hvalue hoffset.read_member hcount.read_member
  · simp only [members, List.forall_mem_cons]
    exact ⟨hoffset.exact, hcount.exact, by simp⟩

/-! ## Tables -/

/-- Whether the numbers in the clauses of a view fit a word. -/
structure View.FitsWords (view : View) : Prop where
  groupBy : ∀ p ∈ view.groupBy, p.position < Numeral.wordBound
  orderBy : ∀ entry ∈ view.orderBy, entry.target.position < Numeral.wordBound
  limit : ∀ limit ∈ view.limit,
    limit.offset < Numeral.wordBound ∧ limit.count < Numeral.wordBound

instance (view : View) : Decidable view.FitsWords :=
  decidable_of_iff ((∀ p ∈ view.groupBy, p.position < Numeral.wordBound) ∧
      (∀ entry ∈ view.orderBy, entry.target.position < Numeral.wordBound) ∧
      ∀ limit ∈ view.limit,
        limit.offset < Numeral.wordBound ∧ limit.count < Numeral.wordBound)
    ⟨fun h => ⟨h.1, h.2.1, h.2.2⟩, fun h => ⟨h.groupBy, h.orderBy, h.limit⟩⟩

/-- The members of the document form of a view's clauses. -/
def View.members (view : View) : List (String × Option JsonValue) :=
  [("source", some (text view.source)),
    ("primary_key", some (text view.primaryKey)),
    ("conditions", presentUnless view.conditions.isEmpty
      (array (view.conditions.map Condition.toJson))),
    ("during", view.during.map During.toJson),
    ("group_by", presentUnless view.groupBy.isEmpty
      (array (view.groupBy.map ColumnPosition.toJson))),
    ("order_by", presentUnless view.orderBy.isEmpty
      (array (view.orderBy.map OrderEntry.toJson))),
    ("limit", view.limit.map Limit.toJson)]

theorem View.survives {view : View} (h : view.FitsWords) :
    Survives View.ofJson? View.toJson view := by
  have hsource := (survives_text view.source).required
  have hprimaryKey := (survives_text view.primaryKey).required
  have hconditions := Survives.listUnless fun c (_ : c ∈ view.conditions) =>
    c.survives
  have hduring := Survives.optional fun d (_ : d ∈ view.during) => d.survives
  have hgroupBy := Survives.listUnless fun p hp =>
    ColumnPosition.survives (h.groupBy p hp)
  have horderBy := Survives.listUnless fun entry hentry =>
    OrderEntry.survives (h.orderBy entry hentry)
  have hlimit := Survives.optional fun limit hlimit =>
    Limit.survives (h.limit limit hlimit).1 (h.limit limit hlimit).2
  have hwrite : view.toJson = object (present view.members) := by
    simp [toJson, members, listMember, optionMember_eq, memberUnless_eq]
  refine survives_record ["source", "primary_key", "conditions", "during",
    "group_by", "order_by", "limit"] hwrite rfl (by decide) ?_ ?_
  · intro value hvalue
    simp [ofJson?, hvalue, members, hsource.read_member,
      hprimaryKey.read_member, hconditions.read_member, hduring.read_member,
      hgroupBy.read_member, horderBy.read_member, hlimit.read_member]
  · simp only [members, List.forall_mem_cons]
    exact ⟨hsource.exact, hprimaryKey.exact, hconditions.exact, hduring.exact,
      hgroupBy.exact, horderBy.exact, hlimit.exact, by simp⟩

/-- The members of the document form of a table's column. -/
def TableColumn.members (column : TableColumn) :
    List (String × Option JsonValue) :=
  [("name", some (text column.name)), ("alias", column.aliasName.map text),
    ("type", some (text column.kind)), ("segment", some (bool column.segment)),
    ("zero_impressions", some (bool column.zeroImpressions)),
    ("enum_values", presentUnless column.enumValues.isEmpty
      (array (column.enumValues.map text))),
    ("incompatible", presentUnless column.incompatible.isEmpty
      (array (column.incompatible.map text))),
    ("method", column.method.map text),
    ("distinct", presentUnless (!column.distinct) (bool column.distinct))]

theorem TableColumn.survives (column : TableColumn) :
    Survives TableColumn.ofJson? TableColumn.toJson column := by
  have hname := (survives_text column.name).required
  have halias := Survives.optional fun s (_ : s ∈ column.aliasName) =>
    survives_text s
  have hkind := (survives_text column.kind).written "STRING"
  have hsegment := (survives_bool column.segment).written false
  have hzeroImpressions := (survives_bool column.zeroImpressions).written false
  have henumValues := Survives.listUnless fun s (_ : s ∈ column.enumValues) =>
    survives_text s
  have hincompatible :=
    Survives.listUnless fun s (_ : s ∈ column.incompatible) => survives_text s
  have hmethod := Survives.optional fun s (_ : s ∈ column.method) =>
    survives_text s
  have hdistinct : MemberSurvives (withDefault false readBool?)
      (presentUnless (!column.distinct) (bool column.distinct))
        column.distinct :=
    (survives_bool column.distinct).unless (by simp)
  have hwrite : column.toJson = object (present column.members) := by
    simp [toJson, members, listMember, optionMember_eq, memberUnless_eq]
  refine survives_record ["name", "alias", "type", "segment",
    "zero_impressions", "enum_values", "incompatible", "method", "distinct"]
    hwrite rfl (by decide) ?_ ?_
  · intro value hvalue
    simp [ofJson?, hvalue, members, hname.read_member, halias.read_member,
      hkind.read_member, hsegment.read_member, hzeroImpressions.read_member,
      henumValues.read_member, hincompatible.read_member, hmethod.read_member,
      hdistinct.read_member]
  · simp only [members, List.forall_mem_cons]
    exact ⟨hname.exact, halias.exact, hkind.exact, hsegment.exact,
      hzeroImpressions.exact, henumValues.exact, hincompatible.exact,
      hmethod.exact, hdistinct.exact, by simp⟩

/-- The members of a table's document form. -/
def Table.members (table : Table) : List (String × Option JsonValue) :=
  [("name", some (text table.name)),
    ("aggregate_field", some (text table.aggregateColumn)),
    ("fields", some (array (table.columns.map TableColumn.toJson))),
    ("view", table.view.map View.toJson)]

theorem Table.survives {table : Table}
    (h : ∀ view ∈ table.view, view.FitsWords) :
    Survives Table.ofJson? Table.toJson table := by
  have hname := (survives_text table.name).required
  have haggregateColumn := (survives_text table.aggregateColumn).required
  have hcolumns :=
    (survives_list fun c (_ : c ∈ table.columns) => c.survives).required
  have hview := Survives.optional fun view hview => View.survives (h view hview)
  have hwrite : table.toJson = object (present table.members) := by
    simp [toJson, members, optionMember_eq]
  refine survives_record ["name", "aggregate_field", "fields", "view"] hwrite
    rfl (by decide) ?_ ?_
  · intro value hvalue
    simp [ofJson?, hvalue, members, hname.read_member,
      haggregateColumn.read_member, hcolumns.read_member, hview.read_member]
  · simp only [members, List.forall_mem_cons]
    exact ⟨hname.exact, haggregateColumn.exact, hcolumns.exact,
      hview.exact, by simp⟩

/-! ## The catalog -/

namespace Catalog

/-- Whether the numbers in the clauses of every view fit a word. -/
def FitsWords (catalog : Catalog) : Prop :=
  ∀ table ∈ catalog.tables, ∀ view ∈ table.view, view.FitsWords

instance (catalog : Catalog) : Decidable catalog.FitsWords :=
  inferInstanceAs (Decidable (∀ table ∈ catalog.tables, ∀ view ∈ table.view,
    view.FitsWords))

/-- The members of a catalog's document form. -/
def members (catalog : Catalog) : List (String × Option JsonValue) :=
  [("version", some (text catalog.version)),
    ("tables", some (array (catalog.tables.map Table.toJson)))]

theorem survives {catalog : Catalog} (h : catalog.FitsWords) :
    Survives Catalog.ofJson? Catalog.toJson catalog := by
  have hversion := (survives_text catalog.version).required
  have htables :=
    (survives_list fun table htable => Table.survives (h table htable)).required
  have hwrite : catalog.toJson = object (present catalog.members) := rfl
  refine survives_record ["version", "tables"] hwrite rfl (by decide) ?_ ?_
  · intro value hvalue
    simp [ofJson?, hvalue, members, hversion.read_member, htables.read_member]
  · simp only [members, List.forall_mem_cons]
    exact ⟨hversion.exact, htables.exact, by simp⟩

/-- A saved catalog is loaded as it was, from its document and from the text of
it, and statements are unfolded and bound as before. -/
theorem ofDocument?_document {catalog : Catalog} (h : catalog.FitsWords) :
    ofJson? catalog.toJson = some catalog ∧
    ofDocument? catalog.document = some catalog ∧
    ∀ loaded, ofDocument? catalog.document = some loaded →
      ∀ today select,
        Plan.unfold loaded today select = Plan.unfold catalog today select ∧
          Plan.bind loaded select = Plan.bind catalog select := by
  have hcatalog := survives h
  have hloaded : ofDocument? catalog.document = some catalog := by
    rw [ofDocument?, document, hcatalog.exact.ofText?_toText]
    exact hcatalog.read_write
  refine ⟨hcatalog.read_write, hloaded, ?_⟩
  intro loaded hdocument today select
  obtain rfl := Option.some.inj (hloaded.symm.trans hdocument)
  exact ⟨rfl, rfl⟩

/-- A report, a view with every clause and the longest limit, and a view with
one clause. -/
def harbourCatalog : Catalog where
  version := "v\"1\""
  tables := [
    { name := "SHIPS"
      aggregateColumn := "Id"
      columns := [{ name := "Id", kind := "LONG", segment := true },
        { name := "Flag", enumValues := ["IT", "NO\u20ac"],
          incompatible := ["Id"] },
        { name := "Freight", kind := "MONEY", zeroImpressions := true }] },
    { name := "FLAGS"
      aggregateColumn := "Id"
      columns := [{ name := "Flag", enumValues := ["IT", "NO\u20ac"],
                    incompatible := ["Id"] },
        { name := "Freight", aliasName := some "total", kind := "MONEY",
          zeroImpressions := true, method := some "SUM", distinct := true }]
      view := some
        { source := "SHIPS"
          primaryKey := "Id"
          conditions := [⟨"Flag", .isIn, ["IT", "a\tb"], false⟩,
            ⟨"Freight", .greater, ["0"], true⟩]
          during := some (.days ⟨Day.ofCount 17000, Day.ofCount (-800000)⟩)
          groupBy := [⟨{ name := "Flag" }, 1⟩]
          orderBy :=
            [⟨⟨{ name := "Freight", aliasName := some "total" }, 2⟩, true⟩]
          limit := some ⟨0, 18446744073709551615⟩ } },
    { name := "WEEK"
      aggregateColumn := "Id"
      columns := []
      view := some { source := "SHIPS", primaryKey := "Id",
                     during := some (.named .last7Days) } }]

theorem ofDocument?_document_harbourCatalog :
    harbourCatalog.FitsWords ∧
    ofDocument? harbourCatalog.document = some harbourCatalog := by
  have hfits : harbourCatalog.FitsWords := by decide +kernel
  exact ⟨hfits, (ofDocument?_document hfits).2.1⟩

end Catalog

end ReportQuery
