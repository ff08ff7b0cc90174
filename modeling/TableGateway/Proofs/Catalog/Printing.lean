import TableGateway.CommandLine.Run
import TableGateway.Proofs.Catalog.Declaration
import TableGateway.Proofs.Catalog.Grouping
import TableGateway.Proofs.Json.Delimiting

/-!
# Printed catalogs

The JSON text of a catalog is a catalog file. If it is read as the tree that it writes, then
it declares exactly the tables and columns of the catalog, which is therefore what is read
from it. Tables without columns could not be read back, but no catalog that is read from a
file or from the description of a database has one.
-/

namespace TableGateway

open Outcome

/-! ### Trees -/

namespace Yaml

mutual

/-- The tree of a JSON value, whose strings are between double quotes. -/
def Node.ofJson : Json → Node
  | .string text => .scalar .none .doubleQuoted text
  | .array items => .sequence .none (Node.ofItems items)
  | .object members => .mapping .none (Node.ofMembers members)
  | value => .scalar .none .plain value.compact

/-- The trees of the items of an array. -/
def Node.ofItems : List Json → List Node
  | [] => []
  | item :: rest => Node.ofJson item :: Node.ofItems rest

/-- The trees of the names and the values of the members of an object. -/
def Node.ofMembers : List (String × Json) → List (Node × Node)
  | [] => []
  | (name, value) :: rest =>
    (.scalar .none .doubleQuoted name, Node.ofJson value) :: Node.ofMembers rest

end

/-- The printed text of a JSON value is read as the tree of the value. -/
def ReadsAsWritten (value : Json) : Prop :=
  Document.ofText? (CommandLine.jsonLines value).toList = some (.ofRoot (.ofJson value))

/-- The trees of the items of an array are those of the single items. -/
theorem Node.ofItems_eq_map (items : List Json) :
  ofItems items = items.map ofJson
  := by
  induction items with
  | nil => rfl
  | cons item items ih => rw [ofItems, ih, List.map_cons]

namespace Document

variable (document : Document)

/-- The items of the tree of an array are the trees of its items. -/
theorem items_array (items : List Json) :
  document.items (.ofJson (.array items)) = pure (items.map Node.ofJson)
  := by
  rw [← Node.ofItems_eq_map]
  rfl

/-- The members of the tree of an object are the trees of its members, under their names. -/
theorem members_object (members : List (String × Json)) :
  document.members (.ofJson (.object members))
    = pure (members.map fun member => (member.1, Node.ofJson member.2))
  := by
  have hmembers : (Node.ofMembers members).mapM
        (fun member => do return (← document.text member.1, member.2))
      = (pure (members.map fun member => (member.1, Node.ofJson member.2)) : Reading _) := by
    induction members with
    | nil => rfl
    | cons member members ih =>
        obtain ⟨name, value⟩ := member
        rw [Node.ofMembers, List.mapM_cons, ih]
        rfl
  apply hmembers

end Document

end Yaml

/-! ### Declarations -/

/-- The declaration of a column, which gives its type. -/
def Column.declaration (column : Column) : ColumnDeclaration :=
  ⟨column.name, some column.type.name⟩

/-- The declaration of a table. -/
def Table.declaration (table : Table) : TableDeclaration :=
  ⟨table.name, table.columns.map Column.declaration⟩

/-- The tree of a printed column declares it. -/
theorem ColumnDeclaration.ofNode_toJson (document : Yaml.Document) (column : Column) :
  ofNode document (.ofJson column.toJson) = pure column.declaration
  := by
  rw [ofNode, Column.toJson, Yaml.Document.members_object]
  rfl

/-- The tree of a printed table declares it. -/
theorem TableDeclaration.ofNode_toJson (document : Yaml.Document) (table : Table) :
  ofNode document table.name (.ofJson table.toJson) = pure table.declaration
  := by
  have hcolumns : ((table.columns.map Column.toJson).map Yaml.Node.ofJson).mapM
        (ColumnDeclaration.ofNode document)
      = (pure (table.columns.map Column.declaration) : Yaml.Reading _) := by
    rw [List.map_map, List.mapM_map]
    simp only [Function.comp_def, ColumnDeclaration.ofNode_toJson, List.mapM_pure]
  rw [ofNode, Table.toJson, Yaml.Document.members_object]
  have hnode : (do
      let columns ← document.items (.ofJson (.array (table.columns.map Column.toJson)))
      return (⟨table.name, ← columns.mapM (ColumnDeclaration.ofNode document)⟩ : TableDeclaration))
      = pure table.declaration := by
    rw [Yaml.Document.items_array, pure_bind, hcolumns]
    rfl
  apply hnode

/-- The declaration of a catalog, which has the supported version. -/
def Catalog.declaration (catalog : Catalog) : Schema :=
  Schema.ofTables Schema.supportedVersion (catalog.tables.map Table.declaration)

theorem Catalog.tables_declaration (catalog : Catalog) :
  catalog.declaration.tables = catalog.tables.map Table.declaration
  := by
  apply NameOrder.collect_eq_self
  rw [List.pairwise_map]
  apply catalog.sorted

/-- The trees of printed tables declare them all, in order. -/
theorem TableDeclaration.mapM_ofNode_toJson (document : Yaml.Document) (tables : List Table) :
  ((tables.map fun table => (table.name, Yaml.Node.ofJson table.toJson)).mapM
      fun (name, node) => ofNode document name node)
    = (pure (tables.map Table.declaration) : Yaml.Reading _)
  := by
  rw [List.mapM_map]
  simp only [Function.comp_def, ofNode_toJson, List.mapM_pure]

/-- The tree of a catalog is read as its declaration. -/
theorem Schema.ofRoot_toJson
    {document : Yaml.Document} {catalog : Catalog} (h : document.root = .ofJson catalog.toJson) :
  ofRoot document = pure catalog.declaration
  := by
  have hmembers : document.members (.ofJson (.object
        (catalog.tables.map fun table => (table.name, table.toJson))))
      = pure (catalog.tables.map fun table => (table.name, Yaml.Node.ofJson table.toJson)) := by
    rw [Yaml.Document.members_object, List.map_map]
    rfl
  -- Without a member `version` the tables are all that is left to be read.
  have htables : (do
      let tables ← document.members (.ofJson (.object
        (catalog.tables.map fun table => (table.name, table.toJson))))
      let tables ← tables.mapM fun (name, node) => TableDeclaration.ofNode document name node
      return ofTables supportedVersion tables)
      = (pure catalog.declaration : Yaml.Reading Schema) := by
    rw [hmembers, pure_bind, TableDeclaration.mapM_ofNode_toJson, pure_bind]
    rfl
  rw [ofRoot, h, Catalog.toJson, Yaml.Document.members_object]
  apply htables

/-! ### Reading back -/

theorem Column.declares_declaration (column : Column) :
  column.declaration.Declares column
  := by
  constructor
  case name => rfl
  case type => apply ColumnType.ofDeclared?_eq_some_iff.mp column.type.ofDeclared?_name

theorem Table.declares_declaration (table : Table) :
  table.declaration.Declares table
  := by
  constructor
  case name => rfl
  case columns =>
    apply List.forall₂_map_left_iff.mpr
    apply List.forall₂_same.mpr
    intro column _
    apply column.declares_declaration

/-- What is declared for a catalog are its tables with their columns. -/
theorem Catalog.declares_declaration (catalog : Catalog) :
  catalog.declaration.Declares catalog
  := by
  rw [Schema.Declares, tables_declaration]
  apply List.forall₂_map_left_iff.mpr
  apply List.forall₂_same.mpr
  intro table _
  apply table.declares_declaration

/-- What is declared for a table with columns is sound. -/
theorem Table.sound_declaration {table : Table} (h : table.columns ≠ []) :
  table.declaration.Sound
  := by
  constructor
  case nonempty => simpa [declaration] using h
  case nodup =>
    rw [TableDeclaration.map_name_eq_of_declares table.declares_declaration.columns]
    apply table.nodup
  case typed =>
    intro column hcolumn
    obtain ⟨source, -, rfl⟩ := List.mem_map.mp hcolumn
    use source.type, source.declares_declaration.type

/-- No table of the catalog is without columns. -/
def Catalog.Filled (catalog : Catalog) : Prop :=
  ∀ table ∈ catalog.tables, table.columns ≠ []

/-- What is declared for a filled catalog is checked with success, and gives the catalog. -/
theorem Catalog.check_declaration {catalog : Catalog} (h : catalog.Filled) :
  catalog.declaration.check = .ok catalog
  := by
  apply Schema.check_eq_ok_iff.mpr
  refine ⟨⟨rfl, ?_⟩, catalog.declares_declaration⟩
  intro declared hdeclared
  rw [tables_declaration] at hdeclared
  obtain ⟨table, htable, rfl⟩ := List.mem_map.mp hdeclared
  apply Table.sound_declaration (h table htable)

/-- What the text of a catalog is read as. -/
theorem Catalog.ofFileText_jsonLines
    {catalog : Catalog} (hfilled : catalog.Filled) (hreads : Yaml.ReadsAsWritten catalog.toJson) :
  ofFileText (CommandLine.jsonLines catalog.toJson) = .ok catalog
  := by
  have hdocument : Schema.ofDocument? (.ofRoot (.ofJson catalog.toJson))
      = some catalog.declaration := by
    rw [Schema.ofDocument?, Yaml.Document.read?, Schema.ofRoot_toJson rfl]
    rfl
  rw [ofFileText, hreads, Option.bind_some, hdocument]
  apply check_declaration hfilled

/-! ### Catalogs without empty tables -/

/-- A schema that is checked with success has no table without columns. -/
theorem Schema.filled_of_check
    {schema : Schema} {catalog : Catalog} (h : schema.check = .ok catalog) :
  catalog.Filled
  := by
  obtain ⟨hsound, hdeclares⟩ := check_eq_ok_iff.mp h
  have hboth := ((List.forall₂_and_left schema.tables catalog.tables).mpr
    ⟨hsound.tables, hdeclares⟩).flip
  intro table htable hempty
  obtain ⟨declared, hdeclared, hcolumns⟩ :=
    exists_forall₂_iff.mp ⟨schema.tables, hboth⟩ table htable
  have hall := hcolumns.columns
  rw [hempty] at hall
  apply hdeclared.nonempty (List.forall₂_nil_right_iff.mp hall)

/-- A catalog that is read from a file has no empty table. -/
theorem Catalog.filled_of_ofFileText
    {text : String} {catalog : Catalog} (h : ofFileText text = .ok catalog) :
  catalog.Filled
  := by
  rw [ofFileText] at h
  split at h
  · apply Schema.filled_of_check h
  · cases h

/-- A catalog that is made of the description of a database has no empty table. -/
theorem Catalog.filled_of_ofReply?
    {reply : Reply} {catalog : Catalog} (h : ofReply? reply = some catalog) :
  catalog.Filled
  := by
  obtain ⟨results, -, h⟩ := Option.bind_eq_some_iff.mp h
  obtain ⟨descriptions, -, h⟩ := Option.bind_eq_some_iff.mp h
  cases h
  intro table htable
  rw [tables_ofTables_eq_collect] at htable
  apply ColumnDescription.columns_ne_nil (NameOrder.mem_of_mem_collect htable)

/-! ### Different catalogs -/

/-- Different types have different names. -/
theorem ColumnType.name_injective {type other : ColumnType} (h : type.name = other.name) :
  type = other
  := by
  have hsome : some type = some other := by rw [← ofName?_name type, ← ofName?_name other, h]
  apply Option.some.inj hsome

/-- Different columns are printed differently. -/
theorem Column.toJson_injective {column other : Column} (h : column.toJson = other.toJson) :
  column = other
  := by
  cases column
  cases other
  simp only [toJson, Json.object.injEq, List.cons.injEq, Prod.mk.injEq, Json.string.injEq, true_and,
    and_true] at h
  rw [Column.mk.injEq]
  use h.1, ColumnType.name_injective h.2

theorem Table.eq_of_toJson_eq
    {table other : Table} (hname : table.name = other.name) (h : table.toJson = other.toJson) :
  table = other
  := by
  simp only [toJson, Json.object.injEq, List.cons.injEq, Prod.mk.injEq, Json.array.injEq, true_and,
    and_true] at h
  apply eq_of_columns hname ((List.map_inj_right fun _ _ => Column.toJson_injective).mp h)

/-- Different catalogs have different JSON values. -/
theorem Catalog.toJson_injective {catalog other : Catalog} (h : catalog.toJson = other.toJson) :
  catalog = other
  := by
  simp only [toJson, Json.object.injEq, List.cons.injEq, Prod.mk.injEq, true_and, and_true] at h
  have htables : catalog.tables = other.tables := by
    apply (List.map_inj_right _).mp h
    intro table other hmember
    apply Table.eq_of_toJson_eq
    · apply congrArg Prod.fst hmember
    · apply congrArg Prod.snd hmember
  apply ext_tables
  intro table
  rw [htables]

theorem Column.textual_toJson (column : Column) :
  column.toJson.Textual
  := by
  apply Json.Textual.object
  rw [List.forall_mem_cons, List.forall_mem_singleton]
  use .string column.name, .string column.type.name

theorem Table.textual_toJson (table : Table) :
  table.toJson.Textual
  := by
  apply Json.Textual.object
  rw [List.forall_mem_singleton]
  apply Json.Textual.array
  rw [List.forall_mem_map]
  intro column _
  apply column.textual_toJson

/-- The JSON value of a catalog consists of texts alone. -/
theorem Catalog.textual_toJson (catalog : Catalog) :
  catalog.toJson.Textual
  := by
  apply Json.Textual.object
  rw [List.forall_mem_singleton]
  apply Json.Textual.object
  rw [List.forall_mem_map]
  intro table _
  apply table.textual_toJson

/-- Different catalogs are printed differently. -/
theorem Catalog.eq_of_jsonLines_eq
    {catalog other : Catalog}
    (h : CommandLine.jsonLines catalog.toJson = CommandLine.jsonLines other.toJson) :
  catalog = other
  := by
  apply toJson_injective
  apply catalog.textual_toJson.eq_of_indented_eq other.textual_toJson
  apply (String.append_left_inj "\n").mp h

/-! ### Printing and reading back -/

/-- What the command line prints of a catalog as JSON is a catalog file. If that text is read
as the tree that it writes, it is accepted as a file in any place, and the catalog that is
read is the printed one, provided that no table of it is empty. No catalog from a file or
from the description of a database has an empty table. Catalogs that differ in any way are
printed differently. -/
theorem Catalog.printed_as_file :
  (∀ (catalog : Catalog) (files : Files) (path : String), catalog.Filled →
      Yaml.ReadsAsWritten catalog.toJson →
        files path = some (CommandLine.jsonLines catalog.toJson) →
          CommandLine.readCatalog files path = .ok catalog)
    ∧ (∀ (catalog : Catalog) (files : Files) (path : String),
      CommandLine.readCatalog files path = .ok catalog → catalog.Filled
        ∧ (⟨.json, .catalog path⟩ : CommandLine.Invocation).output files
          = .ok (CommandLine.jsonLines catalog.toJson))
    ∧ (∀ (catalog : Catalog) (reply : Reply), ofReply? reply = some catalog → catalog.Filled)
    ∧ ∀ catalog other : Catalog,
      CommandLine.jsonLines catalog.toJson = CommandLine.jsonLines other.toJson → catalog = other
  := by
  refine ⟨?_, ?_, fun _ _ => filled_of_ofReply?, fun _ _ => eq_of_jsonLines_eq⟩
  · intro catalog files path hfilled hreads hfile
    simp only [CommandLine.readCatalog, hfile]
    rw [ofFileText_jsonLines hfilled hreads]
    rfl
  · intro catalog files path hread
    constructor
    · rw [CommandLine.readCatalog] at hread
      split at hread
      · cases hread
      · apply filled_of_ofFileText (mapError_eq_ok_iff.mp hread)
    · simp only [CommandLine.Invocation.output, hread]
      rfl

/-- A catalog of two tables. The columns of the books are not in the order of their names. -/
def shelf : Catalog :=
  .ofTables [.ofColumns "books" [⟨"title", .string⟩, ⟨"author", .int⟩],
    .ofColumns "authors" [⟨"id", .int⟩]]

/-- The same catalog with the columns of the books exchanged. -/
def rearrangedShelf : Catalog :=
  .ofTables [.ofColumns "books" [⟨"author", .int⟩, ⟨"title", .string⟩],
    .ofColumns "authors" [⟨"id", .int⟩]]

/-- Files of which one is the printed catalog. -/
def shelfFiles : Files
  | "shelf" => some (CommandLine.jsonLines shelf.toJson)
  | _ => none

/-- The tokens of a printed column. -/
def columnTokens (name type : String) : List Yaml.Token := [
  .flowMapping, .key, .scalar .doubleQuoted "name", .value, .scalar .doubleQuoted name,
  .separator, .key, .scalar .doubleQuoted "type", .value, .scalar .doubleQuoted type,
  .flowMappingEnd]

/-- The tokens of a printed table. -/
def tableTokens (name : String) (columns : List (List Yaml.Token)) : List Yaml.Token :=
  [.key, .scalar .doubleQuoted name, .value, .flowMapping, .key, .scalar .doubleQuoted "columns",
    .value, .flowSequence] ++ [.separator].intercalate columns ++ [.flowSequenceEnd, .flowMappingEnd]

/-- The printed catalog is read as the tree that it writes. -/
theorem readsAsWritten_shelf :
  Yaml.ReadsAsWritten shelf.toJson
  := by
  have htokens : Yaml.Token.ofText? (CommandLine.jsonLines shelf.toJson).toList
      = some ([.flowMapping, .key, .scalar .doubleQuoted "tables", .value, .flowMapping]
        ++ tableTokens "authors" [columnTokens "id" "int"] ++ [.separator]
        ++ tableTokens "books" [columnTokens "title" "string", columnTokens "author" "int"]
        ++ [.flowMappingEnd, .flowMappingEnd]) := by
    decide +kernel
  rw [Yaml.ReadsAsWritten, Yaml.Document.ofText?, htokens]
  rfl

/-- The printed catalog is read back, and printed otherwise with its columns in another order. -/
theorem Catalog.printed_as_file_shelf :
  CommandLine.readCatalog shelfFiles "shelf" = .ok shelf
    ∧ CommandLine.jsonLines shelf.toJson ≠ CommandLine.jsonLines rearrangedShelf.toJson
  := by
  obtain ⟨hback, -, -, hinjective⟩ := printed_as_file
  constructor
  · apply hback shelf shelfFiles "shelf" _ readsAsWritten_shelf rfl
    have hfilled : ∀ table ∈ shelf.tables, table.columns ≠ [] := by decide +kernel
    apply hfilled
  · intro h
    have hcolumns := congrArg (fun catalog => catalog.tables.map Table.columns) (hinjective _ _ h)
    revert hcolumns
    decide +kernel

end TableGateway
