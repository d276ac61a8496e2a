import ApiSkeleton.Proofs.Emit.Generation
import ApiSkeleton.Proofs.Model.Contents
import ApiSkeleton.Proofs.Text.Lines
import ApiSkeleton.Proofs.Tree.Printer

namespace ApiSkeleton.Emit

open Model Text

variable {api : Api} {m : Metadata}

/-- The title and the version as they follow each other in the comment. -/
def aboutText (m : Metadata) : String := m.title ++ " " ++ m.version ++ "."

/-- The comment that names the title and the version. -/
def aboutComment (m : Metadata) : String := "// Storage schema for " ++ aboutText m

/-- The second comment. -/
def originComment : String := "// Generated by oas-scaffold; edit freely."

/-- The first import of the module. -/
def columnsImport : String :=
  "import \x7b integer, real, sqliteTable, text \x7d from \"drizzle-orm/sqlite-core\";"

/-- The second import of the module. -/
def validatorsImport : String :=
  "import \x7b createInsertSchema, createSelectSchema \x7d from \"drizzle-zod\";"

/-- What follows the first import. -/
def afterColumnsImport (schemas : List Schema) : String :=
  validatorsImport ++ ("\n" ++ String.join (schemas.map tableText))

/-- The lines before the first import. -/
def headerLines (m : Metadata) : List (List Char) :=
  lines (aboutComment m) ++ [originComment.toList]

theorem schemaHeader_eq (m : Metadata) : schemaHeader m = aboutComment m ++ ("\n" ++
    (originComment ++ ("\n" ++ (columnsImport ++ ("\n" ++ (validatorsImport ++ "\n")))))) := by
  have hpoint : ".\n" = "." ++ "\n" := by decide
  have horigin : "// Generated by oas-scaffold; edit freely.\n" = originComment ++ "\n" := by
    decide +kernel
  have hcolumns : "import \x7b integer, real, sqliteTable, text \x7d from " ++
      "\"drizzle-orm/sqlite-core\";\n" = columnsImport ++ "\n" := by
    decide +kernel
  have hcolumns (rest : String) : "import \x7b integer, real, sqliteTable, text \x7d from " ++
      ("\"drizzle-orm/sqlite-core\";\n" ++ rest) = columnsImport ++ ("\n" ++ rest) := by
    rw [← String.append_assoc, hcolumns, String.append_assoc]
  have hvalidators :
      "import \x7b createInsertSchema, createSelectSchema \x7d from \"drizzle-zod\";\n" =
        validatorsImport ++ "\n" := by
    decide +kernel
  unfold schemaHeader aboutComment aboutText
  rw [hpoint, horigin, hvalidators]
  simp only [String.append_assoc, hcolumns]

/-- Nothing of the header ends in a carriage return, so that the import begins a line of its own. -/
theorem lines_schemaText (api : Api) : lines (schemaText api) =
    headerLines api.metadata ++ columnsImport.toList :: lines (afterColumnsImport api.schemas) := by
  have habout : (aboutComment api.metadata).toList.getLast? ≠ some '\r' := by
    have hpoint : ".".toList = ['.'] := by decide
    unfold aboutComment aboutText
    simp only [String.toList_append, List.getLast?_append, hpoint, List.getLast?_singleton,
      Option.some_or]
    decide
  have horigin : Unbroken originComment.toList := by decide +kernel
  have hcolumns : Unbroken columnsImport.toList := by decide +kernel
  have htext : schemaText api = aboutComment api.metadata ++ ("\n" ++ (originComment ++ ("\n" ++
      (columnsImport ++ ("\n" ++ afterColumnsImport api.schemas))))) := by
    unfold schemaText afterColumnsImport
    rw [schemaHeader_eq]
    simp only [String.append_assoc]
  rw [htext, lines_append_newline habout, lines_append_newline horigin.getLast?_ne,
    lines_append_newline hcolumns.getLast?_ne, lines_of_unbroken horigin,
    lines_of_unbroken hcolumns, headerLines]
  simp only [List.append_assoc, List.singleton_append]

/-- The header is a comment exactly if all lines of the title and the version but the first are
comments by themselves. -/
theorem isComment_headerLines_iff :
    (∀ line ∈ headerLines m, IsComment line) ↔
      ∀ line ∈ (lines (aboutText m)).tail, IsComment line := by
  have hfront : Unbroken "// Storage schema for ".toList := by decide +kernel
  have hcomment : IsComment "// Storage schema for ".toList := by decide +kernel
  have horigin : IsComment originComment.toList := by decide +kernel
  unfold headerLines aboutComment
  rw [List.forall_mem_append, List.forall_mem_singleton, and_iff_left horigin,
    lines_append hfront, forall_mem_joinFirst_iff hcomment]

private theorem lines_aboutText (htitle : Unbroken m.title.toList)
    (hversion : Unbroken m.version.toList) :
    lines (aboutText m) = [(aboutText m).toList] := by
  refine lines_of_unbroken ?_
  simp only [aboutText, String.toList_append, unbroken_append_iff]
  exact ⟨⟨⟨htitle, by decide⟩, hversion⟩, by decide⟩

/-- A character below the space is in a text of the document. -/
private theorem text_of_control {document : Tree} {key : String} {c : Char}
    (hc : c ∈ (infoText document key).toList) (hcontrol : c.toNat < 32) :
    ∃ info, document.member? "info" = some info ∧
      info.member? key = some (.text (infoText document key)) := by
  unfold infoText at hc ⊢
  cases hinfo : document.member? "info" with
  | none => simp [hinfo] at hc
  | some info =>
    refine ⟨info, rfl, ?_⟩
    cases hfound : info.member? key with
    | none => simp [hinfo, hfound] at hc
    | some t =>
      simp only [hinfo, hfound, Option.bind_some, Option.map_some, Option.getD_some] at hc ⊢
      rcases t.eq_text_or_printable_asPrinted with htext | hprintable
      · exact congrArg some htext
      · exact absurd (hprintable c hc) (Nat.not_le.mpr hcontrol)

theorem isLineBreak_iff {c : Char} :
    isLineBreak c ↔ c = '\n' ∨ c = '\r' ∨ c = '\u2028' ∨ c = '\u2029' := by
  simp [isLineBreak]

/-- What stands before the first import of the storage schema. -/
structure HeaderWritten (l : Layout) (document : Tree) (api : Api) : Prop where
  title : api.metadata.title = infoText document "title"
  version : api.metadata.version = infoText document "version"
  written : .ok ⟨l.schemaPath, (schemaText api).toUTF8⟩ ∈ steps l api
  /-- The header ends before the first import, and what follows depends on the schemas alone. -/
  split : lines (schemaText api) =
    headerLines api.metadata ++ columnsImport.toList :: lines (afterColumnsImport api.schemas)
  /-- The header is all comment if no line of the title and the version is anything else. -/
  comment : (∀ line ∈ headerLines api.metadata, IsComment line) ↔
    ∀ line ∈ (lines (aboutText api.metadata)).tail, IsComment line
  /-- So it is if the title and the version have no line break. -/
  unbroken : Unbroken api.metadata.title.toList → Unbroken api.metadata.version.toList →
    ∀ line ∈ headerLines api.metadata, IsComment line
  /-- A line break is a separator beyond ASCII or comes from a text. -/
  breaks : ∀ key, ∀ c ∈ (infoText document key).toList, isLineBreak c →
    c = '\u2028' ∨ c = '\u2029' ∨ ∃ info, document.member? "info" = some info ∧
      info.member? key = some (.text (infoText document key))

/-- The lines of the storage schema before its first import, whatever the title and the version are.
They are all comments exactly if each line of the title and the version after the first is one by
itself, as when there is no other line. -/
theorem header_comment_iff {document : Tree} (hdocument : document.WellFormed)
    (hapi : Api.ofTree document = .ok api) (hcheck : checkApi api = .ok ()) (l : Layout) :
    HeaderWritten l document api := by
  have hmetadata := ofTree_metadata hapi
  constructor
  case title => exact hmetadata.1
  case version => exact hmetadata.2
  case written =>
    rw [steps_of_checked (wellFormed_ofTree hdocument hapi) hcheck]
    exact List.mem_map_of_mem (List.mem_cons_self ..)
  case split => exact lines_schemaText api
  case comment => exact isComment_headerLines_iff
  case unbroken =>
    intro htitle hversion
    rw [isComment_headerLines_iff, lines_aboutText htitle hversion]
    exact List.forall_mem_nil _
  case breaks =>
    intro key c hc hbreak
    rcases isLineBreak_iff.mp hbreak with rfl | rfl | hseparator
    · exact .inr (.inr (text_of_control hc (by decide)))
    · exact .inr (.inr (text_of_control hc (by decide)))
    · exact hseparator.imp_right .inl

/-- A document with one operation under a title. -/
def titledDocument (title : String) : Tree :=
  .object
    [("info", .object [("title", .text title), ("version", .int 1)]),
     ("paths", .object
       [("/pets", .object
          [("get", .object [("operationId", .text "listPets"), ("tags", .list [.text "Pets"])])])])]

def titledApi (title : String) : Api :=
  ⟨[⟨"/pets", .get, "listPets", ["Pets"], [], none, []⟩], [], ⟨title, "1", none⟩⟩

private theorem titledDocument_accepted (title : String) : (titledDocument title).WellFormed ∧
    Api.ofTree (titledDocument title) = .ok (titledApi title) ∧
    checkApi (titledApi title) = .ok () := by
  have hversion : (Tree.int 1).WellFormed := .int (by decide)
  refine ⟨?_, rfl, rfl⟩
  simp [titledDocument, Tree.wellFormed_object_iff, Tree.wellFormed_list_iff, Tree.WellFormed.text,
    hversion]

/-- The second line of this title is a comment of its own. -/
theorem titledDocument_commented :
    ((titledDocument "Pets\n// 2nd edition").WellFormed ∧
      Api.ofTree (titledDocument "Pets\n// 2nd edition") = .ok (titledApi "Pets\n// 2nd edition") ∧
      checkApi (titledApi "Pets\n// 2nd edition") = .ok ()) ∧
    HeaderWritten defaultLayout (titledDocument "Pets\n// 2nd edition")
      (titledApi "Pets\n// 2nd edition") ∧
    ∀ line ∈ headerLines (titledApi "Pets\n// 2nd edition").metadata, IsComment line := by
  obtain ⟨hdocument, hapi, hcheck⟩ := titledDocument_accepted "Pets\n// 2nd edition"
  have hheader := header_comment_iff hdocument hapi hcheck defaultLayout
  refine ⟨⟨hdocument, hapi, hcheck⟩, hheader, hheader.comment.mpr ?_⟩
  decide +kernel

/-- The second line of this title is a statement of the module. -/
theorem titledDocument_leaves_comment :
    Api.ofTree (titledDocument "Pets\nprocess.exit(1); //") =
      .ok (titledApi "Pets\nprocess.exit(1); //") ∧
    checkApi (titledApi "Pets\nprocess.exit(1); //") = .ok () ∧
    lines (schemaText (titledApi "Pets\nprocess.exit(1); //")) =
      ["// Storage schema for Pets".toList, "process.exit(1); // 1.".toList,
        originComment.toList] ++ columnsImport.toList :: lines (afterColumnsImport []) ∧
    ¬ IsComment "process.exit(1); // 1.".toList := by
  have hheader : headerLines (titledApi "Pets\nprocess.exit(1); //").metadata =
      ["// Storage schema for Pets".toList, "process.exit(1); // 1.".toList,
        originComment.toList] := by
    decide +kernel
  refine ⟨rfl, rfl, ?_, by decide⟩
  rw [lines_schemaText, hheader]
  rfl

end ApiSkeleton.Emit
