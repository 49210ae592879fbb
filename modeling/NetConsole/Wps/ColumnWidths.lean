import NetConsole.Wps.RemoteTask

/-!
# The report on the column widths

Behind the result of a task, `_column_width_verification_report` compares the width of each
column in the local workbook, in the request and in the document. The numbers of the answer
are read by `_safe_float` and `_safe_int`. Both swallow a `TypeError` and a `ValueError`
only, so an integer that is too large for a float and an infinite count raise.
-/

set_option autoImplicit false

namespace NetConsole.Wps

open Worker (Json Event PythonError dictGet textOr pythonInt)

section ColumnWidths

variable (lib : WpsLibrary)

/-! ## Numbers -/

/-- `except (TypeError, ValueError)`. -/
def isConversionError : PythonError → Bool
  | .other => false
  | .jsonDecodeError | .valueError | .typeError => true

/-- `_safe_int`. -/
def safeInt (value : Json) : Except PythonError Nat :=
  match pythonInt lib.python value with
  | .ok number => .ok number.toNat
  | .error raised => if isConversionError raised then .ok 0 else .error raised

/-- `_safe_float`: a finite number. -/
def safeFloat : Json → Except PythonError (Option Rat)
  | .bool value => .ok (some (if value then 1 else 0))
  | .int value => (lib.floatOfInt value).map some
  | .float text | .str text => .ok (lib.finiteFloat text)
  | .null | .arr _ | .obj _ => .ok none

/-- `_width_matches`. -/
def widthMatches (left right : Option Rat) (tolerance : Rat) : Bool :=
  match left, right with
  | some one, some other => lib.within one other tolerance
  | _, _ => false

/-! ## The columns of the request -/

/-- A sheet and a column of it. -/
abbrev ColumnKey := String × String

/-- The text of a mode. -/
def WidthMode.text : WidthMode → String
  | .explicit => "EXPLICIT"
  | .autoFit => "AUTO_FIT"
  | .autoFitWithLocalMin => "AUTO_FIT_WITH_LOCAL_MIN"

/-- `payload_widths` and `payload_modes`. -/
structure PayloadColumns where
  widths : ColumnKey → Option Rat
  modes : ColumnKey → Option WidthMode

/-- A column with its width. -/
def PayloadColumns.addWidth (columns : PayloadColumns) (key : ColumnKey) (width : Rat) :
    PayloadColumns where
  widths := Function.update columns.widths key (some width)
  modes := Function.update columns.modes key (some .explicit)

/-- A column whose width is fitted, with the width as a bound when it has one. -/
def PayloadColumns.addAutoFit (columns : PayloadColumns) (key : ColumnKey) : PayloadColumns :=
  { columns with
    modes := Function.update columns.modes key
      (some (if (columns.widths key).isSome then .autoFitWithLocalMin else .autoFit)) }

/-- The columns of a sheet: first those with a width, then those that are fitted. -/
def PayloadColumns.addSheet (columns : PayloadColumns) (sheet : WorkbookSheet) : PayloadColumns :=
  let key (column : String) : ColumnKey := (sheet.sheetName, lib.python.upper column)
  let explicit := sheet.columnWidths.foldl
    (fun columns width => columns.addWidth (key width.1) width.2) columns
  sheet.autoFitColumns.foldl (fun columns column => columns.addAutoFit (key column)) explicit

/-- The columns of a request. -/
def payloadColumns (payload : RequestPayload) : PayloadColumns :=
  payload.workbook.sheets.foldl (PayloadColumns.addSheet lib) ⟨fun _ => none, fun _ => none⟩

/-! ## The columns of the document -/

/-- `raw_items`: the entries of `column_width_result` that name a sheet and a column. -/
def remoteItems (result : Event) : List (ColumnKey × Event) :=
  match dictGet result "column_width_result" with
  | .obj columns =>
    match dictGet columns "items" with
    | .arr items => items.filterMap fun item =>
      match item with
      | .obj fields =>
        let key := (textOr lib.python fields "sheet_name",
          lib.python.upper (textOr lib.python fields "column"))
        if key.1 ≠ "" ∧ key.2 ≠ "" then some (key, fields) else none
      | _ => none
    | _ => []
  | _ => []

/-- `remote_items.get(key, {})`: the last entry of a column. -/
def remoteItem (result : Event) (key : ColumnKey) : Event :=
  ((remoteItems lib result).reverse.lookup key).getD []

/-! ## The report -/

/-- What the comparison of a column has come to: whether its width has been verified, and
whether its physical width is a warning. -/
structure ColumnReport where
  (verified warned : Bool)

/-- The comparison of a column. -/
def columnReport (payload : RequestPayload) (result : Event) (source : ColumnSource) :
    Except PythonError ColumnReport := do
  let key := (source.sheetName, lib.python.upper source.column)
  let payloadMode := (payloadColumns lib payload).modes key
  let payloadWidth := (payloadColumns lib payload).widths key
  let dtoMode := source.sheetDtoMode
  let dtoWidth := source.sheetDtoWidth
  let localWidth := source.localWorkbookWidth
  let remote := remoteItem lib result key
  let remoteMode := lib.python.upper
    (Worker.pythonStr lib.python ((dictGet remote "mode").orElse (.str "EXPLICIT")))
  let requestedWidth ← safeFloat lib (dictGet remote "requested_width")
  let beforeColumnWidth ← safeFloat lib (dictGet remote "before_column_width")
  let remoteColumnWidth ← safeFloat lib (dictGet remote "remote_column_width")
  let beforeWidthPoints ← safeFloat lib (dictGet remote "before_width_points")
  let remoteWidthPoints ← safeFloat lib (dictGet remote "remote_width_points")
  let modesMatch := remoteMode == source.sourceMode.text
  let remoteLocalWidth ←
    -- the right side of `and` and `or` is read only when the left side leaves it open
    if source.sourceMode ≠ .explicit ∧ modesMatch ∧ payloadWidth.isSome then
      safeFloat lib (dictGet remote "local_workbook_width")
    else pure none
  let matched := widthMatches lib
  let (dtoMatches, payloadMatches, requestMatches, remoteMatches) :=
    if source.sourceMode ≠ .explicit then
      (dtoMode == some source.sourceMode &&
        (localWidth.isNone || matched localWidth dtoWidth (1/100)),
        payloadMode == some source.sourceMode &&
          (dtoWidth.isNone || matched dtoWidth payloadWidth (1/100)),
        modesMatch && (payloadWidth.isNone || matched payloadWidth remoteLocalWidth (1/100)),
        (dictGet remote "verified").truthy && remoteColumnWidth.isSome)
    else
      (dtoMode == some .explicit && matched localWidth dtoWidth (1/100),
        payloadMode == some .explicit && matched dtoWidth payloadWidth (1/100),
        remoteMode == "EXPLICIT" && matched payloadWidth requestedWidth (1/100),
        matched payloadWidth remoteColumnWidth (1/2))
  let _ ← safeFloat lib (dictGet remote "auto_fit_width")
  let _ ← safeFloat lib (dictGet remote "physical_width_change_points")
  let applyMismatch := match beforeColumnWidth, beforeWidthPoints, requestedWidth,
      remoteWidthPoints with
    | some before, some points, some requested, some behind =>
      !lib.within before requested (1/2) && lib.within behind points (1/100)
    | _, _, _, _ => false
  return {
    verified := dtoMatches && payloadMatches && (!remote.isEmpty && requestMatches) && remoteMatches
    warned := remoteWidthPoints.isNone || applyMismatch }

/-- Whether `_column_width_verification_report` has another status than `SUCCESS`: a column
has failed, or there is a warning. -/
def columnWidthsWarn (payload : RequestPayload) (manifest : List ColumnSource) (result : Event) :
    Except PythonError Bool := do
  let columns ← manifest.mapM (columnReport lib payload result)
  let _ ← safeInt lib
    (match dictGet result "column_width_result" with
    | .obj widths => dictGet widths "attempted_count"
    | _ => .int 0)
  return columns.any fun column => !column.verified || column.warned

end ColumnWidths

end NetConsole.Wps
