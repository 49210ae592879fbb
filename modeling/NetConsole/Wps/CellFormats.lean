import NetConsole.Worker.JsonRoundTrip

/-!
# The formats of worksheet cells

`_cell_format_payload` reads what is mirrored of the format of a cell, feature by feature, and
`_format_signature` writes a payload as JSON. Cells whose signatures are equal have equal
payloads (`formatSignature_injective`): what is written can be read back.
-/

set_option autoImplicit false

namespace NetConsole.Wps

open Foundations (integerText)
open Worker List Option

/-! ## Cells -/

/-- A colour, as `openpyxl` gives it. -/
structure OpenpyxlColor where
  (type rgb : String)

/-- A side of a border, as `openpyxl` gives it. -/
structure BorderSide where
  style : String
  color : Option OpenpyxlColor

/-- The attributes of a cell that are read; a rotation is 0 to 180, or 255. -/
structure CellStyle (floats : PythonFloats) where
  fontName : Option String
  fontSize : Option (PyFloat floats)
  (bold italic : Option Bool)
  underline : Option String
  strike : Option Bool
  fontColor : Option OpenpyxlColor
  fillType : Option String
  (fgColor bgColor : Option OpenpyxlColor)
  (numberFormat horizontal vertical : Option String)
  wrapText : Option Bool
  textRotation : Option (Fin 256)
  shrinkToFit : Option Bool
  (left right top bottom diagonal : Option BorderSide)
  (diagonalUp diagonalDown : Option Bool)

/-- A cell; it is blank if its value is `None` or the empty text. -/
structure Cell (floats : PythonFloats) where
  blank : Bool
  style : CellStyle floats

/-! ## Payloads -/

/-- What is sent of a font. -/
structure FontPayload (floats : PythonFloats) where
  name : String
  size : Option (PyFloat floats)
  (bold italic : Bool)
  underline : String
  strike : Bool
  color : String

/-- What is sent of a fill. -/
structure FillPayload where
  (fillType fgColor bgColor : String)

/-- What is sent of an alignment. -/
structure AlignmentPayload where
  (horizontal vertical : String)
  wrapText : Bool
  textRotation : Fin 256
  shrinkToFit : Bool
  deriving DecidableEq

/-- What is sent of a side. -/
structure SidePayload where
  (style color : String)

/-- A diagonal side, and whether it goes up and down. -/
structure DiagonalPayload where
  side : SidePayload
  (up down : Bool)

/-- What is sent of a border. -/
structure BorderPayload where
  (left right top bottom : Option SidePayload)
  diagonal : Option DiagonalPayload

/-- The features of a format. -/
inductive FormatFeature
  | font | fill | numberFormat | alignment | border
  deriving DecidableEq

/-- The payload of a feature, where it is not empty. -/
inductive FeaturePayload (floats : PythonFloats)
  | font (font : FontPayload floats)
  | fill (fill : FillPayload)
  | numberFormat (numberFormat : String)
  | alignment (alignment : AlignmentPayload)
  | border (border : BorderPayload)

local instance lawfulDigits : LawfulBEq (List Char) := inferInstance

/-- The text of a colour. -/
def openpyxlColor (color : Option OpenpyxlColor) : String :=
  match color with
  | none => ""
  | some color =>
    if color.type ≠ "rgb" then ""
    else
      let value := (strip color.rgb.toList).dropWhile (· = '#')
      let alpha := (value.take 2).map Char.toUpper
      let visible := (value.drop 2).map Char.toUpper
      if value.length = 8 ∧ (alpha ∉ [['0', '0'], ['F', 'F']] ∨
          (alpha = ['0', '0'] ∧ visible = List.replicate 6 '0')) then ""
      else
        let value := if value.length = 8 then visible else value
        if value.length = 6 ∧ value.all (fun digit => digit.isDigit ∨
            digit.toUpper ∈ ['A', 'B', 'C', 'D', 'E', 'F']) then
          String.ofList ('#' :: value.map Char.toUpper)
        else ""

/-- What is sent of a side; nothing of one without style. -/
def borderSidePayload (side : Option BorderSide) : Option SidePayload :=
  (side.filter (·.style ≠ "")).map fun side => ⟨side.style, openpyxlColor side.color⟩

section Payloads

variable {floats : PythonFloats}

/-- The parts of `_cell_format_payload`. -/
def fontPayload (style : CellStyle floats) : FontPayload floats where
  name := style.fontName.getD ""
  size := style.fontSize
  bold := style.bold.getD false
  italic := style.italic.getD false
  underline := style.underline.getD ""
  strike := style.strike.getD false
  color := openpyxlColor style.fontColor

/-- What is sent of the fill of a cell. -/
def fillPayload (style : CellStyle floats) : FillPayload where
  fillType := style.fillType.getD ""
  fgColor := openpyxlColor style.fgColor
  bgColor := openpyxlColor style.bgColor

/-- What is sent of the alignment of a cell. -/
def alignmentPayload (style : CellStyle floats) : AlignmentPayload where
  horizontal := style.horizontal.getD ""
  vertical := style.vertical.getD ""
  wrapText := style.wrapText.getD false
  textRotation := style.textRotation.getD 0
  shrinkToFit := style.shrinkToFit.getD false

/-- What is sent of the borders of a cell. -/
def borderPayload (style : CellStyle floats) : BorderPayload where
  left := borderSidePayload style.left
  right := borderSidePayload style.right
  top := borderSidePayload style.top
  bottom := borderSidePayload style.bottom
  diagonal := (borderSidePayload style.diagonal).map fun side =>
    ⟨side, style.diagonalUp.getD false, style.diagonalDown.getD false⟩

/-- What is sent of one feature of a cell. -/
def featureFormatPayload (cell : Cell floats) (feature : FormatFeature) :
    Option (FeaturePayload floats) :=
  match feature with
  | .font => some (.font (fontPayload cell.style))
  | .fill =>
    let fill := fillPayload cell.style
    if fill.fillType ≠ "" ∧ fill.fgColor ≠ "" then some (.fill fill) else none
  | .numberFormat =>
    let numberFormat := cell.style.numberFormat.getD ""
    some (.numberFormat (if numberFormat = "" then "General" else numberFormat))
  | .alignment =>
    let alignment := alignmentPayload cell.style
    if alignment = ⟨"", "", false, 0, false⟩ then none else some (.alignment alignment)
  | .border =>
    let border := borderPayload cell.style
    if border.left.isNone && border.right.isNone && border.top.isNone && border.bottom.isNone &&
        border.diagonal.isNone then none
    else some (.border border)

/-! ## Signatures -/

/-- A dictionary with text keys, as it is sorted when it is written. -/
def textDict (fields : List (String × PyValue floats)) : PyValue floats :=
  .dict (fields.map fun (name, value) => (.str name, value))

/-- The fields that have a value. -/
def presentFields {α : Type} (fields : List (String × Option α)) : List (String × α) :=
  fields.filterMap fun (name, value) => value.map fun value => (name, value)

/-- The payload as a dictionary. -/
def FontPayload.value (font : FontPayload floats) : PyValue floats :=
  textDict [("bold", .bool font.bold), ("color", .str font.color), ("italic", .bool font.italic),
    ("name", .str font.name), ("size", (font.size.map PyValue.float).getD .none),
    ("strike", .bool font.strike), ("underline", .str font.underline)]

/-- The payload as a dictionary. -/
def FillPayload.value (fill : FillPayload) : PyValue floats :=
  textDict [("bg_color", .str fill.bgColor), ("fg_color", .str fill.fgColor),
    ("fill_type", .str fill.fillType)]

/-- The payload as a dictionary. -/
def AlignmentPayload.value (alignment : AlignmentPayload) : PyValue floats :=
  textDict [("horizontal", .str alignment.horizontal),
    ("shrink_to_fit", .bool alignment.shrinkToFit),
    ("text_rotation", .int alignment.textRotation.val), ("vertical", .str alignment.vertical),
    ("wrap_text", .bool alignment.wrapText)]

/-- The payload as a dictionary. -/
def SidePayload.value (side : SidePayload) : PyValue floats :=
  textDict [("color", .str side.color), ("style", .str side.style)]

/-- The payload as a dictionary. -/
def DiagonalPayload.value (diagonal : DiagonalPayload) : PyValue floats :=
  textDict [("color", .str diagonal.side.color), ("down", .bool diagonal.down),
    ("style", .str diagonal.side.style), ("up", .bool diagonal.up)]

/-- The payload as a dictionary. -/
def BorderPayload.value (border : BorderPayload) : PyValue floats :=
  textDict (presentFields [("bottom", border.bottom.map SidePayload.value),
    ("diagonal", border.diagonal.map DiagonalPayload.value),
    ("left", border.left.map SidePayload.value), ("right", border.right.map SidePayload.value),
    ("top", border.top.map SidePayload.value)])

/-- The dictionary of a payload; without one it is empty. -/
def payloadValue (payload : Option (FeaturePayload floats)) : PyValue floats :=
  match payload with
  | none => textDict []
  | some (.font font) => textDict [("font", font.value)]
  | some (.fill fill) => textDict [("fill", fill.value)]
  | some (.numberFormat numberFormat) => textDict [("number_format", .str numberFormat)]
  | some (.alignment alignment) => textDict [("alignment", alignment.value)]
  | some (.border border) => textDict [("border", border.value)]

/-- The text by which formats are compared. -/
def formatSignature (payload : Option (FeaturePayload floats)) : List Char :=
  (dumps (payloadValue payload)).toOption.getD []

/-! ## Every payload is written -/

/-- The value is written, as an object. -/
def Writes (value : PyValue floats) : Prop := ∃ body, dumps value = .ok ('{' :: body)

/-- `json.dumps` writes the value. -/
def IsWritten (value : PyValue floats) : Prop := ∃ text, dumps value = .ok text

theorem Writes.isWritten {value : PyValue floats} (writes : Writes value) : IsWritten value :=
  writes.imp' _ fun _ same => same

theorem isWritten_str (text : String) : IsWritten (.str text : PyValue floats) := by
  exact ⟨_, rfl⟩

theorem isWritten_bool (truth : Bool) : IsWritten (.bool truth : PyValue floats) := by
  exact ⟨_, rfl⟩

theorem isWritten_size (size : Option (PyFloat floats)) :
    IsWritten ((size.map PyValue.float).getD .none) := by
  cases size with
  | none =>
    show ∃ text, dumps .none = .ok text
    exact ⟨_, rfl⟩
  | some size =>
    show ∃ text, dumps (.float size) = .ok text
    exact ⟨_, rfl⟩

theorem isWritten_rotation (rotation : Fin 256) :
    IsWritten (.int rotation.val : PyValue floats) := by
  have short : ∀ rotation : Fin 256,
      (Nat.toDigits 10 (rotation.val : Int).natAbs).length ≤ maxIntegerDigits := by
    decide +kernel
  exact ⟨_, if_neg (Nat.not_lt.mpr (short rotation))⟩

variable {fields : List (String × PyValue floats)}

theorem writes_textDict
    (written : ∀ field ∈ fields, IsWritten field.2) : Writes (textDict fields) := by
  have each : ∃ texts, dumpsFields
      (fields.map fun (name, value) => (PyKey.str name, value)) = .ok texts := by
    induction fields with
    | nil => exact ⟨[], rfl⟩
    | cons field fields ih =>
      obtain ⟨_, first⟩ := written field mem_cons_self
      obtain ⟨texts, rest⟩ := ih fun other mem => written other (mem_cons_of_mem field mem)
      rw [map_cons, dumpsFields, first, rest]
      exact ⟨_, rfl⟩
  obtain ⟨texts, each⟩ := each
  unfold Writes textDict
  rw [dumps, each]
  exact ⟨_, rfl⟩

theorem writes_payloadValue (payload : Option (FeaturePayload floats)) :
    Writes (payloadValue payload) := by
  have side : ∀ side : SidePayload, IsWritten (side.value : PyValue floats) := fun side =>
    (writes_textDict (by simp [isWritten_str])).isWritten
  have diagonal : ∀ diagonal : DiagonalPayload, IsWritten (diagonal.value : PyValue floats) :=
    fun diagonal => (writes_textDict (by simp [isWritten_str, isWritten_bool])).isWritten
  cases payload with
  | none => exact writes_textDict nofun
  | some payload =>
    cases payload with
    | font font =>
      refine writes_textDict (forall_mem_singleton.mpr (writes_textDict ?_).isWritten)
      simp [isWritten_str, isWritten_bool, isWritten_size]
    | fill fill =>
      refine writes_textDict (forall_mem_singleton.mpr (writes_textDict ?_).isWritten)
      simp [isWritten_str]
    | numberFormat numberFormat =>
      exact writes_textDict (forall_mem_singleton.mpr (isWritten_str numberFormat))
    | alignment alignment =>
      refine writes_textDict (forall_mem_singleton.mpr (writes_textDict ?_).isWritten)
      simp [isWritten_str, isWritten_bool, isWritten_rotation]
    | border border =>
      refine writes_textDict (forall_mem_singleton.mpr (writes_textDict ?_).isWritten)
      intro field mem
      obtain ⟨⟨_, value⟩, listed, present⟩ := mem_filterMap.mp mem
      obtain ⟨held, rfl, rfl⟩ := map_eq_some_iff.mp present
      have some' : ∀ {α : Type} {value : α → PyValue floats} (all : ∀ item, IsWritten (value item))
          {item : Option α}, item.map value = some held → IsWritten held := by
        intro α value all item same
        obtain ⟨item, -, rfl⟩ := map_eq_some_iff.mp same
        exact all item
      simp only [mem_cons, Prod.mk.injEq, not_mem_nil, or_false] at listed
      rcases listed with ⟨-, same⟩ | ⟨-, same⟩ | ⟨-, same⟩ | ⟨-, same⟩ | ⟨-, same⟩
      · exact some' side same.symm
      · exact some' diagonal same.symm
      · exact some' side same.symm
      · exact some' side same.symm
      · exact some' side same.symm

/-! ## Signatures tell payloads apart -/

theorem image_textDict (distinct : (fields.map Prod.fst).Nodup) :
    image (textDict fields) = .obj (fields.map fun (name, value) => (name, image value)) := by
  unfold textDict
  rw [image, imageFields_texts distinct fun _ _ => rfl]
  rfl

theorem lookup_presentFields {α β : Type} (image : α → β) {fields : List (String × Option α)}
    {name : String} {value : Option α} (distinct : (fields.map Prod.fst).Nodup)
    (mem : (name, value) ∈ fields) :
    ((presentFields fields).map fun (name, value) => (name, image value)).lookup name =
      value.map image := by
  induction fields with
  | nil => cases mem
  | cons field fields ih =>
    have both := distinct
    have unlike := (nodup_cons.mp distinct).1
    have later : name ≠ field.1 → (name, value) ∈ fields := fun other =>
      (mem_cons.mp mem).resolve_left fun same => other (congrArg Prod.fst same)
    obtain ⟨first, held⟩ := field
    by_cases named : name = first
    · subst named
      have same : value = held := by
        rcases mem_cons.mp mem with same | listed
        · exact congrArg Prod.snd same
        · exact absurd (mem_map_of_mem (f := Prod.fst) listed) unlike
      subst same
      cases value with
      | some value => simp [presentFields]
      | none =>
        -- an absent field leaves no entry, and no later one has its name
        have absent : ∀ entry ∈ (presentFields fields).map fun (name, value) => (name, image value),
            name ≠ entry.1 := by
          intro entry written same
          obtain ⟨⟨other, value⟩, present, rfl⟩ := mem_map.mp written
          obtain ⟨⟨listed, item⟩, among, kept⟩ := mem_filterMap.mp present
          obtain ⟨item, -, equal⟩ := map_eq_some_iff.mp kept
          obtain ⟨rfl, rfl⟩ := Prod.mk.inj equal
          have here : name = listed := same
          exact unlike (here ▸ mem_map.mpr ⟨_, among, rfl⟩)
        show List.lookup name _ = none
        rw [lookup_eq_none_iff]
        exact fun entry written => bne_iff_ne.mpr (absent entry written)
    · have rest := ih (nodup_cons.mp both).2 (later named)
      cases held with
      | none => exact rest
      | some held =>
        rw [← rest]
        show List.lookup name ((first, image held) :: _) = _
        rw [lookup_cons, beq_eq_false_iff_ne.mpr named]
        rfl

theorem image_side {one two : SidePayload}
    (same : image (one.value : PyValue floats) = image (two.value : PyValue floats)) :
    one = two := by
  cases one
  cases two
  unfold SidePayload.value at same
  rw [image_textDict (by simp), image_textDict (by simp)] at same
  simpa [image, and_comm] using same

theorem image_diagonal {one two : DiagonalPayload}
    (same : image (one.value : PyValue floats) = image (two.value : PyValue floats)) :
    one = two := by
  obtain ⟨⟨_, _⟩, _, _⟩ := one
  unfold DiagonalPayload.value at same
  rw [image_textDict (by simp), image_textDict (by simp)] at same
  obtain ⟨rfl, rfl, rfl, rfl⟩ := same
  rfl

theorem image_font {one two : FontPayload floats} (same : image one.value = image two.value) :
    one = two := by
  have sizes : ∀ {one two : Option (PyFloat floats)},
      image ((one.map PyValue.float).getD .none) = image ((two.map PyValue.float).getD .none) →
        one = two := by
    intro one two same
    cases one <;> cases two <;> simp only [Option.getD] at same
    · rfl
    · cases same
    · cases same
    · exact congrArg some (Subtype.ext (Json.float.inj same))
  cases one
  cases two
  unfold FontPayload.value at same
  rw [image_textDict (by simp), image_textDict (by simp)] at same
  simp only [image, map_cons, Json.obj.injEq, List.cons.injEq, Prod.mk.injEq, true_and, and_true,
    Json.str.injEq, Json.bool.injEq] at same
  obtain ⟨rfl, rfl, rfl, rfl, size, rfl, rfl⟩ := same
  rw [sizes size]

theorem image_fill {one two : FillPayload}
    (same : image (one.value : PyValue floats) = image (two.value : PyValue floats)) :
    one = two := by
  cases one
  cases two
  unfold FillPayload.value at same
  rw [image_textDict (by simp), image_textDict (by simp)] at same
  obtain ⟨rfl, rfl, rfl⟩ := same
  rfl

theorem image_alignment {one two : AlignmentPayload}
    (same : image (one.value : PyValue floats) = image (two.value : PyValue floats)) :
    one = two := by
  cases one
  cases two
  unfold AlignmentPayload.value at same
  rw [image_textDict (by simp), image_textDict (by simp)] at same
  simp only [image, map_cons, map_nil, Json.obj.injEq, List.cons.injEq, Prod.mk.injEq, true_and,
    and_true, Json.str.injEq, Json.bool.injEq, Json.int.injEq, Int.natCast_inj, Fin.val_inj] at same
  obtain ⟨rfl, rfl, rfl, rfl, rfl⟩ := same
  rfl

theorem nodup_presentFields {α : Type} {fields : List (String × Option α)}
    (distinct : (fields.map Prod.fst).Nodup) : ((presentFields fields).map Prod.fst).Nodup := by
  refine distinct.sublist ?_
  clear distinct
  induction fields with
  | nil => exact List.Sublist.refl _
  | cons field fields ih =>
    obtain ⟨_, value⟩ := field
    cases value with
    | none => exact ih.cons _
    | some value => exact ih.cons_cons _

theorem image_presentFields {one two : List (String × Option (PyValue floats))}
    (first : (one.map Prod.fst).Nodup) (second : (two.map Prod.fst).Nodup)
    (same : image (textDict (presentFields one)) = image (textDict (presentFields two)))
    {name : String} {here there : Option (PyValue floats)} (listed : (name, here) ∈ one)
    (among : (name, there) ∈ two) : here.map image = there.map image := by
  rw [image_textDict (nodup_presentFields first),
    image_textDict (nodup_presentFields second)] at same
  rw [← lookup_presentFields image first listed, Json.obj.inj same]
  exact lookup_presentFields image second among

theorem image_border {one two : BorderPayload}
    (same : image (one.value : PyValue floats) = image (two.value : PyValue floats)) :
    one = two := by
  have held := fun name here there =>
    @image_presentFields _ _ _ (by simp) (by simp) same name here there
  have options {α : Type} {value : α → PyValue floats} {one two : Option α}
      (injective : ∀ one two, image (value one) = image (value two) → one = two)
      (same : (one.map value).map image = (two.map value).map image) : one = two := by
    rw [Option.map_map, Option.map_map] at same
    exact map_injective injective same
  have sides {one two : Option SidePayload} := @options _ _ one two fun _ _ => image_side
  have diagonals := @options _ _ one.diagonal two.diagonal fun _ _ => image_diagonal
  have left : one.left = two.left := sides (held "left" _ _ (by simp) (by simp))
  have right : one.right = two.right := sides (held "right" _ _ (by simp) (by simp))
  have top : one.top = two.top := sides (held "top" _ _ (by simp) (by simp))
  have bottom : one.bottom = two.bottom := sides (held "bottom" _ _ (by simp) (by simp))
  have diagonal : one.diagonal = two.diagonal := diagonals (held "diagonal" _ _ (by simp) (by simp))
  cases one
  cases two
  cases left
  cases right
  cases top
  cases bottom
  cases diagonal
  rfl

theorem formatSignature_injective {one two : Option (FeaturePayload floats)}
    (same : formatSignature one = formatSignature two) : one = two := by
  have images : image (payloadValue one) = image (payloadValue two) := by
    obtain ⟨first, one⟩ := writes_payloadValue one
    obtain ⟨second, two⟩ := writes_payloadValue two
    unfold formatSignature at same
    rw [one, two] at same
    have equal : '{' :: first = '{' :: second := same
    have read := loads_dumps one
    rw [equal, loads_dumps two] at read
    exact (Except.ok.inj read).symm
  -- a payload is a dictionary of one entry, which its feature names
  have single : ∀ (name : String) (value : PyValue floats),
      image (textDict [(name, value)]) = .obj [(name, image value)] := fun name value =>
    image_textDict (nodup_cons.mpr ⟨not_mem_nil, nodup_nil⟩)
  have empty : image (textDict [] : PyValue floats) = .obj [] := image_textDict nodup_nil
  rcases one with _ | (_ | _ | _ | _ | _) <;> rcases two with _ | (_ | _ | _ | _ | _) <;>
    simp only [payloadValue, single, empty, Json.obj.injEq, List.cons.injEq, Prod.mk.injEq,
      and_true, true_and, reduceCtorEq, String.reduceEq, false_and] at images
  · rfl
  · rw [image_font images]
  · rw [image_fill images]
  · simpa [image] using images
  · rw [image_alignment images]
  · rw [image_border images]

theorem formatSignature_ne_nil (payload : Option (FeaturePayload floats)) :
    formatSignature payload ≠ [] := by
  obtain ⟨_, written⟩ := writes_payloadValue payload
  unfold formatSignature
  rw [written]
  exact cons_ne_nil _ _

end Payloads

end NetConsole.Wps
