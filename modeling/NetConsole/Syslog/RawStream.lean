import Mathlib.Data.List.DropRight

/-!
# Raw stream files

`RawStreamWriter` appends records to files that are chosen by train, role and
receive hour, and returns for each record the identifier of its file and a line
number. The line number comes from a counter in memory that starts at zero
whenever a file is opened; the file is opened for appending.

A path is its text. Its components are free of separators (`PathComponent`), so
different streams have different paths (`relativePath_injective`). The file
identifier is a digest of the path; the digest function is a parameter.
-/

set_option autoImplicit false

namespace NetConsole.Syslog

open List

/-- A directory or file name. -/
structure PathComponent where
  text : List Char
  separatorFree : '/' ∉ text
  deriving DecidableEq

/-- The characters that `str.strip` removes. -/
def isPythonSpace (char : Char) : Bool :=
  let code := char.toNat
  (9 ≤ code && code ≤ 13) || (28 ≤ code && code ≤ 32) || code = 133 || code = 160 || code = 5760 ||
    (8192 ≤ code && code ≤ 8202) || code ∈ [8232, 8233, 8239, 8287, 12288]

/-- Remove such characters at both ends. -/
def stripWhere (unwanted : Char → Bool) (text : List Char) : List Char :=
  (text.dropWhile unwanted).rdropWhile unwanted

/-- The characters that stay in a path component. -/
def isSafe (char : Char) : Bool :=
  ('A' ≤ char && char ≤ 'Z') || ('a' ≤ char && char ≤ 'z') ||
    ('0' ≤ char && char ≤ '9') || char ∈ ['_', '.', '-']

/-- Replace every run of other characters by one underscore; `inRun` tells that
the underscore of the current run is already there. -/
def replaceUnsafe (inRun : Bool) : List Char → List Char
  | [] => []
  | char :: rest =>
    if isSafe char then char :: replaceUnsafe false rest
    else if inRun then replaceUnsafe true rest
    else '_' :: replaceUnsafe true rest

theorem separator_not_mem_replaceUnsafe (inRun : Bool) (text : List Char) :
    '/' ∉ replaceUnsafe inRun text := by
  induction text generalizing inRun with
  | nil => simp [replaceUnsafe]
  | cons char rest ih =>
    unfold replaceUnsafe
    split
    · next safe =>
      simp only [mem_cons, not_or]
      refine ⟨?_, ih false⟩
      rintro rfl
      exact absurd safe (by decide)
    · split
      · exact ih true
      · simpa using ih true

/-- The text as a component of a path. -/
def safeComponent (value : String) : PathComponent :=
  let result := ((stripWhere (· = '.')
    (replaceUnsafe false (stripWhere isPythonSpace value.toList)))).take 100
  if empty : result = [] then ⟨"unknown".toList, by decide⟩
  else ⟨result, fun mem => separator_not_mem_replaceUnsafe false _ ((dropWhile_sublist _).subset
      ((List.rdropWhile_prefix _ _).subset ((take_subset _ _) mem)))⟩

/-- A receive time: the texts of its date and of its hour. -/
structure ReceivedAt where
  (date hour : PathComponent)
  deriving DecidableEq

/-- The fields of a record that choose its file, and its JSON text. -/
structure RawRecord where
  (trainId mrRole sourceIp json : String)

/-- The key of an open file: the stream and the hour. -/
structure FileKey where
  (trainId role : PathComponent)
  receivedHour : ReceivedAt
  deriving DecidableEq

def firstOf (value default : String) : String :=
  if value = "" then default else value

/-- The key that `write` computes. -/
def fileKey (record : RawRecord) (receivedAt : ReceivedAt) : FileKey where
  trainId := safeComponent (firstOf record.trainId "_unidentified")
  role := safeComponent (firstOf record.mrRole (firstOf record.sourceIp "unknown"))
  receivedHour := receivedAt

/-- Same train and role, another hour. -/
def FileKey.rotates (key other : FileKey) : Bool :=
  other.trainId = key.trainId && other.role = key.role && other.receivedHour ≠ key.receivedHour

/-- What is fixed for one writer: the directory below the data root, the
generation in the file names, and the digest in the file identifiers. -/
structure WriterConfig where
  (directory generation : PathComponent)
  sha256 : List Char → String

/-- The path of the file of a key. -/
def relativePath (config : WriterConfig) (key : FileKey) : List Char :=
  ['/'].intercalate [config.directory.text, key.trainId.text, key.role.text,
    key.receivedHour.date.text,
    key.receivedHour.hour.text ++ ('_' :: config.generation.text ++ ".ndjson".toList)]

/-- The id of the file of a key. -/
def fileId (config : WriterConfig) (key : FileKey) : String :=
  "raw_" ++ config.sha256 (relativePath config key)

/-- A file that the store has open. -/
structure OpenRawFile where
  key : FileKey
  fileId : String
  recordCount : Nat

/-- What is read of a row of `raw_files`. -/
structure RawFileRow where
  closed : Bool
  recordCount : Nat

/-- The writer, the lines of the files by path, and the registry by file
identifier. -/
structure RawStream where
  files : List OpenRawFile
  disk : List Char → List String
  registry : String → Option RawFileRow

/-- A new writer: its generation is new, so none of its files is there. -/
def RawStream.initial : RawStream where
  files := []
  disk _ := []
  registry _ := none

/-- `_close_one`: register what was counted since the file was opened. -/
def RawStream.closeOne (stream : RawStream) (current : OpenRawFile) : RawStream where
  files := stream.files.filter fun file => file.key ≠ current.key
  disk := stream.disk
  registry := Function.update stream.registry current.fileId
    (some { closed := true, recordCount := current.recordCount })

/-- `_close_one` for every open file that is concerned. -/
def RawStream.closeWhere (stream : RawStream) (concerned : FileKey → Bool) : RawStream :=
  (stream.files.filter fun file => concerned file.key).foldl RawStream.closeOne stream

/-- `_open`: an existing row keeps its record count. -/
def RawStream.openFile (config : WriterConfig) (stream : RawStream) (key : FileKey) :
    RawStream where
  files := stream.files ++ [{ key := key, fileId := fileId config key, recordCount := 0 }]
  disk := stream.disk
  registry := Function.update stream.registry (fileId config key)
    (some { closed := false,
            recordCount := ((stream.registry (fileId config key)).map
              RawFileRow.recordCount).getD 0 })

/-- The open file of a key. -/
def RawStream.current (stream : RawStream) (key : FileKey) : Option OpenRawFile :=
  stream.files.find? fun file => file.key = key

/-- Append one line to the open file of a key and count it. -/
def RawStream.append (config : WriterConfig) (stream : RawStream) (key : FileKey) (line : String) :
    RawStream where
  files := stream.files.map fun file =>
    if file.key = key then { file with recordCount := file.recordCount + 1 } else file
  disk := Function.update stream.disk (relativePath config key)
    (stream.disk (relativePath config key) ++ [line])
  registry := stream.registry

/-- `write`: close the other hours of the stream, open the file when it is not
open, append the record; the result is the file identifier and the count. -/
def RawStream.write (config : WriterConfig) (stream : RawStream) (record : RawRecord)
    (receivedAt : ReceivedAt) : RawStream × (String × Nat) :=
  let key := fileKey record receivedAt
  let rotated := stream.closeWhere key.rotates
  let opened :=
    if (rotated.current key).isSome then rotated else rotated.openFile config key
  let written := opened.append config key record.json
  (written, ((written.current key).map fun file => (file.fileId, file.recordCount)).getD ("", 0))

/-- All files are closed. -/
def RawStream.close (stream : RawStream) : RawStream :=
  stream.closeWhere fun _ => true

/-! ## Paths -/

theorem intercalate_injective {first second : List (List Char)} (nonempty : first ≠ [])
    (nonempty' : second ≠ []) (free : ∀ part ∈ first, '/' ∉ part)
    (free' : ∀ part ∈ second, '/' ∉ part)
    (same : ['/'].intercalate first = ['/'].intercalate second) : first = second := by
  rw [← splitOn_intercalate '/' free nonempty, same, splitOn_intercalate '/' free' nonempty']

theorem PathComponent.ext_text {first second : PathComponent} (same : first.text = second.text) :
    first = second := by
  cases first
  cases second
  simpa using same

/-- Different keys have different paths. -/
theorem relativePath_injective (config : WriterConfig) :
    Function.Injective (relativePath config) := by
  intro first second same
  have free : ∀ key : FileKey, ∀ part ∈ [config.directory.text, key.trainId.text, key.role.text,
      key.receivedHour.date.text,
      key.receivedHour.hour.text ++ ('_' :: config.generation.text ++ ".ndjson".toList)],
      '/' ∉ part := by
    intro key part mem
    simp only [mem_cons, not_mem_nil, or_false] at mem
    rcases mem with rfl | rfl | rfl | rfl | rfl
    · exact config.directory.separatorFree
    · exact key.trainId.separatorFree
    · exact key.role.separatorFree
    · exact key.receivedHour.date.separatorFree
    · simp only [mem_append, mem_cons, not_or]
      exact ⟨key.receivedHour.hour.separatorFree, ⟨by decide, config.generation.separatorFree⟩,
        by decide⟩
  have parts := intercalate_injective (by simp) (by simp) (free first) (free second) same
  simp only [List.cons.injEq, append_cancel_right_eq, true_and, and_true] at parts
  obtain ⟨train, role, date, hour⟩ := parts
  cases first
  cases second
  simp only [FileKey.mk.injEq]
  exact ⟨PathComponent.ext_text train, PathComponent.ext_text role, by
    rename_i first _ _ second
    cases first
    cases second
    simp only [ReceivedAt.mk.injEq]
    exact ⟨PathComponent.ext_text date, PathComponent.ext_text hour⟩⟩

end NetConsole.Syslog
