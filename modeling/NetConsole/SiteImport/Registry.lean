import Mathlib.Data.List.AList
import Mathlib.Data.List.Sort
import NetConsole.Foundations.DirectoryTree

/-!
# Site Registry records and the identity of a published directory

A registry record is a JSON object: an association list whose keys are
distinct. Replacement recovery compares records field by field
(`registryRecordMatches`) and directories by a digest of all their files
(`directoryIdentity`). A record matches itself (`registryRecordMatches_self`)
and the record that `register` persists matches the expected one
(`serialize_matches_registryExpected`).
-/

set_option autoImplicit false

namespace NetConsole.SiteImport

open Foundations

/-- One item of `sites` in the registry file. -/
abbrev RegistryRecord : Type := AList (fun _ : String => String)

/-- `_registry_record_matches`: both are absent, or every expected field is
there with its value. -/
def registryRecordMatches : Option RegistryRecord → Option RegistryRecord → Bool
  | none, none => true
  | some actual, some expected =>
    expected.entries.all fun field => actual.lookup field.1 = some field.2
  | _, _ => false

/-- `Path(text).parts` without the root. -/
def pathParts (text : String) : List (List Char) :=
  (text.toList.splitOn '/').filter fun part => part ≠ [] && part ≠ ['.']

/-- The record names the site and a relative path inside the root. -/
def validRegistryRecord (value : RegistryRecord) (siteId : String) : Bool :=
  let relative := (value.lookup "relative_path").getD ""
  siteId ≠ "" && (value.lookup "site_id").getD "" = siteId
    && pathParts relative ≠ [] && relative.toList.head? ≠ some '/'
    && ['.', '.'] ∉ pathParts relative

/-- The files of a site with their bytes. -/
abbrev SiteTree : Type := FileTree (List UInt8)

/-- `_directory_identity`: the digest of one line for each file, in the order of
the paths; `sha256` gives the hexadecimal digest. -/
def directoryIdentity (sha256 : List UInt8 → String) (tree : SiteTree) : String :=
  let files := tree.insertionSort fun first second => first.1 ≤ second.1
  sha256 (files.flatMap fun file =>
    (file.1 ++ "\u0000" ++ toString file.2.length ++ "\u0000" ++
      sha256 file.2 ++ "\n").toUTF8.toList)

/-! ## The record an import registers -/

/-- The fields of `SiteRecord` that an import sets. -/
structure SiteRecord where
  (siteId displayName relativePath : String)
  lineName : Option String := none
  projectType : Option String := none

/-- Set a key of a JSON object when there is a value for it. -/
def insertSome (record : RegistryRecord) (key : String) : Option String → RegistryRecord
  | none => record
  | some value => record.insert key value

/-- `registry_expected` of `import_site`. -/
def SiteRecord.registryExpected (site : SiteRecord) : RegistryRecord :=
  let base := (((∅ : RegistryRecord).insert "site_id" site.siteId).insert
    "display_name" site.displayName).insert "relative_path" site.relativePath
  insertSome (insertSome (base.insert "remark" "imported") "line_name" site.lineName)
    "project_type" site.projectType

/-- `SiteRegistryRepository._serialize` of the registered record. -/
def SiteRecord.serialize (site : SiteRecord) (now : String) : RegistryRecord :=
  let base := (((∅ : RegistryRecord).insert "site_id" site.siteId).insert
    "display_name" site.displayName).insert "relative_path" site.relativePath
  let dated := (base.insert "created_at" now).insert "updated_at" now
  insertSome (insertSome (dated.insert "remark" "imported") "line_name" site.lineName)
    "project_type" site.projectType

/-! ## Matching -/

variable {expected actual : RegistryRecord}

theorem registryRecordMatches_some : registryRecordMatches (some actual) (some expected) = true ↔
      ∀ key value, expected.lookup key = some value → actual.lookup key = some value := by
  simp only [registryRecordMatches, List.all_eq_true, decide_eq_true_eq]
  constructor
  · intro every key value held
    exact every ⟨key, value⟩ (AList.mem_lookup_iff.mp held)
  · rintro every ⟨key, value⟩ mem
    exact every key value (AList.mem_lookup_iff.mpr mem)

theorem registryRecordMatches_self (record : Option RegistryRecord) :
    registryRecordMatches record record = true := by
  cases record with
  | none => rfl
  | some record => exact registryRecordMatches_some.mpr fun _ _ held => held

/-- Setting the same key on both sides keeps a match. -/
theorem registryRecordMatches_insert (key value : String)
    (matching : registryRecordMatches (some actual) (some expected) = true) :
    registryRecordMatches (some (actual.insert key value)) (some (expected.insert key value))
      = true := by
  rw [registryRecordMatches_some] at matching ⊢
  intro other found held
  by_cases same : other = key
  · subst same
    simpa using held
  · rw [AList.lookup_insert_ne same] at held ⊢
    exact matching other found held

theorem registryRecordMatches_insert_absent {key : String} (value : String)
    (absent : expected.lookup key = none)
    (matching : registryRecordMatches (some actual) (some expected) = true) :
    registryRecordMatches (some (actual.insert key value)) (some expected) = true := by
  rw [registryRecordMatches_some] at matching ⊢
  intro other found held
  have distinct : other ≠ key := by
    rintro rfl
    simp [absent] at held
  rw [AList.lookup_insert_ne distinct]
  exact matching other found held

theorem registryRecordMatches_insertSome (key : String) (value : Option String)
    (matching : registryRecordMatches (some actual) (some expected) = true) :
    registryRecordMatches (some (insertSome actual key value))
      (some (insertSome expected key value)) = true := by
  cases value with
  | none => exact matching
  | some value => exact registryRecordMatches_insert key value matching

theorem serialize_matches_registryExpected (site : SiteRecord) (now : String) :
    registryRecordMatches (some (site.serialize now)) (some site.registryExpected) = true := by
  refine registryRecordMatches_insertSome _ _ (registryRecordMatches_insertSome _ _
    (registryRecordMatches_insert _ _ ?_))
  refine registryRecordMatches_insert_absent _ ?_ (registryRecordMatches_insert_absent _ ?_
    (registryRecordMatches_self _))
  · rw [AList.lookup_insert_ne (by decide), AList.lookup_insert_ne (by decide),
      AList.lookup_insert_ne (by decide), AList.lookup_empty]
  · rw [AList.lookup_insert_ne (by decide), AList.lookup_insert_ne (by decide),
      AList.lookup_insert_ne (by decide), AList.lookup_empty]

end NetConsole.SiteImport
