import NetConsole.Foundations.FallibleMaps
import NetConsole.Foundations.GuardedRuns
import Mathlib.Data.List.Nodup

/-!
# The targets of an agent

The agent keeps the document of its targets in memory and in `targets.json`. A
call edits the document first and saves it then: `saveLocked` writes the whole
document to a temporary file and moves that over `targets.json`.

Nothing takes an edit back whose save fails. The call then reports an error with
the edited document in memory and the one before it in the file. In a run
without such a save memory and file agree in every state, whatever else fails;
the ids are distinct and valid in any run.

`encoding/json` is `TargetJson`: a document is read back from its own text.
-/

set_option autoImplicit false

namespace NetConsole.Agent

open Foundations List

/-! ## Documents -/

/-- A saved target. -/
structure Target where
  (id name type host protocol : String)
  port : Int
  (username password remark : String)
  deriving DecidableEq

/-- The document in the file. -/
structure Document where
  targets : List Target
  deriving DecidableEq

def maskedPassword : String := "******"

/-- `unicode.IsSpace`. -/
def isGoSpace (char : Char) : Bool :=
  let code := char.toNat
  9 ≤ code && code ≤ 13 || 0x2000 ≤ code && code ≤ 0x200a ||
    [0x20, 0x85, 0xa0, 0x1680, 0x2028, 0x2029, 0x202f, 0x205f, 0x3000].contains code

/-- `strings.TrimSpace(text) == ""`. -/
def isBlank (text : String) : Bool := text.toList.all isGoSpace

/-- The protocols are ASCII words that no other letter folds to, so `ToLower` and `EqualFold`
compare like the lower case of ASCII. -/
def validate (target : Target) : Except String Unit :=
  if isBlank target.id || isBlank target.name || isBlank target.host then
    .error "目标 id、name、host 不能为空"
  else if target.id.toList.any (fun char => char = '/' || char = '\\') ||
      target.id = "." || target.id = ".." then
    .error "目标 id 不得包含路径分隔符"
  else if target.protocol.toLower ∉ ["ssh", "telnet", "local"] then
    .error ("不支持的目标协议: " ++ target.protocol)
  else if target.protocol.toLower ≠ "local" && (target.port ≤ 0 || 65535 < target.port) then
    .error "远程目标端口必须在 1-65535"
  else .ok ()

/-- The loop of `validateDocument` over the ids `seen`. -/
def validateTargets (seen : List String) : List Target → Except String Unit
  | [] => .ok ()
  | target :: rest => do
    validate target
    if target.id ∈ seen then .error ("目标 ID 重复: " ++ target.id)
    else validateTargets (target.id :: seen) rest

def validateDocument (doc : Document) : Except String Unit := validateTargets [] doc.targets

/-- `List`: the targets, with their passwords masked on request. -/
def Document.list (doc : Document) (mask : Bool) : List Target :=
  doc.targets.map fun target =>
    if mask && target.password ≠ "" then { target with password := maskedPassword } else target

/-! ## Calls -/

/-- The calls of the store. -/
inductive StoreCall where
  /-- `Open`, with the error of a file that cannot be read. -/
  | openFile (unread : Option String)
  | create (target : Target)
  | update (id : String) (target : Target)
  | delete (id : String)
  | importDocument (doc : Document)

/-- The first target with the id of the given one gives way to it. -/
def replaceFirst (target : Target) : List Target → List Target
  | [] => []
  | current :: rest =>
    if current.id = target.id then target :: rest else current :: replaceFirst target rest

/-- The password of an imported target: a masked one is that of the target with its id. -/
def Document.unmask (doc : Document) (target : Target) : Target :=
  if target.password ≠ maskedPassword then target
  else
    { target with
      password := ((doc.targets.find? (·.id = target.id)).map Target.password).getD "" }

/-- What `Create`, `Update`, `Delete` and `Import` do before they save; `Open` edits nothing. -/
def Document.edit (doc : Document) : StoreCall → Except String Document
  | .openFile _ => .ok doc
  | .create target => do
    validate target
    if doc.targets.any (·.id = target.id) then .error ("目标 ID 已存在: " ++ target.id)
    else return ⟨doc.targets ++ [target]⟩
  | .update id target =>
    match doc.targets.find? (·.id = id) with
    | none => .error ("目标不存在: " ++ id)
    | some current => do
      let target := { target with
        id := id
        password :=
          if target.password = maskedPassword then current.password else target.password }
      validate target
      return ⟨replaceFirst target doc.targets⟩
  | .delete id =>
    if doc.targets.any (·.id = id) then .ok ⟨doc.targets.eraseP (·.id = id)⟩
    else .error ("目标不存在: " ++ id)
  | .importDocument imported => do
    let imported : Document := ⟨imported.targets.map doc.unmask⟩
    validateDocument imported
    return imported

/-- `encoding/json` on documents. -/
structure TargetJson where
  marshal : Document → Except String (List UInt8)
  unmarshal : List UInt8 → Except String Document
  unmarshal_marshal : ∀ doc text, marshal doc = .ok text → unmarshal text = .ok doc

/-- `targets.json`, and the document of the store that is open. -/
structure TargetStore where
  file : Option (List UInt8)
  doc : Option Document
  deriving DecidableEq

variable (json : TargetJson)

/-- `saveLocked`, with the error of the directory, of the write to the temporary file or of the
replacement: before this one succeeds nothing has touched `targets.json`. -/
def TargetStore.save (store : TargetStore) (doc : Document) (fault : Option String) :
    Except String Unit × TargetStore :=
  match fault, json.marshal doc with
  | some error, _ | none, .error error => (.error error, store)
  | none, .ok text => (.ok (), { store with file := some text })

/-- What `reload` reads from a file that is there. -/
def readTargets (text : List UInt8) : Except String Document :=
  match json.unmarshal text with
  | .error error => .error ("解析 targets.json 失败: " ++ error)
  | .ok doc => (validateDocument doc).map fun _ => doc

/-- `Open`: a file that is missing is written with an empty document. -/
def TargetStore.openFile (store : TargetStore) (unread : Option String)
    (fault : Option String) : Except String Unit × TargetStore :=
  match unread, store.file with
  | some error, _ => (.error ("读取 targets.json 失败: " ++ error), store)
  | none, none =>
    match store.save json ⟨[]⟩ fault with
    | (.ok (), saved) => (.ok (), { saved with doc := some ⟨[]⟩ })
    | (.error error, saved) => (.error error, saved)
  | none, some text =>
    match readTargets json text with
    | .ok doc => (.ok (), { store with doc := some doc })
    | .error error => (.error error, store)

/-- A call and what it returns; no call but `Open` is possible before a store is open. -/
def TargetStore.perform (store : TargetStore) (call : StoreCall) (fault : Option String) :
    Option (Except String Unit × TargetStore) :=
  match call with
  | .openFile unread => some (store.openFile json unread fault)
  | _ =>
    store.doc.map fun doc =>
      match doc.edit call with
      | .error error => (.error error, store)
      | .ok edited => { store with doc := some edited }.save json edited fault

/-- A step of a run: a call with the fault its save meets, if it gets that far. -/
def TargetStore.step (store : TargetStore) (action : StoreCall × Option String) :
    Option TargetStore :=
  (store.perform json action.1 action.2).map Prod.snd

/-! ## What is promised -/

/-- The targets are valid, and their ids differ. -/
def Document.Valid (doc : Document) : Prop :=
  (∀ target ∈ doc.targets, validate target = .ok ()) ∧ (doc.targets.map Target.id).Nodup

/-- Memory is valid, the file reads as it, and a masked import keeps it. -/
structure TargetStore.Agrees (store : TargetStore) : Prop where
  valid : ∀ doc, store.doc = some doc → doc.Valid
  reopens : ∀ doc, store.doc = some doc →
    ∃ text, store.file = some text ∧ readTargets json text = .ok doc
  masked : ∀ doc fault result after, store.doc = some doc →
    store.perform json (.importDocument ⟨doc.list true⟩) fault = some (result, after) →
    after.doc = some doc

/-- A call that returns an error changes neither the document nor the file. -/
def TargetStore.ErrorKeeps (store : TargetStore) (action : StoreCall × Option String) : Prop :=
  ∀ error after, store.perform json action.1 action.2 = some (.error error, after) →
    after.doc = store.doc ∧ after.file = store.file

/-- The save of a call that changes the document does not fail. -/
def TargetStore.Spared (store : TargetStore) (action : StoreCall × Option String) : Prop :=
  ∀ doc edited, store.doc = some doc → doc.edit action.1 = .ok edited → edited ≠ doc →
    action.2 = none ∧ ∃ text, json.marshal edited = .ok text

variable {json} {doc edited : Document} {call : StoreCall} {fault : Option String}
  {store after : TargetStore} {result : Except String Unit}

/-! ## Edits -/

theorem validateTargets_iff (seen : List String) (targets : List Target) :
    validateTargets seen targets = .ok () ↔ (∀ target ∈ targets, validate target = .ok ()) ∧
      (targets.map Target.id).Nodup ∧ ∀ target ∈ targets, target.id ∉ seen := by
  induction targets generalizing seen with
  | nil => simp [validateTargets]
  | cons target rest ih =>
    simp only [validateTargets, bind_eq_ok, guard_eq_ok, ih, map_cons, nodup_cons, mem_cons,
      not_or, mem_map, not_exists, not_and, forall_and, forall_eq_or_imp]
    constructor
    · rintro ⟨_, valid, unseen, others, distinct, new, behind⟩
      exact ⟨⟨valid, others⟩, ⟨new, distinct⟩, unseen, behind⟩
    · rintro ⟨⟨valid, others⟩, ⟨new, distinct⟩, unseen, behind⟩
      exact ⟨(), valid, unseen, others, distinct, new, behind⟩

theorem validateDocument_iff : validateDocument doc = .ok () ↔ doc.Valid := by
  simp [validateDocument, validateTargets_iff, Document.Valid]

theorem replaceFirst_spec (target : Target) (targets : List Target) :
    (replaceFirst target targets).map Target.id = targets.map Target.id ∧
      ∀ other ∈ replaceFirst target targets, other = target ∨ other ∈ targets := by
  induction targets with
  | nil => simp [replaceFirst]
  | cons current rest ih =>
    unfold replaceFirst
    split
    · next same => simp_all
    · refine ⟨by simp [ih.1], forall_mem_cons.mpr ⟨.inr mem_cons_self, fun other mem => ?_⟩⟩
      exact (ih.2 other mem).imp_right (mem_cons_of_mem _)

theorem edit_valid (valid : doc.Valid) (edits : doc.edit call = .ok edited) : edited.Valid := by
  cases call with
  | openFile unread => exact Except.ok.inj edits ▸ valid
  | create target =>
    obtain ⟨_, accepted, edits⟩ := bind_eq_ok.mp edits
    obtain ⟨new, edits⟩ := guard_eq_ok.mp edits
    cases edits
    refine ⟨by simpa [accepted, or_imp, forall_and] using valid.1, ?_⟩
    simpa [nodup_append, valid.2] using new
  | update id target =>
    simp only [Document.edit] at edits
    split at edits
    · cases edits
    · obtain ⟨_, accepted, edits⟩ := bind_eq_ok.mp edits
      cases edits
      obtain ⟨ids, members⟩ := replaceFirst_spec _ doc.targets
      refine ⟨fun other mem => ?_, ids ▸ valid.2⟩
      rcases members other mem with rfl | mem
      · exact accepted
      · exact valid.1 other mem
  | delete id =>
    simp only [Document.edit] at edits
    split at edits
    · cases edits
      exact ⟨fun target mem => valid.1 target (mem_of_mem_eraseP mem),
        (eraseP_sublist.map Target.id).nodup valid.2⟩
    · cases edits
  | importDocument imported =>
    obtain ⟨_, accepted, edits⟩ := bind_eq_ok.mp edits
    cases edits
    exact validateDocument_iff.mp accepted

/-- The masked export resolves to the document it was made from. -/
theorem edit_masked (valid : doc.Valid) : doc.edit (.importDocument ⟨doc.list true⟩) = .ok doc := by
  have resolved : (doc.list true).map doc.unmask = doc.targets := by
    rw [Document.list, List.map_map]
    refine (map_congr_left fun target mem => ?_).trans (map_id _)
    have found : doc.targets.find? (·.id = target.id) = some target := by
      obtain ⟨other, found⟩ : ∃ other, doc.targets.find? (·.id = target.id) = some other :=
        Option.isSome_iff_exists.mp (find?_isSome.mpr ⟨target, mem, by simp⟩)
      have same : other.id = target.id := of_decide_eq_true (find?_some found :)
      rw [found, inj_on_of_nodup_map valid.2 (mem_of_find?_eq_some found) mem same]
    by_cases password : target.password = ""
    · simp [Document.unmask, password, maskedPassword]
    · simp [Document.unmask, password, found]
  refine bind_eq_ok.mpr ⟨(), validateDocument_iff.mpr ?_, ?_⟩
  · rwa [resolved]
  · rw [resolved]
    rfl

/-! ## Calls and runs -/

theorem TargetStore.save_cases (store : TargetStore) (json : TargetJson) (doc : Document)
    (fault : Option String) :
    (∃ text, fault = none ∧ json.marshal doc = .ok text ∧
      store.save json doc fault = (.ok (), { store with file := some text })) ∨
    ¬(fault = none ∧ ∃ text, json.marshal doc = .ok text) ∧
      ∃ error, store.save json doc fault = (.error error, store) := by
  unfold TargetStore.save
  split
  · exact .inr ⟨nofun, _, rfl⟩
  · next failed => exact .inr ⟨by simp [failed], _, rfl⟩
  · next text marshalled => exact .inl ⟨text, rfl, marshalled, rfl⟩

theorem readTargets_eq_ok {text : List UInt8} :
    readTargets json text = .ok doc ↔ json.unmarshal text = .ok doc ∧ doc.Valid := by
  rw [← validateDocument_iff, readTargets]
  cases json.unmarshal text with
  | error error => simp
  | ok found =>
    simp only [map_eq_ok, Except.ok.injEq]
    constructor
    · rintro ⟨_, accepted, rfl⟩
      exact ⟨rfl, accepted⟩
    · rintro ⟨rfl, accepted⟩
      exact ⟨(), accepted, rfl⟩

theorem readTargets_marshal (valid : doc.Valid) {text : List UInt8}
    (marshalled : json.marshal doc = .ok text) : readTargets json text = .ok doc :=
  readTargets_eq_ok.mpr ⟨json.unmarshal_marshal _ text marshalled, valid⟩

/-- A spared call leaves the store as it is, or ends with a file that reads as the document. -/
theorem perform_spared (valid : ∀ doc, store.doc = some doc → doc.Valid)
    (spared : store.Spared json (call, fault))
    (performs : store.perform json call fault = some (result, after)) :
    (∃ error, result = .error error ∧ after = store) ∨
      ∃ text doc, result = .ok () ∧ after = ⟨some text, some doc⟩ ∧
        readTargets json text = .ok doc := by
  unfold TargetStore.perform at performs
  split at performs
  · have opened := Option.some.inj performs
    unfold TargetStore.openFile at opened
    split at opened
    · exact .inl ⟨_, (Prod.mk.inj opened).1.symm, (Prod.mk.inj opened).2.symm⟩
    · obtain ⟨text, _, marshalled, saves⟩ | ⟨-, error, saves⟩ := store.save_cases json ⟨[]⟩ fault
      · cases saves ▸ opened
        have valid : Document.Valid ⟨[]⟩ := ⟨nofun, nodup_nil⟩
        exact .inr ⟨text, ⟨[]⟩, rfl, rfl, readTargets_marshal valid marshalled⟩
      · cases saves ▸ opened
        exact .inl ⟨error, rfl, rfl⟩
    · next text isText =>
      split at opened
      · next doc read =>
        cases opened
        exact .inr ⟨text, doc, rfl, by rw [isText], read⟩
      · cases opened
        exact .inl ⟨_, rfl, rfl⟩
  · obtain ⟨doc, held, same⟩ := Option.map_eq_some_iff.mp performs
    split at same
    · cases same
      exact .inl ⟨_, rfl, rfl⟩
    · next edited edits =>
      obtain ⟨text, _, marshalled, saves⟩ | ⟨fails, error, saves⟩ :=
        TargetStore.save_cases ⟨store.file, some edited⟩ json edited fault
      · cases saves.symm.trans same
        exact .inr ⟨text, edited, rfl, rfl,
          readTargets_marshal (edit_valid (valid doc held) edits) marshalled⟩
      · cases saves.symm.trans same
        have kept : edited = doc := by
          by_contra changed
          exact fails (spared doc edited held edits changed)
        exact .inl ⟨error, rfl, by rw [kept, ← held]⟩

theorem agrees_of (valid : ∀ doc, store.doc = some doc → doc.Valid)
    (reopens : ∀ doc, store.doc = some doc →
      ∃ text, store.file = some text ∧ readTargets json text = .ok doc) : store.Agrees json := by
  refine ⟨valid, reopens, fun doc fault result after held performs => ?_⟩
  simp only [TargetStore.perform, held, Option.map_some, edit_masked (valid doc held)] at performs
  obtain ⟨text, _, -, saves⟩ | ⟨-, _, saves⟩ :=
    TargetStore.save_cases ⟨store.file, some doc⟩ json doc fault
  · cases saves ▸ Option.some.inj performs
    rfl
  · cases saves ▸ Option.some.inj performs
    rfl

theorem agrees_step (agrees : store.Agrees json) (spared : store.Spared json (call, fault))
    (performs : store.perform json call fault = some (result, after)) : after.Agrees json := by
  obtain ⟨_, -, rfl⟩ | ⟨text, _, -, rfl, reads⟩ := perform_spared agrees.valid spared performs
  · exact agrees
  · refine agrees_of (fun doc held => ?_) fun doc held => ⟨text, rfl, Option.some.inj held ▸ reads⟩
    exact Option.some.inj held ▸ (readTargets_eq_ok.mp reads).2

/-- A process starts without a store, with whatever is in the file. In every state of a run whose
calls are spared memory and file agree, and a spared call that returns an error changes neither. -/
theorem targetStore_agrees {file : Option (List UInt8)} {actions : List (StoreCall × Option String)}
    (run : GuardedRun (TargetStore.step json) (TargetStore.Spared json)
      ⟨file, none⟩ actions store) :
    store.Agrees json ∧ ∀ action, store.Spared json action → store.ErrorKeeps json action := by
  have agrees : store.Agrees json := by
    refine run.invariant (TargetStore.Agrees json) ?_ (agrees_of nofun nofun)
    intro before action after agrees spared taken
    obtain ⟨⟨_, _⟩, performs, rfl⟩ := Option.map_eq_some_iff.mp taken
    exact agrees_step agrees spared performs
  refine ⟨agrees, fun action spared error after performs => ?_⟩
  obtain ⟨_, -, rfl⟩ | ⟨_, _, impossible, -⟩ := perform_spared agrees.valid spared performs
  · exact ⟨rfl, rfl⟩
  · cases impossible

/-- A router that is reached over ssh. -/
def router : Target := ⟨"mr-1", "MR", "mr", "127.0.0.1", "ssh", 22, "admin", "secret", ""⟩

/-- The router under another name. -/
def renamedRouter : Target := { router with name := "MR 1" }

/-- A field of a target in the indented text. -/
def fieldText (name value : String) : String := "      \"" ++ name ++ "\": " ++ value

/-- A text without characters to escape. -/
def quotedText (value : String) : String := "\"" ++ value ++ "\""

def targetText (target : Target) : String :=
  "    \x7b\n" ++ ",\n".intercalate [fieldText "id" (quotedText target.id),
    fieldText "name" (quotedText target.name), fieldText "type" (quotedText target.type),
    fieldText "host" (quotedText target.host), fieldText "protocol" (quotedText target.protocol),
    fieldText "port" (toString target.port), fieldText "username" (quotedText target.username),
    fieldText "password" (quotedText target.password),
    fieldText "remark" (quotedText target.remark)] ++ "\n    \x7d"

/-- What `MarshalIndent` makes of a document, with the newline that is written behind it. -/
def documentText (doc : Document) : List UInt8 :=
  (if doc.targets = [] then "\x7b\n  \"targets\": []\n\x7d\n"
    else "\x7b\n  \"targets\": [\n" ++ ",\n".intercalate (doc.targets.map targetText) ++
      "\n  ]\n\x7d\n").toUTF8.toList

def sampleDocuments : List Document := [⟨[]⟩, ⟨[router]⟩, ⟨[renamedRouter]⟩]

theorem find?_documentText : ∀ doc ∈ sampleDocuments,
    sampleDocuments.find? (fun other => documentText other = documentText doc) = some doc := by
  decide +kernel

/-- `encoding/json` on these documents. -/
def sampleJson : TargetJson where
  marshal doc :=
    if doc ∈ sampleDocuments then .ok (documentText doc) else .error "json: unsupported value"
  unmarshal text :=
    match sampleDocuments.find? (fun other => documentText other = text) with
    | some doc => .ok doc
    | none => .error "unexpected end of JSON input"
  unmarshal_marshal := by
    intro doc text marshalled
    split at marshalled
    · next mem =>
      rw [← Except.ok.inj marshalled, find?_documentText doc mem]
    · cases marshalled

/-- The guard `Spared` as a test. -/
def TargetStore.sparedTest (json : TargetJson) (store : TargetStore)
    (action : StoreCall × Option String) : Bool :=
  store.doc.all fun doc =>
    match doc.edit action.1 with
    | .error _ => true
    | .ok edited => edited = doc || action.2.isNone && (json.marshal edited).isOk

theorem spared_of_test (store : TargetStore) (action : StoreCall × Option String)
    (passed : store.sparedTest json action = true) : store.Spared json action := by
  intro doc edited held edits changed
  simp only [TargetStore.sparedTest, held, edits, Option.all_some] at passed
  cases marshalled : json.marshal edited with
  | error error => simp_all [Except.isOk, Except.toBool]
  | ok text => simp_all

/-- A target is created, a second creation is rejected, it is renamed under its masked password,
and its masked export is imported while the file cannot be written. -/
def sampleActions : List (StoreCall × Option String) :=
  [(.openFile none, none), (.create router, none), (.create router, none),
    (.update "mr-1" { renamedRouter with password := maskedPassword }, none),
    (.importDocument ⟨(Document.mk [renamedRouter]).list true⟩, some "no space left on device")]

def sampleStore : TargetStore := ⟨some (documentText ⟨[renamedRouter]⟩), some ⟨[renamedRouter]⟩⟩

theorem targetStore_agrees_sampleActions : sampleStore.Agrees sampleJson ∧ ∀ action,
    sampleStore.Spared sampleJson action → sampleStore.ErrorKeeps sampleJson action := by
  have run : GuardedRun (TargetStore.step sampleJson) (TargetStore.Spared sampleJson) ⟨none, none⟩
      sampleActions sampleStore := .of_tested spared_of_test (by decide +kernel)
  exact targetStore_agrees run

/-- The write that saves a new target fails: the target stays in memory. -/
theorem not_errorKeeps : ¬ ∀ (json : TargetJson) (file : Option (List UInt8))
    (actions : List (StoreCall × Option String)) (store : TargetStore),
    runFrom (TargetStore.step json) ⟨file, none⟩ actions = some store →
      store.Agrees json ∧ ∀ action, store.ErrorKeeps json action := by
  intro all
  have kept := (all sampleJson none [(.openFile none, none)] _ rfl).2
    (.create router, some "no space left on device")
  have performs : TargetStore.perform sampleJson ⟨some (documentText ⟨[]⟩), some ⟨[]⟩⟩
      (.create router) (some "no space left on device") =
      some (.error "no space left on device", ⟨some (documentText ⟨[]⟩), some ⟨[router]⟩⟩) := by
    have accepted : validate router = .ok () := by decide +kernel
    simp [TargetStore.perform, Document.edit, accepted, TargetStore.save]
  have same := (kept _ _ performs).1
  cases same

end NetConsole.Agent
