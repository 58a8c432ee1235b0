import Mathlib.Data.PNat.Basic

/-!
The settings of `config/env.ts` that the modelled functions read. Every
`z.coerce.number().int().positive()` is a positive natural number, so a
configuration the schema refuses cannot be built.
-/

namespace FaceVec

structure Config where
  JWT_ACCESS_TTL : ℕ+ := 900
  JWT_REFRESH_TTL : ℕ+ := 1209600
  OUTBOX_BATCH_SIZE : ℕ+ := 50
  OUTBOX_MAX_ATTEMPTS : ℕ+ := 10
  IDEMPOTENCY_TTL_SECONDS : ℕ+ := 86400
  FACE_TASK_PREFETCH : ℕ+ := 4
  FACE_TASK_MAX_ATTEMPTS : ℕ+ := 5
  isProduction : Bool := false
  /-- The schema's `.max(500)`. -/
  batchBound : OUTBOX_BATCH_SIZE ≤ 500 := by decide

theorem one_le_batchMax : (1 : ℕ+) ≤ 500 := one_le

def Config.least : Config := ⟨1, 1, 1, 1, 1, 1, 1, false, one_le_batchMax⟩

end FaceVec
